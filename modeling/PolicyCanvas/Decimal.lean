/-!
# Finite binary64 numbers and their decimals

A finite binary64 number is a sign and a rank: the ranks count the non-negative finite numbers of
the format from zero upwards. Every magnitude is a whole number of units of 2⁻¹⁰⁷⁴ (`units`), so
rounding to the nearest number of the format, a tie going to the even rank, is arithmetic of natural
numbers.

A number is written by the shortest decimal that rounds to it: one between the midpoints to the two
neighbouring numbers, where a midpoint itself belongs to the number with the even rank. Of the
decimals with the fewest digits the one nearest to the number is taken. On the grid of a given
number of digits only the two neighbours of the number have to be tried: if any point of the grid
rounds to the number, one of them does. Where the digits are written out and where in scientific
form is a decision of each format, which a `DecimalStyle` records.
-/

namespace PolicyCanvas

structure Binary64 where
  negative : Bool
  /-- How many non-negative numbers of the format lie below the magnitude. -/
  rank : Nat
  rank_lt : rank < 2047 <<< 52 := by omega
deriving DecidableEq, Repr

namespace Binary64

/-- The magnitude with a given rank, in units of 2⁻¹⁰⁷⁴. Below 2⁵³ the numbers are one unit apart,
and the distance doubles with every further 2⁵² ranks. -/
def units (rank : Nat) : Nat :=
  if rank < 1 <<< 53 then rank
  else ((1 <<< 52) + rank % (1 <<< 52)) <<< (rank / (1 <<< 52) - 1)

/-- The whole number nearest to `num / den`; of two, the even one. -/
def divNearest (num den : Nat) : Nat :=
  let q := num / den
  let twice := 2 * (num % den)
  if twice < den || (twice == den && q % 2 == 0) then q else q + 1

/-- The rank nearest to `num / den` units. The first rank beyond the finite numbers stands for
every larger value. -/
def nearestRank (num den : Nat) : Nat :=
  let q := num / den
  if q < 1 <<< 53 then divNearest num den
  else
    -- numbers of this size are `2 ^ shift` units apart
    let shift := Nat.log2 q - 52
    min ((shift <<< 52) + divNearest num (den <<< shift)) (2047 <<< 52)

/-- The zero with the sign. -/
def signedZero (negative : Bool) : Binary64 := { negative, rank := 0 }

/-- The finite number with the sign and the rank. -/
def ofRank? (negative : Bool) (rank : Nat) : Option Binary64 :=
  if h : rank < 2047 <<< 52 then some { negative, rank, rank_lt := h } else none

/-- The rank nearest to a whole number. -/
def rankOf (n : Nat) : Nat := nearestRank (n <<< 1074) 1

/-- The rank nearest to the product of two numbers. -/
def mulRank (a b : Nat) : Nat := nearestRank (units a * units b) (1 <<< 1074)

/-- The rank nearest to the quotient of two numbers. -/
def divRank (a b : Nat) : Nat := nearestRank (units a <<< 1074) (units b)

/-- A power of ten has to be rounded from the 23rd on, and the 308th is the last one below the end
of the finite numbers. -/
def powerOfTen (places : Nat) : Nat := rankOf (Nat.pow 10 places)

/-- A number times a power of ten, or `none` beyond the finite numbers. It takes one product or one
quotient, and before that a quotient by the greatest power as long as there are more places than
this has. Each of them is rounded, so that the last digit may differ from that of the number nearest
to the exact value. -/
def scaled? (negative : Bool) (rank : Nat) (exponent : Int) : Option Binary64 :=
  if exponent.natAbs ≤ 308 then
    let power := powerOfTen exponent.natAbs
    ofRank? negative (if 0 ≤ exponent then mulRank rank power else divRank rank power)
  else if rank = 0 then some (signedZero negative)
  else if 0 ≤ exponent then none
  else scaled? negative (divRank rank (powerOfTen 308)) (exponent + 308)
termination_by exponent.natAbs

def zero : Binary64 := signedZero false

/-- The number nearest to an integer of at most 64 bits. -/
def ofInt (i : Int) : Binary64 := (ofRank? (decide (i < 0)) (rankOf i.natAbs)).getD zero

end Binary64

/-- The value `digits * 10 ^ exponent`. -/
structure Decimal where
  digits : Nat
  exponent : Int
deriving DecidableEq, Repr

namespace Decimal

/-- A decimal as a fraction of half units of 2⁻¹⁰⁷⁴. -/
def halfUnits (d : Decimal) : Nat × Nat :=
  if 0 ≤ d.exponent then ((d.digits * Nat.pow 10 d.exponent.toNat) <<< 1075, 1)
  else (d.digits <<< 1075, Nat.pow 10 (-d.exponent).toNat)

/-- Whether the decimal rounds to the number of this rank. -/
def readsBack (rank : Nat) (d : Decimal) : Bool :=
  let (num, den) := d.halfUnits
  let low := (Binary64.units (rank - 1) + Binary64.units rank) * den
  let high := (Binary64.units rank + Binary64.units (rank + 1)) * den
  if rank % 2 = 0 then low ≤ num && num ≤ high else low < num && num < high

/-- The exponent of the leading decimal digit of a positive number. -/
def leading (rank : Nat) : Int :=
  (Nat.toDigits 10 ((Binary64.units rank * Nat.pow 10 400) >>> 1074)).length - 401

/-- The best decimal of exactly `count` digits, if one reads back. -/
def ofCount? (rank count : Nat) : Option Decimal :=
  let exponent := leading rank + 1 - count
  -- the number is `num / den` steps of this grid
  let num := if 0 ≤ exponent then Binary64.units rank
    else Binary64.units rank * Nat.pow 10 (-exponent).toNat
  let den := if 0 ≤ exponent then Nat.pow 10 exponent.toNat <<< 1074 else 1 <<< 1074
  let below : Decimal := ⟨num / den, exponent⟩
  let above : Decimal := ⟨num / den + 1, exponent⟩
  let nearest : Decimal := ⟨Binary64.divNearest num den, exponent⟩
  if readsBack rank nearest then some nearest
  else if readsBack rank below then some below
  else if readsBack rank above then some above
  else none

/-- The same value without zeros at the end of its digits. -/
def strip (d : Decimal) : Decimal :=
  go d.digits d.digits d.exponent
where
  go (fuel digits : Nat) (exponent : Int) : Decimal :=
    match fuel with
    | 0 => ⟨digits, exponent⟩
    | fuel + 1 =>
      if digits % 10 = 0 then go fuel (digits / 10) (exponent + 1) else ⟨digits, exponent⟩

/-- Seventeen digits always suffice. -/
def shortest (rank : Nat) : Decimal :=
  (((List.range 17).findSome? fun n => ofCount? rank (n + 1)).getD ⟨0, 0⟩).strip

end Decimal

/-- How a format writes the digits and the exponent of a decimal. -/
structure DecimalStyle where
  /-- A leading digit with a smaller exponent makes the form scientific. -/
  least : Int
  /-- A leading digit with a larger exponent makes the form scientific. -/
  greatest : Int
  /-- Written after a whole number that is written out. -/
  whole : List Char
  /-- The mark between the digits and the exponent. -/
  mark : Char
  /-- Written before an exponent that is not negative. -/
  plus : List Char

namespace DecimalStyle

/-- The digits `ds`, the first of them with the exponent `lead`. -/
def write (style : DecimalStyle) (ds : List Char) (lead : Int) : List Char :=
  if lead < style.least || style.greatest < lead then
    ds.take 1 ++ (if ds.length ≤ 1 then [] else '.' :: ds.drop 1) ++ style.mark ::
      (if lead < 0 then ['-'] else style.plus) ++ Nat.toDigits 10 lead.natAbs
  else if lead < 0 then
    '0' :: '.' :: List.replicate (lead.natAbs - 1) '0' ++ ds
  else
    let before := lead.toNat + 1
    if ds.length ≤ before then ds ++ List.replicate (before - ds.length) '0' ++ style.whole
    else ds.take before ++ '.' :: ds.drop before

def writeBinary64 (style : DecimalStyle) (x : Binary64) : List Char :=
  let sign := if x.negative then ['-'] else []
  if x.rank = 0 then sign ++ style.write ['0'] 0
  else
    let d := Decimal.shortest x.rank
    let ds := Nat.toDigits 10 d.digits
    sign ++ style.write ds (d.exponent + ds.length - 1)

end DecimalStyle

end PolicyCanvas
