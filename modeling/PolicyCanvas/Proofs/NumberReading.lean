import Mathlib.Algebra.Order.Ring.Nat
import Mathlib.Order.Monotone.Basic
import Mathlib.Tactic.MkIffOfInductiveProp
import Mathlib.Tactic.Ring
import PolicyCanvas.Json.Outline

/-!
# How numbers are read

A fraction is rounded to the rank whose number lies nearest to it, and of two that lie equally near
to the even one (`nearestRank_eq_iff`). The printer goes by the same midpoints (`readsBack_iff`).
Reading a literal takes one rounding for its digits, one for the power of ten and one for what they
make together. In a short literal the first two are exact, so that it is read as the number nearest
to it (`exists_value_of_isShort`).
-/

namespace PolicyCanvas

namespace Binary64

variable {rank rank' num den shift step m k n : Nat}

theorem units_of_lt (small : rank < 2 ^ 53) : units rank = rank := if_pos small

theorem units_of_le (large : 2 ^ 53 ≤ rank) :
    units rank = (2 ^ 52 + rank % 2 ^ 52) * 2 ^ (rank / 2 ^ 52 - 1) := by
  rw [units, if_neg (show ¬ rank < 1 <<< 53 from Nat.not_lt.mpr large), Nat.shiftLeft_eq]
  rfl

/-- From 2⁵³ on a rank tells a power of two and a number of 53 bits. The first number of 54 bits
belongs to the next power of two. -/
theorem units_shifted (positive : 0 < shift) (low : 2 ^ 52 ≤ m) (high : m ≤ 2 ^ 53) :
    units (shift * 2 ^ 52 + m) = m * 2 ^ shift := by
  rw [units_of_le (by omega)]
  rcases Nat.lt_or_eq_of_le high with lt | rfl
  · have quotient : (shift * 2 ^ 52 + m) / 2 ^ 52 - 1 = shift := by omega
    have rest : 2 ^ 52 + (shift * 2 ^ 52 + m) % 2 ^ 52 = m := by omega
    rw [quotient, rest]
  · have quotient : (shift * 2 ^ 52 + 2 ^ 53) / 2 ^ 52 - 1 = shift + 1 := by omega
    have rest : (shift * 2 ^ 52 + 2 ^ 53) % 2 ^ 52 = 0 := by omega
    rw [quotient, rest, Nat.pow_succ]
    omega

theorem units_succ (large : 2 ^ 53 ≤ rank) :
    units (rank + 1) = units rank + 2 ^ (rank / 2 ^ 52 - 1) := by
  have split : rank = (rank / 2 ^ 52 - 1) * 2 ^ 52 + (2 ^ 52 + rank % 2 ^ 52) := by omega
  have next : units ((rank / 2 ^ 52 - 1) * 2 ^ 52 + (2 ^ 52 + rank % 2 ^ 52 + 1)) = _ :=
    units_shifted (by omega) (by omega) (by omega)
  rw [← Nat.add_assoc, ← split] at next
  rw [next, units_of_le large, Nat.add_mul _ 1, Nat.one_mul]

theorem units_eq_pred (large : 2 ^ 53 < rank) :
    units rank = units (rank - 1) + 2 ^ ((rank - 1) / 2 ^ 52 - 1) := by
  rw [← units_succ (by omega), Nat.sub_add_cancel (by omega)]

theorem units_lt_succ (rank : Nat) : units rank < units (rank + 1) := by
  rcases Nat.lt_or_ge rank (2 ^ 53) with small | large
  · rw [units_of_lt small]
    rcases Nat.lt_or_eq_of_le (show rank + 1 ≤ 2 ^ 53 from small) with smaller | last
    · rw [units_of_lt smaller]
      exact Nat.lt_succ_self rank
    · rw [last]
      exact Nat.lt_of_lt_of_eq small (by decide)
  · rw [units_succ large]
    exact Nat.lt_add_of_pos_right (Nat.two_pow_pos _)

theorem units_strictMono : StrictMono units := strictMono_nat_of_lt_succ units_lt_succ

/-! ### Rounding -/

/-- The value `num / den` lies between the midpoints to the neighbours of a rank. The midpoints
belong to the even ranks. -/
@[mk_iff]
structure IsNearest (rank num den : Nat) : Prop where
  above : (units (rank - 1) + units rank) * den ≤ 2 * num
  below : 2 * num ≤ (units rank + units (rank + 1)) * den
  even : 2 * num = (units (rank - 1) + units rank) * den ∨
    2 * num = (units rank + units (rank + 1)) * den → rank % 2 = 0

theorem divNearest_bounds (num : Nat) (positive : 0 < den) :
    2 * (divNearest num den * den) ≤ 2 * num + den ∧
      2 * num ≤ 2 * (divNearest num den * den) + den ∧
      (2 * num + den = 2 * (divNearest num den * den) ∨
        2 * num = 2 * (divNearest num den * den) + den → divNearest num den % 2 = 0) := by
  have division := Nat.div_add_mod' num den
  have rest := Nat.mod_lt num positive
  simp only [divNearest]
  split
  next down =>
    simp only [Bool.or_eq_true, decide_eq_true_eq, Bool.and_eq_true, beq_iff_eq] at down
    omega
  next up =>
    simp only [Bool.or_eq_true, decide_eq_true_eq, Bool.and_eq_true, beq_iff_eq, not_or,
      not_and] at up
    rw [Nat.add_mul, Nat.one_mul]
    omega

theorem le_divNearest (positive : 0 < den) (low : m * den ≤ num) : m ≤ divNearest num den := by
  obtain ⟨-, below, -⟩ := divNearest_bounds num positive
  by_contra smaller
  have step : (divNearest num den + 1) * den ≤ m * den := Nat.mul_le_mul_right den (by omega)
  rw [Nat.add_mul] at step
  omega

theorem divNearest_le (positive : 0 < den) (high : num ≤ m * den) : divNearest num den ≤ m := by
  obtain ⟨above, -, -⟩ := divNearest_bounds num positive
  by_contra larger
  have step : (m + 1) * den ≤ divNearest num den * den := Nat.mul_le_mul_right den (by omega)
  rw [Nat.add_mul] at step
  omega

theorem units_pred_lt (positive : 0 < rank) : units (rank - 1) < units rank :=
  units_strictMono (by omega)

/-- Rounding on a grid finds the nearest rank if the number next above is at least a step of the
grid away, and so is the one next below unless the value does not lie on that side. -/
theorem isNearest_of_divNearest (positive : 0 < den) (isStep : 0 < step)
    (onGrid : units rank = divNearest num (den * step) * step)
    (parity : rank % 2 = divNearest num (den * step) % 2)
    (next : units rank + step ≤ units (rank + 1))
    (previous : units (rank - 1) + step ≤ units rank ∨ units rank * den ≤ num) :
    IsNearest rank num den := by
  obtain ⟨above, below, even⟩ := divNearest_bounds num (Nat.mul_pos positive isStep)
  have value : divNearest num (den * step) * (den * step) = units rank * den := by
    rw [onGrid, Nat.mul_assoc, Nat.mul_comm step]
  rw [value] at above below even
  rw [← parity] at even
  have next : units rank * den + den * step ≤ units (rank + 1) * den := by
    rw [Nat.mul_comm den, ← Nat.add_mul]
    exact Nat.mul_le_mul_right den next
  have previous : units (rank - 1) * den + den * step ≤ units rank * den ∨
      units rank * den ≤ num := by
    rw [Nat.mul_comm den, ← Nat.add_mul]
    exact previous.imp_left (Nat.mul_le_mul_right den)
  rcases Nat.eq_zero_or_pos rank with rfl | notZero
  · refine ⟨?_, ?_, fun _ => rfl⟩
    · simp [units_of_lt]
    · rw [Nat.add_mul]
      omega
  · have lt := Nat.mul_lt_mul_of_pos_right (units_pred_lt notZero) positive
    refine ⟨?_, ?_, ?_⟩ <;> simp only [Nat.add_mul] <;> omega

theorem isNearest_small (positive : 0 < den) (small : num < 2 ^ 53 * den) :
    IsNearest (divNearest num den) num den := by
  have onGrid : units (divNearest num den) = divNearest num den := by
    rcases Nat.lt_or_eq_of_le (divNearest_le positive (Nat.le_of_lt small)) with lt | last
    · exact units_of_lt lt
    · rw [last]
      decide
  refine isNearest_of_divNearest positive Nat.one_pos ?_ ?_ (units_lt_succ _) ?_
  · rw [Nat.mul_one, Nat.mul_one, onGrid]
  · rw [Nat.mul_one]
  · rcases Nat.eq_zero_or_pos (divNearest num den) with zero | notZero
    · right
      simp [zero, units_of_lt]
    · exact .inl (units_pred_lt notZero)

theorem isNearest_shifted (positive : 0 < den) (isShift : 0 < shift)
    (low : 2 ^ 52 * (den * 2 ^ shift) ≤ num) (high : num < 2 ^ 53 * (den * 2 ^ shift)) :
    IsNearest (shift * 2 ^ 52 + divNearest num (den * 2 ^ shift)) num den := by
  have isGrid := Nat.mul_pos positive (Nat.two_pow_pos shift)
  have least := le_divNearest isGrid low
  have most := divNearest_le isGrid (Nat.le_of_lt high)
  have onGrid := units_shifted isShift least most
  refine isNearest_of_divNearest positive (Nat.two_pow_pos shift) onGrid (by omega) ?_ ?_
  · rw [units_succ (by omega)]
    exact Nat.add_le_add_left (Nat.pow_le_pow_right Nat.two_pos (by omega)) _
  · rcases Nat.lt_or_eq_of_le least with inside | first
    · left
      rw [@units_eq_pred (shift * 2 ^ 52 + _) (by omega)]
      exact Nat.add_le_add_left (Nat.pow_le_pow_right Nat.two_pos (by omega)) _
    · right
      rw [onGrid, ← first, Nat.mul_assoc, Nat.mul_comm _ den]
      exact low

theorem IsNearest.not_lt (positive : 0 < den) (nearest : IsNearest rank num den)
    (nearest' : IsNearest rank' num den) : ¬ rank < rank' := by
  intro lt
  have between : (units rank + units (rank + 1)) * den ≤ (units (rank' - 1) + units rank') * den :=
    Nat.mul_le_mul_right den (Nat.add_le_add (units_strictMono.monotone (by omega))
      (units_strictMono.monotone lt))
  -- the value is a midpoint, which belongs to one of two neighbours only
  have even := nearest.even (.inr (Nat.le_antisymm nearest.below (between.trans nearest'.above)))
  have even' := nearest'.even (.inl (Nat.le_antisymm (nearest.below.trans between) nearest'.above))
  have apart : (units rank + units (rank + 1)) * den < (units (rank' - 1) + units rank') * den :=
    Nat.mul_lt_mul_of_pos_right (Nat.add_lt_add (units_strictMono (by omega))
      (units_strictMono (by omega))) positive
  exact absurd (apart.trans_le nearest'.above) (Nat.not_lt.mpr nearest.below)

theorem IsNearest.unique (positive : 0 < den) (nearest : IsNearest rank num den)
    (nearest' : IsNearest rank' num den) : rank = rank' :=
  Nat.le_antisymm (Nat.not_lt.mp (nearest'.not_lt positive nearest))
    (Nat.not_lt.mp (nearest.not_lt positive nearest'))

/-- Beyond the finite numbers all ranks are taken for the first one. -/
theorem exists_isNearest (num : Nat) (positive : 0 < den) :
    ∃ rank, IsNearest rank num den ∧ nearestRank num den = min rank (2047 <<< 52) := by
  rw [nearestRank]
  split
  next small =>
    have small : num / den < 2 ^ 53 := small
    have small := (Nat.div_lt_iff_lt_mul positive).mp small
    have inside := divNearest_le positive (Nat.le_of_lt small)
    exact ⟨_, isNearest_small positive small, (Nat.min_eq_left (by omega)).symm⟩
  next large =>
    have large : 2 ^ 53 ≤ num / den := Nat.not_lt.mp large
    have exponent : 53 ≤ Nat.log2 (num / den) := (Nat.le_log2 (by omega)).mpr large
    obtain ⟨shift, same⟩ := Nat.exists_eq_add_of_le (show 52 ≤ Nat.log2 (num / den) by omega)
    have low : 2 ^ (52 + shift) ≤ num / den := same ▸ Nat.log2_self_le (by omega)
    have high : num / den < 2 ^ (52 + shift + 1) := same ▸ Nat.lt_log2_self
    rw [Nat.le_div_iff_mul_le positive] at low
    rw [Nat.div_lt_iff_lt_mul positive] at high
    simp only [same, Nat.add_sub_cancel_left, Nat.shiftLeft_eq]
    refine ⟨_, isNearest_shifted positive (show 0 < shift by omega) ?_ ?_, rfl⟩
    · rwa [Nat.mul_comm den, ← Nat.mul_assoc, ← Nat.pow_add]
    · rwa [Nat.mul_comm den, ← Nat.mul_assoc, ← Nat.pow_add, Nat.add_right_comm 52 1]

theorem nearestRank_eq_iff (positive : 0 < den) (finite : rank < 2047 <<< 52) :
    nearestRank num den = rank ↔ IsNearest rank num den := by
  obtain ⟨found, nearest, rounded⟩ := exists_isNearest num positive
  rw [rounded]
  constructor
  · intro same
    obtain rfl : found = rank := by omega
    exact nearest
  · intro nearest'
    rw [nearest.unique positive nearest']
    exact Nat.min_eq_left (Nat.le_of_lt finite)

theorem isNearest_mul_right {c : Nat} (positive : 0 < c) :
    IsNearest rank (num * c) (den * c) ↔ IsNearest rank num den := by
  simp only [isNearest_iff, ← Nat.mul_assoc, Nat.mul_le_mul_right_iff positive,
    Nat.mul_left_inj (Nat.ne_of_gt positive)]

/-- Rounding depends on the value alone. -/
theorem nearestRank_congr {num' den' : Nat} (positive : 0 < den) (positive' : 0 < den')
    (same : num * den' = num' * den) : nearestRank num den = nearestRank num' den' := by
  obtain ⟨found, nearest, rounded⟩ := exists_isNearest num positive
  obtain ⟨found', nearest', rounded'⟩ := exists_isNearest num' positive'
  rw [← isNearest_mul_right positive'] at nearest
  rw [← isNearest_mul_right positive, ← same, Nat.mul_comm den'] at nearest'
  rw [rounded, rounded', nearest.unique (Nat.mul_pos positive positive') nearest']

/-- A number of the format is its own nearest one. -/
theorem isNearest_units (positive : 0 < den) : IsNearest rank (units rank * den) den := by
  have next := Nat.mul_lt_mul_of_pos_right (units_lt_succ rank) positive
  rcases Nat.eq_zero_or_pos rank with rfl | notZero
  · refine ⟨?_, ?_, fun _ => rfl⟩ <;> simp only [Nat.add_mul, Nat.zero_sub] <;> omega
  · have previous := Nat.mul_lt_mul_of_pos_right (units_pred_lt notZero) positive
    refine ⟨?_, ?_, ?_⟩ <;> simp only [Nat.add_mul] <;> omega

/-! ### Short decimals -/

/-- A number of 53 bits times a power of two is one of the format. -/
theorem exists_units_eq (m k : Nat) (short : m < 2 ^ 53) : ∃ rank, units rank = m <<< k := by
  rw [Nat.shiftLeft_eq]
  rcases Nat.lt_or_ge (m * 2 ^ k) (2 ^ 53) with small | large
  · exact ⟨_, units_of_lt small⟩
  have notZero : m ≠ 0 := by
    rintro rfl
    omega
  have low := Nat.log2_self_le notZero
  have high : m < 2 ^ (Nat.log2 m + 1) := Nat.lt_log2_self
  have bits : Nat.log2 m ≤ 52 := Nat.le_of_lt_succ ((Nat.log2_lt notZero).mpr short)
  have places : 53 < Nat.log2 m + 1 + k := by
    refine (Nat.pow_lt_pow_iff_right Nat.one_lt_two).mp (large.trans_lt ?_)
    rw [pow_add]
    exact Nat.mul_lt_mul_of_pos_right high (Nat.two_pow_pos k)
  have least : 2 ^ 52 ≤ m * 2 ^ (52 - Nat.log2 m) := by
    rw [← Nat.add_sub_cancel' bits, pow_add, Nat.add_sub_cancel' bits]
    exact Nat.mul_le_mul_right _ low
  have most : m * 2 ^ (52 - Nat.log2 m) ≤ 2 ^ 53 := by
    calc
      m * 2 ^ (52 - Nat.log2 m) ≤ 2 ^ (Nat.log2 m + 1) * 2 ^ (52 - Nat.log2 m) :=
        Nat.mul_le_mul_right _ (Nat.le_of_lt high)
      _ = 2 ^ 53 := by rw [← pow_add]; congr 1; omega
  refine ⟨_, (units_shifted (show 0 < k - (52 - Nat.log2 m) by omega) least most).trans ?_⟩
  rw [Nat.mul_assoc, ← pow_add, Nat.add_sub_cancel' (by omega)]

theorem units_rankOf (short : m < 2 ^ 53)
    (finite : m <<< k <<< 1074 < units (2047 <<< 52)) :
    units (rankOf (m <<< k)) = m <<< k <<< 1074 := by
  obtain ⟨rank, exact⟩ := exists_units_eq m (k + 1074) short
  rw [Nat.shiftLeft_add] at exact
  have nearest : IsNearest rank (units rank * 1) 1 := isNearest_units Nat.one_pos
  rw [← exact, units_strictMono.lt_iff_lt] at finite
  rw [← nearestRank_eq_iff Nat.one_pos finite, exact, Nat.mul_one] at nearest
  rw [rankOf, nearest, exact]

theorem small_lt_units (small : n ≤ 10 ^ 22) : n <<< 1074 < units (2047 <<< 52) := by
  refine Nat.lt_of_le_of_lt ?_ (show 10 ^ 22 <<< 1074 < units (2047 <<< 52) by decide +kernel)
  rw [Nat.shiftLeft_eq, Nat.shiftLeft_eq]
  exact Nat.mul_le_mul_right _ small

theorem units_rankOf_short (short : n < 2 ^ 53) : units (rankOf n) = n <<< 1074 :=
  units_rankOf (k := 0) short (small_lt_units (by omega))

theorem units_powerOfTen {places : Nat} (few : places ≤ 22) :
    units (powerOfTen places) = 10 ^ places <<< 1074 := by
  have short : 5 ^ places < 2 ^ 53 := (Nat.pow_le_pow_right (by decide) few).trans_lt (by decide)
  have split : (5 ^ places) <<< places = 10 ^ places := by
    rw [Nat.shiftLeft_eq]
    exact (mul_pow 5 2 places).symm
  have whole := units_rankOf (k := places) short (by
    rw [split]
    exact small_lt_units (Nat.pow_le_pow_right (by decide) few))
  rwa [split] at whole

theorem mulRank_eq {a b p : Nat} (isFirst : units a = n <<< 1074)
    (isSecond : units b = p <<< 1074) : mulRank a b = nearestRank ((n * p) <<< 1075) 2 := by
  have same (k : Nat) : n <<< k * p <<< k * 2 = (n * p) <<< (k + 1) * 1 <<< k := by
    simp only [Nat.shiftLeft_eq, pow_succ]
    ring
  rw [mulRank, isFirst, isSecond]
  exact nearestRank_congr (by decide +kernel) Nat.two_pos (same 1074)

theorem divRank_eq {a b p : Nat} (positive : 0 < p) (isFirst : units a = n <<< 1074)
    (isSecond : units b = p <<< 1074) : divRank a b = nearestRank (n <<< 1075) (2 * p) := by
  have same (k : Nat) : n <<< k <<< k * (2 * p) = n <<< (k + 1) * p <<< k := by
    simp only [Nat.shiftLeft_eq, pow_succ]
    ring
  have isPositive : 0 < p <<< 1074 := by
    rw [Nat.shiftLeft_eq]
    exact Nat.mul_pos positive (Nat.two_pow_pos 1074)
  rw [divRank, isFirst, isSecond]
  exact nearestRank_congr isPositive (Nat.mul_pos Nat.two_pos positive) (same 1074)

/-- A whole number of 53 bits and a power of ten that is a number of the format leave one rounding
to be done. -/
theorem scaled?_eq_ofRank? {d : Decimal} (negative : Bool) (short : d.digits < 2 ^ 53)
    (near : d.exponent.natAbs ≤ 22) :
    scaled? negative (rankOf d.digits) d.exponent =
      ofRank? negative (nearestRank d.halfUnits.1 (2 * d.halfUnits.2)) := by
  have whole := units_rankOf_short short
  have power := units_powerOfTen near
  rw [scaled?, if_pos (by omega)]
  dsimp only [Decimal.halfUnits]
  split
  next up =>
    have places : d.exponent.natAbs = d.exponent.toNat := by omega
    rw [mulRank_eq whole power, places]
    rfl
  next down =>
    have places : d.exponent.natAbs = (-d.exponent).toNat := by omega
    rw [divRank_eq (Nat.pow_pos (by decide)) whole power, places]
    rfl

/-- What lies below the greatest finite number is rounded to a finite one. -/
theorem nearestRank_lt (positive : 0 < den) (inside : num < units (2047 <<< 52 - 1) * den) :
    nearestRank num den < 2047 <<< 52 := by
  obtain ⟨found, nearest, rounded⟩ := exists_isNearest num positive
  rw [rounded]
  refine Nat.lt_of_le_of_lt (Nat.min_le_left ..) (Nat.not_le.mp fun beyond => ?_)
  have last : units (2047 <<< 52 - 1) ≤ units (found - 1) :=
    units_strictMono.monotone (Nat.sub_le_sub_right beyond 1)
  have above : (units (found - 1) + units found) * den ≤ 2 * num := nearest.above
  have inside := inside.trans_le (Nat.mul_le_mul_right den last)
  have step := Nat.mul_le_mul_right den (units_strictMono.monotone (Nat.sub_le found 1))
  rw [Nat.add_mul] at above
  omega

theorem nearestRank_lt_of_short {d : Decimal} (short : d.digits < 2 ^ 53)
    (near : d.exponent.natAbs ≤ 22) :
    nearestRank d.halfUnits.1 (2 * d.halfUnits.2) < 2047 <<< 52 := by
  have greatest : (2 ^ 53 * 10 ^ 22) <<< 1075 < units (2047 <<< 52 - 1) * 2 := by decide +kernel
  rw [Nat.shiftLeft_eq] at greatest
  dsimp only [Decimal.halfUnits]
  split
  · refine nearestRank_lt Nat.two_pos (Nat.lt_of_le_of_lt ?_ greatest)
    rw [Nat.shiftLeft_eq]
    refine Nat.mul_le_mul_right _ (Nat.mul_le_mul (Nat.le_of_lt short) ?_)
    exact Nat.pow_le_pow_right (by decide) (by omega)
  · have positive : 0 < Nat.pow 10 (-d.exponent).toNat := Nat.pow_pos (by decide)
    refine nearestRank_lt (by omega) (Nat.lt_of_lt_of_le (Nat.lt_of_le_of_lt ?_ greatest) ?_)
    · rw [Nat.shiftLeft_eq]
      exact Nat.mul_le_mul_right _ (by omega)
    · exact Nat.mul_le_mul_left _ (by omega)

theorem ofRank?_of_lt {rank : Nat} {negative : Bool} (finite : rank < 2047 <<< 52) :
    ofRank? negative rank = some ⟨negative, rank, finite⟩ := by
  rw [ofRank?, dif_pos finite]

end Binary64

namespace Decimal

theorem halfUnits_pos (d : Decimal) : 0 < d.halfUnits.2 := by
  rw [halfUnits]
  split
  · exact Nat.one_pos
  · exact Nat.pow_pos (by decide)

/-- A decimal passes for a number just when it is rounded to it. -/
theorem readsBack_iff {rank : Nat} {d : Decimal} :
    readsBack rank d = true ↔ Binary64.IsNearest rank d.halfUnits.1 (2 * d.halfUnits.2) := by
  simp only [Binary64.isNearest_iff, Nat.mul_left_comm _ 2, Nat.mul_le_mul_left_iff Nat.two_pos,
    Nat.mul_right_inj (show 2 ≠ 0 by decide), readsBack]
  split
  next even => simp [even]
  next odd =>
    simp only [odd, imp_false, Bool.and_eq_true, decide_eq_true_eq]
    omega

end Decimal

namespace Json.Token

/-- A number with more digits after its own. -/
def digitsFrom (n : Nat) (ds : List Char) : Nat := ds.foldl (fun n c => 10 * n + digitValue c) n

theorem digitsFrom_append (n : Nat) (ds ds' : List Char) :
    digitsFrom n (ds ++ ds') = digitsFrom (digitsFrom n ds) ds' :=
  List.foldl_append

theorem le_digitsFrom (n : Nat) (ds : List Char) : n ≤ digitsFrom n ds := by
  induction ds generalizing n with
  | nil => exact Nat.le_refl n
  | cons c ds ih => exact Nat.le_trans (by omega) (ih (10 * n + digitValue c))

theorem appendDigits_eq {n : Nat} {ds : List Char} (fits : digitsFrom n ds < UInt64.size) :
    appendDigits n ds = (digitsFrom n ds, 0) := by
  induction ds generalizing n with
  | nil => rfl
  | cons c ds ih =>
    have next : 10 * n + digitValue c < UInt64.size := (le_digitsFrom _ ds).trans_lt fits
    rw [appendDigits, if_pos next]
    exact ih fits

namespace Literal

theorem exponentLimit_eq_none {n : Nat} {ds : List Char} (fits : digitsFrom n ds < 1 <<< 31) :
    exponentLimit n ds = none := by
  induction ds generalizing n with
  | nil => rfl
  | cons c ds ih =>
    have next : 10 * n + digitValue c < 1 <<< 31 := (le_digitsFrom _ ds).trans_lt fits
    rw [exponentLimit, if_neg (Nat.not_le.mpr next), ih fits]
    rfl

/-- The value of a literal with all its digits. -/
def decimal (l : Literal) : Decimal :=
  let (down, ds) := l.exponent.getD (false, [])
  let exponent : Int := digitsValue ds
  ⟨digitsValue (l.whole ++ l.fraction), (if down then -exponent else exponent) - l.fraction.length⟩

/-- The digits make a number of 53 bits, and the power of ten is a number of the format. -/
structure IsShort (l : Literal) : Prop where
  digits : l.decimal.digits < 2 ^ 53
  exponent : l.decimal.exponent.natAbs ≤ 22
  written : digitsValue (l.exponent.getD (false, [])).2 < 1 <<< 31

theorem significand_eq {l : Literal} (short : l.decimal.digits < 2 ^ 53) :
    l.significand = (l.decimal.digits, -(l.fraction.length : Int)) := by
  have digits : l.decimal.digits = digitsFrom (digitsFrom 0 l.whole) l.fraction :=
    digitsFrom_append 0 l.whole l.fraction
  rw [digits] at short ⊢
  have fits : digitsFrom (digitsFrom 0 l.whole) l.fraction < UInt64.size :=
    short.trans (by decide)
  have whole := appendDigits_eq ((le_digitsFrom _ l.fraction).trans_lt fits)
  simp [significand, whole, appendDigits_eq fits]

theorem saturate_eq {exponent : Int} (near : exponent.natAbs ≤ 22) :
    saturate exponent = exponent := by
  rw [saturate]
  omega

/-- A short literal that is no integer is read as the number nearest to it. -/
theorem exists_value_of_isShort {l : Literal} (noInteger : l.integer? = none) (isShort : l.IsShort)
    (exponentStart stop : Nat) :
    ∃ x, l.value exponentStart stop = .ok (.float x) ∧ x.negative = l.negative ∧
      Binary64.IsNearest x.rank l.decimal.halfUnits.1 (2 * l.decimal.halfUnits.2) := by
  have finite := Binary64.nearestRank_lt_of_short isShort.digits isShort.exponent
  have positive := Nat.mul_pos Nat.two_pos l.decimal.halfUnits_pos
  refine ⟨⟨l.negative, _, finite⟩, ?_, rfl, (Binary64.nearestRank_eq_iff positive finite).mp rfl⟩
  have read := Binary64.scaled?_eq_ofRank? l.negative isShort.digits isShort.exponent
  rw [Binary64.ofRank?_of_lt finite] at read
  simp only [value, noInteger, significand_eq isShort.digits]
  rw [exponentLimit_eq_none (n := 0) isShort.written]
  have places : (if (l.exponent.getD (false, [])).1 = true then
      -(l.fraction.length : Int) - digitsValue (l.exponent.getD (false, [])).2
      else -(l.fraction.length : Int) + digitsValue (l.exponent.getD (false, [])).2) =
      l.decimal.exponent := by
    simp only [decimal]
    split <;> omega
  dsimp only
  rw [places, saturate_eq isShort.exponent, read]

end Literal

end Json.Token

-- Beyond that the roundings add up: the first of these lies nearer to the greatest finite number
-- than to the next power of two, and the second one, which is read, does not.
example : (Json.ofText "1.7976931348623158e308").isOk = false := by decide +kernel

example : (Json.ofText "1.79769313486231581e308").isOk = true := by decide +kernel

end PolicyCanvas
