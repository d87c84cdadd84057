import PolicyCanvas.Json.Basic
import PolicyCanvas.Json.Fault

/-!
# Tokens

A text is cut into brackets, commas, colons, words, numbers and strings, each with the number of
bytes before it. A token that is malformed carries the fault it causes once somebody reads it, and
ends the list when nothing after it can be told apart.
-/

namespace PolicyCanvas.Json

inductive Token.Shape where
  | openArray
  | closeArray
  | openObject
  | closeObject
  | comma
  | colon
  | null
  | bool (b : Bool)
  /-- `read` fails for a number out of range. -/
  | number (read : Except Fault Number)
  /-- `read` fails for escapes that give no text, `skip` only for strings without an end. -/
  | string (read : Except Fault String) (skip : Option Fault)
  /-- A word or a number that breaks off. -/
  | broken (b : Break)
  /-- A character that starts no token. -/
  | stray

structure Token where
  start : Nat
  shape : Token.Shape

namespace Token

def isSpace (c : Char) : Bool := c == ' ' || c == '\t' || c == '\n' || c == '\r'

/-- Compares what follows the first letter of a word. -/
def word (offset : Nat) : List Char → List Char → Option Break
  | [], _ => none
  | _ :: _, [] => some (.both .endInValue offset)
  | e :: expected, c :: cs =>
    if e = c then word (offset + 1) expected cs else some (.both .expectedWord (offset + 1))

/-! ### Numbers -/

/-- A number literal: digits before and after the point, and the exponent. -/
structure Literal where
  negative : Bool
  whole : List Char
  fraction : List Char
  exponent : Option (Bool × List Char)
  deriving Repr

def digitValue (c : Char) : Nat := c.toNat - '0'.toNat

def digitsValue (ds : List Char) : Nat := ds.foldl (fun n c => 10 * n + digitValue c) 0

/-- Appends digits to a number as long as 64 bits hold it, and counts those that are left over. -/
def appendDigits (n : Nat) : List Char → Nat × Nat
  | [] => (n, 0)
  | c :: cs =>
    let next := 10 * n + digitValue c
    if next < UInt64.size then appendDigits next cs else (n, cs.length + 1)

namespace Literal

/-- A whole number that fits 64 bits. Minus zero is no integer. -/
def integer? (l : Literal) : Option Int :=
  if !l.fraction.isEmpty || l.exponent.isSome then none
  else
    match appendDigits 0 l.whole with
    | (n, 0) =>
      if l.negative then if 0 < n ∧ n ≤ 1 <<< 63 then some (-n) else none
      else some n
    | _ => none

/-- The digits as a number of 64 bits, and the power of ten that it counts. Digits that do not fit
any more are dropped; before the point each of them still makes a place. -/
def significand (l : Literal) : Nat × Int :=
  let (n, dropped) := appendDigits 0 l.whole
  let (n, unread) := appendDigits n l.fraction
  (n, dropped - (l.fraction.length - unread : Nat))

/-- The digits of an exponent up to the one that takes it beyond 31 bits. -/
def exponentLimit (n : Nat) : List Char → Option Nat
  | [] => none
  | c :: cs =>
    let n := 10 * n + digitValue c
    if 1 <<< 31 ≤ n then some 1 else (exponentLimit n cs).map (· + 1)

/-- An exponent that 32 bits do not hold stops at the last one that they do. -/
def saturate (exponent : Int) : Int := max (-(1 <<< 31)) (min exponent ((1 <<< 31) - 1))

/-- The value of a literal whose exponent starts at `exponentStart` and that ends at `stop`. -/
def value (l : Literal) (exponentStart stop : Nat) : Except Fault Number :=
  match l.integer? with
  | some i => .ok (.integer i)
  | none =>
    let (n, places) := l.significand
    let (down, ds) := l.exponent.getD (false, [])
    match exponentLimit 0 ds with
    | some count =>
      if n ≠ 0 ∧ !down then .error ⟨.numberOutOfRange, exponentStart + count⟩
      else .ok (.float (.signedZero l.negative))
    | none =>
      let exponent := if down then places - digitsValue ds else places + digitsValue ds
      match Binary64.scaled? l.negative (Binary64.rankOf n) (saturate exponent) with
      | some x => .ok (.float x)
      | none => .error ⟨.numberOutOfRange, stop⟩

end Literal

/-- The exponent of a number, and where the number stops; `offset` counts the bytes before the
digits and the sign of the exponent. -/
def exponent (l : Literal) (offset : Nat) (cs : List Char) : Shape × Nat :=
  let (down, start, cs) := match cs with
    | '+' :: cs => (false, offset + 1, cs)
    | '-' :: cs => (true, offset + 1, cs)
    | cs => (false, offset, cs)
  match cs with
  | [] => (.broken ⟨⟨.endInValue, start⟩, ⟨.invalidNumber, start⟩⟩, start)
  | c :: _ =>
    if c.isDigit then
      let ds := cs.takeWhile Char.isDigit
      let stop := start + ds.length
      (.number ({ l with exponent := some (down, ds) }.value start stop), stop)
    else (.broken (.both .invalidNumber (start + 1)), start)

/-- What may follow the digits before or after the point. -/
def afterDigits (l : Literal) (offset : Nat) (cs : List Char) : Shape × Nat :=
  match cs with
  | 'e' :: cs => exponent l (offset + 1) cs
  | 'E' :: cs => exponent l (offset + 1) cs
  | _ => (.number (l.value offset offset), offset)

def fraction (l : Literal) (offset : Nat) (cs : List Char) : Shape × Nat :=
  match cs with
  | '.' :: cs =>
    let ds := cs.takeWhile Char.isDigit
    match ds, cs with
    | [], [] => (.broken ⟨⟨.endInValue, offset + 1⟩, ⟨.invalidNumber, offset + 1⟩⟩, offset + 1)
    | [], _ => (.broken (.both .invalidNumber (offset + 2)), offset + 1)
    | _, _ =>
      afterDigits { l with fraction := ds } (offset + 1 + ds.length) (cs.dropWhile Char.isDigit)
  | _ => afterDigits l offset cs

/-- A number without its sign, and where it stops. -/
def magnitude (negative : Bool) (offset : Nat) (cs : List Char) : Shape × Nat :=
  match cs with
  | [] => (.broken ⟨⟨.endInValue, offset⟩, ⟨.invalidNumber, offset⟩⟩, offset)
  | '0' :: cs =>
    if (cs.head?.map Char.isDigit).getD false then
      (.broken (.both .invalidNumber (offset + 2)), offset + 1)
    else fraction ⟨negative, ['0'], [], none⟩ (offset + 1) cs
  | c :: _ =>
    if c.isDigit then
      let ds := cs.takeWhile Char.isDigit
      fraction ⟨negative, ds, [], none⟩ (offset + ds.length) (cs.dropWhile Char.isDigit)
    else (.broken (.both .invalidNumber (offset + 1)), offset)

/-! ### Strings -/

def hexValue? (c : Char) : Option Nat :=
  if c.isDigit then some (digitValue c)
  else if 'a' ≤ c ∧ c ≤ 'f' then some (c.toNat - 'a'.toNat + 10)
  else if 'A' ≤ c ∧ c ≤ 'F' then some (c.toNat - 'A'.toNat + 10)
  else none

/-- The number that the next four hexadecimal digits make. Four bytes are taken whatever they
are. -/
def hex4 (offset : Nat) (cs : List Char) : Except Fault Nat :=
  match (cs.take 4).mapM hexValue? with
  | some [a, b, c, d] => .ok (((a * 16 + b) * 16 + c) * 16 + d)
  | _ =>
    let left := (cs.take 4).foldl (fun bytes c => bytes + c.utf8Size) 0
    if left < 4 then .error ⟨.endInString, offset + left⟩ else .error ⟨.invalidEscape, offset + 4⟩

/-- What a `\u` escape stands for. -/
structure Escape where
  /-- How many characters after the `u` belong to it. -/
  used : Nat
  char : Char
  /-- Why the escape gives no character. -/
  fault : Option Fault

/-- Reads on after `\u`. A leading surrogate needs a trailing one in a second escape. -/
def escape (offset : Nat) (cs : List Char) : Except Fault Escape := do
  let n ← hex4 offset cs
  if 0xdc00 ≤ n ∧ n ≤ 0xdfff then
    return ⟨4, '\x00', some ⟨.loneSurrogate, offset + 4⟩⟩
  else if n < 0xd800 ∨ 0xdbff < n then
    return ⟨4, Char.ofNat n, none⟩
  else
    match cs.drop 4 with
    | [] => return ⟨4, '\x00', none⟩
    | '\\' :: [] => return ⟨4, '\x00', none⟩
    | '\\' :: 'u' :: more =>
      let m ← hex4 (offset + 6) more
      if 0xdc00 ≤ m ∧ m ≤ 0xdfff then
        return ⟨10, Char.ofNat (0x10000 + (n - 0xd800) * 0x400 + (m - 0xdc00)), none⟩
      else
        return ⟨4, '\x00', some ⟨.loneSurrogate, offset + 10⟩⟩
    | '\\' :: _ => return ⟨4, '\x00', some ⟨.unfinishedPair, offset + 6⟩⟩
    | _ => return ⟨4, '\x00', some ⟨.unfinishedPair, offset + 5⟩⟩

def simpleEscape? : Char → Option Char
  | '"' => some '"'
  | '\\' => some '\\'
  | '/' => some '/'
  | 'b' => some '\x08'
  | 'f' => some '\x0c'
  | 'n' => some '\n'
  | 'r' => some '\r'
  | 't' => some '\t'
  | _ => none

/-- Reads a string after its opening quote, and tells where it stops and how many characters it
takes: `done` holds those of its text so far, the last one first, `fault` the first escape that gave
none, and `used` counts the characters passed. -/
def string (offset used : Nat) (done : List Char) (fault : Option Fault) (cs : List Char) :
    Shape × Nat × Nat :=
  -- the first fault is the one that a reader of the text meets
  let stop (read skip : Fault) : Shape × Nat × Nat :=
    (.string (.error (fault.getD read)) (some skip), offset, used)
  match cs with
  | [] => stop ⟨.endInString, offset⟩ ⟨.endInString, offset⟩
  | c :: cs =>
    if c = '"' then
      (.string (fault.elim (.ok (String.ofList done.reverse)) .error) none, offset + 1, used + 1)
    else if c = '\\' then
      match cs with
      | [] => stop ⟨.endInString, offset + 1⟩ ⟨.endInString, offset + 1⟩
      | e :: cs =>
        if e = 'u' then
          match escape (offset + 2) cs with
          | .error f => stop f f
          | .ok u =>
            string (offset + 2 + u.used) (used + 2 + u.used) (u.char :: done) (fault <|> u.fault)
              (cs.drop u.used)
        else
          match simpleEscape? e with
          | some x => string (offset + 2) (used + 2) (x :: done) fault cs
          | none => stop ⟨.invalidEscape, offset + 2⟩ ⟨.invalidEscape, offset + 2⟩
    else if c.toNat < 0x20 then
      stop ⟨.controlCharacter, offset + 1⟩ ⟨.controlCharacter, offset⟩
    else string (offset + c.utf8Size) (used + 1) (c :: done) fault cs
termination_by cs.length
decreasing_by all_goals simp only [List.length_drop, List.length_cons]; omega

/-- Whether the text after the token can be cut into tokens. -/
def Shape.isWhole : Shape → Bool
  | .broken _ => false
  | .string _ (some _) => false
  | _ => true

/-- The tokens of `cs`, of which `offset` bytes have been passed. -/
def scan (offset : Nat) (cs : List Char) : List Token :=
  match cs with
  | [] => []
  | c :: cs =>
    -- one token that takes `used` characters after its first and ends at `stop`
    let emit (shape : Shape) (stop used : Nat) : List Token :=
      ⟨offset, shape⟩ :: if shape.isWhole then scan stop (cs.drop used) else []
    let aWord (rest : List Char) (shape : Shape) : List Token :=
      match word (offset + 1) rest cs with
      | none => emit shape (offset + 1 + rest.length) rest.length
      | some b => emit (.broken b) 0 0
    match c with
    | '[' => emit .openArray (offset + 1) 0
    | ']' => emit .closeArray (offset + 1) 0
    | '\x7b' => emit .openObject (offset + 1) 0
    | '\x7d' => emit .closeObject (offset + 1) 0
    | ',' => emit .comma (offset + 1) 0
    | ':' => emit .colon (offset + 1) 0
    | 'n' => aWord ['u', 'l', 'l'] .null
    | 't' => aWord ['r', 'u', 'e'] (.bool true)
    | 'f' => aWord ['a', 'l', 's', 'e'] (.bool false)
    | '"' =>
      let (shape, stop, used) := string (offset + 1) 0 [] none cs
      emit shape stop used
    | '-' =>
      let (shape, stop) := magnitude true (offset + 1) cs
      emit shape stop (stop - (offset + 1))
    | c =>
      if isSpace c then scan (offset + 1) cs
      else if c.isDigit then
        let (shape, stop) := magnitude false offset (c :: cs)
        emit shape stop (stop - (offset + 1))
      else emit .stray (offset + c.utf8Size) 0
termination_by cs.length
decreasing_by all_goals simp only [List.length_drop, List.length_cons]; omega

end Token

def tokens (text : String) : List Token := Token.scan 0 text.toList

end PolicyCanvas.Json
