import PolicyCanvas.Json.Basic
import PolicyCanvas.Text

/-!
# What is wrong with a JSON text or value

A fault says why a text cannot be read any further and after how many of its bytes, in UTF-8. People
are told the place as a line and a column: lines count from one and end with a line feed, and the
column is the number of bytes since the last line feed.

A mismatch says how a JSON value differs from what was wanted in its place. Its message names the
kind of value that was found, with the value itself when it has no parts.
-/

namespace PolicyCanvas.Text

structure Location where
  line : Nat
  column : Nat
deriving DecidableEq, Repr

/-- The location after the first `offset` bytes of `cs`; an offset within a character counts the
bytes of it that are passed. -/
def locate (offset : Nat) (cs : List Char) : Location :=
  go offset 1 0 cs
where
  go (left line column : Nat) : List Char → Location
    | [] => ⟨line, column⟩
    | c :: cs =>
      if left < c.utf8Size then ⟨line, column + left⟩
      else if c = '\n' then go (left - 1) (line + 1) 0 cs
      else go (left - c.utf8Size) line (column + c.utf8Size) cs

def Location.ofOffset (text : String) (offset : Nat) : Location := locate offset text.toList

end PolicyCanvas.Text

namespace PolicyCanvas.Json

inductive Cause where
  | endInList
  | endInObject
  | endInString
  | endInValue
  | expectedColon
  | expectedListEnd
  | expectedObjectEnd
  | expectedWord
  | expectedValue
  | invalidEscape
  | invalidNumber
  | numberOutOfRange
  | controlCharacter
  | keyNotString
  | loneSurrogate
  | trailingComma
  | trailingCharacters
  | unfinishedPair
  | tooDeep
deriving DecidableEq, Repr

namespace Cause

def message : Cause → String
  | endInList => "EOF while parsing a list"
  | endInObject => "EOF while parsing an object"
  | endInString => "EOF while parsing a string"
  | endInValue => "EOF while parsing a value"
  | expectedColon => "expected `:`"
  | expectedListEnd => "expected `,` or `]`"
  | expectedObjectEnd => "expected `,` or `\x7d`"
  | expectedWord => "expected ident"
  | expectedValue => "expected value"
  | invalidEscape => "invalid escape"
  | invalidNumber => "invalid number"
  | numberOutOfRange => "number out of range"
  | controlCharacter => "control character (\\u0000-\\u001F) found while parsing a string"
  | keyNotString => "key must be a string"
  | loneSurrogate => "lone leading surrogate in hex escape"
  | trailingComma => "trailing comma"
  | trailingCharacters => "trailing characters"
  | unfinishedPair => "unexpected end of hex escape"
  | tooDeep => "recursion limit exceeded"

/-- The text ended where more was needed. -/
def isEnd : Cause → Bool
  | endInList | endInObject | endInString | endInValue => true
  | _ => false

end Cause

structure Fault where
  cause : Cause
  /-- The number of bytes passed when the fault shows. -/
  offset : Nat
deriving DecidableEq, Repr

/-- A place where reading cannot go on. Whoever wants the value and whoever only wants to get past
it meet different faults there. -/
structure Break where
  read : Fault
  skip : Fault
deriving DecidableEq, Repr

/-- The same fault for both kinds of reader. -/
def Break.both (cause : Cause) (offset : Nat) : Break := ⟨⟨cause, offset⟩, ⟨cause, offset⟩⟩

/-- What stands in the place of the wanted value. -/
inductive Found where
  | null
  | bool (b : Bool)
  | number (n : Number)
  | string (s : String)
  | sequence
  | map
deriving DecidableEq, Repr

def Found.describe : Found → String
  | .null => "null"
  | .bool b => "boolean `" ++ (if b then "true" else "false") ++ "`"
  | .number (.integer i) => "integer `" ++ (Number.integer i).text ++ "`"
  | .number (.float x) => "floating point `" ++ (Number.float x).text ++ "`"
  | .string s => "string " ++ Text.quoted s
  | .sequence => "sequence"
  | .map => "map"

def Found.ofJson : Json → Found
  | .null => .null
  | .bool b => .bool b
  | .number n => .number n
  | .string s => .string s
  | .array _ => .sequence
  | .object _ => .map

inductive Mismatch where
  | missingField (name : String)
  | duplicateField (name : String)
  | unknownVariant (name : String) (variants : List String)
  | wrongType (found : Found) (wanted : String)
  /-- An integer out of the range of `wanted`. -/
  | outOfRange (value : Int) (wanted : String)
  /-- An object that stands for a variant has another number of members than one. -/
  | notOneMember
  | wrongLength (length : Nat) (wanted : String)
deriving DecidableEq, Repr

namespace Mismatch

def variantList (variants : List String) : String :=
  let quoted := variants.map fun v => "`" ++ v ++ "`"
  match quoted with
  | [] => "there are no variants"
  | [v] => v
  | [v, w] => v ++ " or " ++ w
  | _ => "one of " ++ ", ".intercalate quoted

def message : Mismatch → String
  | missingField name => "missing field `" ++ name ++ "`"
  | duplicateField name => "duplicate field `" ++ name ++ "`"
  | unknownVariant name variants =>
    "unknown variant `" ++ name ++ "`, expected " ++ variantList variants
  | wrongType found wanted => "invalid type: " ++ found.describe ++ ", expected " ++ wanted
  | outOfRange value wanted =>
    "invalid value: integer `" ++ (Number.integer value).text ++ "`, expected " ++ wanted
  | notOneMember => "invalid value: map, expected map with a single key"
  | wrongLength length wanted => s!"invalid length {length}, expected " ++ wanted

end Mismatch

/-- Why a value could not be read: the text breaks off, or it holds something else. -/
inductive Failure where
  | fault (f : Fault)
  | mismatch (m : Mismatch)
deriving DecidableEq, Repr

end PolicyCanvas.Json
