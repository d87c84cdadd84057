import PolicyCanvas.Json.Basic

namespace PolicyCanvas.Json

def hexDigit (n : Nat) : Char := (Nat.toDigits 16 n).headD '0'

/-- The character as it stands between quotes: only these, backslashes and controls are escaped. -/
def escapedChar (c : Char) : List Char :=
  if c = '"' then ['\\', '"']
  else if c = '\\' then ['\\', '\\']
  else if c = '\x08' then ['\\', 'b']
  else if c = '\t' then ['\\', 't']
  else if c = '\n' then ['\\', 'n']
  else if c = '\x0c' then ['\\', 'f']
  else if c = '\r' then ['\\', 'r']
  else if c.toNat < 0x20 then
    ['\\', 'u', '0', '0', hexDigit (c.toNat / 16), hexDigit (c.toNat % 16)]
  else [c]

def stringText (s : String) : String := String.ofList ('"' :: s.toList.flatMap escapedChar ++ ['"'])

mutual

/-- The value without any spaces, its members in their order. -/
def text : Json → String
  | .null => "null"
  | .bool b => if b then "true" else "false"
  | .number n => n.text
  | .string s => stringText s
  | .array items => "[" ++ itemsText items ++ "]"
  | .object members => "\x7b" ++ membersText members ++ "\x7d"

def itemsText : List Json → String
  | [] => ""
  | [j] => j.text
  | j :: items => j.text ++ "," ++ itemsText items

def membersText : List (String × Json) → String
  | [] => ""
  | [(key, j)] => stringText key ++ ":" ++ j.text
  | (key, j) :: members => stringText key ++ ":" ++ j.text ++ "," ++ membersText members

end

end PolicyCanvas.Json
