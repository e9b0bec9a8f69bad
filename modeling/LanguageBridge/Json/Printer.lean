import LanguageBridge.Json.Basic

/-!
The compact text of a JSON value: no blanks, members in their order, and only quotes, backslashes
and control characters escaped.
-/
namespace LanguageBridge.Json

/-- The digit of a number below sixteen, in lower case. -/
def hexDigit (value : Nat) : Char :=
  if value < 10 then Char.ofNat (48 + value) else Char.ofNat (87 + value)

/-- The decimal digits of a number. -/
def digits (value : Nat) : List Char := Nat.toDigits 10 value

/-- The decimal digits of an integer, a minus sign before a negative one. -/
def integer : Int → List Char
  | .ofNat value => digits value
  | .negSucc value => '-' :: digits (value + 1)

/-- One character inside a string literal. -/
def escaped (c : Char) : List Char :=
  if c = '"' then ['\\', '"']
  else if c = '\\' then ['\\', '\\']
  else if c = '\x08' then ['\\', 'b']
  else if c = '\x0c' then ['\\', 'f']
  else if c = '\n' then ['\\', 'n']
  else if c = '\r' then ['\\', 'r']
  else if c = '\t' then ['\\', 't']
  else if c.toNat < 32 then
    ['\\', 'u', '0', '0', hexDigit (c.toNat / 16), hexDigit (c.toNat % 16)]
  else [c]

/-- A string literal. -/
def literal (value : String) : List Char :=
  '"' :: (value.toList.flatMap escaped ++ ['"'])

mutual
/-- The value's text, followed by `rest`. -/
def write : Json → List Char → List Char
  | .null, rest => 'n' :: 'u' :: 'l' :: 'l' :: rest
  | .bool true, rest => 't' :: 'r' :: 'u' :: 'e' :: rest
  | .bool false, rest => 'f' :: 'a' :: 'l' :: 's' :: 'e' :: rest
  | .int value, rest => integer value ++ rest
  | .float value, rest => value.text ++ rest
  | .str value, rest => literal value ++ rest
  | .arr [], rest => '[' :: ']' :: rest
  | .arr (item :: items), rest => '[' :: write item (writeItems items rest)
  | .obj [], rest => '{' :: '}' :: rest
  | .obj ((key, value) :: members), rest =>
    '{' :: (literal key ++ ':' :: write value (writeMembers members rest))

/-- The items after the first of an array, its closing bracket and `rest`. -/
def writeItems : List Json → List Char → List Char
  | [], rest => ']' :: rest
  | item :: items, rest => ',' :: write item (writeItems items rest)

/-- The members after the first of an object, its closing brace and `rest`. -/
def writeMembers : List (String × Json) → List Char → List Char
  | [], rest => '}' :: rest
  | (key, value) :: members, rest =>
    ',' :: (literal key ++ ':' :: write value (writeMembers members rest))
end

/-- The compact text of a value. -/
def compact (value : Json) : String := String.ofList (value.write [])

end LanguageBridge.Json
