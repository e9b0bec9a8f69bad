import LanguageBridge.Json.Written

/-!
Reading JSON text. Every function takes the characters left and gives back those it did not read.
Members of one name are all kept, so that a reader of records can refuse them.
-/
namespace LanguageBridge.Json

/-- Drops the blanks that may stand between tokens. -/
def skipBlanks : List Char → List Char
  | [] => []
  | c :: rest =>
    if c = ' ' ∨ c = '\n' ∨ c = '\t' ∨ c = '\r' then skipBlanks rest else c :: rest

/-- The value of a hexadecimal digit. -/
def hexValue? (c : Char) : Option Nat :=
  if '0' ≤ c ∧ c ≤ '9' then some (c.toNat - 48)
  else if 'a' ≤ c ∧ c ≤ 'f' then some (c.toNat - 87)
  else if 'A' ≤ c ∧ c ≤ 'F' then some (c.toNat - 55)
  else none

/-- The number of four hexadecimal digits. -/
def hexQuad? : List Char → Option (Nat × List Char)
  | a :: b :: c :: d :: rest => do
    let a ← hexValue? a
    let b ← hexValue? b
    let c ← hexValue? c
    let d ← hexValue? d
    return (((a * 16 + b) * 16 + c) * 16 + d, rest)
  | _ => none

/-- What a backslash and a letter stand for. -/
def escapedLetter? : Char → Option Char
  | '"' => some '"'
  | '\\' => some '\\'
  | '/' => some '/'
  | 'b' => some '\x08'
  | 'f' => some '\x0c'
  | 'n' => some '\n'
  | 'r' => some '\r'
  | 't' => some '\t'
  | _ => none

/-- The pieces of a string literal after its opening quote; each turn reads one. -/
def stringBody? : Nat → List Char → Option (List Piece × List Char)
  | 0, _ => none
  | fuel + 1, input =>
    match input with
    | [] => none
    | '"' :: rest => some ([], rest)
    | '\\' :: 'u' :: rest => do
      let (unit, rest) ← hexQuad? rest
      let (body, rest) ← stringBody? fuel rest
      return (.unit unit :: body, rest)
    | '\\' :: c :: rest => do
      let c ← escapedLetter? c
      let (body, rest) ← stringBody? fuel rest
      return (.char c :: body, rest)
    | c :: rest =>
      if c = '\\' ∨ c.toNat < 32 then none
      else do
        let (body, rest) ← stringBody? fuel rest
        return (.char c :: body, rest)

/-- The digits at the front, as they stand. -/
def takeDigits (input : List Char) : List Char := input.takeWhile Char.isDigit

/-- Whether there is a minus sign at the front, and what is behind it. -/
def takeSign : List Char → Bool × List Char
  | '-' :: rest => (true, rest)
  | rest => (false, rest)

/-- The digits behind a point, if there is one. -/
def takeFraction? : List Char → Option (List Char × List Char)
  | '.' :: rest =>
    let fraction := takeDigits rest
    if fraction.isEmpty then none else some (fraction, rest.drop fraction.length)
  | rest => some ([], rest)

/-- The power behind an e, a sign before it or not. -/
def takePower? (input : List Char) : Option (Option Int × List Char) :=
  let (below, rest) :=
    match input with
    | '+' :: rest => (false, rest)
    | rest => takeSign rest
  let power := takeDigits rest
  let size : Int := natOfDigits power
  if power.isEmpty then none
  else some (some (if below then -size else size), rest.drop power.length)

/-- The exponent, if there is one. -/
def takeExponent? : List Char → Option (Option Int × List Char)
  | c :: rest => if c = 'e' ∨ c = 'E' then takePower? rest else some (none, c :: rest)
  | [] => some (none, [])

/-- A numeral: an optional sign, digits without a needless zero, a fraction and an exponent. -/
def numeral? (input : List Char) : Option (Numeral × List Char) :=
  let (negative, input) := takeSign input
  let whole := takeDigits input
  if whole.isEmpty ∨ (whole.head? = some '0' ∧ 1 < whole.length) then none
  else do
    let (fraction, input) ← takeFraction? (input.drop whole.length)
    let (exponent, input) ← takeExponent? input
    return ({ negative, whole, fraction, exponent }, input)

mutual
/-- One value, blanks before it skipped. -/
def value? : Nat → List Char → Option (Written × List Char)
  | 0, _ => none
  | fuel + 1, input =>
    match skipBlanks input with
    | 'n' :: 'u' :: 'l' :: 'l' :: rest => some (.null, rest)
    | 't' :: 'r' :: 'u' :: 'e' :: rest => some (.bool true, rest)
    | 'f' :: 'a' :: 'l' :: 's' :: 'e' :: rest => some (.bool false, rest)
    | '"' :: rest => do
      let (body, rest) ← stringBody? (rest.length + 1) rest
      return (.str body, rest)
    | '[' :: rest =>
      match skipBlanks rest with
      | ']' :: rest => some (.arr [], rest)
      | rest => do
        let (items, rest) ← items? fuel rest
        return (.arr items, rest)
    | '{' :: rest =>
      match skipBlanks rest with
      | '}' :: rest => some (.obj [], rest)
      | rest => do
        let (members, rest) ← members? fuel rest
        return (.obj members, rest)
    | rest => do
      let (numeral, rest) ← numeral? rest
      return (.number numeral, rest)

/-- The items of an array that has one, up to and with its closing bracket. -/
def items? : Nat → List Char → Option (List Written × List Char)
  | 0, _ => none
  | fuel + 1, input => do
    let (item, rest) ← value? fuel input
    match skipBlanks rest with
    | ',' :: rest =>
      let (items, rest) ← items? fuel rest
      return (item :: items, rest)
    | ']' :: rest => return ([item], rest)
    | _ => none

/-- The members of an object that has one, up to and with its closing brace. -/
def members? : Nat → List Char → Option (List (List Piece × Written) × List Char)
  | 0, _ => none
  | fuel + 1, input =>
    match skipBlanks input with
    | '"' :: rest => do
      let (key, rest) ← stringBody? (rest.length + 1) rest
      match skipBlanks rest with
      | ':' :: rest =>
        let (value, rest) ← value? fuel rest
        match skipBlanks rest with
        | ',' :: rest =>
          let (members, rest) ← members? fuel rest
          return ((key, value) :: members, rest)
        | '}' :: rest => return ([(key, value)], rest)
        | _ => none
      | _ => none
    | _ => none
end

/-- What a text that holds one value writes. -/
def written? (input : String) : Option Written := do
  let input := input.toList
  let (value, rest) ← value? (input.length + 1) input
  if (skipBlanks rest).isEmpty then some value else none

/-- The one value that a text holds, with every member its objects write. -/
def parse? (input : String) : Option Json := (written? input).bind Written.value?

/-- The one value that a text holds, as far as it is read. -/
def parseIn? (interest : Interest) (input : String) : Option Json :=
  (written? input).bind (Written.valueIn? interest)

/-- The value of a text, members of one name made one. -/
def ofText? (input : String) : Option Json := (parse? input).map merged

end LanguageBridge.Json
