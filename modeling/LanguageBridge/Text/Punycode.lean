/-!
Texts of any characters written in letters, digits and hyphens: first the ASCII characters as they
are, then where the others stand, as numbers whose digits get the more of them the rarer they are.
-/
namespace LanguageBridge.Text.Punycode

/-- The digit of a number below 36. -/
def digit (value : Nat) : Char :=
  if value < 26 then Char.ofNat (97 + value) else Char.ofNat (22 + value)

/-- The number of a digit. -/
def digitValue? (c : Char) : Option Nat :=
  if 'a' ≤ c ∧ c ≤ 'z' then some (c.toNat - 97)
  else if 'A' ≤ c ∧ c ≤ 'Z' then some (c.toNat - 65)
  else if '0' ≤ c ∧ c ≤ '9' then some (c.toNat - 22)
  else none

/-- The least digit that is not the last one of its number, for the digit at a place. -/
def threshold (bias place : Nat) : Nat :=
  if place ≤ bias then 1 else if bias + 26 ≤ place then 26 else place - bias

/-- Divides by 35 until few are left; gives what is left and 36 for every division. -/
def scaledDown (delta place : Nat) : Nat × Nat :=
  if 455 < delta then scaledDown (delta / 35) (place + 36) else (delta, place)
  termination_by delta

/-- The bias after a number; the first number of a text is damped. -/
def adapted (delta count : Nat) (isFirst : Bool) : Nat :=
  let delta := if isFirst then delta / 700 else delta / 2
  let (delta, place) := scaledDown (delta + delta / count) 0
  place + 36 * delta / (delta + 38)

/-- The digits of a number; `place` grows by 36 from digit to digit. -/
def numberDigits (bias place value : Nat) : List Char :=
  let least := threshold bias place
  if value < least then [digit value]
  else
    digit (least + (value - least) % (36 - least)) ::
      numberDigits bias (place + 36) ((value - least) / (36 - least))
  termination_by value
  decreasing_by
    have positive : 1 ≤ threshold bias place := by unfold threshold; split <;> (try split) <;> omega
    exact Nat.lt_of_le_of_lt (Nat.div_le_self _ _) (by omega)

/-- What is written so far: the number to write next, how many characters are written, the bias
and the digits, last first. -/
structure Writing where
  delta : Nat
  count : Nat
  bias : Nat
  digits : List Char

/-- Passes a character of the text while the characters of one code point are written. -/
def Writing.pass (basic code : Nat) (writing : Writing) (c : Char) : Writing :=
  if c.toNat < code then { writing with delta := writing.delta + 1 }
  else if c.toNat = code then
    { delta := 0
      count := writing.count + 1
      bias := adapted writing.delta (writing.count + 1) (writing.count = basic)
      digits := (numberDigits writing.bias 36 writing.delta).reverse ++ writing.digits }
  else writing

/-- Writes the characters of each code point in turn; `next` is the first one not yet written. -/
def writeCodes (text : List Char) (basic next : Nat) (writing : Writing) :
    List Nat → List Char
  | [] => writing.digits.reverse
  | code :: rest =>
    let writing := { writing with delta := writing.delta + (code - next) * (writing.count + 1) }
    let writing := text.foldl (Writing.pass basic code) writing
    writeCodes text basic (code + 1) { writing with delta := writing.delta + 1 } rest

/-- Writes a text. -/
def encode (text : List Char) : List Char :=
  let basic := text.filter (·.toNat < 128)
  let codes := ((text.map Char.toNat).filter (128 ≤ ·)).eraseDups.mergeSort
  let writing : Writing := { delta := 0, count := basic.length, bias := 72, digits := [] }
  basic ++ (if basic.isEmpty then [] else ['-']) ++
    writeCodes text basic.length 128 writing codes

/-- What is read so far: the text, the next code point, where the last character went, and the
number being read with the weight and place of its next digit. -/
structure Reading where
  text : List Char
  code : Nat := 128
  bias : Nat := 72
  start : Nat := 0
  index : Nat := 0
  weight : Nat := 1
  place : Nat := 36

/-- Reads one digit; the last one of a number puts a character into the text. -/
def Reading.digit? (reading : Reading) (c : Char) : Option Reading := do
  let value ← digitValue? c
  let index := reading.index + value * reading.weight
  let least := threshold reading.bias reading.place
  if least ≤ value then
    return { reading with
      index, weight := reading.weight * (36 - least), place := reading.place + 36 }
  else
    let count := reading.text.length + 1
    let code := reading.code + index / count
    let index := index % count
    if code.isValidChar then
      return {
        text := reading.text.take index ++ Char.ofNat code :: reading.text.drop index
        code
        bias := adapted (reading.index + value * reading.weight - reading.start) count
          (reading.start = 0)
        start := index + 1
        index := index + 1 }
    else none

/-- Reads a text; a hyphen before the numbers ends at least one ASCII character. -/
def decode? (input : List Char) : Option (List Char) := do
  let digits := (input.reverse.takeWhile (· ≠ '-')).reverse
  let basic := (input.take (input.length - digits.length)).dropLast
  if basic.any (128 ≤ ·.toNat) ∨ (basic.isEmpty ∧ digits.length < input.length) then none
  let reading ← digits.foldlM Reading.digit? { text := basic }
  if reading.place = 36 then return reading.text else none

end LanguageBridge.Text.Punycode
