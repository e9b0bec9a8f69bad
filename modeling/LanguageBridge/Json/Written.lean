import LanguageBridge.Json.Basic

/-!
Numerals of JSON text and the numbers they stand for. A numeral without fraction and exponent that
fits in 64 bits is an integer; any other is a double, computed from as many leading digits as fit
in 64 bits.
-/
namespace LanguageBridge.Json

/-- A numeral as it is written: digits before and after the point and a power of ten. -/
structure Numeral where
  negative : Bool
  whole : List Char
  fraction : List Char
  exponent : Option Int
  deriving DecidableEq, Repr

/-- The number that decimal digits write. -/
def natOfDigits (input : List Char) : Nat :=
  input.foldl (fun total c => total * 10 + (c.toNat - 48)) 0

/-- The greatest number of 64 bits. -/
def greatestNat64 : Nat := 18446744073709551615

/-- Reads digits behind a number until one more would take it out of 64 bits; gives the number and
the digits left. -/
def significant (number : Nat) : List Char → Nat × List Char
  | [] => (number, [])
  | c :: rest =>
    let longer := number * 10 + (c.toNat - 48)
    if longer ≤ greatestNat64 then significant longer rest else (number, c :: rest)

namespace Numeral

/-- The significand and the power of ten of a numeral that is read as a double. Whole digits that do
not fit are counted, digits of the fraction that do not fit are passed over. -/
def scaled (numeral : Numeral) : Nat × Int :=
  let (number, uncounted) := significant 0 numeral.whole
  let (number, unread) := significant number numeral.fraction
  let places : Int := (numeral.fraction.length : Int) - unread.length
  (number, uncounted.length - places + numeral.exponent.getD 0)

/-- The integer that a numeral writes, if it is one of 64 bits; a zero with a sign is none. -/
def integer? (numeral : Numeral) : Option Int :=
  if numeral.fraction.isEmpty ∧ numeral.exponent.isNone then
    let number := natOfDigits numeral.whole
    if numeral.negative then
      if 0 < number ∧ number ≤ 9223372036854775808 then some (-number) else none
    else if number ≤ greatestNat64 then some number
    else none
  else none

/-- The number of a numeral; none when it is beyond the largest double. -/
def value? (numeral : Numeral) : Option Json :=
  match numeral.integer? with
  | some value => some (.int value)
  | none =>
    let (significand, power) := numeral.scaled
    (Magnitude.ofNumeral? significand power).map fun size => .float ⟨numeral.negative, size⟩

end Numeral

/-!
JSON as it is written, before its numerals and strings get a value. Some literals that follow the
grammar have none: a numeral beyond the largest double and a string with half a surrogate pair. They
may stand where nobody reads them.
-/

/-- What a string literal is made of: characters, written out or after a backslash, and the units
of `\u` escapes. -/
inductive Piece
  | char (value : Char)
  | unit (value : Nat)
  deriving DecidableEq, Repr

/-- A value as it is written. -/
inductive Written
  | null
  | bool (value : Bool)
  | number (numeral : Numeral)
  | str (pieces : List Piece)
  | arr (items : List Written)
  | obj (members : List (List Piece × Written))
  deriving Inhabited, Repr

/-- Which parts of a value are read. -/
inductive Interest
  | whole
  | fields (known : List (String × Interest))
  | values (each : Interest)

/-- Whether a unit is the first of a surrogate pair. -/
def isHighSurrogate (value : Nat) : Bool := 0xD800 ≤ value && value < 0xDC00

/-- Whether a unit is the second of a surrogate pair. -/
def isLowSurrogate (value : Nat) : Bool := 0xDC00 ≤ value && value < 0xE000

/-- The characters of a string literal; two units may make one, and one alone may make none. -/
def textOf? : List Piece → Option (List Char)
  | [] => some []
  | .char value :: rest => (textOf? rest).map (value :: ·)
  | .unit first :: .unit second :: rest =>
    if isHighSurrogate first then
      if isLowSurrogate second then
        let code := 0x10000 + (first - 0xD800) * 0x400 + (second - 0xDC00)
        (textOf? rest).map (Char.ofNat code :: ·)
      else none
    else if isLowSurrogate first then none
    else (textOf? (.unit second :: rest)).map (Char.ofNat first :: ·)
  | .unit only :: rest =>
    if isHighSurrogate only || isLowSurrogate only then none
    else (textOf? rest).map (Char.ofNat only :: ·)

/-- The string of a literal. -/
def stringOf? (pieces : List Piece) : Option String := (textOf? pieces).map String.ofList

namespace Written

mutual
/-- The value of what is written. -/
def value? : Written → Option Json
  | .null => some .null
  | .bool value => some (.bool value)
  | .number numeral => numeral.value?
  | .str pieces => (stringOf? pieces).map .str
  | .arr items => (values? items).map .arr
  | .obj members => (members? members).map .obj

/-- The values of an array's items. -/
def values? : List Written → Option (List Json)
  | [] => some []
  | item :: rest => do
    let value ← value? item
    return value :: (← values? rest)

/-- The values of an object's members. -/
def members? : List (List Piece × Written) → Option (List (String × Json))
  | [] => some []
  | (key, item) :: rest => do
    let key ← stringOf? key
    let value ← value? item
    return (key, value) :: (← members? rest)
end

mutual
/-- The value of the parts that are read, `null` in place of the others. -/
def valueIn? : Interest → Written → Option Json
  | .fields known, .arr items => (orderedIn? known items).map .arr
  | .fields known, .obj members => (fieldsIn? known members).map .obj
  | .values each, .obj members => (membersIn? each members).map .obj
  | _, written => value? written

/-- The values of a record that is written as an array of its fields in order. -/
def orderedIn? : List (String × Interest) → List Written → Option (List Json)
  | _, [] => some []
  | known, item :: rest => do
    let value ← valueIn? ((known.head?.map (·.2)).getD .whole) item
    return value :: (← orderedIn? (known.drop 1) rest)

/-- The values of a record's members. -/
def fieldsIn? (known : List (String × Interest)) :
    List (List Piece × Written) → Option (List (String × Json))
  | [] => some []
  | (key, item) :: rest => do
    let key ← stringOf? key
    let value ←
      match known.lookup key with
      | some interest => valueIn? interest item
      | none => some .null
    return (key, value) :: (← fieldsIn? known rest)

/-- The values of members that are all read alike. -/
def membersIn? (each : Interest) :
    List (List Piece × Written) → Option (List (String × Json))
  | [] => some []
  | (key, item) :: rest => do
    let key ← stringOf? key
    let value ← valueIn? each item
    return (key, value) :: (← membersIn? each rest)
end

end Written

end LanguageBridge.Json
