/-!
Finite double precision numbers and exact arithmetic on them: every result is the exact one, rounded
once to the nearest double, a tie to the even mantissa.
-/
namespace LanguageBridge

/-- The size `mantissa · 2 ^ exponent` of a double. -/
structure Magnitude where
  mantissa : Nat
  exponent : Int
  deriving DecidableEq, Repr, Inhabited

/-- A double: a sign, which zero has too, and a size. -/
structure Double where
  negative : Bool
  size : Magnitude
  deriving DecidableEq, Repr, Inhabited

namespace Magnitude

/-- The least exponent; sizes below its normal ones have fewer bits. -/
def leastExponent : Int := -1074

/-- The greatest exponent. -/
def greatestExponent : Int := 971

/-- The bits of a mantissa. -/
def mantissaBits : Nat := 53

def zero : Magnitude := ⟨0, leastExponent⟩

/-- A quotient to the nearest natural number, a tie to the even one. -/
def roundedQuotient (numerator denominator : Nat) : Nat :=
  let quotient := numerator / denominator
  let twice := 2 * (numerator % denominator)
  if denominator < twice ∨ (twice = denominator ∧ quotient % 2 = 1) then quotient + 1 else quotient

/-- The exponent at which the quotient of two numbers above zero has a whole mantissa. -/
def exponentOf (numerator denominator : Nat) : Int :=
  let guess : Int := (numerator.log2 : Int) - denominator.log2 - mantissaBits
  let reach := guess + mantissaBits
  let isShort :=
    numerator * Nat.pow 2 (-reach).toNat < denominator * Nat.pow 2 reach.toNat
  max leastExponent (if isShort then guess else guess + 1)

/-- The size nearest to a quotient, with no bound above. -/
def nearest (numerator denominator : Nat) : Magnitude :=
  if numerator = 0 then zero
  else
    let exponent := exponentOf numerator denominator
    let mantissa :=
      roundedQuotient (numerator * Nat.pow 2 (-exponent).toNat)
        (denominator * Nat.pow 2 exponent.toNat)
    if mantissa = Nat.pow 2 mantissaBits then ⟨Nat.pow 2 (mantissaBits - 1), exponent + 1⟩
    else ⟨mantissa, exponent⟩

/-- Whether a size is not beyond the largest double. -/
def isFinite (size : Magnitude) : Bool := size.exponent ≤ greatestExponent

/-- The size nearest to a natural number. -/
def ofNat (value : Nat) : Magnitude := nearest value 1

/-- The size nearest to a power of ten. -/
def powerOfTen (power : Nat) : Magnitude := ofNat (Nat.pow 10 power)

/-- The product of two sizes. -/
def times (first second : Magnitude) : Magnitude :=
  let exponent := first.exponent + second.exponent
  nearest (first.mantissa * second.mantissa * Nat.pow 2 exponent.toNat)
    (Nat.pow 2 (-exponent).toNat)

/-- The quotient of two sizes, the second above zero. -/
def dividedBy (first second : Magnitude) : Magnitude :=
  let exponent := first.exponent - second.exponent
  nearest (first.mantissa * Nat.pow 2 exponent.toNat)
    (second.mantissa * Nat.pow 2 (-exponent).toNat)

/-- The greatest power of ten that a double holds. -/
def greatestPower : Nat := 308

/-- A size divided by a power of ten, in steps that doubles can hold. -/
def overPower (size : Magnitude) (power : Nat) : Magnitude :=
  if power ≤ greatestPower then size.dividedBy (powerOfTen power)
  else if size.mantissa = 0 then size
  else overPower (size.dividedBy (powerOfTen greatestPower)) (power - greatestPower)
  termination_by power
  decreasing_by simp [greatestPower] at *; omega

/-- The size that a numeral `significand · 10 ^ power` gets: the significand is rounded first, then
its product or quotient with the power of ten. None when the product is beyond the largest
double. -/
def ofNumeral? (significand : Nat) (power : Int) : Option Magnitude :=
  let size := ofNat significand
  if power < 0 then some (size.overPower (-power).toNat)
  else if significand = 0 then some zero
  else if greatestPower < power.toNat then none
  else
    let product := size.times (powerOfTen power.toNat)
    if product.isFinite then some product else none

end Magnitude

/-!
The text of a double: the fewest decimal digits that read back as it, of those the nearest. Numbers
from a hundred thousandth up to below ten to the sixteenth are written out, others with an exponent.
-/

/-- A decimal number `digits · 10 ^ power`. -/
structure DecimalNumber where
  digits : Nat
  power : Int
  deriving DecidableEq, Repr

namespace Magnitude

/-- Compares `digits · 10 ^ power` with `count · 2 ^ exponent`. -/
def compareScaled (decimal : DecimalNumber) (count : Nat) (exponent : Int) : Ordering :=
  compare (decimal.digits * Nat.pow 10 decimal.power.toNat * Nat.pow 2 (-exponent).toNat)
    (count * Nat.pow 2 exponent.toNat * Nat.pow 10 (-decimal.power).toNat)

/-- Whether the next smaller size is only half as far away as the next greater one. -/
def isNarrowBelow (size : Magnitude) : Bool :=
  size.mantissa = Nat.pow 2 (mantissaBits - 1) && leastExponent < size.exponent

/-- Whether a decimal number is among those nearest to a size; the ends of their range belong to an
even mantissa. -/
def readsBack (size : Magnitude) (decimal : DecimalNumber) : Bool :=
  let low := 4 * size.mantissa - (if size.isNarrowBelow then 1 else 2)
  let high := 4 * size.mantissa + 2
  let isEven := size.mantissa % 2 = 0
  let atLow := compareScaled decimal low (size.exponent - 2)
  let atHigh := compareScaled decimal high (size.exponent - 2)
  (atLow = .gt || (isEven && atLow = .eq)) && (atHigh = .lt || (isEven && atHigh = .eq))

/-- The least power of ten above a size that is not zero. -/
def decimalWidth (size : Magnitude) : Int :=
  let bits : Int := size.mantissa.log2 + size.exponent
  let guess := bits * 30103 / 100000
  let isAbove (power : Int) : Bool := compareScaled ⟨1, power⟩ size.mantissa size.exponent = .gt
  if isAbove guess then guess else if isAbove (guess + 1) then guess + 1 else guess + 2

/-- The two multiples of a power of ten around a size. -/
def neighbours (size : Magnitude) (power : Int) : DecimalNumber × DecimalNumber :=
  let below :=
    size.mantissa * Nat.pow 2 size.exponent.toNat * Nat.pow 10 (-power).toNat /
      (Nat.pow 2 (-size.exponent).toNat * Nat.pow 10 power.toNat)
  (⟨below, power⟩, ⟨below + 1, power⟩)

/-- A multiple of a power of ten that reads back as the size, the nearer of two. -/
def onGrid? (size : Magnitude) (power : Int) : Option DecimalNumber :=
  let (below, above) := size.neighbours power
  match size.readsBack below, size.readsBack above with
  | true, true =>
    let isBelowMiddle :=
      match compareScaled ⟨2 * below.digits + 1, power⟩ (2 * size.mantissa) size.exponent with
      | .gt => true
      | .eq => below.digits % 2 = 0
      | .lt => false
    some (if isBelowMiddle then below else above)
  | true, false => some below
  | false, true => some above
  | false, false => none

/-- The shortest decimal number that reads back as a size that is not zero; seventeen digits always
do. -/
def shortest (size : Magnitude) : DecimalNumber :=
  let width := size.decimalWidth
  ((List.range 17).findSome? fun (count : Nat) => size.onGrid? (width - (count + 1))).getD
    (size.neighbours (width - 17)).1

end Magnitude

namespace DecimalNumber

/-- Takes zeros at the end of the digits into the power; `fuel` bounds their number. -/
def trimmed : Nat → DecimalNumber → DecimalNumber
  | 0, number => number
  | fuel + 1, number =>
    if number.digits % 10 = 0 then trimmed fuel ⟨number.digits / 10, number.power + 1⟩ else number

/-- The exponent of a number in scientific notation, with its sign. -/
def exponentText (exponent : Int) : List Char :=
  (if exponent < 0 then '-' else '+') :: Nat.toDigits 10 exponent.natAbs

/-- The text of a number above zero. -/
def text (number : DecimalNumber) : List Char :=
  let digits := Nat.toDigits 10 number.digits
  let point : Int := digits.length + number.power
  if 0 ≤ number.power ∧ point ≤ 16 then
    digits ++ List.replicate number.power.toNat '0' ++ ['.', '0']
  else if 0 < point ∧ point ≤ 16 then
    digits.take point.toNat ++ '.' :: digits.drop point.toNat
  else if -5 < point ∧ point ≤ 0 then
    '0' :: '.' :: (List.replicate (-point).toNat '0' ++ digits)
  else
    match digits with
    | [digit] => digit :: 'e' :: exponentText (point - 1)
    | digit :: rest => digit :: '.' :: (rest ++ 'e' :: exponentText (point - 1))
    | [] => []

end DecimalNumber

/-- The text of a double. -/
def Double.text (double : Double) : List Char :=
  let sign := if double.negative then ['-'] else []
  if double.size.mantissa = 0 then sign ++ ['0', '.', '0']
  else sign ++ (double.size.shortest.trimmed 17).text

end LanguageBridge
