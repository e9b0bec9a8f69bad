import LanguageBridge.Uri.Escape

/-!
Numeric addresses of machines: up to four numbers between dots, and eight pieces between colons.
-/
namespace LanguageBridge.Uri

/-- The number that digits of a base write; none for other characters. -/
def numberIn? (base : Nat) (digits : List Char) : Option Nat :=
  digits.foldlM (fun total c => do
    let digit ← hexValue? c
    if digit < base then some (total * base + digit) else none) 0

/-- The number of a part of an address between dots, in base ten, eight or sixteen. -/
def addressNumber? (part : List Char) : Option Nat :=
  match part with
  | [] => none
  | '0' :: x :: rest =>
    if x = 'x' ∨ x = 'X' then numberIn? 16 rest else numberIn? 8 (x :: rest)
  | digits => numberIn? 10 digits

/-- The parts of a host between dots; a dot at the end starts none. -/
def hostParts (host : List Char) : List (List Char) :=
  let parts := host.splitOn '.'
  if parts.getLast? = some [] ∧ 1 < parts.length then parts.dropLast else parts

/-- Whether a host ends in a number and so has to be an address. -/
def endsInNumber (host : List Char) : Bool :=
  match (hostParts host).getLast? with
  | some part => !part.isEmpty && (part.all Char.isDigit || (addressNumber? part).isSome)
  | none => false

/-- An address of up to four numbers, the last filling the bytes that are left. -/
def address? (host : List Char) : Option String := do
  let numbers ← (hostParts host).mapM addressNumber?
  match numbers.reverse with
  | [] => none
  | last :: others =>
    if 3 < others.length ∨ others.any (255 < ·) ∨ Nat.pow 256 (4 - others.length) ≤ last then none
    else
      let weighted := others.reverse.zipIdx.map fun (number, index) =>
        number * Nat.pow 256 (3 - index)
      let total := weighted.foldl (· + ·) last
      let byte (index : Nat) : String := toString (total / Nat.pow 256 index % 256)
      some (byte 3 ++ "." ++ byte 2 ++ "." ++ byte 1 ++ "." ++ byte 0)

/-- A piece of a long address: one to four hexadecimal digits. -/
def longPiece? (piece : List Char) : Option Nat :=
  if piece.isEmpty ∨ 4 < piece.length then none else numberIn? 16 piece

/-- A byte in decimal digits without a needless zero. -/
def decimalByte? (digits : List Char) : Option Nat := do
  if digits.isEmpty ∨ (digits.head? = some '0' ∧ 1 < digits.length) then none
  let value ← numberIn? 10 digits
  if value < 256 then some value else none

/-- Two pieces of a long address, written as four bytes between dots. -/
def dottedPieces? (part : List Char) : Option (List Nat) := do
  match ← (part.splitOn '.').mapM decimalByte? with
  | [a, b, c, d] => return [a * 256 + b, c * 256 + d]
  | _ => none

/-- The pieces between colons; the last two may be written with dots where that is allowed. -/
def longPieces? (mayHaveDots : Bool) : List (List Char) → Option (List Nat)
  | [] => some []
  | [last] =>
    if mayHaveDots && last.contains '.' then dottedPieces? last
    else (longPiece? last).map fun piece => [piece]
  | part :: rest => do
    let piece ← longPiece? part
    let pieces ← longPieces? mayHaveDots rest
    return piece :: pieces

/-- What stands before and after the first two colons in a row. -/
def splitAtGap : List Char → List Char × Option (List Char)
  | ':' :: ':' :: rest => ([], some rest)
  | c :: rest =>
    let (before, after) := splitAtGap rest
    (c :: before, after)
  | [] => ([], none)

/-- The eight pieces of a long address; two colons stand for at least one piece of zero. -/
def longAddress? (text : List Char) : Option (List Nat) := do
  let partsOf (side : List Char) : List (List Char) :=
    if side.isEmpty then [] else side.splitOn ':'
  match splitAtGap text with
  | (whole, none) =>
    let pieces ← longPieces? true (whole.splitOn ':')
    if pieces.length = 8 then some pieces else none
  | (before, some after) =>
    let first ← longPieces? false (partsOf before)
    let last ← longPieces? true (partsOf after)
    if first.length + last.length < 8 then
      some (first ++ List.replicate (8 - first.length - last.length) 0 ++ last)
    else none

/-- How many pieces of zero stand in a row from an index on. -/
def zerosFrom (pieces : List Nat) (index : Nat) : Nat :=
  ((pieces.drop index).takeWhile (· = 0)).length

/-- Pieces in hexadecimal digits between colons. -/
def colonText (pieces : List Nat) : String :=
  String.intercalate ":" (pieces.map fun piece => String.ofList (Nat.toDigits 16 piece))

/-- The text of a long address; two colons stand for the first of its longest rows of zeros. -/
def longAddressText (pieces : List Nat) : String :=
  let start := (List.range pieces.length).foldl
    (fun best index => if zerosFrom pieces best < zerosFrom pieces index then index else best) 0
  let count := zerosFrom pieces start
  if count < 2 then colonText pieces
  else colonText (pieces.take start) ++ "::" ++ colonText (pieces.drop (start + count))

end LanguageBridge.Uri
