/-!
The text of documents as a list of characters, measured in bytes of UTF-8 and in units of UTF-16, and
sets of characters given as ranges of code points.
-/
namespace LanguageBridge

/-- Text of a document, character by character. -/
abbrev Text := List Char

namespace Text

/-- Units of UTF-16 that one character takes. -/
def unitsOf (c : Char) : Nat := if c.toNat < 0x10000 then 1 else 2

/-- Bytes of UTF-8 that a text takes. -/
def byteLength : Text → Nat
  | [] => 0
  | c :: rest => c.utf8Size + byteLength rest

/-- Units of UTF-16 that a text takes. -/
def unitLength : Text → Nat
  | [] => 0
  | c :: rest => unitsOf c + unitLength rest

/-- Units in the first `offset` bytes; a character cut by the offset does not count. -/
def unitsBefore : Text → Nat → Nat
  | [], _ => 0
  | c :: rest, offset =>
    if c.utf8Size ≤ offset then unitsOf c + unitsBefore rest (offset - c.utf8Size) else 0

/-- The first character boundary with at least `units` units before it, as a byte offset; the end
of the text when it is shorter. -/
def byteAt : Text → Nat → Nat
  | [], _ => 0
  | c :: rest, units => if units = 0 then 0 else c.utf8Size + byteAt rest (units - unitsOf c)

/-- The text before and after a byte offset; an offset inside a character falls after it. -/
def splitAtByte : Text → Nat → Text × Text
  | [], _ => ([], [])
  | c :: rest, offset =>
    if offset = 0 then ([], c :: rest)
    else
      let (before, after) := splitAtByte rest (offset - c.utf8Size)
      (c :: before, after)

/-- The text as a string. -/
def toString (text : Text) : String := String.ofList text

/-- Whether one of some ascending ranges of code points, both ends included, holds a code point. -/
def inRanges (ranges : List (Nat × Nat)) (code : Nat) : Bool :=
  match ranges with
  | [] => false
  | (low, high) :: rest => if code < low then false else code ≤ high || inRanges rest code

end Text

end LanguageBridge
