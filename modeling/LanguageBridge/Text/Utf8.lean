/-!
Bytes of UTF-8 and the strings they encode, with the place where bytes stop being UTF-8.
-/
namespace LanguageBridge

/-- Where bytes stop being UTF-8: after `validUpTo` bytes, at a sequence of `width` bytes that can
belong to no character, or at a sequence cut by the end when there is no width. -/
structure Utf8Error where
  validUpTo : Nat
  width : Option Nat
  deriving DecidableEq, Repr

/-- The wording of the error. -/
def Utf8Error.message (error : Utf8Error) : String :=
  match error.width with
  | some width =>
    s!"invalid utf-8 sequence of {width} bytes from index {error.validUpTo}"
  | none => s!"incomplete utf-8 byte sequence from index {error.validUpTo}"

namespace Utf8

/-- The bytes of a string. -/
def encode (value : String) : List UInt8 := value.toUTF8.data.toList

/-- Whether a byte continues a character. -/
def isTail (byte : UInt8) : Bool := 0x80 ≤ byte.toNat && byte.toNat ≤ 0xBF

/-- Whether a second byte may follow a first one of a character of three or four bytes. -/
def mayFollow (first second : UInt8) : Bool :=
  let second := second.toNat
  match first.toNat with
  | 0xE0 => 0xA0 ≤ second && second ≤ 0xBF
  | 0xED => 0x80 ≤ second && second ≤ 0x9F
  | 0xF0 => 0x90 ≤ second && second ≤ 0xBF
  | 0xF4 => 0x80 ≤ second && second ≤ 0x8F
  | _ => 0x80 ≤ second && second ≤ 0xBF

/-- How bytes begin. -/
inductive Head
  | character (width : Nat)
  | broken (width : Nat)
  | cut

/-- How non-empty bytes begin. -/
def head (first : UInt8) (rest : List UInt8) : Head :=
  let lead := first.toNat
  if lead < 0x80 then .character 1
  else if 0xC2 ≤ lead ∧ lead ≤ 0xDF then
    match rest with
    | [] => .cut
    | second :: _ => if isTail second then .character 2 else .broken 1
  else if 0xE0 ≤ lead ∧ lead ≤ 0xEF then
    match rest with
    | [] => .cut
    | second :: rest =>
      if !mayFollow first second then .broken 1
      else
        match rest with
        | [] => .cut
        | third :: _ => if isTail third then .character 3 else .broken 2
  else if 0xF0 ≤ lead ∧ lead ≤ 0xF4 then
    match rest with
    | [] => .cut
    | second :: rest =>
      if !mayFollow first second then .broken 1
      else
        match rest with
        | [] => .cut
        | third :: rest =>
          if !isTail third then .broken 2
          else
            match rest with
            | [] => .cut
            | fourth :: _ => if isTail fourth then .character 4 else .broken 3
  else .broken 1

/-- The first error in bytes of which `passed` are behind; each turn passes one character. -/
def errorFrom (passed : Nat) : Nat → List UInt8 → Option Utf8Error
  | 0, _ => none
  | _, [] => none
  | fuel + 1, first :: rest =>
    match head first rest with
    | .character width => errorFrom (passed + width) fuel (rest.drop (width - 1))
    | .broken width => some ⟨passed, some width⟩
    | .cut => some ⟨passed, none⟩

/-- The string that bytes encode, or where they stop being UTF-8. -/
def decode (bytes : List UInt8) : Except Utf8Error String :=
  match String.fromUTF8? ⟨bytes.toArray⟩ with
  | some value => .ok value
  | none => .error ((errorFrom 0 (bytes.length + 1) bytes).getD ⟨0, none⟩)

/-- Bytes with every sequence that is no character replaced by one replacement character. -/
def repaired : Nat → List UInt8 → List UInt8
  | 0, _ => []
  | _, [] => []
  | fuel + 1, first :: rest =>
    match head first rest with
    | .character width =>
      first :: (rest.take (width - 1) ++ repaired fuel (rest.drop (width - 1)))
    | .broken width => 0xEF :: 0xBF :: 0xBD :: repaired fuel (rest.drop (width - 1))
    | .cut => [0xEF, 0xBF, 0xBD]

/-- The string that bytes encode, with replacement characters where they are not UTF-8. -/
def decodeLossy (bytes : List UInt8) : String :=
  match decode bytes with
  | .ok value => value
  | .error _ =>
    match decode (repaired (bytes.length + 1) bytes) with
    | .ok value => value
    | .error _ => ""

end Utf8

end LanguageBridge
