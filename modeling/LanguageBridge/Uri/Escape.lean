import LanguageBridge.Text.Utf8

/-!
Percent escapes: bytes that may not stand in a part of a URI are written as a percent sign and two
hexadecimal digits.
-/
namespace LanguageBridge.Uri

/-- The hexadecimal digit of a number below sixteen, in upper case. -/
def upperHex (value : Nat) : Char :=
  if value < 10 then Char.ofNat (48 + value) else Char.ofNat (55 + value)

/-- One byte as an escape. -/
def escapeByte (byte : UInt8) : List Char :=
  ['%', upperHex (byte.toNat / 16), upperHex (byte.toNat % 16)]

/-- The characters of ASCII that a part escapes beside the controls. -/
structure EscapeSet where
  members : List Char

namespace EscapeSet

def control : EscapeSet := ⟨[]⟩

def fragment : EscapeSet := ⟨[' ', '"', '<', '>', '`']⟩

def query : EscapeSet := ⟨[' ', '"', '#', '<', '>']⟩

def specialQuery : EscapeSet := ⟨[' ', '"', '#', '<', '>', '\'']⟩

def path : EscapeSet := ⟨[' ', '"', '<', '>', '`', '#', '?', '\x7b', '\x7d']⟩

/-- A name between slashes, so that it can be read back as it was. -/
def pathName : EscapeSet := ⟨path.members ++ ['/', '%', '\\']⟩

def userInfo : EscapeSet :=
  ⟨path.members ++ ['/', ':', ';', '=', '@', '[', '\\', ']', '^', '|']⟩

/-- Whether a part escapes a character. -/
def holds (set : EscapeSet) (c : Char) : Bool :=
  c.toNat < 32 || 127 ≤ c.toNat || set.members.contains c

end EscapeSet

/-- One character, escaped if the set holds it. -/
def escapeChar (set : EscapeSet) (c : Char) : List Char :=
  if set.holds c then (Utf8.encode (String.singleton c)).flatMap escapeByte else [c]

/-- Every character that the set holds escaped. -/
def escape (set : EscapeSet) (text : List Char) : List Char := text.flatMap (escapeChar set)

/-- The value of a hexadecimal digit. -/
def hexValue? (c : Char) : Option Nat :=
  if '0' ≤ c ∧ c ≤ '9' then some (c.toNat - 48)
  else if 'a' ≤ c ∧ c ≤ 'f' then some (c.toNat - 87)
  else if 'A' ≤ c ∧ c ≤ 'F' then some (c.toNat - 55)
  else none

/-- The bytes of a text with its escapes undone; a percent sign that starts none stays. -/
def unescape : List Char → List UInt8
  | '%' :: high :: low :: rest =>
    match hexValue? high, hexValue? low with
    | some first, some second => UInt8.ofNat (first * 16 + second) :: unescape rest
    | _, _ => Utf8.encode "%" ++ unescape (high :: low :: rest)
  | c :: rest => Utf8.encode (String.singleton c) ++ unescape rest
  | [] => []

end LanguageBridge.Uri
