import LanguageBridge.Text.Composed
import LanguageBridge.Text.Direction
import LanguageBridge.Text.Punycode
import LanguageBridge.Uri.DomainName.Excluded
import LanguageBridge.Uri.DomainName.Expanded
import LanguageBridge.Uri.DomainName.Replaced

/-!
Domain names of any script and the names of letters, digits and hyphens that they are looked up by.
A name is brought into its usual form first; each label with other characters is then written in
Punycode behind `xn--`.
-/
namespace LanguageBridge.DomainName

/-- What one character of a run is replaced by. -/
def inRun? (code : Nat) (run : Nat × Nat × Nat × Nat) : Option Nat :=
  let (low, high, step, target) := run
  if low ≤ code ∧ code ≤ high ∧ (code - low) % step = 0 then some (target + (code - low)) else none

/-- What a character beyond ASCII is replaced by, if it is. -/
def replacement? (code : Nat) : Option (List Nat) :=
  let single :=
    (replacedRuns.findSome? (inRun? code)).or
      (((replacedLetters.lookup code).or (replacedIdeographs.lookup code)).or
        (replacedRareIdeographs.lookup code))
  match single with
  | some target => some [target]
  | none => (expandedSigns.lookup code).or (expandedForms.lookup code)

/-- The usual form of one character; none when no name has it. -/
def usualChar? (c : Char) : Option (List Char) :=
  if c.toNat < 128 then some [c.toLower]
  else if Text.inRanges ignored c.toNat then some []
  else if Text.inRanges excluded c.toNat then none
  else some (((replacement? c.toNat).map fun codes => codes.map Char.ofNat).getD [c])

/-- The usual form of a name. -/
def usual? (name : List Char) : Option (List Char) :=
  (name.mapM usualChar?).map fun forms => Text.composed forms.flatten

/-- The character that keeps letters apart which would be joined. -/
def nonJoiner : Char := '\u200c'

/-- The character that joins letters which would stand apart. -/
def joiner : Char := '\u200d'

/-- Whether a character that acts on joining fits between what stands before it, last first, and
after it: behind a mark that kills a vowel, or, to keep apart, between letters that join. -/
def joiningFits (c : Char) (before after : List Char) : Bool :=
  before.head?.any (Text.markClass · = 9) ||
    (c = nonJoiner &&
      (before.dropWhile Text.isFlatMark).head?.any Text.joinsAfter &&
      (after.dropWhile Text.isFlatMark).head?.any Text.joinsBefore)

/-- Whether every character that acts on joining fits; `before` is what is passed, last first. -/
def allJoiningFits (before : List Char) : List Char → Bool
  | [] => true
  | c :: rest =>
    (!(c = nonJoiner || c = joiner) || joiningFits c before rest) &&
      allJoiningFits (c :: before) rest

/-- Whether a label in its usual form may stand in a name. -/
def isLabel (label : List Char) : Bool :=
  match label with
  | [] => true
  | first :: _ => !Text.isMark first && allJoiningFits [] label

/-- Whether a character makes its whole name one of two directions. -/
def turnsBack (c : Char) : Bool :=
  Text.direction c = .rightToLeft || Text.direction c = .arabicNumber

/-- Whether the directions in a label do not mix: it starts with a letter, has only what goes with
that letter's direction, and ends in a letter or digit of it, marks aside. -/
def isOneWay (label : List Char) : Bool :=
  let directions := label.map Text.direction
  let last? := (directions.reverse.dropWhile (· = .mark)).head?
  match directions with
  | [] => true
  | .rightToLeft :: _ =>
    directions.all (· ≠ .leftToRight) && last?.any (· ≠ .neutral) &&
      !(directions.contains .arabicNumber && directions.contains .europeanNumber)
  | .leftToRight :: _ =>
    directions.all (fun one => one ≠ .rightToLeft && one ≠ .arabicNumber) &&
      last?.any (· ≠ .neutral)
  | _ => false

/-- The characters of a label in its usual form. One that is written in Punycode has to stand for a
label with other characters in their usual form. -/
def labelCharacters? (label : List Char) : Option (List Char) :=
  match label with
  | 'x' :: 'n' :: '-' :: '-' :: code => do
    let decoded ← Text.Punycode.decode? code
    let form ← usual? decoded
    if decoded.all (·.toNat < 128) ∨ form ≠ decoded ∨ decoded.contains '.' then none
    return decoded
  | _ => some label

/-- A label in letters, digits and hyphens. -/
def asciiLabel (label : List Char) : List Char :=
  if label.all (·.toNat < 128) then label
  else 'x' :: 'n' :: '-' :: '-' :: Text.Punycode.encode label

/-- The name that is looked up. -/
def ascii? (name : List Char) : Option (List Char) := do
  let form ← usual? name
  let labels ← (form.splitOn '.').mapM labelCharacters?
  if labels.any (!isLabel ·) then none
  if labels.any (·.any turnsBack) ∧ labels.any (!isOneWay ·) then none
  return List.intercalate ['.'] (labels.map asciiLabel)

end LanguageBridge.DomainName
