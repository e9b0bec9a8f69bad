import LanguageBridge.Proofs.Text.Utf8
import LanguageBridge.Uri.Parser

/-!
Escapes are undone: the bytes of an escaped text are those of the text, and no character is left in
it that means something else to a reader of URIs.
-/
namespace LanguageBridge.Uri

/-- A character that stands for itself wherever a path is read. -/
def Plain (c : Char) : Prop :=
  32 < c.toNat ∧ EscapeSet.path.holds c = false ∧ c ≠ '/' ∧ c ≠ '\\' ∧ c ≠ '?' ∧ c ≠ '#'

instance (c : Char) : Decidable (Plain c) := inferInstanceAs (Decidable (_ ∧ _))

end LanguageBridge.Uri

/-!
Names of files read back. Reading a path made of escaped names follows no dots and changes nothing.
-/
namespace LanguageBridge.Uri

variable {rules : Rules} {name : List Char} {names : List (List Char)}

/-- Names one after the other, a slash in front of each. -/
def slashed (names : List (List Char)) : List Char := names.flatMap ('/' :: ·)

end LanguageBridge.Uri

/-!
File names and their URIs.
-/
namespace LanguageBridge.Uri

theorem pieces_of_whole {front : List Char} (whole : '/' ∉ front) :
    Path.pieces front = [front] := by
  induction front with
  | nil => rfl
  | cons c front ih =>
    rw [List.mem_cons, not_or] at whole
    simp [Path.pieces, Ne.symm whole.1, ih whole.2]

/-- The name of a component of a path: not empty, without slashes, and neither of the two names that
lead elsewhere. -/
def Proper (name : List Char) : Prop :=
  name ≠ [] ∧ '/' ∉ name ∧ name ≠ ['.'] ∧ name ≠ ['.', '.']

instance (name : List Char) : Decidable (Proper name) := inferInstanceAs (Decidable (_ ∧ _))

end LanguageBridge.Uri

/-!
File names that end like drives.
-/
namespace LanguageBridge.Uri

/-- The URI of a file name always stands for a file. -/
theorem exists_fileName_of_ofFileName {file : String} {uri : Uri}
    (made : ofFileName file = .ok uri) : ∃ name, uri.fileName = .ok name := by
  have named {path : List Char} (rooted : path.head? = some '/') :
      ∃ name, (ofPath path).fileName = .ok name := by
    rw [fileName, fileName?, if_neg (by simp [ofPath, rooted]), if_neg (by simp [ofPath])]
    exact ⟨_, rfl⟩
  by_cases absolute : Path.isAbsolute file = true
  · simp only [ofFileName, ofFileName?, absolute, if_true] at made
    cases made
    refine named ?_
    cases Path.components file <;> rfl
  · simp only [ofFileName, ofFileName?, absolute] at made
    cases made

theorem read_toJson {uri : Uri} (parsed : parse? uri.text = some uri) :
    read uri.toJson = .ok uri := by
  have text : Json.readString uri.toJson = .ok uri.text := rfl
  simp only [read, text, bind, Except.bind, parsed, pure, Except.pure]

end LanguageBridge.Uri
