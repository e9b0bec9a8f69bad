import LanguageBridge.Proofs.Edit.Gathering
import LanguageBridge.Proofs.Edit.Overlap

/-!
The order in which the entries of a table are gone through. It makes a difference where two entries
are for one file, under two spellings of its URI, and hold different edits.
-/
namespace LanguageBridge

namespace WorkspaceEdit

variable {entries others : List (Uri × List TextEdit)} {files filed : List FileEdits}
  {changes : Table Uri (List TextEdit)}

/-- An edit given as a table of changes. -/
def ofChanges (changes : Table Uri (List TextEdit)) : WorkspaceEdit := { changes := some changes }

/-- What becomes of the files of a table of changes. -/
def planned (workspace : Workspace) (tree : FileTree) (changes : Table Uri (List TextEdit)) :
    Outcome (List Editor.PlannedFile) := do
  Editor.plan workspace tree (← (ofChanges changes).collect)

/-- `/a` is open, with one line. -/
def opened : Workspace := { documents := ⟨[("/a", .ofText ⟨"text", "/"⟩ ['x'])]⟩ }

end WorkspaceEdit

end LanguageBridge
