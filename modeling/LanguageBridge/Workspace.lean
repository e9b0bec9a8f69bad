import LanguageBridge.Diagnostic
import LanguageBridge.Document
import LanguageBridge.FileTree
import LanguageBridge.Table

/-!
What the client knows of the user's files: the documents that servers track and the diagnostics
published for each file.
-/
namespace LanguageBridge

/-- Tracked documents and published diagnostics, by file name. -/
structure Workspace where
  documents : Table String Document := ∅
  diagnostics : Table String (List Diagnostic) := ∅
  deriving Repr

namespace Workspace

instance : Inhabited Workspace := ⟨{}⟩

/-- The text of a tracked document and its version. -/
def contentAt (workspace : Workspace) (file : String) : Option (Text × Nat) :=
  (workspace.documents.get? file).map fun document => (document.text, document.version)

/-- A line of a tracked document. -/
def line? (workspace : Workspace) (file : String) (index : Nat) : Option Text :=
  (workspace.documents.get? file).bind fun document => document.line? index

/-- The lines of a file as they are now: those tracked, or else those on disk. -/
def lines (workspace : Workspace) (tree : FileTree) (file : String) :
    Except SystemError (List Text) :=
  match workspace.documents.get? file with
  | some document => .ok document.lines
  | none => tree.readLines file

/-- An editor's place in a file as the protocol counts. -/
def toProtocol (workspace : Workspace) (file : String) (position : EditorPosition) :
    ProtocolPosition :=
  position.toProtocol (workspace.line? file (position.line - 1))

/-- A protocol's place in a file as the editor counts. -/
def toEditor (workspace : Workspace) (file : String) (position : ProtocolPosition) :
    EditorPosition :=
  position.toEditor (workspace.line? file position.line)

/-- The diagnostics of a file whose span holds a place. -/
def diagnosticsAt (workspace : Workspace) (file : String) (position : ProtocolPosition) :
    List Diagnostic :=
  ((workspace.diagnostics.get? file).getD []).filter (·.span.contains position)

end Workspace

end LanguageBridge
