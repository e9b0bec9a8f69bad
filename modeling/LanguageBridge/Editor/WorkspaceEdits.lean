import LanguageBridge.Document.Sync
import LanguageBridge.Editor.Commands
import LanguageBridge.WorkspaceEdit

/-!
Carrying out edits of several files in the editor. The new lines of every file are worked out before
anything is sent, so that an edit that cannot be planned changes nothing.
-/
namespace LanguageBridge.Editor

/-- A file and what becomes of it. -/
structure PlannedFile where
  file : String
  applied : TextEdit.Applied
  deriving DecidableEq, Repr

/-- What becomes of one file. -/
def planFile (workspace : Workspace) (tree : FileTree) (edits : FileEdits) :
    Outcome PlannedFile := do
  match workspace.lines tree edits.file with
  | .error error => throw (.notOpened edits.file error.message)
  | .ok lines => return ⟨edits.file, ← TextEdit.apply edits.file lines edits.edits⟩

/-- What becomes of every file; the first that cannot be planned fails all. -/
def plan (workspace : Workspace) (tree : FileTree) (files : List FileEdits) :
    Outcome (List PlannedFile) :=
  files.mapM (planFile workspace tree)

/-- The files in the order in which they are written: that of the cursor comes last. -/
def writingOrder (cursor : Option CursorPlace) (planned : List PlannedFile) : List PlannedFile :=
  let last (entry : PlannedFile) : Bool := some entry.file = cursor.map (·.file)
  planned.filter (fun entry => !last entry) ++ planned.filter last

/-- Marks a document as changed since it was saved. -/
def markDirty (file : String) : Job Unit :=
  Job.holding .documents .exclusive do
    let workspace ← Job.ask .workspace
    let _ ← Job.ask (.setWorkspace (workspace.markDirty file))

/-- Writes the new lines of a file into its buffer and brings the server up to date. -/
def writeFile (context : Context) (planned : PlannedFile) : Job Unit := do
  let buffer ← loadBuffer planned.file
  setBufferLines buffer planned.file planned.applied.lines
  let _ ← context.sync planned.file (Text.joinLines planned.applied.lines)
  markDirty planned.file

/-- Where the cursor goes: to the edit of its file nearest to where it was. -/
def cursorTarget (planned : List PlannedFile) (file : String) (position : ProtocolPosition) :
    Option EditorPosition :=
  (planned.find? fun entry => entry.file = file).bind fun entry => entry.applied.nearest? position

/-- Plans the edit and writes every file; given a cursor, moves it at the end. -/
def applyEdit (context : Context) (edit : WorkspaceEdit) (cursor : Option CursorPlace) :
    Job Unit := do
  let files ← Job.ofOutcome edit.collect
  if files.isEmpty then return
  let workspace ← Job.ask .workspace
  let tree ← Job.ask .disk
  let planned ← Job.ofOutcome (plan workspace tree files)
  let ordered := writingOrder cursor planned
  ordered.forM (writeFile context)
  match cursor with
  | none => return
  | some place =>
    match cursorTarget ordered place.file (workspace.toProtocol place.file place.position) with
    | some position => execute [moveCursor position]
    | none => return

end LanguageBridge.Editor
