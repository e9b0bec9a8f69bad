import LanguageBridge.TextEdit
import LanguageBridge.Table
import LanguageBridge.Uri.Parser

/-!
Edits of several files, as servers send them: edits by file, or a list of document edits, or a list
of document edits and operations on files. All three come down to the text edits of each file.
-/
namespace LanguageBridge

/-- An edit of a document, with or without an annotation. -/
inductive ListedEdit
  | plain (edit : TextEdit)
  | annotated (edit : TextEdit) (label : String)
  deriving DecidableEq, Repr

/-- The edit without its annotation. -/
def ListedEdit.edit : ListedEdit → TextEdit
  | .plain edit => edit
  | .annotated edit _ => edit

/-- Edits of one document, perhaps of a known version. -/
structure DocumentEdit where
  uri : Uri
  version : Option Int
  edits : List ListedEdit
  deriving DecidableEq, Repr

/-- An operation on files as a whole. -/
inductive FileOperation
  | create (uri : Uri)
  | rename (source target : Uri)
  | delete (uri : Uri)
  deriving DecidableEq, Repr

/-- A step of a mixed list of changes. -/
inductive DocumentChange
  | operation (operation : FileOperation)
  | edit (edit : DocumentEdit)
  deriving DecidableEq, Repr

/-- The two forms of document changes. -/
inductive DocumentChanges
  | edits (edits : List DocumentEdit)
  | mixed (changes : List DocumentChange)
  deriving DecidableEq, Repr

/-- An edit of several files. -/
structure WorkspaceEdit where
  changes : Option (Table Uri (List TextEdit)) := none
  documentChanges : Option DocumentChanges := none
  deriving Repr

/-- The edits of one file. -/
structure FileEdits where
  file : String
  edits : List TextEdit
  deriving DecidableEq, Repr

def ListedEdit.read : Json → Shaped ListedEdit :=
  Json.readEither "OneOf"
    [fun json => (TextEdit.read json).map .plain,
      fun json => do
        let (label, edit) ← (Record.required "annotationId" Json.readString).readWith
          "struct AnnotatedTextEdit" (fun members => TextEdit.read (.obj members)) json
        return .annotated edit label]

namespace DocumentEdit

/-- A document named with a version or `null`. -/
def readIdentity : Json → Shaped (Uri × Option Int) :=
  (Prod.mk <$> .required "uri" Uri.read <*> .optional "version" Json.readInt32 :
    Record (Uri × Option Int)).read "struct OptionalVersionedTextDocumentIdentifier"

def read : Json → Shaped DocumentEdit :=
  ((fun identity edits => ⟨identity.1, identity.2, edits⟩)
    <$> .required "textDocument" readIdentity
    <*> .required "edits" (Json.readList ListedEdit.read) : Record DocumentEdit).read
    "struct TextDocumentEdit"

end DocumentEdit

namespace FileOperation

/-- Options that are truth values, of which only the shape matters. -/
def readFlags (label first second : String) : Json → Shaped Unit :=
  ((fun _ _ => ()) <$> .optional first Json.readBool <*> .optional second Json.readBool :
    Record Unit).read label

def readCreate : Json → Shaped FileOperation :=
  ((fun uri _ _ => .create uri) <$> .required "uri" Uri.read
    <*> .optional "options" (readFlags "struct CreateFileOptions" "overwrite" "ignoreIfExists")
    <*> .optional "annotationId" Json.readString : Record FileOperation).read "struct CreateFile"

def readRename : Json → Shaped FileOperation :=
  ((fun source target _ _ => .rename source target) <$> .required "oldUri" Uri.read
    <*> .required "newUri" Uri.read
    <*> .optional "options" (readFlags "struct RenameFileOptions" "overwrite" "ignoreIfExists")
    <*> .optional "annotationId" Json.readString : Record FileOperation).read "struct RenameFile"

def readDeleteOptions : Json → Shaped Unit :=
  ((fun _ _ _ => ()) <$> .optional "recursive" Json.readBool
    <*> .optional "ignoreIfNotExists" Json.readBool
    <*> .optional "annotationId" Json.readString : Record Unit).read "struct DeleteFileOptions"

def readDelete : Json → Shaped FileOperation :=
  ((fun uri _ => .delete uri) <$> .required "uri" Uri.read
    <*> .optional "options" readDeleteOptions : Record FileOperation).read "struct DeleteFile"

def read : Json → Shaped FileOperation :=
  Record.readTagged "internally tagged enum ResourceOp" "kind"
    [("create", readCreate), ("rename", readRename), ("delete", readDelete)]

end FileOperation

def DocumentChange.read : Json → Shaped DocumentChange :=
  Json.readEither "DocumentChangeOperation"
    [fun json => (FileOperation.read json).map .operation,
      fun json => (DocumentEdit.read json).map .edit]

def DocumentChanges.read : Json → Shaped DocumentChanges :=
  Json.readEither "DocumentChanges"
    [fun json => (Json.readList DocumentEdit.read json).map .edits,
      fun json => (Json.readList DocumentChange.read json).map .mixed]

namespace WorkspaceEdit

/-- Text edits by URI; of two names for one URI the later counts. -/
def readChanges (json : Json) : Shaped (Table Uri (List TextEdit)) := do
  let entries ← Json.readTable (Json.readList TextEdit.read) json
  let named ← entries.mapM fun entry => do return (← Uri.read (.str entry.1), entry.2)
  return Table.ofList named

/-- An explanation of edits, of which only the shape matters. -/
def readAnnotation : Json → Shaped Unit :=
  ((fun _ _ _ => ()) <$> .required "label" Json.readString
    <*> .optional "needsConfirmation" Json.readBool
    <*> .optional "description" Json.readString : Record Unit).read "struct ChangeAnnotation"

def read : Json → Shaped WorkspaceEdit :=
  ((fun changes documentChanges _ => { changes, documentChanges })
    <$> .optional "changes" readChanges <*> .optional "documentChanges" DocumentChanges.read
    <*> .optional "changeAnnotations" (Json.readTable readAnnotation) :
    Record WorkspaceEdit).read "struct WorkspaceEdit"

/-- The document edits among mixed changes; operations on files are passed over. -/
def documentEdits (changes : List DocumentChange) : List DocumentEdit :=
  changes.filterMap fun
    | .edit edit => some edit
    | .operation _ => none

/-- The edits of a document under its URI. -/
def entryOf (edit : DocumentEdit) : Uri × List TextEdit := (edit.uri, edit.edits.map (·.edit))

/-- The source of text edits that counts: document changes when there are any, else changes. -/
def entries (edit : WorkspaceEdit) : List (Uri × List TextEdit) :=
  match edit.documentChanges, edit.changes with
  | some (.edits edits), _ => edits.map entryOf
  | some (.mixed changes), _ => (documentEdits changes).map entryOf
  | none, some changes => changes.entries
  | none, none => []

/-- The names in ascending order, each once. -/
def namesInOrder (named : List (String × List TextEdit)) : List String :=
  (named.map (·.1)).eraseDups.mergeSort fun first second => first ≤ second

/-- The edits under one name, in their order. -/
def editsOf (file : String) (named : List (String × List TextEdit)) : List TextEdit :=
  named.flatMap fun entry => if entry.1 = file then entry.2 else []

/-- The edits of each file, in the order of file names; files without edits are left out. -/
def collect (edit : WorkspaceEdit) : Outcome (List FileEdits) := do
  let named ← edit.entries.mapM fun entry => do return (← entry.1.fileName, entry.2)
  let files := (namesInOrder named).map fun file => FileEdits.mk file (editsOf file named)
  return files.filter fun file => !file.edits.isEmpty

end WorkspaceEdit

end LanguageBridge
