import LanguageBridge.Session.Context

/-!
Keeping servers up to date with the documents they track. Whoever changes what is tracked holds the
documents until the server has been told, so that servers get versions in order.
-/
namespace LanguageBridge

namespace Workspace

/-- Tracks a document under a file name. -/
def track (workspace : Workspace) (file : String) (document : Document) : Workspace :=
  { workspace with documents := workspace.documents.insert file document }

/-- Marks a document as changed since it was saved. -/
def markDirty (workspace : Workspace) (file : String) : Workspace :=
  { workspace with
    documents := workspace.documents.modify file fun document => { document with dirty := true } }

/-- Marks a document as saved. -/
def markSaved (workspace : Workspace) (file : String) : Workspace :=
  { workspace with
    documents := workspace.documents.modify file fun document => { document with dirty := false } }

/-- The tracked document of a file, if it belongs to a session. -/
def ownedBy? (workspace : Workspace) (key : SessionKey) (file : String) : Option Document :=
  (workspace.documents.get? file).filter fun document => document.session = key

/-- The documents that belong to a session, with their files. -/
def documentsOf (workspace : Workspace) (key : SessionKey) : List (String × Document) :=
  workspace.documents.entries.filter fun entry => entry.2.session = key

end Workspace

namespace Document

/-- A document named in parameters. -/
def identity (uri : Uri) : Json := .obj [("uri", uri.toJson)]

/-- What a server is told of a document it does not have. -/
def openParams (uri : Uri) (document : Document) : Json :=
  .obj [("textDocument",
    .obj [("uri", uri.toJson), ("languageId", .str document.session.language),
      ("version", .nat document.version), ("text", .text document.text)])]

/-- What a server is told of a document whose whole text changed. -/
def changeParams (uri : Uri) (version : Nat) (text : Text) : Json :=
  .obj [("textDocument", .obj [("uri", uri.toJson), ("version", .nat version)]),
    ("contentChanges", .arr [.obj [("text", .text text)]])]

/-- What a server is told of a document that was saved or closed. -/
def namingParams (uri : Uri) : Json := .obj [("textDocument", identity uri)]

end Document

namespace Session

/-- Tells the server that a document is open. -/
def sendOpen (session : Session) (file : String) (document : Document) : Job Unit := do
  let uri ← Job.ofOutcome (Uri.ofFileName file)
  Job.notify session.peer "textDocument/didOpen" (document.openParams uri)

/-- Brings the server up to date with a file whose documents are held: a file that the session does
not track is opened, and a changed one sent whole. Gives the version that the server has. -/
def syncHeld (session : Session) (uri : Uri) (file : String) (text : Text) : Job Nat := do
  let workspace ← Job.ask .workspace
  match workspace.ownedBy? session.key file with
  | some document =>
    match document.update text with
    | (updated, some version) =>
      let _ ← Job.ask (.setWorkspace (workspace.track file updated))
      Job.notify session.peer "textDocument/didChange" (Document.changeParams uri version text)
      return version
    | (_, none) => return document.version
  | none =>
    let document := Document.ofText session.key text
    Job.notify session.peer "textDocument/didOpen" (document.openParams uri)
    let _ ← Job.ask (.setWorkspace (workspace.track file document))
    return document.version

/-- Opens on the server every document of the session. -/
def reopen (session : Session) : Job Unit :=
  Job.holding .documents .shared do
    let workspace ← Job.ask .workspace
    (workspace.documentsOf session.key).forM fun entry => session.sendOpen entry.1 entry.2

end Session

namespace Context

/-- Brings the server of a context up to date with a file. -/
def sync (context : Context) (file : String) (text : Text) : Job Nat := do
  let session ← context.attached
  let uri ← Job.ofOutcome (Uri.ofFileName file)
  Job.holding .documents .exclusive (session.syncHeld uri file text)

/-- Marks a document as saved and tells its server; a document that the session does not track is
passed over. -/
def didSave (context : Context) (file : String) : Job Unit := do
  let session ← context.attached
  Job.holding .documents .exclusive do
    let workspace ← Job.ask .workspace
    match workspace.ownedBy? session.key file with
    | none => return
    | some _ =>
      let _ ← Job.ask (.setWorkspace (workspace.markSaved file))
      let uri ← Job.ofOutcome (Uri.ofFileName file)
      Job.notify session.peer "textDocument/didSave" (Document.namingParams uri)

/-- Stops tracking a document, tells the server and forgets the diagnostics. Gives the number of
documents that the session still has. -/
def didClose (context : Context) (file : String) : Job Nat := do
  let session ← context.attached
  Job.holding .documents .exclusive do
    let workspace ← Job.ask .workspace
    let closed := { workspace with documents := workspace.documents.erase file }
    if workspace.documents.contains file then
      let _ ← Job.ask (.setWorkspace closed)
      let uri ← Job.ofOutcome (Uri.ofFileName file)
      Job.notify session.peer "textDocument/didClose" (Document.namingParams uri)
    let _ ← Job.ask
      (.setWorkspace { closed with diagnostics := closed.diagnostics.erase file })
    return (closed.documentsOf session.key).length

end Context

end LanguageBridge
