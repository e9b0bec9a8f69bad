import LanguageBridge.Capabilities
import LanguageBridge.LocationList
import LanguageBridge.Session.Context
import LanguageBridge.WorkspaceEdit

/-!
The requests that servers are sent, and the shapes of their answers.
-/
namespace LanguageBridge

namespace Session

/-- The name under which a project's directory is opened. -/
def folderName (root : String) : String := (Path.fileName? root).getD root

/-- What a server is told first. -/
def introduction (setup : Setup) (root : String) (uri : Uri) (options : Option Json) : Json :=
  .obj
    ([("processId", .nat setup.host.processId),
        ("clientInfo", .obj [("name", .str "vlc"), ("version", .str "0.2.0")]),
        ("rootPath", .str root), ("rootUri", uri.toJson)] ++
      Json.memberOf "initializationOptions" id options ++
      [("capabilities",
          .obj
            [("workspace",
                .obj [("applyEdit", .bool true),
                  ("workspaceEdit", .obj [("documentChanges", .bool true)])]),
              ("textDocument",
                .obj [("hover",
                  .obj [("contentFormat", .strings (setup.settings.markupKinds.map (·.name)))])])]),
        ("trace", .str "verbose"),
        ("workspaceFolders",
          .arr [.obj [("uri", uri.toJson), ("name", .str (folderName root))]])])

/-- The first request: gives what the server can do. -/
def introduce (setup : Setup) (session : Session) (options : Option Json) : Job Json := do
  let uri ← Job.ofOutcome (Uri.ofDirectoryName session.key.root)
  Job.call session.peer "initialize" (introduction setup session.key.root uri options)
    readIntroduced

/-- The news that the first request was answered. -/
def confirm (session : Session) : Job Unit := Job.notify session.peer "initialized" (.obj [])

end Session

namespace Context

/-- The members that name a document and a place in it. -/
def positionMembers (file : String) (position : EditorPosition) : Job (List (String × Json)) := do
  let uri ← Job.ofOutcome (Uri.ofFileName file)
  let workspace ← Job.ask .workspace
  return [("textDocument", .obj [("uri", uri.toJson)]),
    ("position", (workspace.toProtocol file position).toJson)]

/-- Asks the server of a context. -/
def request {α : Type} (context : Context) (method : String) (params : Json)
    (read : Json → Shaped α) : Job α := do
  let session ← context.attached
  Job.call session.peer method params read

/-- Where the symbol at a place is defined. -/
def definition (context : Context) (cursor : CursorPlace) : Job (Option Definition) := do
  let members ← positionMembers cursor.file cursor.position
  context.request "textDocument/definition" (.obj members) (Json.readOption Definition.read)

/-- Where the symbol at a place is used. -/
def references (context : Context) (cursor : CursorPlace) : Job (List Location) := do
  let members ← positionMembers cursor.file cursor.position
  let answer ← context.request "textDocument/references"
    (.obj (members ++ [("context", .obj [("includeDeclaration", .bool true)])]))
    (Json.readOption (Json.readList Location.read))
  return answer.getD []

/-- What there is to say about a place. -/
def hover (context : Context) (cursor : CursorPlace) : Job (Option Hover) := do
  let members ← positionMembers cursor.file cursor.position
  context.request "textDocument/hover" (.obj members) (Json.readOption Hover.read)

/-- The edit that renames the symbol at a place. -/
def rename (context : Context) (request : RenameRequest) : Job (Option WorkspaceEdit) := do
  let members ← positionMembers request.cursor.file request.cursor.position
  context.request "textDocument/rename" (.obj (members ++ [("newName", .str request.newName)]))
    (Json.readOption WorkspaceEdit.read)

/-- The symbols of a document. -/
def documentSymbols (context : Context) (file : String) : Job (Option SymbolAnswer) := do
  let uri ← Job.ofOutcome (Uri.ofFileName file)
  context.request "textDocument/documentSymbol"
    (.obj [("textDocument", .obj [("uri", uri.toJson)])])
    (Json.readOption SymbolAnswer.read)

/-- The symbols of a project that match a query. -/
def workspaceSymbols (context : Context) (query : String) : Job (List ListedSymbol) := do
  let answer ← context.request "workspace/symbol" (.obj [("query", .str query)])
    (Json.readOption (Json.readList ListedSymbol.read))
  return answer.getD []

/-- Asks the server to get ready for its end. -/
def shutdown (context : Context) : Job Unit := do
  let _ ← context.request "shutdown" .null Json.readAny

/-- Tells the server to end. -/
def exit (context : Context) : Job Unit := do
  let session ← context.attached
  Job.notify session.peer "exit" .null

end Context

end LanguageBridge
