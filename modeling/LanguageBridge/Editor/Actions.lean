import LanguageBridge.Editor.WorkspaceEdits
import LanguageBridge.Server.Requests
import LanguageBridge.Session.Queue

/-!
What the editor asks for at a cursor. The buffer text that comes with a request reaches the server
before the request does.
-/
namespace LanguageBridge.Editor

/-- The context of a request at a cursor, its buffer text sent. -/
def cursorContext (setup : Setup) (cursor : CursorPlace) : Job Context := do
  let context ← Session.contextFor setup (Context.ofCursor cursor)
  match cursor.text with
  | some text =>
    let _ ← context.sync cursor.file text
  | none => pure ()
  return context

/-- Jumps to a definition, or lists several. -/
def goToDefinition (setup : Setup) (cursor : CursorPlace) : Job Unit := do
  let context ← cursorContext setup cursor
  match ← context.definition cursor with
  | none => return
  | some definition =>
    match definition.locations with
    | [] => return
    | [location] => jump context (← jumpTarget location)
    | locations => showLocations setup "Definitions" locations

/-- Lists the uses of a symbol. -/
def listReferences (setup : Setup) (cursor : CursorPlace) : Job Unit := do
  let context ← cursorContext setup cursor
  showLocations setup "References" (← context.references cursor)

/-- Shows the answer to a hover: in a floating window if the settings and the editor allow it, and
in a buffer if not. -/
def showHover (setup : Setup) (cursor : CursorPlace) (preview : Preview) : Job Unit := do
  match setup.settings.hoverStrategy with
  | .preview => showScratch preview
  | .floatingWindow =>
    match ← openFloat preview with
    | none => showScratch preview
    | some surface =>
      let effects ← Job.ask (.reveal ⟨cursor.buffer, cursor.window, cursor.position⟩ surface)
      carryOutAll effects

/-- Hovers over a place; a preview that floats already is entered instead. -/
def hover (setup : Setup) (cursor : CursorPlace) : Job Unit := do
  match ← Job.ask (.hoverAgain cursor.buffer) with
  | some effects => carryOutAll effects
  | none =>
    let context ← cursorContext setup cursor
    match (← context.hover cursor).bind Hover.preview? with
    | none => return
    | some preview => showHover setup cursor preview

/-- Renames a symbol. -/
def rename (setup : Setup) (request : RenameRequest) : Job Unit := do
  let context ← cursorContext setup request.cursor
  match ← context.rename request with
  | some edit => applyEdit context edit (some request.cursor)
  | none => return

/-- The places of a document's symbols. -/
def symbolLocations (file : String) : SymbolAnswer → Outcome (List Location)
  | .listed symbols => .ok (symbols.map (·.location))
  | .nested symbols => do return NestedSymbol.locationsOf (← Uri.ofFileName file) symbols

/-- Lists the symbols of a document. -/
def listDocumentSymbols (setup : Setup) (cursor : CursorPlace) : Job Unit := do
  let context ← cursorContext setup cursor
  match ← context.documentSymbols cursor.file with
  | none => return
  | some answer =>
    showLocations setup "Document symbols" (← Job.ofOutcome (symbolLocations cursor.file answer))

/-- Lists the symbols of a project that match a query. -/
def listWorkspaceSymbols (setup : Setup) (search : SymbolSearch) : Job Unit := do
  let context ← cursorContext setup search.cursor
  let symbols ← context.workspaceSymbols search.query
  showLocations setup "Workspace symbols" (symbols.map (·.location))

/-- Shows the diagnostics at a place, unless there are none. -/
def explain (cursor : CursorPlace) : Job Unit := do
  let workspace ← Job.ask .workspace
  let position := workspace.toProtocol cursor.file cursor.position
  match workspace.diagnosticsAt cursor.file position with
  | [] => return
  | diagnostics => showScratch (Diagnostic.explanation diagnostics)

/-- Carries out what the editor asks for and gives the result; methods it does not know come to
nothing. -/
def act (setup : Setup) (method : String) (params : Json) : Job Json := do
  if method = "textDocument/definition" then
    goToDefinition setup (← Job.ofShaped (CursorPlace.read params))
    return .null
  else if method = "textDocument/references" then
    listReferences setup (← Job.ofShaped (CursorPlace.read params))
    return .null
  else if method = "textDocument/hover" then
    hover setup (← Job.ofShaped (CursorPlace.read params))
    return .null
  else if method = "textDocument/rename" then
    rename setup (← Job.ofShaped (RenameRequest.read params))
    return .null
  else if method = "textDocument/documentSymbol" then
    listDocumentSymbols setup (← Job.ofShaped (CursorPlace.read params))
    return .null
  else if method = "workspace/symbol" then
    listWorkspaceSymbols setup (← Job.ofShaped (SymbolSearch.read params))
    return .null
  else if method = "vlc/explainErrorAtPoint" then
    explain (← Job.ofShaped (CursorPlace.read params))
    return .null
  else if method = "vlc/registerServerCommands" then
    let results ← Job.ask (.registerServerCommands (← Job.ofShaped (readMapping params)))
    return .arr (results.map Registration.toJson)
  else if method = "vlc/registerHandlers" then
    let results ← Job.ask (.registerHandlers (← Job.ofShaped (readMapping params)))
    return .arr (results.map Registration.toJson)
  else return .null

end LanguageBridge.Editor
