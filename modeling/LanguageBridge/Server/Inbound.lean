import LanguageBridge.Editor.WorkspaceEdits

/-!
Messages that servers send on their own account. Every call gets one reply, and a handler of the
user gets the parameters of each message it is registered for.
-/
namespace LanguageBridge.Server

/-- A message for the user or the log. -/
structure Notice where
  level : Editor.MessageLevel
  text : String
  deriving DecidableEq, Repr

/-- The diagnostics of a file. -/
structure PublishedDiagnostics where
  uri : Uri
  diagnostics : List Diagnostic
  deriving Repr

/-- How far a server has got with something. -/
inductive Progress
  | begun (title : String) (message : Option String)
  | reported (message : Option String)
  | ended (message : Option String)
  deriving DecidableEq, Repr

/-- An edit that a server wants carried out. -/
def readEditRequest : Json → Shaped WorkspaceEdit :=
  ((fun _ edit => edit) <$> .optional "label" Json.readString
    <*> .required "edit" WorkspaceEdit.read : Record WorkspaceEdit).read
    "struct ApplyWorkspaceEditParams"

def readLevel (json : Json) : Shaped Editor.MessageLevel := do
  match ← Json.readCode 1 4 json with
  | 1 => return .error
  | 2 => return .warning
  | 3 => return .info
  | _ => return .log

def Notice.read : Json → Shaped Notice :=
  (mk <$> .required "type" readLevel <*> .required "message" Json.readString :
    Record Notice).read "struct ShowMessageParams"

def PublishedDiagnostics.read : Json → Shaped PublishedDiagnostics :=
  ((fun uri diagnostics _ => mk uri diagnostics) <$> .required "uri" Uri.read
    <*> .required "diagnostics" (Json.readList Diagnostic.read)
    <*> .optional "version" Json.readInt32 : Record PublishedDiagnostics).read
    "struct PublishDiagnosticsParams"

namespace Progress

def readBegun : Json → Shaped Progress :=
  ((fun title _ message _ => begun title message) <$> .required "title" Json.readString
    <*> .optional "cancellable" Json.readBool <*> .optional "message" Json.readString
    <*> .optional "percentage" Json.readNat32 : Record Progress).read "struct WorkDoneProgressBegin"

def readReported : Json → Shaped Progress :=
  ((fun _ message _ => reported message) <$> .optional "cancellable" Json.readBool
    <*> .optional "message" Json.readString <*> .optional "percentage" Json.readNat32 :
    Record Progress).read "struct WorkDoneProgressReport"

def readEnded : Json → Shaped Progress :=
  (ended <$> .optional "message" Json.readString : Record Progress).read
    "struct WorkDoneProgressEnd"

def readValue : Json → Shaped Progress :=
  Record.readTagged "internally tagged enum WorkDoneProgress" "kind"
    [("begin", readBegun), ("report", readReported), ("end", readEnded)]

def read : Json → Shaped Progress :=
  ((fun _ value => value) <$> .required "token" NumberOrString.read
    <*> .required "value" readValue : Record Progress).read "struct ProgressParams"

/-- What the user is shown, unless it is nothing but white space. -/
def notice? (progress : Progress) : Option String :=
  let text :=
    match progress with
    | .begun title message => title ++ " " ++ message.getD ""
    | .reported message => message.getD ""
    | .ended message => message.getD ""
  let trimmed := Text.trim text.toList
  if trimmed.isEmpty then none else some (String.ofList trimmed)

end Progress

/-- A published diagnostic as the editor shows it, given the lines of its file. -/
def shownDiagnostic (file : String) (lines : List Text) (diagnostic : Diagnostic) :
    ShownDiagnostic where
  file := file
  position := diagnostic.span.start.toEditor lines[diagnostic.span.start.line]?
  message := diagnostic.message
  severity := diagnostic.severity.getD .warning

/-- Keeps published diagnostics and shows them. -/
def publish (setup : Setup) (published : PublishedDiagnostics) : Job Unit := do
  let file ← Job.ofOutcome published.uri.fileName
  let lines ← Job.holding .documents .exclusive do
    let workspace ← Job.ask .workspace
    let _ ← Job.ask (.setWorkspace { workspace with
      diagnostics := workspace.diagnostics.insert file published.diagnostics })
    let tree ← Job.ask .disk
    return workspace.linesOrNone tree file
  if setup.settings.showDiagnostics then
    Editor.showDiagnostics setup file (published.diagnostics.map (shownDiagnostic file lines))

/-- The level under which a server's log message is logged. -/
def logLevel : Editor.MessageLevel → LogLevel
  | .error => .error
  | .warning => .warn
  | .info => .info
  | .log => .debug

/-- The reply to an edit request: whether it was carried out, or why not. -/
def editReply : Outcome Unit → Json
  | .ok _ => .obj [("applied", .bool true)]
  | .error failure => .obj [("applied", .bool false), ("failureReason", .str failure.message)]

/-- Carries out an edit for a server; a failure is shown to the user as well. -/
def applyRequested (session : Session) (edit : WorkspaceEdit) : Script Json := do
  let outcome ← (Editor.applyEdit (Context.ofSession session) edit none).run
  match outcome with
  | .ok _ => return editReply (.ok ())
  | .error failure =>
    Editor.report failure
    return editReply (.error failure)

/-- The result of a server's call. -/
def resultOf (session : Session) (method : String) (params : Json) : Script Json :=
  if method = "workspace/applyEdit" then
    match readEditRequest params with
    | .ok edit => applyRequested session edit
    | .error error =>
      return editReply (.error (.violation s!"malformed {method} params: {error.message}"))
  else return .null

/-- What the program itself does about a server's notification. -/
def handleNotification (setup : Setup) (session : Session) (method : String) (params : Json) :
    Job Unit := do
  if method = "window/logMessage" then
    let notice ← Job.ofShaped (Notice.read params)
    let _ ← Job.ask (.log (logLevel notice.level) s!"{session.key.language}: {notice.text}")
  else if method = "textDocument/publishDiagnostics" then
    publish setup (← Job.ofShaped (PublishedDiagnostics.read params))
  else if method = "$/progress" then
    let progress ← Job.ofShaped (Progress.read params)
    match progress.notice? with
    | some text => Editor.showMessage .info text
    | none => return
  else if method = "window/showMessage" then
    let notice ← Job.ofShaped (Notice.read params)
    Editor.showMessage notice.level notice.text

/-- The user's handler for a method. -/
def handlerFor (method : String) : Job (Option String) := do
  let extensions ← Job.ask .extensions
  return extensions.handler? method

/-- Handles a message of a session's server. -/
def handle (setup : Setup) (session : Session) (message : Message) : Job Unit := do
  let handler ← handlerFor message.method
  match message with
  | .call _ id method params =>
    let params := params.toJson
    let result ← Job.ofScript (resultOf session method params)
    match handler with
    | some handler =>
      let _ ← Job.attempt (Editor.callHandler handler params)
    | none => pure ()
    Job.reply session.peer id result
  | .notification _ method params =>
    let params := params.toJson
    handleNotification setup session method params
    match handler with
    | some handler => Editor.callHandler handler params
    | none => return
  | .response _ => return

end LanguageBridge.Server
