import LanguageBridge.Proofs.Script.Acts
import LanguageBridge.Program

/-!
Whom jobs speak to. A job about a session speaks to the editor and to the server of that session; it
gets to know no other server, and calls no handler of the user.
-/
namespace LanguageBridge

/-- Whether an operation calls a handler of the user. -/
def Operation.forwards : Operation → Bool
  | .notify .editor method _ => method = "vim#call_handler"
  | _ => false

/-- What a job does that is about a server, or about none: it speaks to no other, and neither looks
for sessions nor starts anything. -/
def Operation.About (server? : Option ServerId) : Operation → Prop
  | .notify .editor method _ => method ≠ "vim#call_handler"
  | .notify (.server server) .. | .reply (.server server) .. | .call (.server server) .. =>
    server? = some server
  | .session _ | .unregister _ | .drain | .spawn .. | .register .. | .fork _ => False
  | _ => True

/-- What a job does that is about a server, or about none, and has nothing to do with who starts a
server or stops it: it tells the server neither that it is initialized nor to end, takes no lock of
a start, and changes no documents. -/
def Operation.Ordinary (server? : Option ServerId) : Operation → Prop
  | .notify .editor method _ => method ≠ "vim#call_handler"
  | .notify (.server server) method _ =>
    server? = some server ∧ method ≠ "initialized" ∧ method ≠ "exit"
  | .call (.server server) method _ => server? = some server ∧ method ≠ "shutdown"
  | .reply (.server server) .. => server? = some server
  | .acquire (.starting _) _ | .release (.starting _) | .setWorkspace _ | .session _
    | .unregister _ | .drain | .spawn .. | .register .. | .fork _ => False
  | _ => True

variable {about : Option ServerId} {context : Context} {session : Session} {setup : Setup}

theorem Operation.About.of_ordinary {operation : Operation} (ordinary : operation.Ordinary about) :
    operation.About about := by
  cases operation with
  | notify peer | call peer =>
    cases peer with
    | editor => exact ordinary
    | server server => exact ordinary.1
  | reply peer =>
    cases peer with
    | editor => trivial
    | server server => exact ordinary
  | setWorkspace => trivial
  | session | unregister | drain | spawn | register | fork => exact ordinary
  | _ => trivial

theorem Script.Each.of_ordinary {α : Type} {script : Script α}
    (each : script.Each (Operation.Ordinary about)) : script.Each (Operation.About about) :=
  each.mono fun _ ordinary => .of_ordinary ordinary

theorem Job.Each.of_ordinary {α : Type} {job : Job α} (each : job.Each (Operation.Ordinary about)) :
    job.Each (Operation.About about) :=
  Script.Each.of_ordinary each

namespace Context

/-- The server that a context is about. -/
def server? (context : Context) : Option ServerId := context.session.map (·.server)

/-- What is done with the session of a context. -/
theorem attached_bind_each {α : Type} {kind : Operation → Prop} {next : Session → Job α}
    (rest : ∀ session, context.session = some session → (next session).Each kind) :
    (context.attached >>= next).Each kind := by
  unfold attached
  cases held : context.session with
  | none => trivial
  | some session => exact rest session held

theorem server?_of_session (held : context.session = some session) :
    context.server? = some session.server := by
  rw [server?, held]
  rfl

theorem positionMembers_ordinary (file : String) (position : EditorPosition) :
    (positionMembers file position).Each (Operation.Ordinary about) :=
  (Job.Each.ofOutcome _).bind fun _ => Job.Each.ask_bind trivial fun _ => trivial

theorem request_about {α : Type} (context : Context) (method : String) (params : Json)
    (read : Json → Shaped α) :
    (context.request method params read).Each (Operation.About context.server?) :=
  attached_bind_each fun _ held => Job.Each.call _ (server?_of_session held) fun _ => trivial

/-- A request that does not ask the server to get ready to end. -/
theorem request_ordinary {α : Type} {method : String} (other : method ≠ "shutdown")
    (params : Json) (read : Json → Shaped α) :
    (context.request method params read).Each (Operation.Ordinary context.server?) :=
  attached_bind_each fun _ held => Job.Each.call _ ⟨server?_of_session held, other⟩ fun _ => trivial

theorem definition_ordinary (context : Context) (cursor : CursorPlace) :
    (context.definition cursor).Each (Operation.Ordinary context.server?) :=
  (positionMembers_ordinary _ _).bind fun _ => request_ordinary (by decide) _ _

theorem references_ordinary (context : Context) (cursor : CursorPlace) :
    (context.references cursor).Each (Operation.Ordinary context.server?) :=
  (positionMembers_ordinary _ _).bind fun _ =>
    (request_ordinary (by decide) _ _).bind fun _ => trivial

theorem hover_ordinary (context : Context) (cursor : CursorPlace) :
    (context.hover cursor).Each (Operation.Ordinary context.server?) :=
  (positionMembers_ordinary _ _).bind fun _ => request_ordinary (by decide) _ _

theorem rename_ordinary (context : Context) (request : RenameRequest) :
    (context.rename request).Each (Operation.Ordinary context.server?) :=
  (positionMembers_ordinary _ _).bind fun _ => request_ordinary (by decide) _ _

theorem documentSymbols_ordinary (context : Context) (file : String) :
    (context.documentSymbols file).Each (Operation.Ordinary context.server?) :=
  (Job.Each.ofOutcome _).bind fun _ => request_ordinary (by decide) _ _

theorem workspaceSymbols_ordinary (context : Context) (query : String) :
    (context.workspaceSymbols query).Each (Operation.Ordinary context.server?) :=
  (request_ordinary (by decide) _ _).bind fun _ => trivial

theorem shutdown_about (context : Context) :
    context.shutdown.Each (Operation.About context.server?) :=
  (context.request_about _ _ _).bind fun _ => trivial

theorem exit_about (context : Context) : context.exit.Each (Operation.About context.server?) :=
  attached_bind_each fun _ held => Job.Each.notify (server?_of_session held)

end Context

namespace Session

variable (session)

/-- What the server of a session is told. -/
theorem tells_about (method : String) (params : Json) :
    (Job.notify session.peer method params).Each (Operation.About session.server) :=
  Job.Each.notify rfl

theorem syncHeld_about (uri : Uri) (file : String) (text : Text) :
    (session.syncHeld uri file text).Each (Operation.About session.server) := by
  refine Job.Each.ask_bind trivial fun workspace => ?_
  split
  · split
    · exact Job.Each.ask_bind trivial fun _ => (session.tells_about _ _).bind fun _ => trivial
    · trivial
  · exact (session.tells_about _ _).bind fun _ => Job.Each.ask_bind trivial fun _ => trivial

theorem reopen_ordinary : session.reopen.Each (Operation.Ordinary session.server) :=
  Job.Each.holding trivial trivial <| Job.Each.ask_bind trivial fun _ => Job.Each.forM fun _ _ =>
    (Job.Each.ofOutcome _).bind fun _ => Job.Each.notify ⟨rfl, by decide, by decide⟩

theorem endProcess_ordinary : session.endProcess.Each (Operation.Ordinary about) := by
  unfold endProcess
  split
  · exact Job.Each.ask_bind trivial fun _ => trivial
  · trivial

theorem introduced_about (options : Option Json) : Job.Each (Operation.About session.server) (do
    let capabilities ← session.introduce setup options
    session.confirm
    return capabilities) := by
  refine Job.Each.bind ?_ fun _ => Job.Each.bind (session.tells_about _ _) fun _ => trivial
  exact (Job.Each.ofOutcome _).bind fun _ => Job.Each.call _ rfl fun _ => trivial

theorem introduceAll_about :
    (introduceAll setup session).Each (Operation.About session.server) := by
  have givingUp (failure : Failure) : Job.Each (Operation.About session.server)
      (session.endProcess >>= fun _ => (throw failure : Job Session)) :=
    (Job.Each.of_ordinary session.endProcess_ordinary).bind fun _ => trivial
  refine (Job.Each.attempt (session.introduced_about _)).bind fun introduced => ?_
  cases introduced with
  | error failure => exact givingUp _
  | ok capabilities =>
    refine (Job.Each.attempt (Job.Each.of_ordinary session.reopen_ordinary)).bind fun reopened => ?_
    cases reopened with
    | error failure => exact givingUp _
    | ok _ => trivial

end Session

namespace Context

theorem sync_about (context : Context) (file : String) (text : Text) :
    (context.sync file text).Each (Operation.About context.server?) :=
  attached_bind_each fun session held => (Job.Each.ofOutcome _).bind fun uri =>
    Job.Each.holding trivial trivial
      (server?_of_session held ▸ session.syncHeld_about uri file text)

theorem didSave_about (context : Context) (file : String) :
    (context.didSave file).Each (Operation.About context.server?) := by
  refine attached_bind_each fun session held => Job.Each.holding trivial trivial ?_
  refine Job.Each.ask_bind trivial fun workspace => ?_
  split
  · trivial
  · exact Job.Each.ask_bind trivial fun _ => (Job.Each.ofOutcome _).bind fun _ =>
      Job.Each.notify (server?_of_session held)

theorem didClose_about (context : Context) (file : String) :
    (context.didClose file).Each (Operation.About context.server?) := by
  refine attached_bind_each fun session held => Job.Each.holding trivial trivial ?_
  refine Job.Each.ask_bind trivial fun workspace => ?_
  have forgetting (changed : Workspace) (count : Nat) :
      (Job.ask (.setWorkspace changed) >>= fun _ => (pure count : Job Nat)).Each
        (Operation.About context.server?) :=
    Job.Each.ask_bind trivial fun _ => trivial
  dsimp only
  split
  · refine Job.Each.ask_bind trivial fun _ => (Job.Each.ofOutcome _).bind fun _ => ?_
    exact (Job.Each.notify (server?_of_session held)).bind fun _ => forgetting ..
  · exact forgetting ..

end Context

namespace Editor

theorem execute_ordinary (commands : List Command) :
    (execute commands).Each (Operation.Ordinary about) :=
  (Job.Each.call _ trivial fun _ => trivial).bind fun _ => trivial

theorem showScratch_ordinary (preview : Preview) :
    (showScratch preview).Each (Operation.Ordinary about) :=
  Job.Each.notify (by simp [Operation.Ordinary])

theorem showLocations_ordinary (title : String) (locations : List Location) :
    (showLocations setup title locations).Each (Operation.Ordinary about) := by
  unfold showLocations
  split
  · trivial
  · refine Job.Each.ask_bind trivial fun workspace => Job.Each.ask_bind trivial fun tree => ?_
    exact (Job.Each.ofOutcome _).bind fun items => Job.Each.notify (by simp [Operation.Ordinary])

theorem jumpTarget_ordinary (location : Location) :
    (jumpTarget location).Each (Operation.Ordinary about) :=
  Job.Each.ask_bind trivial fun _ => Job.Each.ask_bind trivial fun _ => Job.Each.ofOutcome _

theorem carryOutAll_ordinary (effects : List FloatEffect) :
    (carryOutAll effects).Each (Operation.Ordinary about) := by
  apply Job.Each.forM
  intro effect _
  cases effect with
  | destroy surface => exact Job.Each.notify (by simp [Operation.Ordinary])
  | wipe buffer => exact execute_ordinary _
  | focus window => exact execute_ordinary _

theorem takeFloatEvent_ordinary (event : FloatEvent) :
    (takeFloatEvent event).Each (Operation.Ordinary about) :=
  Job.Each.ask_bind trivial fun _ => carryOutAll_ordinary _

theorem loadBuffer_ordinary (file : String) :
    (loadBuffer file).Each (Operation.Ordinary about) := by
  refine (Job.Each.call _ trivial fun _ => trivial).bind fun buffer => ?_
  split <;> trivial

theorem showMessage_ordinary (level : MessageLevel) (message : String) :
    (showMessage level message).Each (Operation.Ordinary about) :=
  Job.Each.notify (by simp [Operation.Ordinary])

theorem report_ordinary (failure : Failure) : (report failure).Each (Operation.Ordinary about) :=
  Script.Each.bind (showMessage_ordinary _ _) fun _ => trivial

theorem markDirty_about (file : String) : (markDirty file).Each (Operation.About about) :=
  Job.Each.holding trivial trivial <| Job.Each.ask_bind trivial fun _ =>
    Job.Each.ask_bind trivial fun _ => trivial

theorem writeFile_about (context : Context) (planned : PlannedFile) :
    (writeFile context planned).Each (Operation.About context.server?) := by
  refine (Job.Each.of_ordinary (loadBuffer_ordinary _)).bind fun buffer =>
    Job.Each.bind ?_ fun _ => ?_
  · exact Job.Each.notify (by simp [Operation.About])
  · exact (context.sync_about _ _).bind fun _ => markDirty_about _

theorem applyEdit_about (context : Context) (edit : WorkspaceEdit) (cursor : Option CursorPlace) :
    (applyEdit context edit cursor).Each (Operation.About context.server?) := by
  refine (Job.Each.ofOutcome _).bind fun files => ?_
  split
  · trivial
  refine Job.Each.ask_bind trivial fun workspace => Job.Each.ask_bind trivial fun tree => ?_
  refine (Job.Each.ofOutcome _).bind fun planned => ?_
  refine (Job.Each.forM fun entry _ => writeFile_about context entry).bind fun _ => ?_
  split
  · trivial
  · split
    · exact Job.Each.of_ordinary (execute_ordinary _)
    · trivial

theorem showHover_ordinary (cursor : CursorPlace) (preview : Preview) :
    (showHover setup cursor preview).Each (Operation.Ordinary about) := by
  unfold showHover
  split
  · exact showScratch_ordinary _
  · refine (Job.Each.call _ trivial fun _ => trivial).bind fun surface => ?_
    split
    · exact showScratch_ordinary _
    · exact Job.Each.ask_bind trivial fun _ => carryOutAll_ordinary _

theorem explain_ordinary (cursor : CursorPlace) :
    (explain cursor).Each (Operation.Ordinary about) := by
  refine Job.Each.ask_bind trivial fun workspace => ?_
  dsimp only
  split
  · trivial
  · exact showScratch_ordinary _

end Editor

namespace Session

theorem sendAll_about (session : Session) (contents : List BufferContent) :
    (session.sendAll contents).Each (Operation.About session.server) := by
  induction contents with
  | nil => trivial
  | cons content rest ih =>
    have sending : ((Context.ofSession session).sync content.file content.text).Each
        (Operation.About session.server) :=
      (Context.ofSession session).sync_about content.file content.text
    refine (Job.Each.attempt sending).bind fun sent => ?_
    cases sent with
    | ok _ => exact ih
    | error failure =>
      refine Job.Each.bind (Job.Each.ofScript ?_) fun _ => ih
      exact Script.Each.of_ordinary (Editor.report_ordinary failure)

theorem flushQueue_about (session : Session) :
    session.flushQueue.Each (Operation.About session.server) := by
  refine Job.Each.holding trivial trivial (Job.Each.ask_bind trivial fun queued => ?_)
  split
  · trivial
  · exact Job.Each.ask_bind trivial fun _ => session.sendAll_about _

theorem discardQueue_ordinary (key : SessionKey) :
    (discardQueue key).Each (Operation.Ordinary about) :=
  Job.Each.holding trivial trivial <| Job.Each.ask_bind trivial fun _ =>
    Job.Each.ask_bind trivial fun _ => trivial

theorem keyOf_ordinary (language file : String) :
    (keyOf language file).Each (Operation.Ordinary about) :=
  Job.Each.ask_bind trivial fun _ => Job.Each.ofOutcome _

theorem stop_about (session : Session) : session.stop.Each (Operation.About session.server) := by
  have ending : Job.Each (Operation.About session.server) (do
      (Context.ofSession session).shutdown
      (Context.ofSession session).exit) :=
    Job.Each.bind (Context.ofSession session).shutdown_about fun _ =>
      (Context.ofSession session).exit_about
  exact (Job.Each.attempt ending).bind fun _ =>
    Job.Each.of_ordinary session.endProcess_ordinary

end Session

namespace Server

theorem publish_about (published : PublishedDiagnostics) :
    (publish setup published).Each (Operation.About about) := by
  refine (Job.Each.ofOutcome _).bind fun file => Job.Each.bind ?_ fun lines => ?_
  · exact Job.Each.holding trivial trivial <| Job.Each.ask_bind trivial fun _ =>
      Job.Each.ask_bind trivial fun _ => Job.Each.ask_bind trivial fun _ => trivial
  · split
    · exact Job.Each.notify (by simp [Operation.About])
    · trivial

theorem handleNotification_about (method : String) (params : Json) :
    (handleNotification setup session method params).Each (Operation.About about) := by
  unfold handleNotification
  split
  · exact (Job.Each.ofOutcome _).bind fun notice => Job.Each.ask_bind trivial fun _ => trivial
  split
  · exact (Job.Each.ofOutcome _).bind fun published => publish_about published
  split
  · refine (Job.Each.ofOutcome _).bind fun progress => ?_
    split
    · exact Job.Each.of_ordinary (Editor.showMessage_ordinary _ _)
    · trivial
  split
  · exact (Job.Each.ofOutcome _).bind fun notice =>
      Job.Each.of_ordinary (Editor.showMessage_ordinary _ _)
  · trivial

theorem resultOf_about (method : String) (params : Json) :
    (resultOf session method params).Each (Operation.About session.server) := by
  unfold resultOf
  split
  · split
    · refine Script.Each.bind (Editor.applyEdit_about (Context.ofSession session) _ none)
        fun outcome => ?_
      cases outcome with
      | ok _ => trivial
      | error failure =>
        exact (Script.Each.of_ordinary (Editor.report_ordinary failure)).bind fun _ => trivial
    · trivial
  · trivial

end Server

namespace Program

theorem replyToEditor_ordinary (id : Option RequestId) (result : Json) :
    (replyToEditor id result).Each (Operation.Ordinary about) := by
  cases id with
  | none => trivial
  | some id => exact ⟨trivial, fun _ => trivial⟩

/-- A failure is shown, and whoever waits gets a reply. -/
theorem conceding_ordinary (id : Option RequestId) (failure : Failure) :
    Script.Each (Operation.Ordinary about) (do
      Editor.report failure
      replyToEditor id .null) :=
  Script.Each.bind (Editor.report_ordinary failure) fun _ => replyToEditor_ordinary id _

end Program

end LanguageBridge
