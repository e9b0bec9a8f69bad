import LanguageBridge.Program
import LanguageBridge.Proofs.Document.Notice

/-!
Scripts and jobs that are no matter of documents, sessions and queues: they talk to the editor and
to the user, ask servers and look things up.
-/
namespace LanguageBridge

variable {α β : Type}

/-- Whether an operation is no matter of documents, sessions and queues. -/
def Operation.Harmless : Operation → Prop
  | .workspace | .disk | .extensions | .registerServerCommands _ | .registerHandlers _
  | .floatEvent _ | .reveal .. | .isAlive _ | .spawn .. | .endProcess _ | .reply .. | .call ..
  | .await _ | .log .. => True
  | .notify .editor _ _ => True
  | .notify (.server _) method params => Notice.read? method params = none
  | _ => False

namespace Script

/-- A script all of whose operations are no matter of documents, sessions and queues. -/
def Idle : Script α → Prop
  | .done _ => True
  | .step operation next => operation.Harmless ∧ ∀ answer, Idle (next answer)

theorem Idle.bind {script : Script α} {next : α → Script β} (idle : script.Idle)
    (rest : ∀ value, (next value).Idle) : (script.bind next).Idle := by
  induction script with
  | done value => exact rest value
  | step operation onward ih => exact ⟨idle.1, fun answer => ih answer (idle.2 answer)⟩

end Script

namespace Job

/-- A job that is no matter of documents, sessions and queues. -/
def Idle (job : Job α) : Prop := job.run.Idle

variable {job : Job α} {next : α → Job β}

theorem Idle.pure (value : α) : (Pure.pure value : Job α).Idle := trivial

theorem Idle.throw (failure : Failure) : (throw failure : Job α).Idle := trivial

theorem Idle.ofOutcome (outcome : Outcome α) : (Job.ofOutcome outcome).Idle := trivial

theorem Idle.ofShaped (shaped : Shaped α) : (Job.ofShaped shaped).Idle := trivial

theorem Idle.bind (first : job.Idle) (second : ∀ value, (next value).Idle) :
    (job >>= next).Idle := by
  apply Script.Idle.bind first
  intro outcome
  cases outcome with
  | ok value => exact second value
  | error failure => exact trivial

theorem Idle.ask_bind {operation : Operation} {next : operation.Answer → Job β}
    (harmless : operation.Harmless) (rest : ∀ answer, (next answer).Idle) :
    (Job.ask operation >>= next).Idle :=
  ⟨harmless, rest⟩

theorem Idle.ofScript {script : Script α} (idle : script.Idle) : (Job.ofScript script).Idle :=
  Script.Idle.bind idle fun _ => trivial

theorem Idle.attempt (idle : job.Idle) : (Job.attempt job).Idle :=
  Script.Idle.bind idle fun _ => trivial

theorem Idle.notify_editor (method : String) (params : Json) :
    (Job.notify .editor method params).Idle :=
  ⟨trivial, fun _ => trivial⟩

theorem Idle.notify_server {server : ServerId} {method : String} {params : Json}
    (nothing : Notice.read? method params = none) :
    (Job.notify (.server server) method params).Idle :=
  ⟨nothing, fun _ => trivial⟩

theorem Idle.reply (peer : Peer) (id : RequestId) (result : Json) :
    (Job.reply peer id result).Idle :=
  ⟨trivial, fun _ => trivial⟩

theorem Idle.call (peer : Peer) (method : String) (params : Json) (read : Json → Shaped α) :
    (Job.call peer method params read).Idle := by
  have asking : Job.Idle (ExceptT.mk (Script.ask (.call peer method params)) : Job Nat) :=
    ⟨trivial, fun _ => trivial⟩
  have awaiting (ticket : Nat) : Job.Idle (ExceptT.mk (Script.ask (.await ticket)) : Job Json) :=
    ⟨trivial, fun _ => trivial⟩
  unfold Job.call
  refine Idle.bind asking fun ticket => Idle.bind (awaiting ticket) fun result => ?_
  split
  · exact Idle.pure _
  · exact Idle.throw _

theorem Idle.forM {f : α → Job Unit} (each : ∀ value, (f value).Idle) (values : List α) :
    (values.forM f).Idle := by
  induction values with
  | nil => exact Idle.pure _
  | cons value rest ih => exact (each value).bind fun _ => ih

end Job

end LanguageBridge

/-!
What the program does without touching documents, sessions or queues: it talks to the editor, asks
servers and shows what they answer.
-/
namespace LanguageBridge

namespace Editor

theorem execute_idle (commands : List Command) : (execute commands).Idle :=
  (Job.Idle.call ..).bind fun _ => Job.Idle.pure _

theorem jump_idle (context : Context) (target : FilePosition) : (jump context target).Idle :=
  execute_idle _

theorem showScratch_idle (preview : Preview) : (showScratch preview).Idle :=
  Job.Idle.notify_editor _ _

theorem showLocations_idle (setup : Setup) (title : String) (locations : List Location) :
    (showLocations setup title locations).Idle := by
  unfold showLocations
  split
  · exact Job.Idle.pure _
  · refine Job.Idle.ask_bind trivial fun workspace => Job.Idle.ask_bind trivial fun tree => ?_
    exact (Job.Idle.ofOutcome _).bind fun items => Job.Idle.notify_editor _ _

theorem jumpTarget_idle (location : Location) : (jumpTarget location).Idle :=
  Job.Idle.ask_bind trivial fun _ => Job.Idle.ask_bind trivial fun _ => Job.Idle.ofOutcome _

theorem carryOut_idle (effect : FloatEffect) : (carryOut effect).Idle := by
  cases effect with
  | destroy surface => exact Job.Idle.notify_editor _ _
  | wipe buffer => exact execute_idle _
  | focus window => exact execute_idle _

theorem carryOutAll_idle (effects : List FloatEffect) : (carryOutAll effects).Idle :=
  Job.Idle.forM carryOut_idle effects

theorem loadBuffer_idle (file : String) : (loadBuffer file).Idle := by
  refine (Job.Idle.call ..).bind fun buffer => ?_
  split
  · exact (Job.Idle.throw _).bind fun _ => Job.Idle.pure _
  · exact Job.Idle.pure _

theorem takeFloatEvent_idle (event : FloatEvent) : (takeFloatEvent event).Idle :=
  Job.Idle.ask_bind trivial fun _ => carryOutAll_idle _

theorem showHover_idle (setup : Setup) (cursor : CursorPlace) (preview : Preview) :
    (showHover setup cursor preview).Idle := by
  unfold showHover
  split
  · exact showScratch_idle _
  · refine (Job.Idle.call ..).bind fun surface => ?_
    split
    · exact showScratch_idle _
    · exact Job.Idle.ask_bind trivial fun _ => carryOutAll_idle _

theorem explain_idle (cursor : CursorPlace) : (explain cursor).Idle := by
  refine Job.Idle.ask_bind trivial fun workspace => ?_
  dsimp only
  split
  · exact Job.Idle.pure _
  · exact showScratch_idle _

theorem report_idle (failure : Failure) : (report failure).Idle := ⟨trivial, fun _ => trivial⟩

end Editor

namespace Context

theorem attached_eq {context : Context} {session : Session}
    (held : context.session = some session) : context.attached = pure session := by
  unfold attached
  rw [held]

theorem attached_idle (context : Context) : context.attached.Idle := by
  unfold attached
  split
  · exact Job.Idle.pure _
  · exact Job.Idle.throw _

theorem positionMembers_idle (file : String) (position : EditorPosition) :
    (positionMembers file position).Idle :=
  (Job.Idle.ofOutcome _).bind fun _ => Job.Idle.ask_bind trivial fun _ => Job.Idle.pure _

theorem request_idle {α : Type} (context : Context) (method : String) (params : Json)
    (read : Json → Shaped α) : (context.request method params read).Idle :=
  context.attached_idle.bind fun _ => Job.Idle.call ..

theorem definition_idle (context : Context) (cursor : CursorPlace) :
    (context.definition cursor).Idle :=
  (positionMembers_idle ..).bind fun _ => context.request_idle ..

theorem references_idle (context : Context) (cursor : CursorPlace) :
    (context.references cursor).Idle :=
  (positionMembers_idle ..).bind fun _ =>
    (context.request_idle ..).bind fun _ => Job.Idle.pure _

theorem hover_idle (context : Context) (cursor : CursorPlace) : (context.hover cursor).Idle :=
  (positionMembers_idle ..).bind fun _ => context.request_idle ..

theorem rename_idle (context : Context) (request : RenameRequest) :
    (context.rename request).Idle :=
  (positionMembers_idle ..).bind fun _ => context.request_idle ..

theorem documentSymbols_idle (context : Context) (file : String) :
    (context.documentSymbols file).Idle :=
  (Job.Idle.ofOutcome _).bind fun _ => context.request_idle ..

theorem workspaceSymbols_idle (context : Context) (query : String) :
    (context.workspaceSymbols query).Idle :=
  (context.request_idle ..).bind fun _ => Job.Idle.pure _

theorem shutdown_idle (context : Context) : context.shutdown.Idle :=
  (context.request_idle ..).bind fun _ => Job.Idle.pure _

theorem exit_idle (context : Context) : context.exit.Idle := by
  apply context.attached_idle.bind
  intro session
  exact Job.Idle.notify_server rfl

end Context

namespace Session

theorem endProcess_idle (session : Session) : session.endProcess.Idle := by
  unfold endProcess
  split
  · exact Job.Idle.ask_bind trivial fun _ => Job.Idle.pure _
  · exact Job.Idle.pure _

theorem introduce_idle (setup : Setup) (session : Session) (options : Option Json) :
    (session.introduce setup options).Idle :=
  (Job.Idle.ofOutcome _).bind fun _ => Job.Idle.call ..

theorem confirm_idle (session : Session) : session.confirm.Idle :=
  Job.Idle.notify_server rfl

theorem stop_idle (session : Session) : session.stop.Idle := by
  let context := Context.ofSession session
  have ending := context.shutdown_idle.bind fun _ => context.exit_idle
  exact ending.attempt.bind fun _ => session.endProcess_idle

end Session

namespace Editor

variable {setup : Setup} {cursor : CursorPlace}

/-- A job that sends the text at a cursor and then only talks to servers and the editor. -/
def Asks (setup : Setup) (cursor : CursorPlace) (job : Job Unit) : Prop :=
  ∃ next : Context → Job Unit, job = cursorContext setup cursor >>= next ∧
    ∀ context, (next context).Idle

theorem goToDefinition_asks : Asks setup cursor (goToDefinition setup cursor) := by
  refine ⟨_, rfl, fun context => (context.definition_idle cursor).bind fun found => ?_⟩
  split
  · exact Job.Idle.pure _
  · split
    · exact Job.Idle.pure _
    · exact (jumpTarget_idle _).bind fun _ => jump_idle _ _
    · exact showLocations_idle _ _ _

theorem listReferences_asks : Asks setup cursor (listReferences setup cursor) :=
  ⟨_, rfl, fun context =>
    (context.references_idle cursor).bind fun _ => showLocations_idle _ _ _⟩

theorem listDocumentSymbols_asks : Asks setup cursor (listDocumentSymbols setup cursor) := by
  refine ⟨_, rfl, fun context => (context.documentSymbols_idle cursor.file).bind fun found => ?_⟩
  split
  · exact Job.Idle.pure _
  · exact (Job.Idle.ofOutcome _).bind fun _ => showLocations_idle _ _ _

theorem listWorkspaceSymbols_asks (search : SymbolSearch) :
    Asks setup search.cursor (listWorkspaceSymbols setup search) :=
  ⟨_, rfl, fun context =>
    (context.workspaceSymbols_idle search.query).bind fun _ => showLocations_idle _ _ _⟩

/-- A hover, unless it goes into a preview that floats already. -/
theorem hover_asks (setup : Setup) (cursor : CursorPlace) : ∃ asking, Asks setup cursor asking ∧
    hover setup cursor = Job.ask (.hoverAgain cursor.buffer) >>= fun
      | some effects => carryOutAll effects
      | none => asking := by
  refine ⟨_, ⟨_, rfl, fun context => ?_⟩, rfl⟩
  refine (context.hover_idle cursor).bind fun found => ?_
  split
  · exact Job.Idle.pure _
  · exact showHover_idle _ _ _

end Editor

namespace Program

theorem replyToEditor_idle (id : Option RequestId) (result : Json) :
    (replyToEditor id result).Idle := by
  cases id with
  | none => exact trivial
  | some id => exact ⟨trivial, fun _ => trivial⟩

end Program

end LanguageBridge
