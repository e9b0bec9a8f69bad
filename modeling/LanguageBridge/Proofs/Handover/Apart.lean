import LanguageBridge.Program
import LanguageBridge.Proofs.Script.Idle
import LanguageBridge.Proofs.Script.Reaches

/-!
Jobs that have nothing to do with the queue and do not hand on the editor's messages, whatever else
they do with documents, sessions and servers.
-/
namespace LanguageBridge

/-- Whether an operation leaves the queue alone and does not start a thread for the editor's
messages. -/
def Operation.Apart : Operation → Prop
  | .acquire lock _ | .release lock => lock ≠ .queue
  | .queue | .setQueue _ | .fork .serveEditor => False
  | _ => True

variable {α : Type}

theorem Operation.Harmless.apart {operation : Operation} (harmless : operation.Harmless) :
    operation.Apart := by
  cases operation with
  | acquire | release | queue | setQueue | fork => exact harmless.elim
  | _ => trivial

theorem Script.Idle.apart {script : Script α} (idle : script.Idle) :
    script.Each Operation.Apart := by
  induction script with
  | done value => trivial
  | step operation next ih => exact ⟨idle.1.apart, fun answer => ih answer (idle.2 answer)⟩

theorem Job.Idle.apart {job : Job α} (idle : job.Idle) : job.Each Operation.Apart :=
  Script.Idle.apart idle

/-- A lock of something else that is held while something apart is done. -/
theorem Job.apart_holding {lock : Lock} {mode : LockMode} {job : Job α} (other : lock ≠ .queue)
    (apart : job.Each Operation.Apart) : (Job.holding lock mode job).Each Operation.Apart :=
  Job.Each.holding other other apart

theorem Job.apart_documents {mode : LockMode} {job : Job α} (apart : job.Each Operation.Apart) :
    (Job.holding .documents mode job).Each Operation.Apart :=
  Job.apart_holding (by simp) apart

namespace Session

variable (setup : Setup) (session : Session) (key : SessionKey)

theorem live?_apart : (live? key).Each Operation.Apart := by
  refine Job.Each.ask_bind trivial fun found => ?_
  cases found with
  | none => trivial
  | some session =>
    refine Job.Each.ask_bind trivial fun alive => ?_
    split
    · trivial
    · exact Job.Each.ask_bind trivial fun _ => trivial

theorem getOrStart_apart {start : Job Session} (starts : start.Each Operation.Apart) :
    (getOrStart key start).Each Operation.Apart := by
  refine (live?_apart key).bind fun found => ?_
  cases found with
  | some session => trivial
  | none =>
    refine Job.apart_holding (by simp) ((live?_apart key).bind fun again => ?_)
    cases again with
    | some session => trivial
    | none => exact starts.bind fun session => Job.Each.ask_bind trivial fun _ => trivial

theorem sendOpen_apart (file : String) (document : Document) :
    (session.sendOpen file document).Each Operation.Apart :=
  (Job.Each.ofOutcome _).bind fun _ => Job.Each.notify trivial

theorem reopen_apart : session.reopen.Each Operation.Apart :=
  Job.apart_documents <| Job.Each.ask_bind trivial fun _ =>
    Job.Each.forM fun entry _ => session.sendOpen_apart entry.1 entry.2

theorem introduceAll_apart : (introduceAll setup session).Each Operation.Apart := by
  have introducing := (session.introduce_idle setup
      ((setup.settings.servers.get? session.key.language).bind (·.initializationOptions))).bind
    fun capabilities => session.confirm_idle.bind fun _ => Job.Idle.pure capabilities
  refine introducing.attempt.apart.bind fun introduced => ?_
  cases introduced with
  | error failure => exact session.endProcess_idle.apart.bind fun _ => trivial
  | ok capabilities =>
    refine session.reopen_apart.attempt.bind fun reopened => ?_
    cases reopened with
    | error failure => exact session.endProcess_idle.apart.bind fun _ => trivial
    | ok _ => trivial

theorem start_apart : (start setup key).Each Operation.Apart := by
  refine Job.Each.ask_bind trivial fun extensions => ?_
  split
  · trivial
  · trivial
  · split
    · trivial
    · refine Job.Each.ask_bind trivial fun spawned => ?_
      split
      · trivial
      · exact Job.Each.ask_bind trivial fun _ => introduceAll_apart setup _

theorem keyOf_apart (language file : String) : (keyOf language file).Each Operation.Apart :=
  Job.Each.ask_bind trivial fun _ => Job.Each.ofOutcome _

theorem trackedContext?_apart (file : String) :
    (trackedContext? file).Each Operation.Apart := by
  refine Job.Each.ask_bind trivial fun workspace => ?_
  split
  · trivial
  · refine (live?_apart _).bind fun found => ?_
    cases found <;> trivial

theorem close_apart : (close key).Each Operation.Apart := by
  refine Job.Each.ask_bind trivial fun found => ?_
  cases found with
  | none => trivial
  | some session => exact Job.Each.ask_bind trivial fun _ => trivial

theorem shutdownAll_apart : shutdownAll.Each Operation.Apart := by
  have stopping (sessions : List Session) : (stopAll sessions).Each Operation.Apart := by
    induction sessions with
    | nil => trivial
    | cons session rest ih => exact Job.Each.ask_bind trivial fun _ => ih.bind fun _ => trivial
  refine Job.Each.ask_bind trivial fun sessions => (stopping sessions).bind fun threads => ?_
  exact Job.Each.forM fun thread _ => Job.Each.ask_bind trivial fun _ => trivial

end Session

namespace Context

variable (context : Context)

theorem sync_apart (file : String) (text : Text) :
    (context.sync file text).Each Operation.Apart := by
  refine context.attached_idle.apart.bind fun session => (Job.Each.ofOutcome _).bind fun uri => ?_
  refine Job.apart_documents (Job.Each.ask_bind trivial fun workspace => ?_)
  split
  · split
    · exact Job.Each.ask_bind trivial fun _ => (Job.Each.notify trivial).bind fun _ => trivial
    · trivial
  · exact (Job.Each.notify trivial).bind fun _ => Job.Each.ask_bind trivial fun _ => trivial

theorem didSave_apart (file : String) : (context.didSave file).Each Operation.Apart := by
  refine context.attached_idle.apart.bind fun session => ?_
  refine Job.apart_documents (Job.Each.ask_bind trivial fun workspace => ?_)
  split
  · trivial
  · exact Job.Each.ask_bind trivial fun _ => (Job.Each.ofOutcome _).bind fun _ =>
      Job.Each.notify trivial

theorem didClose_apart (file : String) : (context.didClose file).Each Operation.Apart := by
  refine context.attached_idle.apart.bind fun session => ?_
  refine Job.apart_documents (Job.Each.ask_bind trivial fun workspace => ?_)
  have forgetting (changed : Workspace) (count : Nat) :
      (Job.ask (.setWorkspace changed) >>= fun _ => (pure count : Job Nat)).Each Operation.Apart :=
    Job.Each.ask_bind trivial fun _ => trivial
  dsimp only
  split
  · refine Job.Each.ask_bind trivial fun _ => (Job.Each.ofOutcome _).bind fun _ => ?_
    exact (Job.Each.notify trivial).bind fun _ => forgetting ..
  · exact forgetting ..

end Context

namespace Editor

theorem markDirty_apart (file : String) : (markDirty file).Each Operation.Apart :=
  Job.apart_documents <| Job.Each.ask_bind trivial fun _ =>
    Job.Each.ask_bind trivial fun _ => trivial

theorem applyEdit_apart (context : Context) (edit : WorkspaceEdit)
    (cursor : Option CursorPlace) : (applyEdit context edit cursor).Each Operation.Apart := by
  have writing (planned : PlannedFile) : (writeFile context planned).Each Operation.Apart := by
    refine (loadBuffer_idle _).apart.bind fun buffer => (Job.Each.notify trivial).bind fun _ => ?_
    exact (context.sync_apart _ _).bind fun _ => markDirty_apart _
  refine (Job.Each.ofOutcome _).bind fun files => ?_
  split
  · trivial
  refine Job.Each.ask_bind trivial fun workspace => Job.Each.ask_bind trivial fun tree => ?_
  refine (Job.Each.ofOutcome _).bind fun planned => ?_
  refine (Job.Each.forM fun entry _ => writing entry).bind fun _ => ?_
  split
  · trivial
  · split
    · exact (execute_idle _).apart
    · trivial

theorem documentSaved_apart (name : DocumentName) :
    (documentSaved name).Each Operation.Apart := by
  refine (Session.trackedContext?_apart _).bind fun found => ?_
  split
  · exact Context.didSave_apart _ _
  · trivial

theorem documentClosed_apart (name : DocumentName) :
    (documentClosed name).Each Operation.Apart := by
  refine (Session.trackedContext?_apart _).bind fun found => ?_
  split
  · trivial
  · refine (Context.didClose_apart _ _).bind fun remaining => ?_
    split
    · exact (Context.attached_idle _).apart.bind fun session =>
        (Session.close_apart _).bind fun _ => trivial
    · trivial

/-- Events other than those that bring content. -/
theorem handleEvent_apart {method : String} (params : Json)
    (other : ¬ (method = "textDocument/didOpen" ∨ method = "textDocument/didChange")) :
    (handleEvent method params).Each Operation.Apart := by
  have floating (shaped : Shaped FloatEvent) : Job.Each Operation.Apart (do
      takeFloatEvent (← Job.ofShaped shaped)) :=
    (Job.Each.ofOutcome _).bind fun event =>
      Job.Each.ask_bind trivial fun _ => (carryOutAll_idle _).apart
  unfold handleEvent
  rw [if_neg other]
  split
  · exact (Job.Each.ofOutcome _).bind documentSaved_apart
  split
  · exact (Job.Each.ofOutcome _).bind documentClosed_apart
  split
  · exact floating _
  split
  · exact floating _
  split
  · exact floating _
  split
  · exact Session.shutdownAll_apart
  · trivial

end Editor

namespace Server

variable (setup : Setup) (session : Session)

theorem publish_apart (published : PublishedDiagnostics) :
    (publish setup published).Each Operation.Apart := by
  refine (Job.Each.ofOutcome _).bind fun file => Job.Each.bind ?_ fun lines => ?_
  · exact Job.apart_documents <| Job.Each.ask_bind trivial fun _ => Job.Each.ask_bind trivial
      fun _ => Job.Each.ask_bind trivial fun _ => trivial
  · split
    · exact Job.Each.notify trivial
    · trivial

theorem handleNotification_apart (method : String) (params : Json) :
    (handleNotification setup session method params).Each Operation.Apart := by
  unfold handleNotification
  split
  · exact (Job.Each.ofOutcome _).bind fun notice => Job.Each.ask_bind trivial fun _ => trivial
  split
  · exact (Job.Each.ofOutcome _).bind fun published => publish_apart setup published
  split
  · refine (Job.Each.ofOutcome _).bind fun progress => ?_
    split
    · exact Job.Each.notify trivial
    · trivial
  split
  · exact (Job.Each.ofOutcome _).bind fun notice => Job.Each.notify trivial
  · trivial

theorem resultOf_apart (method : String) (params : Json) :
    (resultOf session method params).Each Operation.Apart := by
  unfold resultOf
  split
  · split
    · refine Script.Each.bind (Editor.applyEdit_apart _ _ none) fun outcome => ?_
      cases outcome with
      | ok _ => trivial
      | error failure =>
        exact Script.Each.bind (Editor.report_idle failure).apart fun _ => trivial
    · trivial
  · trivial

theorem handle_apart (message : Message) :
    (handle setup session message).Each Operation.Apart := by
  refine (Job.Each.ask_bind trivial fun _ => trivial : Job.Each _ (handlerFor _)).bind
    fun handler => ?_
  have replying (id : RequestId) (result : Json) :
      (Job.reply session.peer id result).Each Operation.Apart :=
    (Job.Idle.reply ..).apart
  cases message with
  | call versioned id method params =>
    refine (Job.Each.ofScript (resultOf_apart session method _)).bind fun result => ?_
    split
    · exact (Job.Each.attempt (Job.Each.notify trivial)).bind fun _ => replying id result
    · exact replying id result
  | notification versioned method params =>
    refine (handleNotification_apart setup session method _).bind fun _ => ?_
    split
    · exact Job.Each.notify trivial
    · trivial
  | response answer => trivial

end Server

namespace Program

theorem serveSession_apart (setup : Setup) (session : Session) :
    (serveSession setup session).Each Operation.Apart := by
  refine ⟨trivial, fun (received : Option Message) => ?_⟩
  cases received with
  | none => trivial
  | some message =>
    change Script.Each Operation.Apart (Script.bind (Server.handle setup session message).run _)
    exact Script.Each.bind (Server.handle_apart setup session message) fun _ =>
      ⟨trivial, fun _ => trivial⟩

theorem replyToEditor_apart (id : Option RequestId) (result : Json) :
    (replyToEditor id result).Each Operation.Apart :=
  (replyToEditor_idle id result).apart

/-- What becomes of an action or event once it is done. -/
theorem concluding_apart (id : Option RequestId) (outcome : Outcome Json) :
    Script.Each Operation.Apart (match outcome with
      | .ok result => replyToEditor id result
      | .error failure => do
        Editor.report failure
        replyToEditor id .null) := by
  cases outcome with
  | ok result => exact replyToEditor_apart id result
  | error failure =>
    exact Script.Each.bind (Editor.report_idle failure).apart fun _ => replyToEditor_apart id .null

end Program

end LanguageBridge
