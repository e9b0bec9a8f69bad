import LanguageBridge.Editor.Events
import LanguageBridge.Proofs.Document.Notice
import LanguageBridge.Proofs.Script.Runs
import LanguageBridge.Proofs.Script.Performed

/-!
All that servers are told of documents, saving included, and which documents a server has open after
it was told so much. What a script may say is read off its operations.
-/
namespace LanguageBridge

/-- Something that a server is told of a document. -/
inductive Told
  | notice (notice : Notice)
  | saved (uri : String)
  deriving DecidableEq, Repr

namespace Told

/-- What is told of a document in a notification, if anything is. -/
def read? (method : String) (params : Json) : Option Told :=
  if method = "textDocument/didSave" then
    ((params.get? "textDocument").bind (·.get? "uri")).bind fun uri =>
      (Notice.string? uri).map saved
  else (Notice.read? method params).map notice

/-- What a server was told with something that was said. -/
def heard? (server : ServerId) : Sent → Option Told
  | .notification peer method params =>
    if peer = .server server then read? method params.toJson else none
  | _ => none

/-- The documents that are open once a server was told something more. A document is opened when it
is not open, and changed, saved and closed when it is. -/
def follow? (opened : List String) : Told → Option (List String)
  | .notice (.opened uri _ _) => if uri ∈ opened then none else some (uri :: opened)
  | .notice (.changed uri _ _) => if uri ∈ opened then some opened else none
  | .notice (.closed uri) => if uri ∈ opened then some (opened.filter (· ≠ uri)) else none
  | .saved uri => if uri ∈ opened then some opened else none

/-- The documents that are open on a server that was told all this; `none` when it was told of one
what it may not be told. -/
def openAfter? (stream : List Told) : Option (List String) := stream.foldlM follow? []

theorem openAfter?_append (first second : List Told) :
    openAfter? (first ++ second) = (openAfter? first).bind (second.foldlM follow? ·) :=
  List.foldlM_append

theorem openAfter?_concat (stream : List Told) (told : Told) :
    openAfter? (stream ++ [told]) = (openAfter? stream).bind (follow? · told) := by
  rw [openAfter?_append]
  cases openAfter? stream with
  | none => rfl
  | some opened => simp

/-- Whether something is told of saving. -/
def Saving (sent : Sent) : Prop := ∃ server uri, heard? server sent = some (.saved uri)

theorem heard?_of_not_saving {sent : Sent} (other : ¬ Saving sent) (server : ServerId) :
    heard? server sent = (Notice.heard? server sent).map notice := by
  cases sent with
  | call | reply => rfl
  | notification peer method params =>
    simp only [heard?, Notice.heard?, read?]
    split
    · rename_i here
      split
      · rename_i save
        have silent : read? method params.toJson = none := by
          cases heard : read? method params.toJson with
          | none => rfl
          | some told =>
            exfalso
            cases told with
            | saved uri => exact other ⟨server, uri, by simp [heard?, here, heard]⟩
            | notice notice => simp [read?, save, Option.bind_eq_some_iff] at heard
        rw [read?, if_pos save] at silent
        subst save
        rw [silent]
        cases noticed : Notice.read? "textDocument/didSave" params.toJson with
        | none => rfl
        | some notice => simp [Notice.read?] at noticed
      · rfl
    · rfl

end Told

/-- All that a server was told of documents so far. -/
def World.toldTo (world : World) (server : ServerId) : List Told :=
  world.traffic.filterMap (Told.heard? server)

/-- What a script says is all of some kind. -/
def Script.Says {α : Type} (allowed : Sent → Prop) : Script α → Prop
  | .done _ => True
  | .step operation next =>
    (∀ world, ∀ sent ∈ operation.saying world, allowed sent) ∧
      ∀ answer, Says allowed (next answer)

variable {allowed : Sent → Prop} {α β : Type}

namespace Script.Says

theorem bind {script : Script α} {next : α → Script β} (speaks : script.Says allowed)
    (rest : ∀ value, (next value).Says allowed) : (script.bind next).Says allowed := by
  induction script with
  | done value => exact rest value
  | step operation onward ih => exact ⟨speaks.1, fun answer => ih answer (speaks.2 answer)⟩

/-- Nothing but what a script says is added to what was said. -/
theorem runs {host : Host} {thread : Nat} {script : Script α} {world last : World} {value : α}
    (speaks : script.Says allowed) (runs : script.Runs host thread world value last) :
    ∃ added, last.traffic = world.traffic ++ added ∧ ∀ sent ∈ added, allowed sent := by
  induction runs with
  | done => exact ⟨[], by simp, by simp⟩
  | step performed _ ih =>
    obtain ⟨added, grown, kind⟩ := ih (speaks.2 _)
    rw [(World.performed performed).traffic, List.append_assoc] at grown
    refine ⟨_, grown, fun sent member => ?_⟩
    rcases List.mem_append.mp member with now | later
    · exact speaks.1 _ sent now
    · exact kind sent later
  | happen happening _ ih =>
    obtain ⟨added, grown, kind⟩ := ih speaks
    rw [(World.Undisturbed.happening _ happening).traffic] at grown
    exact ⟨added, grown, kind⟩

end Script.Says

namespace Job

/-- What a job says is all of some kind. -/
def Says (allowed : Sent → Prop) (job : Job α) : Prop := job.run.Says allowed

namespace Says

variable {job : Job α} {next : α → Job β}

theorem pure (value : α) : (Pure.pure value : Job α).Says allowed := trivial

theorem throw (failure : Failure) : (throw failure : Job α).Says allowed := trivial

theorem ofOutcome (outcome : Outcome α) : (Job.ofOutcome outcome).Says allowed := trivial

theorem bind (speaks : job.Says allowed) (rest : ∀ value, (next value).Says allowed) :
    (job >>= next).Says allowed := by
  apply Script.Says.bind speaks
  intro outcome
  cases outcome with
  | ok value => exact rest value
  | error failure => exact trivial

/-- An operation that says nothing. -/
theorem ask_bind {operation : Operation} {next : operation.Answer → Job β}
    (silent : ∀ world, operation.saying world = [])
    (rest : ∀ answer, (next answer).Says allowed) : (Job.ask operation >>= next).Says allowed :=
  ⟨fun world sent member => by simp [silent world] at member, rest⟩

theorem attempt (speaks : job.Says allowed) : (Job.attempt job).Says allowed :=
  Script.Says.bind speaks fun _ => trivial

theorem holding {lock : Lock} {mode : LockMode} (speaks : job.Says allowed) :
    (Job.holding lock mode job).Says allowed := by
  have within := Script.Says.bind speaks fun outcome =>
    (show (Script.step (.release lock) fun _ => Script.done outcome).Says allowed from
      ⟨fun _ _ member => (List.not_mem_nil member).elim, fun _ => trivial⟩)
  exact ⟨fun _ _ member => (List.not_mem_nil member).elim, fun _ => within⟩

theorem forM {f : α → Job Unit} (each : ∀ value, (f value).Says allowed) (values : List α) :
    (values.forM f).Says allowed := by
  induction values with
  | nil => exact pure ()
  | cons value rest ih => exact (each value).bind fun _ => ih

theorem notify {peer : Peer} {method : String} {params : Json}
    (fits : allowed (.notification peer method (Params.ofJson params))) :
    (Job.notify peer method params).Says allowed := by
  refine ⟨fun world sent member => ?_, fun _ => trivial⟩
  simp only [Operation.saying] at member
  split at member
  · rw [List.mem_singleton.mp member]
    exact fits
  · cases member

theorem call {peer : Peer} {method : String} {params : Json} {read : Json → Shaped α}
    (fits : ∀ ticket, allowed (.call peer ticket method (Params.ofJson params))) :
    (Job.call peer method params read).Says allowed := by
  have asking : Says allowed (ExceptT.mk (Script.ask (.call peer method params)) : Job Nat) := by
    refine ⟨fun world sent member => ?_, fun _ => trivial⟩
    simp only [Operation.saying] at member
    split at member
    · rw [List.mem_singleton.mp member]
      exact fits _
    · cases member
  have awaiting (ticket : Nat) :
      Says allowed (ExceptT.mk (Script.ask (.await ticket)) : Job Json) :=
    ⟨fun _ _ member => (List.not_mem_nil member).elim, fun _ => trivial⟩
  unfold Job.call
  refine asking.bind fun ticket => (awaiting ticket).bind fun json => ?_
  split
  · exact pure _
  · exact throw _

end Says

end Job

end LanguageBridge

/-!
Nothing but the handling of a save tells servers of saving.
-/
namespace LanguageBridge

variable {α β : Type}

/-- A job that tells no server of saving. -/
abbrev Job.Unsaving (job : Job α) : Prop := job.Says fun sent => ¬ Told.Saving sent

theorem Told.not_saving_of_method {peer : Peer} {method : String} {params : Params}
    (other : method ≠ "textDocument/didSave") :
    ¬ Saving (.notification peer method params) := by
  rintro ⟨server, uri, heard⟩
  simp only [heard?, read?, if_neg other] at heard
  split at heard
  · cases noticed : Notice.read? method params.toJson <;> simp [noticed] at heard
  · cases heard

theorem Told.not_saving_of_editor {method : String} {params : Params} :
    ¬ Saving (.notification .editor method params) := by
  rintro ⟨server, uri, heard⟩
  simp [heard?] at heard

theorem Told.not_saving_of_call {peer : Peer} {ticket : Nat} {method : String} {params : Params} :
    ¬ Saving (.call peer ticket method params) := by
  rintro ⟨server, uri, heard⟩
  cases heard

namespace Job.Unsaving

theorem notify {peer : Peer} {method : String} (other : method ≠ "textDocument/didSave")
    (params : Json) : (Job.notify peer method params).Unsaving :=
  Job.Says.notify (Told.not_saving_of_method other)

theorem notify_editor (method : String) (params : Json) :
    (Job.notify .editor method params).Unsaving :=
  Job.Says.notify Told.not_saving_of_editor

theorem call (peer : Peer) (method : String) (params : Json) (read : Json → Shaped α) :
    (Job.call peer method params read).Unsaving :=
  Job.Says.call fun _ => Told.not_saving_of_call

theorem ask_bind {operation : Operation} {next : operation.Answer → Job β}
    (silent : ∀ world, operation.saying world = []) (rest : ∀ answer, (next answer).Unsaving) :
    (Job.ask operation >>= next).Unsaving :=
  Job.Says.ask_bind silent rest

end Job.Unsaving

namespace Context

theorem attached_unsaving (context : Context) : context.attached.Unsaving := by
  unfold attached
  split
  · exact .pure _
  · exact .throw _

theorem sync_unsaving (context : Context) (file : String) (text : Text) :
    (context.sync file text).Unsaving := by
  refine context.attached_unsaving.bind fun session => ?_
  refine (Job.Says.ofOutcome _).bind fun uri => Job.Says.holding ?_
  refine Job.Unsaving.ask_bind (fun _ => rfl) fun (workspace : Workspace) => ?_
  split
  · split
    · refine Job.Unsaving.ask_bind (fun _ => rfl) fun _ => ?_
      exact (Job.Unsaving.notify (by decide) _).bind fun _ => .pure _
    · exact .pure _
  · refine (Job.Unsaving.notify (by decide) _).bind fun _ => ?_
    exact Job.Unsaving.ask_bind (fun _ => rfl) fun _ => .pure _

theorem didClose_unsaving (context : Context) (file : String) :
    (context.didClose file).Unsaving := by
  refine context.attached_unsaving.bind fun session => Job.Says.holding ?_
  refine Job.Unsaving.ask_bind (fun _ => rfl) fun (workspace : Workspace) => ?_
  have forgetting (changed : Workspace) (count : Nat) :
      (Job.ask (.setWorkspace changed) >>= fun _ => (pure count : Job Nat)).Unsaving :=
    Job.Unsaving.ask_bind (fun _ => rfl) fun _ => .pure _
  dsimp only
  split
  · refine Job.Unsaving.ask_bind (fun _ => rfl) fun _ => ?_
    refine (Job.Says.ofOutcome _).bind fun uri => ?_
    exact (Job.Unsaving.notify (by decide) _).bind fun _ => forgetting _ _
  · exact forgetting _ _

end Context

namespace Session

theorem reopen_unsaving (session : Session) : session.reopen.Unsaving := by
  refine Job.Says.holding (Job.Unsaving.ask_bind (fun _ => rfl) fun (workspace : Workspace) => ?_)
  refine Job.Says.forM (fun entry => ?_) _
  exact (Job.Says.ofOutcome _).bind fun uri => Job.Unsaving.notify (by decide) _

theorem endProcess_unsaving (session : Session) : session.endProcess.Unsaving := by
  unfold endProcess
  split
  · exact Job.Unsaving.ask_bind (fun _ => rfl) fun _ => .pure _
  · exact .pure _

theorem introduceAll_unsaving (setup : Setup) (session : Session) :
    (introduceAll setup session).Unsaving := by
  have introducing (options : Option Json) : Job.Unsaving (do
      let capabilities ← session.introduce setup options
      session.confirm
      return capabilities) := by
    refine Job.Says.bind ?_ fun capabilities => ?_
    · exact (Job.Says.ofOutcome _).bind fun _ => Job.Unsaving.call _ _ _ _
    · exact (Job.Unsaving.notify (by decide) _).bind fun _ => .pure _
  have givingUp (failure : Failure) :
      (session.endProcess >>= fun _ => (throw failure : Job Session)).Unsaving :=
    session.endProcess_unsaving.bind fun _ => .throw _
  refine (introducing _).attempt.bind fun introduced => ?_
  split
  · exact givingUp _
  · refine session.reopen_unsaving.attempt.bind fun opened => ?_
    split
    · exact givingUp _
    · exact .pure _

theorem start_unsaving (setup : Setup) (key : SessionKey) : (start setup key).Unsaving := by
  unfold start
  refine Job.Unsaving.ask_bind (fun _ => rfl) fun (extensions : Extensions) => ?_
  split
  · exact .throw _
  · exact .throw _
  split
  · exact .throw _
  refine Job.Unsaving.ask_bind (fun _ => rfl) fun spawned => ?_
  split
  · exact .throw _
  · exact Job.Unsaving.ask_bind (fun _ => rfl) fun _ => introduceAll_unsaving setup _

end Session

namespace Editor

theorem loadBuffer_unsaving (file : String) : (loadBuffer file).Unsaving := by
  refine (Job.Unsaving.call _ _ _ _).bind fun buffer => ?_
  split
  · exact (Job.Says.throw _).bind fun _ => .pure _
  · exact .pure _

end Editor

end LanguageBridge
