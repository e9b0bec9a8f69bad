import LanguageBridge.Proofs.Script.Acts
import LanguageBridge.Program

/-!
How threads behave. Whoever holds the documents does nothing that might have to wait; a server that
was started gets a thread for its messages at once; the answer to a call is waited for next, a
window that the editor opened is recorded next, and an effect on a preview is carried out next.
Beyond that a licence says whose messages a thread may take, whom it may reply to, and whether it
may open windows and show failures.
-/
namespace LanguageBridge

/-- Whose messages a work is about, taken one by one. -/
def Work.peer? : Work → Option Peer
  | .serveEditor => some .editor
  | .serveSession session => some session.peer
  | _ => none

/-- How far a call has got: it was made, perhaps for a window, and its answer will come under a
ticket, or the editor has opened a window. -/
inductive Calling
  | idle
  | asked (peer : Peer) (ticket : Nat) (window : Bool)
  | opened (surface : Surface)

/-- What a thread is in the middle of: it holds the documents, it holds the queue, it has started a
server whose messages nobody takes yet, it calls somebody, or it has an effect to carry out. -/
structure Posture where
  documents : Option LockMode := none
  queue : Bool := false
  spawned : Option ServerId := none
  calling : Calling := .idle
  effect : Option FloatEffect := none

/-- What a thread may do: take the messages of a peer and hand over to another thread that does, leave
actions to threads of their own, reply to a peer, show failures, and open windows. -/
structure Licence where
  takes : Option Peer := none
  delegates : Bool := false
  replies : Option Peer := none
  reports : Bool := false
  floats : Bool := false

/-- The window that the editor opened, by its answer. -/
def Surface.opened? : Outcome Json → Option Surface
  | .ok json => ((Json.readOption Surface.read json).toOption).join
  | .error _ => none

/-- What the editor is told for an effect. -/
def FloatEffect.telling : FloatEffect → Operation
  | .destroy surface => .notify .editor "vim#close_float_win" (.arr [surface.toJson])
  | .wipe buffer =>
    .call .editor "execute" (.arr [Editor.Command.toJson
      { action := "execute", command := s!"silent! bwipeout! {buffer}" }])
  | .focus window =>
    .call .editor "execute" (.arr [Editor.Command.toJson
      { action := "call", command := s!"win_gotoid({window})" }])

/-- The effects that an act was told to carry out. -/
def Act.effects : Act → List FloatEffect
  | ⟨.floatEvent _, answer⟩ => (answer : List FloatEffect)
  | ⟨.reveal .., answer⟩ => (answer : List FloatEffect)
  | ⟨.hoverAgain _, answer⟩ => (answer : Option (List FloatEffect)).getD []
  | _ => []

namespace Operation

/-- The failure that an operation shows to the user. -/
def alarm? : Operation → Option String
  | .notify .editor method (.arr [notice]) =>
    match notice.get? "level", notice.get? "message" with
    | some (.str level), some (.str message) =>
      if method = "vim#show_message" ∧ level = "Error" then some message else none
    | _, _ => none
  | _ => none

/-- Nothing but a message to the user shows a failure. -/
theorem alarm?_of_ne {peer : Peer} {method : String} (params : Json)
    (other : method ≠ "vim#show_message") : (notify peer method params).alarm? = none := by
  unfold alarm?
  split
  · rename_i same
    cases same
    split
    · exact if_neg fun both => other both.1
    · rfl
  · rfl

/-- Whether an operation asks the editor for a window. -/
def opens : Operation → Bool
  | .call peer method _ => peer = .editor && method = "vim#open_float_win"
  | _ => false

/-- What may be done while the documents are held: nothing that might have to wait. -/
def Prompt (mode : LockMode) : Operation → Prop
  | .workspace | .disk | .notify (.server _) .. => True
  | .setWorkspace _ => mode = .exclusive
  | _ => False

end Operation

/-- What a licence permits a thread that is in the middle of nothing but perhaps the queue. -/
def Licence.Permits (licence : Licence) (queue : Bool) : Operation → Prop
  | .acquire .queue _ => queue = false
  | .release .queue => queue = true
  | .acquire .. | .release (.starting _) => True
  | .release .documents | .setWorkspace _ | .reveal .. | .connect _ | .await _ => False
  | .receive peer => licence.takes = some peer
  | .reply peer .. => licence.replies = some peer
  | .notify peer method params =>
    (Operation.notify peer method params).alarm?.isSome → licence.reports = true ∨ queue = true
  | .call peer method params =>
    (Operation.call peer method params).opens = true → licence.floats = true
  | .fork .serveEditor => licence.takes = some .editor
  | .fork (.runAction ..) => licence.delegates = true
  | .fork (.serveSession session) => licence.takes = some session.peer
  | _ => True

/-- What a licence allows a thread in a posture. -/
inductive Licence.Allows (licence : Licence) : Posture → Operation → Prop
  | free {queue : Bool} {operation : Operation} (permitted : licence.Permits queue operation) :
      Allows licence { queue } operation
  | prompt {mode : LockMode} {queue : Bool} {operation : Operation}
      (prompt : operation.Prompt mode) : Allows licence { documents := some mode, queue } operation
  | release {mode : LockMode} {queue : Bool} :
      Allows licence { documents := some mode, queue } (.release .documents)
  | serve {server : ServerId} {queue : Bool} {session : Session} (same : session.server = server) :
      Allows licence { queue, spawned := some server } (.fork (.serveSession session))
  | wait {peer : Peer} {ticket : Nat} {window queue : Bool} :
      Allows licence { queue, calling := .asked peer ticket window } (.await ticket)
  | reveal {surface : Surface} {queue : Bool} {anchor : Anchor} :
      Allows licence { queue, calling := .opened surface } (.reveal anchor surface)
  | carry {effect : FloatEffect} {queue : Bool} {operation : Operation}
      (tells : effect.telling = operation) : Allows licence { queue, effect := some effect } operation

/-- How a call goes on once an answer has come. -/
def Calling.answered (outcome : Outcome Json) : Calling → Calling
  | .asked _ _ true =>
    match Surface.opened? outcome with
    | some surface => .opened surface
    | none => .idle
  | _ => .idle

/-- The posture after a act. -/
def Posture.after (posture : Posture) : Act → Posture
  | ⟨.acquire .documents mode, _⟩ => { posture with documents := some mode }
  | ⟨.release .documents, _⟩ => { posture with documents := none }
  | ⟨.acquire .queue _, _⟩ => { posture with queue := true }
  | ⟨.release .queue, _⟩ => { posture with queue := false }
  | ⟨.spawn .., answer⟩ =>
    { posture with spawned := (answer : Except SystemError ServerId).toOption }
  | ⟨.fork (.serveSession _), _⟩ => { posture with spawned := none }
  | ⟨.notify .., _⟩ => { posture with effect := none }
  | ⟨.call peer method params, answer⟩ =>
    match (answer : Outcome Nat) with
    | .ok ticket => { posture with
        calling := .asked peer ticket (Operation.call peer method params).opens, effect := none }
    | .error _ => { posture with effect := none }
  | ⟨.await _, answer⟩ => { posture with calling := posture.calling.answered answer }
  | ⟨.reveal anchor surface, answer⟩ => { posture with
      calling := .idle, effect := (Act.effects ⟨.reveal anchor surface, answer⟩).head? }
  | ⟨.floatEvent event, answer⟩ => { posture with
      effect := (Act.effects ⟨.floatEvent event, answer⟩).head? }
  | ⟨.hoverAgain buffer, answer⟩ => { posture with
      effect := (Act.effects ⟨.hoverAgain buffer, answer⟩).head? }
  | _ => posture

/-- The rules that a licence gives. -/
def Licence.rules (licence : Licence) : Rules Posture where
  expects := fun _ _ _ => True
  turns := fun posture operation answer after =>
    licence.Allows posture operation ∧ after = posture.after ⟨operation, answer⟩

/-- A thread in the middle of nothing but perhaps the queue. -/
abbrev Posture.calm (queue : Bool) : Posture := { queue }

/-- A script that goes by a licence, in the middle of no more at its end than at its beginning. -/
def Script.Behaves {α : Type} (licence : Licence) (queue : Bool) (script : Script α) : Prop :=
  script.Guided licence.rules (.calm queue) fun _ after => after = .calm queue

/-- A job that goes by a licence, in the middle of no more at its end than at its beginning. -/
def Job.Behaves {α : Type} (licence : Licence) (queue : Bool) (job : Job α) : Prop :=
  job.run.Behaves licence queue

variable {α β : Type} {licence : Licence} {queue : Bool}

theorem Script.Behaves.bind {script : Script α} {next : α → Script β}
    (first : script.Behaves licence queue) (rest : ∀ value, (next value).Behaves licence queue) :
    (script.bind next).Behaves licence queue := by
  refine Script.Guided.bind first ?_
  rintro value _ rfl
  exact rest value

theorem Script.Behaves.done (value : α) : (Script.done value).Behaves licence queue := rfl

theorem Script.Behaves.step {operation : Operation} {next : operation.Answer → Script α}
    (permitted : licence.Permits queue operation)
    (still : ∀ answer, (Posture.calm queue).after ⟨operation, answer⟩ = .calm queue)
    (rest : ∀ answer, (next answer).Behaves licence queue) :
    (Script.step operation next).Behaves licence queue := by
  intro answer _
  exact ⟨.calm queue, ⟨.free permitted, (still answer).symm⟩, rest answer⟩

namespace Job.Behaves

theorem pure (value : α) : (Pure.pure value : Job α).Behaves licence queue := rfl

theorem throw (failure : Failure) : (throw failure : Job α).Behaves licence queue := rfl

theorem ofOutcome (outcome : Outcome α) : (Job.ofOutcome outcome).Behaves licence queue := rfl

theorem bind {job : Job α} {next : α → Job β} (first : job.Behaves licence queue)
    (rest : ∀ value, (next value).Behaves licence queue) :
    (job >>= next).Behaves licence queue := by
  refine Script.Behaves.bind first fun outcome => ?_
  cases outcome with
  | ok value => exact rest value
  | error failure => rfl

/-- An operation that the licence permits, and that the thread is not in the middle of anything
after. -/
theorem ask_bind {operation : Operation} {next : operation.Answer → Job β}
    (permitted : licence.Permits queue operation)
    (still : ∀ answer, (Posture.calm queue).after ⟨operation, answer⟩ = .calm queue)
    (rest : ∀ answer, (next answer).Behaves licence queue) :
    (Job.ask operation >>= next).Behaves licence queue :=
  Script.Behaves.step permitted still rest

theorem notify {peer : Peer} {method : String} {params : Json}
    (permitted : licence.Permits queue (.notify peer method params)) :
    (Job.notify peer method params).Behaves licence queue :=
  Script.Behaves.step permitted (fun _ => rfl) fun _ => rfl

/-- What is said to a server is no failure that is shown to the user. -/
theorem notify_server (server : ServerId) (method : String) (params : Json) :
    (Job.notify (.server server) method params).Behaves licence queue :=
  notify fun alarms => by cases alarms

theorem reply {peer : Peer} {id : RequestId} {result : Json}
    (permitted : licence.replies = some peer) :
    (Job.reply peer id result).Behaves licence queue :=
  Script.Behaves.step permitted (fun _ => rfl) fun _ => rfl

/-- Whoever calls waits for the answer next. -/
theorem calls {effect : Option FloatEffect} {peer : Peer} {method : String} {params : Json}
    (allows : licence.Allows { queue, effect } (.call peer method params)) :
    Job.Guided licence.rules (ExceptT.mk (Script.ask (.call peer method params)) : Job Nat)
      { queue, effect } fun outcome after => after = { queue, calling :=
        match outcome with
        | .ok ticket => .asked peer ticket (Operation.call peer method params).opens
        | .error _ => .idle } := by
  intro (answer : Outcome Nat) _
  refine ⟨_, ⟨allows, rfl⟩, ?_⟩
  cases answer <;> rfl

theorem awaits (peer : Peer) (ticket : Nat) (window : Bool) :
    Job.Guided licence.rules (ExceptT.mk (Script.ask (.await ticket)) : Job Json)
      { queue, calling := .asked peer ticket window } fun outcome after =>
        after = { queue, calling := (Calling.asked peer ticket window).answered outcome } :=
  fun _ _ => ⟨_, ⟨.wait, rfl⟩, rfl⟩

/-- After a call that asks for no window a thread is in the middle of nothing. -/
theorem called {effect : Option FloatEffect} {peer : Peer} {method : String} {params : Json}
    (read : Json → Shaped α) (other : (Operation.call peer method params).opens = false)
    (allows : licence.Allows { queue, effect } (.call peer method params)) :
    (Job.call peer method params read).Guided licence.rules { queue, effect } fun _ after =>
      after = .calm queue := by
  refine Job.Guided.bind (calls allows) ?_ ?_
  · rintro failure _ rfl
    rfl
  rintro ticket _ rfl
  rw [other]
  refine Job.Guided.bind (awaits peer ticket false) ?_ ?_
  · rintro failure _ rfl
    rfl
  rintro result _ rfl
  cases read result <;> rfl

theorem call {peer : Peer} {method : String} {params : Json} (read : Json → Shaped α)
    (other : (Operation.call peer method params).opens = false) :
    (Job.call peer method params read).Behaves licence queue :=
  called read other (.free (by simp [Licence.Permits, other]))

theorem call_server {server : ServerId} {method : String} {params : Json}
    (read : Json → Shaped α) :
    (Job.call (.server server) method params read).Behaves licence queue :=
  call read rfl

theorem ofScript {script : Script α} (behaves : script.Behaves licence queue) :
    (Job.ofScript script).Behaves licence queue :=
  Script.Behaves.bind behaves fun _ => rfl

theorem attempt {job : Job α} (behaves : job.Behaves licence queue) :
    (Job.attempt job).Behaves licence queue :=
  Script.Behaves.bind behaves fun _ => rfl

theorem forM {f : α → Job Unit} (each : ∀ value, (f value).Behaves licence queue)
    (values : List α) : (values.forM f).Behaves licence queue := by
  induction values with
  | nil => rfl
  | cons value rest ih => exact (each value).bind fun _ => ih

/-- The documents are held while something prompt is done. -/
theorem holding_documents {mode : LockMode} {job : Job α} (prompt : job.Each (Operation.Prompt mode)) :
    (Job.holding .documents mode job).Behaves licence queue := by
  let held : Posture := { documents := some mode, queue }
  have keeps (operation : Operation) (fits : operation.Prompt mode) :
      licence.rules.Keeps held operation := by
    intro answer _
    refine ⟨.prompt fits, ?_⟩
    cases operation <;> first | rfl | cases fits
  have takes : licence.rules.turns (.calm queue) (.acquire .documents mode) () held :=
    ⟨.free trivial, rfl⟩
  refine Job.Guided.holding takes ?_
  refine Script.Guided.mono (Script.Each.guided (Script.Each.mono prompt keeps)) ?_
  rintro outcome _ rfl
  exact ⟨_, ⟨.release, rfl⟩, rfl⟩

/-- The queue is held, by a thread that did not hold it. -/
theorem holding_queue {job : Job α} (inside : job.Behaves licence true) :
    (Job.holding .queue .exclusive job).Behaves licence false := by
  have takes : licence.rules.turns (.calm false) (.acquire .queue .exclusive) () (.calm true) :=
    ⟨.free rfl, rfl⟩
  refine Job.Guided.holding takes ?_
  refine Script.Guided.mono inside ?_
  rintro outcome _ rfl
  exact ⟨_, ⟨.free rfl, rfl⟩, rfl⟩

theorem holding_start {key : SessionKey} {job : Job α} (inside : job.Behaves licence queue) :
    (Job.holding (.starting key) .exclusive job).Behaves licence queue := by
  have takes : licence.rules.turns (.calm queue) (.acquire (.starting key) .exclusive) ()
      (.calm queue) := ⟨.free trivial, rfl⟩
  refine Job.Guided.holding takes ?_
  refine Script.Guided.mono inside ?_
  rintro outcome _ rfl
  exact ⟨_, ⟨.free trivial, rfl⟩, rfl⟩

end Job.Behaves

namespace Licence.Allows

variable {posture : Posture} {peer : Peer} {operation : Operation}

theorem receive (allows : licence.Allows posture (.receive peer)) : licence.takes = some peer := by
  cases allows with
  | free permitted => exact permitted
  | prompt impossible => cases impossible
  | @carry effect _ _ tells => cases effect <;> cases tells

theorem reply {id : RequestId} {result : Json}
    (allows : licence.Allows posture (.reply peer id result)) : licence.replies = some peer := by
  cases allows with
  | free permitted => exact permitted
  | prompt impossible => cases impossible
  | @carry effect _ _ tells => cases effect <;> cases tells

theorem delegate {id : Option RequestId} {method : String} {params : Json}
    (allows : licence.Allows posture (.fork (.runAction id method params))) :
    licence.delegates = true := by
  cases allows with
  | free permitted => exact permitted
  | prompt impossible => cases impossible
  | @carry effect _ _ tells => cases effect <;> cases tells

/-- A thread for a peer's messages is started by the one that takes them, or right after the
server. -/
theorem hand_over {work : Work} (allows : licence.Allows posture (.fork work))
    (serves : work.peer? = some peer) : licence.takes = some peer ∨
      ∃ server, peer = .server server ∧ posture.spawned = some server := by
  cases work with
  | serveEditor =>
    cases serves
    cases allows with
    | free permitted => exact .inl permitted
    | prompt impossible => cases impossible
    | @carry effect _ _ tells => cases effect <;> cases tells
  | serveSession session =>
    cases serves
    cases allows with
    | free permitted => exact .inl permitted
    | prompt impossible => cases impossible
    | @carry effect _ _ tells => cases effect <;> cases tells
    | serve same => exact .inr ⟨_, congrArg Peer.server same, rfl⟩
  | _ => cases serves

/-- Failures are shown under a licence, or about what was queued. -/
theorem alarm (allows : licence.Allows posture operation) (alarms : operation.alarm?.isSome) :
    licence.reports = true ∨ posture.queue = true := by
  cases allows with
  | free permitted =>
    cases operation with
    | notify => exact permitted alarms
    | _ => cases alarms
  | prompt prompt =>
    cases operation with
    | notify peer =>
      cases peer with
      | editor => cases prompt
      | server => cases alarms
    | _ => cases alarms
  | @carry effect _ _ tells =>
    subst tells
    cases effect with
    | destroy surface =>
      rw [FloatEffect.telling, Operation.alarm?_of_ne _ (by decide)] at alarms
      cases alarms
    | _ => cases alarms
  | _ => cases alarms

theorem open_window (allows : licence.Allows posture operation) (opens : operation.opens = true) :
    licence.floats = true ∧ posture.calling = .idle := by
  cases allows with
  | free permitted =>
    cases operation with
    | call => exact ⟨permitted opens, rfl⟩
    | _ => cases opens
  | prompt prompt =>
    cases operation with
    | call => cases prompt
    | _ => cases opens
  | @carry effect _ _ tells =>
    subst tells
    cases effect <;> exact absurd opens (by simp [FloatEffect.telling, Operation.opens])
  | _ => cases opens

/-- Whoever waits for an answer has made a call. -/
theorem asked {ticket : Nat} (allows : licence.Allows posture (.await ticket)) :
    ∃ peer window, posture.calling = .asked peer ticket window := by
  cases allows with
  | free impossible => cases impossible
  | prompt impossible => cases impossible
  | wait => exact ⟨_, _, rfl⟩
  | @carry effect _ _ tells => cases effect <;> cases tells

end Licence.Allows

end LanguageBridge
