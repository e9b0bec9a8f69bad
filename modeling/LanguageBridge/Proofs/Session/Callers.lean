import Mathlib.Logic.Function.Basic
import LanguageBridge.Proofs.Script.Performed
import LanguageBridge.Session.Start

/-!
Threads that use the sessions in common. Whatever else a thread does, it has the registry only
through four calls: looking for a session, getting or starting one, removing one and draining all.
A thread is at a place in its calls, and the moves from there are the steps of the calls' scripts.
-/
namespace LanguageBridge

/-- Whether an operation is neither a change of the sessions in use nor a matter of who may start
one. -/
def Operation.Outside : Operation → Prop
  | .register .. | .unregister _ | .drain | .dropIfDead _ => False
  | .acquire (.starting _) _ | .release (.starting _) => False
  | _ => True

/-- A script that does not touch the registry. -/
def Script.Outside {α : Type} : Script α → Prop
  | .done _ => True
  | .step operation next => operation.Outside ∧ ∀ answer, (next answer).Outside

namespace Script.Outside

variable {α β : Type}

theorem bind {script : Script α} {next : α → Script β} (first : script.Outside)
    (rest : ∀ value, (next value).Outside) : (script.bind next).Outside := by
  induction script with
  | done value => exact rest value
  | step operation onward ih => exact ⟨first.1, fun answer => ih answer (first.2 answer)⟩

end Script.Outside

namespace Job

variable {α β : Type}

/-- A job that does not touch the registry. -/
def Outside (job : Job α) : Prop := job.run.Outside

namespace Outside

theorem bind {job : Job α} {next : α → Job β} (first : job.Outside)
    (rest : ∀ value, (next value).Outside) : (job >>= next).Outside := by
  refine Script.Outside.bind first fun outcome => ?_
  cases outcome with
  | ok value => exact rest value
  | error failure => trivial

theorem ask_bind {operation : Operation} {next : operation.Answer → Job β}
    (outside : operation.Outside) (rest : ∀ answer, (next answer).Outside) :
    (Job.ask operation >>= next).Outside :=
  ⟨outside, rest⟩

theorem ofOutcome (outcome : Outcome α) : (Job.ofOutcome outcome).Outside := trivial

theorem attempt {job : Job α} (outside : job.Outside) : (Job.attempt job).Outside :=
  Script.Outside.bind outside fun _ => trivial

theorem holding {lock : Lock} {mode : LockMode} {job : Job α}
    (apart : ∀ key, lock ≠ .starting key) (outside : job.Outside) :
    (Job.holding lock mode job).Outside := by
  have locking : (Operation.acquire lock mode).Outside ∧ (Operation.release lock).Outside := by
    cases lock with
    | starting key => exact absurd rfl (apart key)
    | _ => exact ⟨trivial, trivial⟩
  have inside (outcome : Outcome α) :
      (Script.step (.release lock) fun _ => .done outcome).Outside := ⟨locking.2, fun _ => trivial⟩
  have rest : (job.run.bind fun outcome =>
      Script.step (.release lock) fun _ => .done outcome).Outside :=
    Script.Outside.bind outside inside
  exact ⟨locking.1, fun _ => rest⟩

theorem call (peer : Peer) (method : String) (params : Json) (read : Json → Shaped α) :
    (Job.call peer method params read).Outside := by
  have asking : Job.Outside (ExceptT.mk (Script.ask (.call peer method params)) : Job Nat) :=
    ⟨trivial, fun _ => trivial⟩
  have awaiting (ticket : Nat) :
      Job.Outside (ExceptT.mk (Script.ask (.await ticket)) : Job Json) :=
    ⟨trivial, fun _ => trivial⟩
  unfold Job.call
  refine bind asking fun ticket => bind (awaiting ticket) fun result => ?_
  split <;> trivial

theorem notify (peer : Peer) (method : String) (params : Json) :
    (Job.notify peer method params).Outside :=
  ⟨trivial, fun _ => trivial⟩

theorem forM {f : α → Job Unit} (each : ∀ value, (f value).Outside) (values : List α) :
    (values.forM f).Outside := by
  induction values with
  | nil => trivial
  | cons value rest ih => exact (each value).bind fun _ => ih

end Outside

end Job

namespace Session

theorem endProcess_outside (session : Session) : session.endProcess.Outside := by
  unfold endProcess
  split
  · exact ⟨trivial, fun _ => trivial⟩
  · trivial

theorem reopen_outside (session : Session) : session.reopen.Outside := by
  refine Job.Outside.holding nofun (Job.Outside.ask_bind trivial fun workspace => ?_)
  exact Job.Outside.forM (fun entry => (Job.Outside.ofOutcome _).bind fun uri => .notify ..) _

theorem introduceAll_outside (setup : Setup) (session : Session) :
    (introduceAll setup session).Outside := by
  have introducing (options : Option Json) :
      (do
        let capabilities ← session.introduce setup options
        session.confirm
        return capabilities : Job Json).Outside :=
    ((Job.Outside.ofOutcome _).bind fun uri => .call ..).bind fun capabilities =>
      (Job.Outside.notify ..).bind fun _ => trivial
  refine Job.Outside.bind (introducing _).attempt fun introduced => ?_
  cases introduced with
  | error failure => exact (endProcess_outside session).bind fun _ => trivial
  | ok capabilities =>
    refine Job.Outside.bind (reopen_outside session).attempt fun opened => ?_
    cases opened with
    | error failure => exact (endProcess_outside session).bind fun _ => trivial
    | ok _ => trivial

/-- The program starts a session without touching the registry. -/
theorem start_outside (setup : Setup) (key : SessionKey) : (start setup key).Outside := by
  refine Job.Outside.ask_bind trivial fun extensions => ?_
  split
  · trivial
  · trivial
  · split
    · trivial
    · refine Job.Outside.ask_bind trivial fun spawned => ?_
      split
      · trivial
      · exact Job.Outside.ask_bind trivial fun _ => introduceAll_outside setup _

end Session

namespace Registry

/-- A way to start a session; it is not the business of a start to touch the registry. -/
structure Starter where
  script : Script (Outcome Session)
  outside : script.Outside

/-- The way in which the program starts the session of a key. -/
def Starter.ofSetup (setup : Setup) (key : SessionKey) : Starter :=
  ⟨(Session.start setup key).run, Session.start_outside setup key⟩

/-- What a thread does with the sessions in use: calls, one after the other, and other operations in
between. -/
inductive Client
  | done
  | step (operation : Operation) (outside : operation.Outside) (next : operation.Answer → Client)
  | get (key : SessionKey) (next : Outcome (Option Session) → Client)
  | getOrStart (key : SessionKey) (start : Starter) (next : Outcome Session → Client)
  | remove (key : SessionKey) (next : Option Session → Client)
  | drain (next : List Session → Client)

/-- The script of a thread's calls. -/
def Client.script : Client → Script Unit
  | .done => .done ()
  | .step operation _ next => .step operation fun answer => (next answer).script
  | .get key next => (Session.live? key).run.bind fun found => (next found).script
  | .getOrStart key start next =>
    (Session.getOrStart key start.script).run.bind fun outcome => (next outcome).script
  | .remove key next => .step (.unregister key) fun session => (next session).script
  | .drain next => .step .drain fun sessions => (next sessions).script

/-- An operation, and for each answer where a thread goes from there. -/
structure Move (α : Type) where
  operation : Operation
  after : operation.Answer → α

/-- A place in looking for a session. -/
inductive Look
  | read
  | check (found : Session)
  | drop

namespace Look

/-- The next operation of looking for a session; it ends with what was found. -/
def move (key : SessionKey) : Look → Move (Look ⊕ Option Session)
  | .read => ⟨.session key, fun found : Option Session => found.elim (.inr none) (.inl ∘ .check)⟩
  | .check found =>
    ⟨.isAlive found.peer, fun alive : Bool => if alive then .inr (some found) else .inl .drop⟩
  | .drop => ⟨.dropIfDead key, fun _ => .inr none⟩

/-- What is left of looking for a session. -/
def job (key : SessionKey) : Look → Job (Option Session)
  | .read => Session.live? key
  | .check found => do
    let alive : Bool ← Job.ask (.isAlive found.peer)
    if alive then return some found
    let _ ← Job.ask (.dropIfDead key)
    return none
  | .drop => do
    let _ ← Job.ask (.dropIfDead key)
    return none

/-- The moves are the steps of the script, whatever comes after it. -/
theorem job_eq {α : Type} (key : SessionKey) (look : Look) (rest : Option Session → Job α) :
    (look.job key >>= rest).run = .step (look.move key).operation fun answer =>
      match (look.move key).after answer with
      | .inl later => (later.job key >>= rest).run
      | .inr found => (rest found).run := by
  cases look with
  | read =>
    refine congrArg (Script.step (.session key)) (funext fun found => ?_)
    cases found <;> rfl
  | check found =>
    refine congrArg (Script.step (.isAlive found.peer)) (funext fun alive => ?_)
    cases alive <;> rfl
  | drop => rfl

end Look

/-- A place in getting a session that is started when there is none: the first look, the lock of the
key's starts, the second look, the start, and the way out with the lock still held. What a start has
come to is registered from the place where it has nothing left to do. -/
inductive Stage
  | first (look : Look)
  | enter
  | second (look : Look)
  | starting (left : Starter)
  | leave (session : Session)

namespace Stage

variable (key : SessionKey)

/-- The next operation of getting a session; it ends with the outcome. -/
def move (start : Starter) : Stage → Move (Stage ⊕ Outcome Session)
  | .first look =>
    ⟨(look.move key).operation, fun answer =>
      match (look.move key).after answer with
      | .inl later => .inl (.first later)
      | .inr (some session) => .inr (.ok session)
      | .inr none => .inl .enter⟩
  | .enter => ⟨.acquire (.starting key) .exclusive, fun _ => .inl (.second .read)⟩
  | .second look =>
    ⟨(look.move key).operation, fun answer =>
      match (look.move key).after answer with
      | .inl later => .inl (.second later)
      | .inr (some session) => .inl (.leave session)
      | .inr none => .inl (.starting start)⟩
  | .starting ⟨.step operation next, outside⟩ =>
    ⟨operation, fun answer => .inl (.starting ⟨next answer, outside.2 answer⟩)⟩
  | .starting ⟨.done (.ok session), _⟩ => ⟨.register key session, fun _ => .inl (.leave session)⟩
  | .starting ⟨.done (.error failure), _⟩ =>
    ⟨.release (.starting key), fun _ => .inr (.error failure)⟩
  | .leave session => ⟨.release (.starting key), fun _ => .inr (.ok session)⟩

/-- A start and the registration of what it comes to. -/
def finish (start : Job Session) : Job Session := do
  let session ← start
  let _ ← Job.ask (.register key session)
  return session

/-- What is left once the lock is held: the rest of the work, and the lock is let go of. -/
def unlocking (job : Job Session) : Job Session :=
  ExceptT.mk (do
    let outcome ← job.run
    let _ ← Script.ask (.release (.starting key))
    return outcome)

/-- What is left of getting a session. -/
def job (start : Starter) : Stage → Job Session
  | .first look => do
    match ← look.job key with
    | some session => return session
    | none => Job.holding (.starting key) .exclusive (Session.startHeld key start.script)
  | .enter => Job.holding (.starting key) .exclusive (Session.startHeld key start.script)
  | .second look => unlocking key do
    match ← look.job key with
    | some session => return session
    | none => finish key start.script
  | .starting left => unlocking key (finish key left.script)
  | .leave session => unlocking key (pure session)

/-- The moves are the steps of the script. -/
theorem job_eq (start : Starter) (stage : Stage) :
    (stage.job key start).run = .step (stage.move key start).operation fun answer =>
      match (stage.move key start).after answer with
      | .inl later => (later.job key start).run
      | .inr outcome => .done outcome := by
  cases stage with
  | first look =>
    refine (look.job_eq key _).trans (congrArg (Script.step _) (funext fun answer => ?_))
    simp only [move]
    rcases (look.move key).after answer with later | _ | session <;> rfl
  | enter => rfl
  | second look =>
    have apart := look.job_eq key fun found : Option Session =>
      match found with
      | some session => pure session
      | none => finish key start.script
    refine (congrArg (fun script : Script (Outcome Session) => script.bind _) apart).trans
      (congrArg (Script.step _) (funext fun answer => ?_))
    simp only [move]
    rcases (look.move key).after answer with later | _ | session <;> rfl
  | starting left =>
    rcases left with ⟨(_ | session) | ⟨operation, next⟩, outside⟩ <;> rfl
  | leave session => rfl

end Stage

/-- A thread between two calls, or in one of those that take more than an operation. -/
inductive Caller
  | between (client : Client)
  | getting (key : SessionKey) (look : Look) (next : Outcome (Option Session) → Client)
  | obtaining (key : SessionKey) (start : Starter) (stage : Stage) (next : Outcome Session → Client)

namespace Caller

/-- The move into or on with looking for a session. -/
def lookOn (key : SessionKey) (look : Look) (next : Outcome (Option Session) → Client) :
    Move Caller :=
  ⟨(look.move key).operation, fun answer =>
    match (look.move key).after answer with
    | .inl later => .getting key later next
    | .inr found => .between (next (.ok found))⟩

/-- The move into or on with getting a session. -/
def obtainOn (key : SessionKey) (start : Starter) (stage : Stage)
    (next : Outcome Session → Client) : Move Caller :=
  ⟨(stage.move key start).operation, fun answer =>
    match (stage.move key start).after answer with
    | .inl later => .obtaining key start later next
    | .inr outcome => .between (next outcome)⟩

/-- The next move of a thread that has not come to its end. -/
def move? : Caller → Option (Move Caller)
  | .between .done => none
  | .between (.step operation _ next) => some ⟨operation, .between ∘ next⟩
  | .between (.get key next) => some (lookOn key .read next)
  | .between (.getOrStart key start next) => some (obtainOn key start (.first .read) next)
  | .between (.remove key next) => some ⟨.unregister key, .between ∘ next⟩
  | .between (.drain next) => some ⟨.drain, .between ∘ next⟩
  | .getting key look next => some (lookOn key look next)
  | .obtaining key start stage next => some (obtainOn key start stage next)

/-- What is left of a thread. -/
def script : Caller → Script Unit
  | .between client => client.script
  | .getting key look next => (look.job key).run.bind fun found => (next found).script
  | .obtaining key start stage next =>
    (stage.job key start).run.bind fun outcome => (next outcome).script

theorem lookOn_script (key : SessionKey) (look : Look)
    (next : Outcome (Option Session) → Client) :
    (getting key look next).script =
      .step (lookOn key look next).operation fun answer =>
        ((lookOn key look next).after answer).script := by
  have apart := look.job_eq key (pure : Option Session → Job (Option Session))
  rw [bind_pure] at apart
  refine (congrArg (Script.bind · _) apart).trans
    (congrArg (Script.step _) (funext fun answer => ?_))
  simp only [lookOn, bind_pure]
  rcases (look.move key).after answer with later | found <;> rfl

theorem obtainOn_script (key : SessionKey) (start : Starter) (stage : Stage)
    (next : Outcome Session → Client) :
    (obtaining key start stage next).script =
      .step (obtainOn key start stage next).operation fun answer =>
        ((obtainOn key start stage next).after answer).script := by
  refine (congrArg (Script.bind · _) (stage.job_eq key start)).trans
    (congrArg (Script.step _) (funext fun answer => ?_))
  simp only [obtainOn]
  rcases (stage.move key start).after answer with later | outcome <;> rfl

/-- The moves of a thread are the steps of its script. -/
theorem script_eq (caller : Caller) :
    caller.script =
      match caller.move? with
      | none => .done ()
      | some move => .step move.operation fun answer => (move.after answer).script := by
  rcases caller with (_ | _ | ⟨key, next⟩ | ⟨key, start, next⟩ | _ | _) | ⟨key, look, next⟩ |
    ⟨key, start, stage, next⟩
  · rfl
  · rfl
  · exact lookOn_script key .read next
  · exact obtainOn_script key start (.first .read) next
  · rfl
  · rfl
  · exact lookOn_script key look next
  · exact obtainOn_script key start stage next

end Caller

/-- A call that gets a session of a key and starts one when there is none. -/
structure Call where
  key : SessionKey
  start : Starter
  next : Outcome Session → Client

namespace Call

/-- The call as the first of what a thread does. -/
def client (call : Call) : Client := .getOrStart call.key call.start call.next

/-- A thread at a place in the call. -/
def place (call : Call) (stage : Stage) : Caller := .obtaining call.key call.start stage call.next

/-- A thread is at a place in the call; before its first operation it is about to look. -/
def Stands (call : Call) (stage : Stage) (caller : Caller) : Prop :=
  caller = call.place stage ∨ (stage = .first .read ∧ caller = .between call.client)

/-- What a stage of the call does next. -/
abbrev move (call : Call) (stage : Stage) : Move (Stage ⊕ Outcome Session) :=
  stage.move call.key call.start

theorem Stands.move? {call : Call} {stage : Stage} {caller : Caller}
    (stands : call.Stands stage caller) :
    caller.move? = some (Caller.obtainOn call.key call.start stage call.next) := by
  rcases stands with rfl | ⟨rfl, rfl⟩ <;> rfl

end Call

/-- Any number of threads and the world they share. -/
structure Callers where
  world : World
  threads : Nat → Caller

/-- What happens next: a thread may take a step, or the surroundings do something. -/
inductive Event
  | act (thread : Nat)
  | happen (happening : Happening)

namespace Callers

/-- Nobody holds a lock, and the threads are about to begin with their calls. -/
def ready (world : World) (clients : Nat → Client) : Callers where
  world := { world with held := [] }
  threads thread := .between (clients thread)

/-- Lets a thread take its next step; `none` when it has to wait or has come to its end. -/
def step (host : Host) (callers : Callers) (thread : Nat) : Option Callers := do
  let move ← (callers.threads thread).move?
  let (world, answer) ← callers.world.perform host thread move.operation
  return ⟨world, Function.update callers.threads thread (move.after answer)⟩

/-- What is left of the threads. -/
def scripts (callers : Callers) (thread : Nat) : Script Unit := (callers.threads thread).script

/-- A thread steps exactly when its script can, and what it does to the world and to its script is
what the next operation of the script does; the other threads stay where they are. -/
theorem step_scripts (host : Host) (callers : Callers) (thread : Nat) :
    ((callers.step host thread).map fun later => (later.world, later.scripts)) =
      match callers.scripts thread with
      | .done _ => none
      | .step operation next =>
        (callers.world.perform host thread operation).map fun (world, answer) =>
          (world, Function.update callers.scripts thread (next answer)) := by
  simp only [step, scripts, Caller.script_eq (callers.threads thread)]
  cases (callers.threads thread).move? with
  | none => rfl
  | some move =>
    cases performed : callers.world.perform host thread move.operation with
    | none => simp [performed]
    | some taken =>
      obtain ⟨world, answer⟩ := taken
      have onward : (Callers.mk world
            (Function.update callers.threads thread (move.after answer))).scripts =
          Function.update callers.scripts thread (move.after answer).script :=
        funext fun other => Function.apply_update (fun _ => Caller.script) ..
      simpa [performed] using onward

/-- What becomes of the threads and the world; a thread that has to wait stays where it is. -/
def advance (host : Host) (callers : Callers) : Event → Callers
  | .act thread => (callers.step host thread).getD callers
  | .happen happening => ⟨callers.world.after happening, callers.threads⟩

/-- The threads and the world after some of the events. -/
def moment (host : Host) (start : Callers) (events : Nat → Event) : Nat → Callers
  | 0 => start
  | count + 1 => (moment host start events count).advance host (events count)

end Callers

end Registry

end LanguageBridge
