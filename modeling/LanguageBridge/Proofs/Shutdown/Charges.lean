import LanguageBridge.Proofs.Acquaintance.Speaking
import LanguageBridge.Proofs.Document.Notice

/-!
What threads have in hand that start servers and stop them. A server is started under the lock of
its session's key, by a thread that has found no session of the key in use, and the thread lets go
of the lock only when the session is in use or its server cannot be told any more. Only threads that
serve the editor take sessions out of use, and each session that was taken is then left to a thread
that stops it. Nobody else tells a server to end.
-/
namespace LanguageBridge

/-- How far a thread is with the start of a session: it holds the lock of the key's starts, has
found a session in use or none, has started a server, and has told it that it is initialized. -/
inductive Launch
  | idle
  | entered (key : SessionKey)
  | seen (key : SessionKey) (session : Session)
  | vacant (key : SessionKey)
  | spawned (key : SessionKey) (server : ServerId)
  | told (key : SessionKey) (server : ServerId)

namespace Launch

/-- The key whose starts nobody else may make. -/
def key? : Launch → Option SessionKey
  | .idle => none
  | .entered key | .seen key _ | .vacant key | .spawned key _ | .told key _ => some key

/-- No server that was told that it is initialized has still to be put in use. -/
def Over : Launch → Prop
  | .told .. => False
  | _ => True

end Launch

/-- What a thread has in hand: the start of a session, and sessions that it took out of use and has
still to have stopped. -/
structure Charge where
  launch : Launch := .idle
  debts : List Session := []

/-- A work is to stop a server. -/
def Work.Stops (work : Work) (server : ServerId) : Prop :=
  ∃ session, work = .stopSession session ∧ session.server = server

/-- Documents are tracked only under names that servers can be told. -/
def Workspace.Named (workspace : Workspace) : Prop :=
  ∀ entry ∈ workspace.documents.entries, ∃ uri, Uri.ofFileName entry.1 = .ok uri

/-- Operations that have nothing to do with what a thread has in hand. -/
def Operation.Aside : Operation → Prop
  | .notify (.server _) method _ => method ≠ "initialized" ∧ method ≠ "exit"
  | .call (.server _) method _ => method ≠ "shutdown"
  | .acquire (.starting _) _ | .release (.starting _) | .setWorkspace _ | .spawn .. | .register ..
    | .unregister _ | .drain | .fork (.stopSession _) => False
  | _ => True

theorem Operation.Aside.of_ordinary {operation : Operation} (about : Option ServerId)
    (ordinary : operation.Ordinary about) : operation.Aside := by
  cases operation with
  | notify peer | call peer =>
    cases peer with
    | editor => trivial
    | server server => exact ordinary.2
  | acquire lock | release lock => cases lock <;> exact ordinary
  | setWorkspace | unregister | drain | spawn | register => exact ordinary
  | fork => exact ordinary.elim
  | _ => trivial

namespace Charge

/-- What an operation makes of what a thread has in hand. -/
inductive Turns (work : Work) (charge : Charge) :
    (operation : Operation) → operation.Answer → Charge → Prop
  | aside {operation : Operation} {answer : operation.Answer} (aside : operation.Aside) :
      Turns work charge operation answer charge
  | track {workspace : Workspace} (named : workspace.Named) :
      Turns work charge (.setWorkspace workspace) () charge
  | enter {key : SessionKey} (idle : charge.launch = .idle) :
      Turns work charge (.acquire (.starting key) .exclusive) ()
        { charge with launch := .entered key }
  | miss {key : SessionKey} (entered : charge.launch = .entered key) :
      Turns work charge (.session key) (none : Option Session) { charge with launch := .vacant key }
  | find {key : SessionKey} {session : Session} (entered : charge.launch = .entered key) :
      Turns work charge (.session key) (some session : Option Session)
        { charge with launch := .seen key session }
  | gone {key : SessionKey} {session : Session} (seen : charge.launch = .seen key session) :
      Turns work charge (.isAlive session.peer) false { charge with launch := .vacant key }
  | spawn {key : SessionKey} {server : ServerId} {language directory program : String}
      {arguments : List String} (vacant : charge.launch = .vacant key) :
      Turns work charge (.spawn language directory program arguments)
        (.ok server : Except SystemError ServerId) { charge with launch := .spawned key server }
  | refuse {error : SystemError} {language directory program : String} {arguments : List String} :
      Turns work charge (.spawn language directory program arguments)
        (.error error : Except SystemError ServerId) charge
  | confirm {key : SessionKey} {server : ServerId} {params : Json}
      (spawned : charge.launch = .spawned key server) :
      Turns work charge (.notify (.server server) "initialized" params) (.ok () : Outcome Unit)
        { charge with launch := .told key server }
  | unheard {server : ServerId} {params : Json} {failure : Failure} :
      Turns work charge (.notify (.server server) "initialized" params)
        (.error failure : Outcome Unit) charge
  | lose {key : SessionKey} {server : ServerId} {method : String} {params : Json}
      {failure : Failure} (told : charge.launch = .told key server) :
      Turns work charge (.notify (.server server) method params) (.error failure : Outcome Unit)
        { charge with launch := .spawned key server }
  | register {key : SessionKey} {session : Session}
      (told : charge.launch = .told key session.server) :
      Turns work charge (.register key session) () { charge with launch := .entered key }
  | leave {key : SessionKey} (held : charge.launch.key? = some key) (past : charge.launch.Over) :
      Turns work charge (.release (.starting key)) () { charge with launch := .idle }
  | take {key : SessionKey} {found : Option Session} (editor : work = .serveEditor) :
      Turns work charge (.unregister key) found
        { charge with debts := charge.debts ++ found.toList }
  | drain {sessions : List Session} (editor : work = .serveEditor) :
      Turns work charge .drain sessions { charge with debts := charge.debts ++ sessions }
  | stop {session : Session} {rest : List Session} {number : Nat}
      (due : charge.debts = session :: rest) :
      Turns work charge (.fork (.stopSession session)) number { charge with debts := rest }
  | shutDown {server : ServerId} {params : Json} {answer : Outcome Nat}
      (stops : work.Stops server) :
      Turns work charge (.call (.server server) "shutdown" params) answer charge
  | exit {server : ServerId} {params : Json} {answer : Outcome Unit} (stops : work.Stops server) :
      Turns work charge (.notify (.server server) "exit" params) answer charge

/-- The rules for threads that start servers and stop them. They find only documents with names that
servers can be told. -/
def rules (work : Work) : Rules Charge where
  expects := fun _ operation answer =>
    match operation, answer with
    | .workspace, tracked => Workspace.Named tracked
    | _, _ => True
  turns := Turns work

theorem keeps_of_aside {work : Work} {charge : Charge} {operation : Operation}
    (aside : operation.Aside) : (rules work).Keeps charge operation :=
  fun _ _ => .aside aside

end Charge

variable {α β : Type} {work : Work}

/-- A script by which a thread gets nothing in hand. -/
def Script.Steady (work : Work) (script : Script α) : Prop :=
  script.Guided (Charge.rules work) {} fun _ after => after = {}

/-- A job by which a thread gets nothing in hand. -/
def Job.Steady (work : Work) (job : Job α) : Prop := job.run.Steady work

namespace Script.Steady

theorem bind {script : Script α} {next : α → Script β} (first : script.Steady work)
    (rest : ∀ value, (next value).Steady work) : (script.bind next).Steady work := by
  refine Script.Guided.bind first ?_
  rintro value _ rfl
  exact rest value

theorem of_aside {script : Script α} (each : script.Each Operation.Aside) : script.Steady work :=
  (each.mono fun _ aside => Charge.keeps_of_aside aside).guided

theorem of_ordinary {script : Script α} (about : Option ServerId)
    (each : script.Each (Operation.Ordinary about)) : script.Steady work :=
  of_aside (each.mono fun _ => .of_ordinary about)

end Script.Steady

namespace Job.Steady

variable {job : Job α} {next : α → Job β}

theorem pure (value : α) : (Pure.pure value : Job α).Steady work := rfl

theorem throw (failure : Failure) : (throw failure : Job α).Steady work := rfl

theorem ofOutcome (outcome : Outcome α) : (Job.ofOutcome outcome).Steady work := rfl

theorem of_ordinary (about : Option ServerId) (each : job.Each (Operation.Ordinary about)) :
    job.Steady work :=
  Script.Steady.of_ordinary about each

theorem bind (first : job.Steady work) (rest : ∀ value, (next value).Steady work) :
    (job >>= next).Steady work := by
  refine Script.Steady.bind first fun outcome => ?_
  cases outcome with
  | ok value => exact rest value
  | error failure => rfl

theorem attempt (steady : job.Steady work) : (Job.attempt job).Steady work :=
  Script.Steady.bind steady fun _ => rfl

theorem ask_bind {operation : Operation} {next : operation.Answer → Job β}
    (aside : operation.Aside) (rest : ∀ answer, (next answer).Steady work) :
    (Job.ask operation >>= next).Steady work :=
  fun answer _ => ⟨{}, .aside aside, rest answer⟩

/-- Documents that are found have names that servers can be told. -/
theorem workspace_bind {next : Workspace → Job β}
    (rest : ∀ workspace, workspace.Named → (next workspace).Steady work) :
    (Job.ask .workspace >>= next).Steady work :=
  fun tracked named => ⟨{}, .aside trivial, rest tracked named⟩

theorem setWorkspace_bind {workspace : Workspace} {next : Unit → Job β} (named : workspace.Named)
    (rest : (next ()).Steady work) : (Job.ask (.setWorkspace workspace) >>= next).Steady work :=
  fun _ _ => ⟨{}, .track named, rest⟩

/-- What a server is told by a thread that starts nothing. -/
theorem notify {server : ServerId} {method : String} {params : Json}
    (other : method ≠ "initialized" ∧ method ≠ "exit") :
    (Job.notify (.server server) method params).Steady work :=
  Script.Steady.of_aside ⟨other, fun _ => trivial⟩

theorem holding {lock : Lock} {mode : LockMode} (takes : (Operation.acquire lock mode).Aside)
    (leaves : (Operation.release lock).Aside) (inside : job.Steady work) :
    (Job.holding lock mode job).Steady work := by
  refine Job.Guided.holding (.aside takes) (Job.Guided.mono inside ?_)
  rintro outcome _ rfl
  exact ⟨_, .aside leaves, rfl⟩

theorem forM {f : α → Job Unit} (each : ∀ value, (f value).Steady work) (values : List α) :
    (values.forM f).Steady work := by
  induction values with
  | nil => rfl
  | cons value rest ih => exact (each value).bind fun _ => ih

end Job.Steady

end LanguageBridge
