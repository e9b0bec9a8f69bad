import LanguageBridge.Editor.Input
import LanguageBridge.Extensions
import LanguageBridge.Session.Basic
import LanguageBridge.Settings
import LanguageBridge.Workspace

/-!
What the threads of the program do, one operation at a time. An operation is carried out by the
world in a single step, unless it has to wait; a script is a first operation and, for each answer,
the script that goes on from there.
-/
namespace LanguageBridge

/-- What threads exclude each other from: the tracked documents, the queue of content for sessions
that are starting, and the start of a session. -/
inductive Lock
  | documents
  | queue
  | starting (key : SessionKey)
  deriving DecidableEq, Repr

/-- Whether a lock admits others that share it. -/
inductive LockMode
  | shared
  | exclusive
  deriving DecidableEq, Repr

/-- What a thread can be started for. -/
inductive Work
  | serveEditor
  | runAction (id : Option RequestId) (method : String) (params : Json)
  | startQueued (key : SessionKey)
  | serveSession (session : Session)
  | stopSession (session : Session)

/-- One step of a thread. -/
inductive Operation
  | acquire (lock : Lock) (mode : LockMode)
  | release (lock : Lock)
  | workspace
  | setWorkspace (workspace : Workspace)
  | queue
  | setQueue (queue : Table SessionKey (List BufferContent))
  | disk
  | extensions
  | registerServerCommands (mapping : List (String × Json))
  | registerHandlers (mapping : List (String × Json))
  | hoverAgain (buffer : Nat)
  | floatEvent (event : FloatEvent)
  | reveal (anchor : Anchor) (surface : Surface)
  | session (key : SessionKey)
  | isAlive (peer : Peer)
  | dropIfDead (key : SessionKey)
  | register (key : SessionKey) (session : Session)
  | unregister (key : SessionKey)
  | drain
  | spawn (language directory program : String) (arguments : List String)
  | connect (language : String)
  | endProcess (server : ServerId)
  | receive (peer : Peer)
  | notify (peer : Peer) (method : String) (params : Json)
  | reply (peer : Peer) (id : RequestId) (result : Json)
  | call (peer : Peer) (method : String) (params : Json)
  | await (ticket : Nat)
  | fork (work : Work)
  | join (thread : Nat)
  | log (level : LogLevel) (text : String)

/-- What an operation answers. -/
def Operation.Answer : Operation → Type
  | .workspace => Workspace
  | .queue => Table SessionKey (List BufferContent)
  | .disk => FileTree
  | .extensions => Extensions
  | .registerServerCommands _ => List Registration
  | .registerHandlers _ => List Registration
  | .hoverAgain _ => Option (List FloatEffect)
  | .floatEvent _ => List FloatEffect
  | .reveal .. => List FloatEffect
  | .session _ => Option Session
  | .isAlive _ => Bool
  | .unregister _ => Option Session
  | .drain => List Session
  | .spawn .. => Except SystemError ServerId
  | .connect _ => ServerId
  | .receive _ => Option Message
  | .notify .. => Outcome Unit
  | .reply .. => Outcome Unit
  | .call .. => Outcome Nat
  | .await _ => Outcome Json
  | .fork _ => Nat
  | _ => Unit

/-- Operations in order, the later ones chosen by the answers to the earlier ones. -/
inductive Script (α : Type) where
  | done (value : α)
  | step (operation : Operation) (next : operation.Answer → Script α)

namespace Script

variable {α β : Type}

/-- A script followed by the one that its value chooses. -/
def bind : Script α → (α → Script β) → Script β
  | .done value, rest => rest value
  | .step operation next, rest => .step operation fun answer => (next answer).bind rest

instance : Monad Script where
  pure := done
  bind := bind

/-- A single operation. -/
def ask (operation : Operation) : Script operation.Answer := .step operation .done

theorem bind_done (script : Script α) : script.bind done = script := by
  induction script with
  | done value => rfl
  | step operation next ih => simp [bind, ih]

theorem bind_assoc {γ : Type} (script : Script α) (second : α → Script β)
    (third : β → Script γ) :
    (script.bind second).bind third = script.bind fun value => (second value).bind third := by
  induction script with
  | done value => rfl
  | step operation next ih => simp [bind, ih]

instance : LawfulMonad Script :=
  LawfulMonad.mk' Script bind_done (fun _ _ => rfl) bind_assoc

end Script

/-- A script that may fail. -/
abbrev Job (α : Type) := ExceptT Failure Script α

namespace Job

variable {α : Type}

/-- A single operation. -/
def ask (operation : Operation) : Job operation.Answer := ExceptT.lift (Script.ask operation)

/-- An outcome as a job without operations. -/
def ofOutcome (outcome : Outcome α) : Job α := ExceptT.mk (Script.done outcome)

/-- A typed value read out of parameters. -/
def ofShaped (shaped : Shaped α) : Job α := ofOutcome (Outcome.ofShaped shaped)

/-- Does a job and goes on with its outcome, also when it fails. -/
def attempt (job : Job α) : Job (Outcome α) := ExceptT.lift job.run

/-- A script that cannot fail. -/
def ofScript (script : Script α) : Job α := ExceptT.lift script

/-- Does a job while holding a lock, and lets go of it whatever comes of the job. -/
def holding (lock : Lock) (mode : LockMode) (job : Job α) : Job α :=
  ExceptT.mk (do
    let _ ← Script.ask (.acquire lock mode)
    let outcome ← job.run
    let _ ← Script.ask (.release lock)
    return outcome)

/-- Sends a notification; fails when the peer is gone. -/
def notify (peer : Peer) (method : String) (params : Json) : Job Unit :=
  ExceptT.mk (Script.ask (.notify peer method params))

/-- Sends the result of a call; fails when the peer is gone. -/
def reply (peer : Peer) (id : RequestId) (result : Json) : Job Unit :=
  ExceptT.mk (Script.ask (.reply peer id result))

/-- Calls a method and waits for its result, which has to have a shape. -/
def call (peer : Peer) (method : String) (params : Json) (read : Json → Shaped α) : Job α := do
  let ticket ← (ExceptT.mk (Script.ask (.call peer method params)) : Job Nat)
  let result ← (ExceptT.mk (Script.ask (.await ticket)) : Job Json)
  match read result with
  | .ok value => return value
  | .error _ => throw (.malformedResult method)

end Job

end LanguageBridge
