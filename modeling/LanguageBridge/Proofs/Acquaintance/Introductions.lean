import Mathlib.Data.List.Forall2
import LanguageBridge.Proofs.Journal.Basic
import LanguageBridge.Session.Start

/-!
What is done to start a session: its server is spawned, a thread for the messages of the server is
started, and then the server is introduced. It is called, told that it is initialized, and every
document of the session is opened on it.
-/
namespace LanguageBridge

/-- A job that is done while a lock is held. -/
theorem Job.Comes.of_holding {α : Type} {lock : Lock} {mode : LockMode} {job : Job α}
    {acts : List Act} {outcome : Outcome α} (comes : (Job.holding lock mode job).Comes acts outcome) :
    ∃ inside, acts = ⟨.acquire lock mode, ()⟩ :: (inside ++ [⟨.release lock, ()⟩]) ∧
      job.Comes inside outcome := by
  obtain ⟨_, rest, rfl, held⟩ := Script.Does.of_step_done comes
  change Script.Does (job.run.bind _) rest _ at held
  obtain ⟨given, inside, last, rfl, done, freeing⟩ := Script.Does.of_bind_done held
  obtain ⟨_, nothing, rfl, ending⟩ := Script.Does.of_step_done freeing
  obtain ⟨rfl, same⟩ := Script.Does.of_done ending
  cases Script.done.inj same
  exact ⟨inside, rfl, done⟩

namespace Session

variable {setup : Setup} {session started : Session} {acts : List Act}

/-- The act by which a server is told something that it hears. -/
def telling (session : Session) (method : String) (params : Json) : Act :=
  ⟨.notify session.peer method params, (.ok () : Outcome Unit)⟩

/-- An act opens a document on the server of a session. -/
def Opens (session : Session) (entry : String × Document) (act : Act) : Prop :=
  ∃ uri, Uri.ofFileName entry.1 = .ok uri ∧
    act = session.telling "textDocument/didOpen" (entry.2.openParams uri)

/-- What is done to introduce a server: it is called, then told that it is initialized, and after
the documents were looked up some are opened on it. -/
def introducing (session : Session) (params : Json) (ticket : Nat) (answer : Outcome Json)
    (tracked : Workspace) (openings : List Act) : List Act :=
  ⟨.call session.peer "initialize" params, (.ok ticket : Outcome Nat)⟩ :: ⟨.await ticket, answer⟩ ::
    session.telling "initialized" (.obj []) :: ⟨.acquire .documents .shared, ()⟩ ::
    ⟨.workspace, tracked⟩ :: (openings ++ [⟨.release .documents, ()⟩])

/-- Acts that introduce the server of a session: the documents that are found under the session's
key are opened on it in order. -/
inductive Introduces (session : Session) : List Act → Prop
  | intro {params : Json} {ticket : Nat} {answer : Outcome Json} {tracked : Workspace}
      {openings : List Act}
      (opens : List.Forall₂ session.Opens (tracked.documentsOf session.key) openings) :
      Introduces session (session.introducing params ticket answer tracked openings)

/-- Acts that start the session of a key, from where its server is spawned. -/
inductive Begins (key : SessionKey) (session : Session) : List Act → Prop
  | intro {spawn : Act} {given : Session} {number : Nat} {acts : List Act}
      (keyed : session.key = key) (spawned : spawn.spawned? = some session.server)
      (same : given.server = session.server) (introduces : session.Introduces acts) :
      Begins key session (spawn :: ⟨.fork (.serveSession given), number⟩ :: acts)

theorem giveUp_never {failure : Failure} :
    ¬ (session.endProcess >>= fun _ => (throw failure : Job Session)).Comes acts (.ok started) := by
  intro comes
  obtain ⟨_, _, _, _, _, throwing⟩ := comes.of_bind_ok
  cases throwing.of_throw.2

theorem introduced_comes {options : Option Json} {capabilities : Json}
    (comes : Job.Comes (do
      let capabilities ← session.introduce setup options
      session.confirm
      return capabilities) acts (.ok capabilities)) :
    ∃ (params : Json) (ticket : Nat) (answer : Outcome Json),
      acts = [⟨.call session.peer "initialize" params, (.ok ticket : Outcome Nat)⟩,
        ⟨.await ticket, answer⟩, session.telling "initialized" (.obj [])] := by
  obtain ⟨_, calling, rest, rfl, introducing, more⟩ := comes.of_bind_ok
  obtain ⟨_, confirming, nothing, rfl, telling, ending⟩ := more.of_bind_ok
  obtain ⟨rfl, _⟩ := ending.of_pure
  rw [telling.of_notify]
  rcases introducing.of_ofOutcome_bind with ⟨_, _, impossible, _⟩ | ⟨uri, _, called⟩
  · cases impossible
  rcases called.of_call with ⟨_, impossible, _⟩ | ⟨ticket, answer, rfl, _⟩
  · cases impossible
  · exact ⟨_, ticket, answer, rfl⟩

theorem openAll_comes {entries : List (String × Document)}
    (comes : (entries.forM fun entry => session.sendOpen entry.1 entry.2).Comes acts (.ok ())) :
    List.Forall₂ session.Opens entries acts := by
  induction entries generalizing acts with
  | nil =>
    obtain ⟨rfl, _⟩ := Job.Comes.of_pure comes
    exact .nil
  | cons entry rest ih =>
    obtain ⟨_, first, second, rfl, opening, others⟩ := Job.Comes.of_bind_ok comes
    rcases opening.of_ofOutcome_bind with ⟨_, _, impossible, _⟩ | ⟨uri, named, telling⟩
    · cases impossible
    · rw [telling.of_notify]
      exact .cons ⟨uri, named, rfl⟩ (ih others)

theorem reopen_comes (comes : session.reopen.Comes acts (.ok ())) :
    ∃ tracked openings, List.Forall₂ session.Opens (tracked.documentsOf session.key) openings ∧
      acts = ⟨.acquire .documents .shared, ()⟩ :: ⟨.workspace, tracked⟩ ::
        (openings ++ [⟨.release .documents, ()⟩]) := by
  obtain ⟨inside, rfl, looking⟩ := comes.of_holding
  obtain ⟨tracked, openings, rfl, opening⟩ := looking.of_ask_bind
  exact ⟨tracked, openings, openAll_comes opening, rfl⟩

/-- A server that was introduced was told of all documents of its session. -/
theorem introduceAll_comes (comes : (introduceAll setup session).Comes acts (.ok started)) :
    started.key = session.key ∧ started.server = session.server ∧ started.Introduces acts := by
  obtain ⟨introduced, first, rest, rfl, introducing, more⟩ := comes.of_attempt_bind
  cases introduced with
  | error failure => exact absurd more giveUp_never
  | ok capabilities =>
    obtain ⟨params, ticket, answer, rfl⟩ := introduced_comes introducing
    obtain ⟨opened, second, last, rfl, opening, ending⟩ := more.of_attempt_bind
    cases opened with
    | error failure => exact absurd ending giveUp_never
    | ok _ =>
      obtain ⟨rfl, finished⟩ := ending.of_pure
      cases finished
      obtain ⟨tracked, openings, opens, rfl⟩ := reopen_comes opening
      rw [List.append_nil]
      exact ⟨rfl, rfl, .intro opens⟩

theorem Begins.spawned {key : SessionKey} (begins : session.Begins key acts) :
    ∃ act ∈ acts, act.spawned? = some session.server := by
  cases begins with
  | intro _ spawned => exact ⟨_, List.mem_cons_self, spawned⟩

theorem Begins.keyed {key : SessionKey} (begins : session.Begins key acts) :
    session.key = key := by
  cases begins with
  | intro keyed => exact keyed

end Session

end LanguageBridge
