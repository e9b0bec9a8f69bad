import LanguageBridge.Proofs.Document.Mirror
import LanguageBridge.Proofs.Precedence.Bearing
import LanguageBridge.Proofs.Script.Performed
import LanguageBridge.Proofs.Script.Runs
import Mathlib.Data.List.Pairwise

/-!
What was said, who has gone and what has come stays so. Whatever is put together from such facts
about the moments of a story stays true as the story goes on.
-/
namespace LanguageBridge

/-- What was so at an earlier moment and is for good. -/
structure Moment.Precedes (earlier later : Moment) : Prop where
  traffic : earlier.world.traffic <+: later.world.traffic
  dead : earlier.world.dead ⊆ later.world.dead
  arrived : earlier.chronicle.arrived <+: later.chronicle.arrived

namespace Moment

variable {earlier middle later : Moment} {server : ServerId} {uri : Uri} {text : Text}

theorem Precedes.refl (moment : Moment) : moment.Precedes moment :=
  ⟨List.prefix_rfl, fun _ => id, List.prefix_rfl⟩

theorem Precedes.trans (first : earlier.Precedes middle) (second : middle.Precedes later) :
    earlier.Precedes later :=
  ⟨first.traffic.trans second.traffic, List.Subset.trans first.dead second.dead,
    first.arrived.trans second.arrived⟩

theorem HasCome.stays {index : Nat} (come : earlier.HasCome index)
    (precedes : earlier.Precedes later) : later.HasCome index :=
  Nat.lt_of_lt_of_le come precedes.arrived.length_le

theorem Introduced.stays (introduced : earlier.Introduced server)
    (precedes : earlier.Precedes later) : later.Introduced server :=
  precedes.traffic.subset introduced

theorem Gone.stays (gone : earlier.Gone server) (precedes : earlier.Precedes later) :
    later.Gone server := by
  simp only [Gone, World.isAlive, Bool.not_eq_false', List.contains_eq_mem, decide_eq_true_eq]
    at gone ⊢
  exact precedes.dead gone

theorem Tells.told (tells : Tells server uri text earlier later) : later.Told server uri text := by
  obtain ⟨sent, notice, told, traffic, heard, reads, alike⟩ := tells
  refine ⟨notice, List.mem_filterMap.mpr ⟨sent, ?_, heard⟩, told, reads, alike⟩
  rw [traffic]
  simp

theorem Tells.alike {other : Text} (tells : Tells server uri text earlier later)
    (alike : text.Alike other) : Tells server uri other earlier later := by
  obtain ⟨sent, notice, told, traffic, heard, reads, same⟩ := tells
  exact ⟨sent, notice, told, traffic, heard, reads, Eq.trans same alike⟩

/-- What a text is alike is told with it. -/
theorem Told.alike {other : Text} (told : later.Told server uri text) (alike : text.Alike other) :
    later.Told server uri other := by
  obtain ⟨notice, member, given, reads, same⟩ := told
  exact ⟨notice, member, given, reads, Eq.trans same alike⟩

theorem precedes_occur (now : Moment) (happening : Happening) :
    now.Precedes ⟨now.system.occur happening, now.chronicle.occur happening⟩ := by
  cases happening with
  | answer ticket outcome =>
    have same : (now.system.occur (.answer ticket outcome)).world.traffic =
        now.system.world.traffic ∧ (now.system.occur (.answer ticket outcome)).world.dead =
          now.system.world.dead := by
      simp only [System.occur]
      split <;> exact ⟨rfl, rfl⟩
    exact ⟨same.1 ▸ List.prefix_rfl, same.2 ▸ fun _ => id, List.prefix_rfl⟩
  | deliver peer message =>
    refine ⟨List.prefix_rfl, fun _ => id, ?_⟩
    cases peer with
    | editor => exact List.prefix_append ..
    | server id => exact List.prefix_rfl
  | endInput | change => exact ⟨List.prefix_rfl, fun _ => id, List.prefix_rfl⟩
  | disconnect peer => exact ⟨List.prefix_rfl, List.subset_cons_self .., List.prefix_rfl⟩

theorem precedes_step {setup : Setup} {now : Moment} {thread : Nat} {next : System}
    (moved : Program.step setup now.system thread = some next) :
    now.Precedes ⟨next, now.chronicle.step thread now.system next⟩ := by
  obtain ⟨outcome, here, rfl⟩ | ⟨operation, onward, world, answer, here, performed, rfl⟩ :=
    Program.step_cases moved
  · refine ⟨List.prefix_rfl, fun _ => id, ?_⟩
    simp only [Chronicle.step, here]
    exact List.prefix_rfl
  · have effect := World.performed performed
    refine ⟨?_, ?_, ?_⟩
    · exact ⟨operation.saying now.world, effect.traffic.symm⟩
    · intro peer member
      exact effect.dead ▸ member
    · simp only [Chronicle.step, here]
      exact List.prefix_rfl

end Moment

/-- What once was for good is so ever after. -/
theorem Story.ordered {setup : Setup} {tree : FileTree} {moments : List Moment}
    (story : Story setup tree moments) :
    moments.Pairwise fun later earlier => earlier.Precedes later := by
  have onward {next now : Moment} {past : List Moment} (precedes : now.Precedes next)
      (ordered : (now :: past).Pairwise fun later earlier => earlier.Precedes later) :
      (next :: now :: past).Pairwise fun later earlier => earlier.Precedes later := by
    refine .cons (fun moment member => ?_) ordered
    rcases List.mem_cons.mp member with rfl | before
    · exact precedes
    · exact ((List.pairwise_cons.mp ordered).1 moment before).trans precedes
  induction story with
  | begin => exact List.pairwise_singleton ..
  | step thread _ moved ih => exact onward (Moment.precedes_step moved) ih
  | happen happening _ ih => exact onward (Moment.precedes_occur _ happening) ih

/-- What once was for good is so at the end of a story. -/
theorem Story.lasting {setup : Setup} {tree : FileTree} {now : Moment} {past : List Moment}
    (story : Story setup tree (now :: past)) : ∀ moment ∈ now :: past, moment.Precedes now := by
  intro moment member
  rcases List.mem_cons.mp member with rfl | before
  · exact .refl _
  · exact (List.pairwise_cons.mp story.ordered).1 moment before

/-- Of two moments of a story one is the earlier. -/
theorem Story.comparable {setup : Setup} {tree : FileTree} {moments : List Moment}
    (story : Story setup tree moments) {first second : Moment} (one : first ∈ moments)
    (two : second ∈ moments) : first.Precedes second ∨ second.Precedes first := by
  have either : moments.Pairwise fun later earlier =>
      later.Precedes earlier ∨ earlier.Precedes later :=
    story.ordered.imp .inr
  have : Std.Symm fun first second : Moment => first.Precedes second ∨ second.Precedes first :=
    ⟨fun _ _ => Or.symm⟩
  exact List.Pairwise.forall_of_forall (fun moment _ => .inl (.refl moment)) either one two

/-- Nobody holds the documents alone. -/
def Moment.Unheld (moment : Moment) : Prop :=
  ∀ hold ∈ moment.world.held, hold.lock = .documents → hold.mode = .shared

namespace Letter

variable (letter : Letter) (moments : List Moment)

/-- A session's server was introduced, and told of the document as it was tracked for the session at
a moment when nobody held the documents alone. -/
def Opened (session : Session) : Prop :=
  ∃ moment ∈ moments, moment.About session.reopenHeld ∧ moment.Introduced session.server ∧
    moment.Unheld ∧ ∀ document, letter.document? session.key moment = some document →
      ∃ other ∈ moments, other.Told session.server letter.uri document.text

/-- A text for the document has reached a session's server, if the server is there. -/
def Reached (session : Session) (text : Text) : Prop :=
  (∃ moment ∈ moments, moment.Told session.server letter.uri text) ∨
    ∃ moment ∈ moments, moment.Gone session.server

/-- A text for the document was told to a session's server, by somebody who set out to do so after
the content came, if that matters; or the server has gone. -/
def Brought (carries : Prop) (session : Session) (text : Text) : Prop :=
  (∃ before ∈ moments, (carries → before.HasCome letter.index) ∧
    ∃ after ∈ moments, before.Tells session.server letter.uri text after) ∨
  ∃ moment ∈ moments, moment.Gone session.server

/-- Once the content had come, its lines were tracked for a session whose server was told of
them. -/
def Kept (session : Session) : Prop :=
  (∃ moment ∈ moments, moment.HasCome letter.index ∧ ∃ document,
    letter.document? session.key moment = some document ∧
      document.lines = letter.content.text.splitLines) ∧
  letter.Reached moments session letter.content.text

/-- The content, once it had come, was brought to a session's server. -/
def Had (session : Session) : Prop :=
  (∃ moment ∈ moments, letter.Handed session moment) ∧
    (letter.Brought moments True session letter.content.text ∨ letter.Kept moments session ∨
      ∃ moment ∈ moments, letter.Diverted session letter.content.text.splitLines moment)

/-- The content, once it had come, was brought to the server of some session that it is for. -/
def Delivered : Prop := ∃ session : Session, session.key = letter.key ∧ letter.Had moments session

/-- The content, once it had come, was dropped or turned out to be for another session. -/
def Lost : Prop := ∃ moment ∈ moments, letter.Moved moment ∨ letter.Dropped moment

/-- What a thread knows for good is so. -/
structure Knows (bearing : Bearing) : Prop where
  confirmed : ∀ server ∈ bearing.confirmed, ∃ moment ∈ moments, moment.Introduced server
  known : ∀ session ∈ bearing.known, letter.Opened moments session
  had : ∀ session ∈ bearing.had, letter.Had moments session
  found : ∀ file key, (file, key) ∈ bearing.found → ∃ moment ∈ moments,
    (bearing.late = true → moment.HasCome letter.index) ∧
      ∃ language, SessionKey.ofFile moment.world.tree language file = .ok key

end Letter
end LanguageBridge

/-!
Threads hold what their bearings say, and see documents and queue as these are: whoever holds a lock
is the only one to change what it guards.
-/
namespace LanguageBridge

/-- How a thread with a grip on the documents holds their lock. -/
def Grip.mode? : Grip → Option LockMode
  | .free => none
  | .shared | .opening .. => some .shared
  | _ => some .exclusive

/-- The documents as a thread sees them. -/
def Grip.view? : Grip → Option Workspace
  | .opening _ workspace _ | .reading workspace | .comparing _ _ workspace
  | .opened _ _ workspace => some workspace
  | _ => none

/-- The bearings of all threads, by number. -/
abbrev Bearings := Nat → Bearing

/-- The bearings once a thread has taken a step and perhaps started another. -/
def Bearings.turn (bearings : Bearings) (count thread : Nat) (after : Bearing)
    (child : Option Bearing) : Bearings := fun other =>
  if other = thread then after
  else
    match child with
    | some child => if other = count then child else bearings other
    | none => bearings other

namespace Bearings

variable {bearings : Bearings} {count thread other : Nat} {after : Bearing}
  {child : Option Bearing}

/-- A thread took the step itself, was there before, or was started by the step. -/
theorem turn_cases (bearings : Bearings) (count thread : Nat) (after : Bearing)
    (child : Option Bearing) (other : Nat) :
    (other = thread ∧ bearings.turn count thread after child other = after) ∨
    (other ≠ thread ∧ bearings.turn count thread after child other = bearings other) ∨
    (other ≠ thread ∧ other = count ∧ ∃ new, child = some new ∧
      bearings.turn count thread after child other = new) := by
  by_cases same : other = thread
  · exact .inl ⟨same, if_pos same⟩
  · cases child with
    | none => exact .inr (.inl ⟨same, if_neg same⟩)
    | some new =>
      by_cases last : other = count
      · exact .inr (.inr ⟨same, last, new, rfl, by rw [turn, if_neg same, if_pos last]⟩)
      · exact .inr (.inl ⟨same, by simp [turn, same, last]⟩)

@[simp] theorem turn_self : bearings.turn count thread after child thread = after := if_pos rfl

/-- What holds of all threads still holds, when it does of the one that took the step and of the
one that it started. -/
theorem forall_turn (p : Nat → Bearing → Prop)
    (others : ∀ other, other ≠ thread → p other (bearings other)) (own : p thread after)
    (born : ∀ new, child = some new → p count new) (other : Nat) :
    p other (bearings.turn count thread after child other) := by
  obtain ⟨rfl, same⟩ | ⟨apart, same⟩ | ⟨_, rfl, new, begun, same⟩ :=
    turn_cases bearings count thread after child other
  · rw [same]
    exact own
  · rw [same]
    exact others other apart
  · rw [same]
    exact born new begun

/-- Threads hold the locks that their bearings say, and a lock is held by one thread or shared. -/
structure Locked (bearings : Bearings) (held : List Hold) : Prop where
  documents : ∀ thread mode, (bearings thread).documents.mode? = some mode →
    ⟨.documents, mode, thread⟩ ∈ held
  queue : ∀ thread, (bearings thread).queue ≠ .free → ⟨.queue, .exclusive, thread⟩ ∈ held
  apart : ∀ first ∈ held, ∀ second ∈ held, first.lock = second.lock →
    first = second ∨ first.mode = .shared ∧ second.mode = .shared

/-- Threads see documents and queue as they are, and what they changed of the document and have not
told yet. -/
structure Seen (letter : Letter) (bearings : Bearings) (world : World) : Prop where
  documents : ∀ thread workspace, (bearings thread).documents.view? = some workspace →
    world.workspace = workspace
  telling : ∀ thread session text, (bearings thread).documents = .telling session text →
    ∃ document, world.workspace.ownedBy? session.key letter.content.file = some document ∧
      document.lines = text.splitLines
  queue : ∀ thread queue, (bearings thread).queue = .seen queue → world.queue = queue

end Bearings

namespace Letter.Turns

variable {letter : Letter} {due : Bool} {bearing after new : Bearing} {heading : Heading}
  {operation : Operation} {answer : operation.Answer} {child : Option Bearing}

/-- A thread that is started holds nothing and knows nothing. -/
theorem blank (turns : letter.Turns due bearing heading operation answer after (some new)) :
    new = { watch := new.watch, late := new.late } := by
  cases turns <;> rfl

theorem mode (turns : letter.Turns due bearing heading operation answer after child)
    {mode : LockMode} (holds : after.documents.mode? = some mode) :
    bearing.documents.mode? = some mode ∧ operation ≠ .release .documents ∨
      operation = .acquire .documents mode := by
  cases turns with
  | plain plain => exact .inl ⟨holds, by rintro rfl; exact plain⟩
  | _ => simp_all [Grip.mode?]

theorem holds_queue (turns : letter.Turns due bearing heading operation answer after child)
    (holds : after.queue ≠ .free) :
    bearing.queue ≠ .free ∧ operation ≠ .release .queue ∨
      operation = .acquire .queue .exclusive := by
  cases turns with
  | plain plain => exact .inl ⟨holds, by rintro rfl; exact plain⟩
  | _ => simp_all

/-- What a thread sees of the documents it saw before, has just read, or has just put there. -/
theorem view (turns : letter.Turns due bearing heading operation answer after child)
    {workspace : Workspace} (sees : after.documents.view? = some workspace) :
    (bearing.documents.view? = some workspace ∧ ∀ changed, operation ≠ .setWorkspace changed) ∨
      (⟨operation, answer⟩ : Σ operation : Operation, operation.Answer) =
        ⟨.workspace, workspace⟩ ∨ operation = .setWorkspace workspace := by
  cases turns with
  | plain plain => exact .inl ⟨sees, by rintro _ rfl; exact plain⟩
  | _ => simp_all [Grip.view?]

theorem sees_queue (turns : letter.Turns due bearing heading operation answer after child)
    {queue : Table SessionKey (List BufferContent)} (sees : after.queue = .seen queue) :
    (bearing.queue = .seen queue ∧ ∀ changed, operation ≠ .setQueue changed) ∨
      (⟨operation, answer⟩ : Σ operation : Operation, operation.Answer) = ⟨.queue, queue⟩ ∨
        operation = .setQueue queue := by
  cases turns with
  | plain plain => exact .inl ⟨sees, by rintro _ rfl; exact plain⟩
  | _ => simp_all

/-- Whoever still has to tell of a change has just made it, or had to before. -/
theorem telling (turns : letter.Turns due bearing heading operation answer after child)
    {session : Session} {text : Text} (tells : after.documents = .telling session text) :
    (bearing.documents = .telling session text ∧ ∀ changed, operation ≠ .setWorkspace changed) ∨
      ∃ workspace document, bearing.documents = .comparing session text workspace ∧
        workspace.ownedBy? session.key letter.content.file = some document ∧
        operation = .setWorkspace
          (workspace.track letter.content.file (document.update text).1) := by
  cases turns with
  | plain plain => exact .inl ⟨tells, by rintro _ rfl; exact plain⟩
  | change comparing owned updates =>
    cases tells
    exact .inr ⟨_, _, comparing, owned, by rw [updates]⟩
  | _ => simp_all

end Letter.Turns

namespace Bearings

variable {letter : Letter} {bearings : Bearings} {host : Host} {thread : Nat}
  {operation : Operation} {answer : operation.Answer} {world later : World} {due : Bool}
  {heading : Heading} {after : Bearing} {child : Option Bearing}

/-- Only one thread holds a lock that excludes others. -/
theorem Locked.alone (locked : bearings.Locked world.held) {lock : Lock} {other : Nat}
    {mode : LockMode} (mine : ⟨lock, .exclusive, thread⟩ ∈ world.held)
    (theirs : ⟨lock, mode, other⟩ ∈ world.held) : other = thread := by
  rcases locked.apart _ mine _ theirs rfl with same | ⟨shared, _⟩
  · exact (congrArg Hold.thread same).symm
  · cases shared

/-- Whoever holds a lock keeps others from changing what it guards. -/
theorem Locked.excluding (locked : bearings.Locked world.held) {lock : Lock} {other : Nat}
    {mode : LockMode} (holds : ⟨lock, mode, other⟩ ∈ world.held)
    (excludes : world.excludes lock thread = true) : other = thread :=
  locked.alone (by simpa [World.excludes] using excludes) holds

/-- Who shares the documents has nobody holding them alone. -/
theorem Locked.unheld (locked : bearings.Locked world.held) (thread : Nat)
    (shares : (bearings thread).documents.mode? = some .shared) :
    ∀ hold ∈ world.held, hold.lock = .documents → hold.mode = .shared := by
  intro hold member same
  rcases locked.apart _ (locked.documents thread _ shares) hold member same.symm with
    rfl | ⟨_, shared⟩
  · rfl
  · exact shared

section Acting

variable (performed : world.perform host thread operation = some (later, answer))
  (turns : letter.Turns due (bearings thread) heading operation answer after child)

include performed

theorem Locked.workspace_stays (locked : bearings.Locked world.held) {other : Nat}
    (differs : other ≠ thread) {mode : LockMode}
    (holds : (bearings other).documents.mode? = some mode) :
    later.workspace = world.workspace := by
  rw [(World.performed performed).workspace]
  apply Operation.workspaceAfter_of_ne
  rintro changed rfl
  simp only [World.perform] at performed
  split at performed
  · rename_i excludes
    exact differs (locked.excluding (locked.documents other _ holds) excludes)
  · cases performed

theorem Locked.queue_stays (locked : bearings.Locked world.held) {other : Nat}
    (differs : other ≠ thread) (holds : (bearings other).queue ≠ .free) :
    later.queue = world.queue := by
  rw [(World.performed performed).queue]
  apply Operation.queueAfter_of_ne
  rintro changed rfl
  simp only [World.perform] at performed
  split at performed
  · rename_i excludes
    exact differs (locked.excluding (locked.queue other holds) excludes)
  · cases performed

include turns

theorem Locked.acted (locked : bearings.Locked world.held) (count : Nat) :
    (bearings.turn count thread after child).Locked later.held := by
  have took (lock : Lock) (mode : LockMode) (acquires : operation = .acquire lock mode) :
      (⟨lock, mode, thread⟩ : Hold) ∈ later.held := by
    subst acquires
    rw [(World.performed performed).held]
    exact List.mem_cons_self
  refine ⟨?_, ?_, ?_⟩
  · refine forall_turn (fun other bearing => ∀ mode, bearing.documents.mode? = some mode →
      ⟨.documents, mode, other⟩ ∈ later.held) ?_ ?_ ?_
    · intro other differs mode holds
      exact World.hold_stays performed (locked.documents other mode holds) (.inl differs)
    · intro mode holds
      rcases turns.mode holds with ⟨before, kept⟩ | acquires
      · exact World.hold_stays performed (locked.documents thread mode before) (.inr kept)
      · exact took _ _ acquires
    · rintro new rfl mode holds
      rw [turns.blank] at holds
      cases holds
  · refine forall_turn (fun other bearing => bearing.queue ≠ .free →
      ⟨.queue, .exclusive, other⟩ ∈ later.held) ?_ ?_ ?_
    · intro other differs holds
      exact World.hold_stays performed (locked.queue other holds) (.inl differs)
    · intro holds
      rcases turns.holds_queue holds with ⟨before, kept⟩ | acquires
      · exact World.hold_stays performed (locked.queue thread before) (.inr kept)
      · exact took _ _ acquires
    · rintro new rfl holds
      rw [turns.blank] at holds
      exact absurd rfl holds
  · intro first one second two same
    rcases World.hold_cases performed one with before | ⟨acquires, mine, others⟩
    · rcases World.hold_cases performed two with old | ⟨_, _, others⟩
      · exact locked.apart first before second old same
      · exact .inr (others first before same).symm
    · rcases World.hold_cases performed two with old | ⟨again, too, _⟩
      · exact .inr (others second old same.symm)
      · left
        cases first
        cases second
        cases acquires.symm.trans again
        cases mine.trans too.symm
        rfl

theorem Seen.acted (seen : Seen letter bearings world) (locked : bearings.Locked world.held)
    (count : Nat) : Seen letter (bearings.turn count thread after child) later := by
  have effect := World.performed performed
  refine ⟨?_, ?_, ?_⟩
  · refine forall_turn (fun _ bearing => ∀ workspace, bearing.documents.view? = some workspace →
      later.workspace = workspace) ?_ ?_ ?_
    · intro other differs workspace sees
      obtain ⟨mode, holds⟩ : ∃ mode, (bearings other).documents.mode? = some mode := by
        cases held : (bearings other).documents <;> rw [held] at sees <;>
          first | exact ⟨_, rfl⟩ | cases sees
      rw [locked.workspace_stays performed differs holds]
      exact seen.documents other workspace sees
    · intro workspace sees
      rw [effect.workspace]
      rcases turns.view sees with ⟨before, keeps⟩ | reads | writes
      · rw [Operation.workspaceAfter_of_ne keeps]
        exact seen.documents thread workspace before
      · cases reads
        simp only [World.perform] at performed
        split at performed <;> cases performed
        rfl
      · subst writes
        rfl
    · rintro new rfl workspace sees
      rw [turns.blank] at sees
      cases sees
  · refine forall_turn (fun _ bearing => ∀ session text,
      bearing.documents = .telling session text → ∃ document,
        later.workspace.ownedBy? session.key letter.content.file = some document ∧
          document.lines = text.splitLines) ?_ ?_ ?_
    · intro other differs session text tells
      rw [locked.workspace_stays performed differs (by rw [tells]; rfl)]
      exact seen.telling other session text tells
    · intro session text tells
      rw [effect.workspace]
      rcases turns.telling tells with ⟨before, keeps⟩ | ⟨workspace, document, _, owned, rfl⟩
      · rw [Operation.workspaceAfter_of_ne keeps]
        exact seen.telling thread session text before
      · have own := (Workspace.get?_of_ownedBy? owned).2
        refine ⟨(document.update text).1, ?_, document.lines_update text⟩
        simp [Operation.workspaceAfter, Workspace.ownedBy?, Workspace.track,
          Document.session_update, own, Option.filter]
    · rintro new rfl session text tells
      rw [turns.blank] at tells
      cases tells
  · refine forall_turn (fun _ bearing => ∀ queue, bearing.queue = .seen queue →
      later.queue = queue) ?_ ?_ ?_
    · intro other differs queue sees
      rw [locked.queue_stays performed differs (by simp [sees])]
      exact seen.queue other queue sees
    · intro queue sees
      rw [effect.queue]
      rcases turns.sees_queue sees with ⟨before, keeps⟩ | reads | writes
      · rw [Operation.queueAfter_of_ne keeps]
        exact seen.queue thread queue before
      · cases reads
        simp only [World.perform] at performed
        split at performed <;> cases performed
        rfl
      · subst writes
        rfl
    · rintro new rfl queue sees
      rw [turns.blank] at sees
      cases sees

end Acting

end Bearings

end LanguageBridge
