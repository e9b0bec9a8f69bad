import LanguageBridge.Proofs.Arrival.Ledger
import LanguageBridge.Proofs.Document.Mirror

/-!
What threads know is true: whoever holds a lock is the only one to change what it guards, so that
documents, queue and sessions are still as the thread saw them.
-/
namespace LanguageBridge

/-- How a thread that holds the documents so holds their lock. -/
def DocumentsHold.mode? : DocumentsHold → Option LockMode
  | .free => none
  | .shared => some .shared
  | _ => some .exclusive

/-- The documents as a thread knows them. -/
def DocumentsHold.view? : DocumentsHold → Option Workspace
  | .reading workspace => some workspace
  | .telling workspace .. => some workspace
  | .told workspace .. => some workspace
  | _ => none

/-- The session whose server is told of a change. -/
def DocumentsHold.session? : DocumentsHold → Option Session
  | .telling _ session .. => some session
  | .told _ session .. => some session
  | _ => none

/-- A thread holds a lock. -/
def Stance.Holds (stance : Stance) (mode : LockMode) : Lock → Prop
  | .documents => stance.documents.mode? = some mode
  | .queue => stance.queue ≠ .free ∧ mode = .exclusive
  | .starting key => (∃ seen, stance.starting = some (key, seen)) ∧ mode = .exclusive

/-- A thread uses a session. -/
def Stance.Uses (stance : Stance) (session : Session) : Prop :=
  session ∈ stance.known ∨ stance.documents.session? = some session

theorem Stance.holds_of_view? {stance : Stance} {workspace : Workspace}
    (view : stance.documents.view? = some workspace) : stance.Holds .exclusive .documents := by
  unfold Stance.Holds
  cases known : stance.documents <;> simp_all [DocumentsHold.view?, DocumentsHold.mode?]

/-- A thread that is started holds nothing and knows nothing. -/
structure Stance.Blank (stance : Stance) : Prop where
  documents : stance.documents = .free
  queue : stance.queue = .free
  starting : stance.starting = none
  known : stance.known = []
  cleared : stance.cleared = false
  fresh : stance.fresh = none

namespace Stance.Splits

variable {stance after child : Stance} {work : Work}

theorem blank (splits : stance.Splits work after child) : child.Blank := by
  cases splits <;> constructor <;> rfl

/-- Who starts a thread holds and knows what it held and knew before. -/
theorem kept (splits : stance.Splits work after child) :
    after.documents = stance.documents ∧ after.queue = stance.queue ∧
      after.starting = stance.starting ∧ after.known = stance.known ∧
      after.cleared = stance.cleared ∧ after.edits = stance.edits := by
  cases splits <;> exact ⟨rfl, rfl, rfl, rfl, rfl, rfl⟩

end Stance.Splits

namespace Shift

variable {roots : Roots} {news : News} {stance after : Stance} {operation : Operation}
  {answer : operation.Answer} {waiting : Waiting} {started : Option Stance}

theorem blank {child : Stance}
    (shift : Shift roots news stance operation answer after waiting (some child)) :
    child.Blank := by
  cases shift with
  | fork splits => exact splits.blank

/-- Locks are held until they are released. -/
theorem holds (shift : Shift roots news stance operation answer after waiting started)
    {lock : Lock} {mode : LockMode} (holds : after.Holds mode lock) :
    (stance.Holds mode lock ∧ operation ≠ .release lock) ∨ operation = .acquire lock mode := by
  cases shift with
  | harmless harmless => exact .inl ⟨holds, by rintro rfl; exact harmless⟩
  | fork splits =>
    obtain ⟨documents, queue, starting, _⟩ := splits.kept
    cases lock <;> simp_all [Stance.Holds]
  | _ => cases lock <;> simp_all [Stance.Holds, DocumentsHold.mode?]

theorem view (shift : Shift roots news stance operation answer after waiting started)
    {workspace : Workspace} (view : after.documents.view? = some workspace) :
    (stance.documents.view? = some workspace ∧ ∀ changed, operation ≠ .setWorkspace changed) ∨
    operation = .setWorkspace workspace ∨
    (⟨operation, answer⟩ : Σ operation : Operation, operation.Answer) =
      ⟨.workspace, workspace⟩ := by
  cases shift with
  | harmless harmless => exact .inl ⟨view, by rintro changed rfl; exact harmless⟩
  | fork splits => exact .inl ⟨splits.kept.1 ▸ view, by simp⟩
  | _ => simp_all [DocumentsHold.view?]

theorem seen (shift : Shift roots news stance operation answer after waiting started)
    {queue : Table SessionKey (List BufferContent)} (seen : after.queue = .seen queue) :
    (stance.queue = .seen queue ∧ ∀ changed, operation ≠ .setQueue changed) ∨
    operation = .setQueue queue ∨
    (⟨operation, answer⟩ : Σ operation : Operation, operation.Answer) = ⟨.queue, queue⟩ := by
  cases shift with
  | harmless harmless => exact .inl ⟨seen, by rintro changed rfl; exact harmless⟩
  | fork splits => exact .inl ⟨splits.kept.2.1 ▸ seen, by simp⟩
  | _ => simp_all

theorem misses (shift : Shift roots news stance operation answer after waiting started)
    {key : SessionKey} (starting : after.starting = some (key, true)) :
    (stance.starting = some (key, true) ∧ ∀ name session, operation ≠ .register name session) ∨
    (⟨operation, answer⟩ : Σ operation : Operation, operation.Answer) = ⟨.session key, none⟩ := by
  cases shift with
  | harmless harmless => exact .inl ⟨starting, by rintro name changed rfl; exact harmless⟩
  | fork splits => exact .inl ⟨splits.kept.2.2.1 ▸ starting, by simp⟩
  | lack =>
    cases starting
    exact .inr rfl
  | _ => simp_all

theorem uses (shift : Shift roots news stance operation answer after waiting started)
    {session : Session} (uses : after.Uses session) :
    stance.Uses session ∨ operation = .register session.key session ∨ ∃ key,
      (⟨operation, answer⟩ : Σ operation : Operation, operation.Answer) =
        ⟨.session key, some session⟩ := by
  cases shift with
  | harmless harmless => exact .inl uses
  | fork splits =>
    obtain ⟨documents, _, _, known, _⟩ := splits.kept
    left
    rwa [Stance.Uses, documents, known] at uses
  | change _ _ known | tellOpen _ _ known =>
    rcases uses with before | now
    · exact .inl (.inl before)
    · cases now
      exact .inl (.inl known)
  | find =>
    rcases uses with found | held
    · rcases List.mem_cons.mp found with rfl | before
      · exact .inr (.inr ⟨_, rfl⟩)
      · exact .inl (.inl before)
    · exact .inl (.inr held)
  | register =>
    rcases uses with found | held
    · rcases List.mem_cons.mp found with rfl | before
      · exact .inr (.inl rfl)
      · exact .inl (.inl before)
    · exact .inl (.inr held)
  | _ => simp_all [Stance.Uses, DocumentsHold.session?]

/-- What is tracked belongs to sessions that documents belonged to before or that are used. -/
theorem tracks {changed : Workspace} {answer : Unit}
    (shift : Shift roots news stance (.setWorkspace changed) answer after waiting started) :
    ∃ workspace, stance.documents.view? = some workspace ∧ ∀ entry ∈ changed.documents.entries,
      (∃ old ∈ workspace.documents.entries, old.2.session = entry.2.session) ∨
      ∃ session, stance.Uses session ∧ entry.2.session = session.key := by
  cases shift with
  | harmless harmless => exact harmless.elim
  | @retain workspace _ reading same =>
    exact ⟨workspace, by simp [reading, DocumentsHold.view?], fun entry member =>
      .inl (same.sessions entry member)⟩
  | @change workspace session file text uri document reading _ known owned =>
    refine ⟨workspace, by simp [reading, DocumentsHold.view?], fun entry member => ?_⟩
    obtain ⟨found, own⟩ := Workspace.get?_of_ownedBy? owned
    rcases Table.mem_put member with rfl | old
    · exact .inl ⟨(file, document), Table.mem_of_find? found, (Document.session_update _ _).symm⟩
    · exact .inl ⟨entry, old, rfl⟩
  | @track workspace session file uri text told =>
    refine ⟨workspace, by simp [told, DocumentsHold.view?], fun entry member => ?_⟩
    rcases Table.mem_put member with rfl | old
    · exact .inr ⟨session, .inr (by simp [told, DocumentsHold.session?]), rfl⟩
    · exact .inl ⟨entry, old, rfl⟩

/-- Sessions only join those there are, and only while their start is held. -/
theorem sessions {thread : Nat} {world next : World}
    (shift : Shift roots news stance operation answer after waiting started)
    (performed : World.Performed thread operation world next) :
    next.sessions = world.sessions ∨ ∃ session, operation = .register session.key session ∧
      stance.starting = some (session.key, true) ∧
      next.sessions = world.sessions.insert session.key session := by
  have same := performed.sessions
  cases shift with
  | harmless harmless => cases operation <;> first | exact harmless.elim | exact .inl same
  | register starting => exact .inr ⟨_, rfl, starting, same⟩
  | _ => exact .inl same

end Shift

/-- Nobody is gone, nothing comes that closes documents, and projects are where they are. -/
structure Ledger.Calm (roots : Roots) (ledger : Ledger) : Prop where
  dead : ledger.world.dead = []
  silent : Peer.editor ∉ ledger.world.silent
  rooted : ∀ language file, SessionKey.ofFile ledger.world.tree language file = roots language file
  editor : ∀ message ∈ ledger.world.waiting .editor,
    message.method ≠ "textDocument/didClose" ∧ message.method ≠ "vlc/shutdown"
  servers : ∀ server, ∀ message ∈ ledger.world.waiting (.server server),
    message.method ≠ "workspace/applyEdit"

/-- Threads hold the locks that their stances say, and a lock is held by one thread or shared. -/
structure Ledger.Locked (ledger : Ledger) : Prop where
  holds : ∀ thread lock mode, (ledger.stances thread).Holds mode lock →
    ⟨lock, mode, thread⟩ ∈ ledger.world.held
  apart : ∀ first ∈ ledger.world.held, ∀ second ∈ ledger.world.held,
    first.lock = second.lock → first.thread ≠ second.thread →
    first.mode = .shared ∧ second.mode = .shared

/-- Threads know documents, queue and sessions as they are. -/
structure Ledger.Viewed (ledger : Ledger) : Prop where
  documents : ∀ thread workspace, (ledger.stances thread).documents.view? = some workspace →
    ledger.world.workspace = workspace
  queue : ∀ thread queue, (ledger.stances thread).queue = .seen queue → ledger.world.queue = queue
  missing : ∀ thread key, (ledger.stances thread).starting = some (key, true) →
    ledger.world.sessions.get? key = none
  used : ∀ thread session, (ledger.stances thread).Uses session →
    ledger.world.sessions.get? session.key = some session
  keyed : ∀ key session, ledger.world.sessions.get? key = some session → session.key = key
  owned : ∀ entry ∈ ledger.world.workspace.documents.entries, ∃ session,
    ledger.world.sessions.get? entry.2.session = some session

namespace Ledger

variable {host : Host} {roots : Roots} {ledger next : Ledger}

section Acting

variable {thread : Nat} {operation : Operation} {answer : operation.Answer} {world : World}
  {after : Stance} {waiting : Waiting} {started : Option Stance}
  (performed : ledger.world.perform host thread operation = some (world, answer))
  (shift : Shift roots ledger.news (ledger.stances thread) operation answer after waiting started)

include performed

theorem Calm.acted (calm : ledger.Calm roots) :
    (ledger.acted thread operation world after waiting started).Calm roots := by
  have done := World.performed performed
  have fewer (peer : Peer) (message : Message) (member : message ∈ world.waiting peer) :
      message ∈ ledger.world.waiting peer := by
    rw [done.waiting peer] at member
    unfold Operation.waitingAfter at member
    split at member
    · split at member
      · exact List.mem_of_mem_tail member
      · exact member
    · exact member
  constructor
  · exact done.dead.trans calm.dead
  · exact done.silent ▸ calm.silent
  · intro language file
    exact done.tree.symm ▸ calm.rooted language file
  · exact fun message member => calm.editor message (fewer _ message member)
  · exact fun server message member => calm.servers server message (fewer _ message member)

include shift

theorem Locked.acted (locked : ledger.Locked) :
    (ledger.acted thread operation world after waiting started).Locked := by
  constructor
  · intro other
    refine forall_seat (fun other stance => ∀ lock mode, stance.Holds mode lock →
      ⟨lock, mode, other⟩ ∈ world.held) ?_ ?_ ?_ other
    · intro other apart lock mode holds
      exact World.hold_stays performed (locked.holds other lock mode holds) (.inl apart)
    · intro lock mode holds
      rcases shift.holds holds with ⟨before, kept⟩ | rfl
      · exact World.hold_stays performed (locked.holds thread lock mode before) (.inr kept)
      · rw [(World.performed performed).held]
        exact List.mem_cons_self
    · rintro child rfl lock mode holds
      have blank := shift.blank
      cases lock <;>
        simp [Stance.Holds, blank.documents, blank.queue, blank.starting,
          DocumentsHold.mode?] at holds
  · intro first one second two same apart
    rcases World.hold_cases performed one with before | ⟨_, mine, others⟩
    · rcases World.hold_cases performed two with old | ⟨_, mine, others⟩
      · exact locked.apart first before second old same apart
      · exact (others first before same).symm
    · rcases World.hold_cases performed two with old | ⟨_, too, _⟩
      · exact others second old same.symm
      · exact absurd (mine.trans too.symm) apart

end Acting

theorem Calm.happened {happening : Happening} (calm : ledger.Calm roots)
    (mild : happening.Mild ledger.world.tree) :
    Calm roots
      { ledger with
        world := ledger.world.after happening
        chronicle := ledger.chronicle.occur happening } := by
  have arrives (peer : Peer) (message : Message)
      (member : message ∈ (ledger.world.after happening).waiting peer) :
      message ∈ ledger.world.waiting peer ∨ happening = .deliver peer message := by
    rw [World.waiting_after, List.mem_append] at member
    apply member.imp_right
    intro new
    split at new
    · split at new
      · rename_i other given same
        rw [List.mem_singleton] at new
        rw [same, new]
      · cases new
    · cases new
  constructor
  · cases happening with
    | answer ticket outcome =>
      simp only [World.after, System.occur]
      split <;> exact calm.dead
    | disconnect peer => exact mild.elim
    | deliver | endInput | change => exact calm.dead
  · cases happening with
    | answer ticket outcome =>
      simp only [World.after, System.occur]
      split <;> exact calm.silent
    | endInput peer =>
      intro silent
      rcases List.mem_cons.mp silent with rfl | before
      · exact mild rfl
      · exact calm.silent before
    | deliver | disconnect | change => exact calm.silent
  · intro language file
    cases happening with
    | answer ticket outcome =>
      simp only [World.after, System.occur]
      split <;> exact calm.rooted language file
    | change tree => exact (mild language file).trans (calm.rooted language file)
    | deliver | endInput | disconnect => exact calm.rooted language file
  · intro message member
    rcases arrives .editor message member with before | rfl
    · exact calm.editor message before
    · exact mild
  · intro server message member
    rcases arrives (.server server) message member with before | rfl
    · exact calm.servers server message before
    · exact mild

theorem Calm.advance (calm : ledger.Calm roots) (advances : ledger.Advances host roots next) :
    next.Calm roots := by
  cases advances with
  | act here performed => exact calm.acted performed
  | finish => exact ⟨calm.dead, calm.silent, calm.rooted, calm.editor, calm.servers⟩
  | happen mild => exact calm.happened mild

theorem Locked.advance (locked : ledger.Locked) (advances : ledger.Advances host roots next) :
    next.Locked := by
  cases advances with
  | act here performed _ shift => exact locked.acted performed shift
  | finish => exact ⟨locked.holds, locked.apart⟩
  | happen =>
    constructor
    · intro thread lock mode holds
      rw [(World.after_happening _ _).1]
      exact locked.holds thread lock mode holds
    · rw [(World.after_happening _ _).1]
      exact locked.apart

/-- Only one thread holds a lock for itself, and then nobody shares it. -/
theorem Locked.alone (locked : ledger.Locked) {first second : Nat} {lock : Lock} {mode : LockMode}
    (one : (ledger.stances first).Holds .exclusive lock)
    (two : (ledger.stances second).Holds mode lock) : first = second := by
  by_contra apart
  have shared := locked.apart _ (locked.holds first lock _ one) _ (locked.holds second lock _ two)
    rfl apart
  cases shared.1

/-- Whoever holds a lock for itself keeps others from changing what it guards. -/
theorem Locked.excluding (locked : ledger.Locked) {first second : Nat} {lock : Lock}
    {mode : LockMode} (holds : (ledger.stances second).Holds mode lock)
    (excludes : ledger.world.excludes lock first = true) : first = second := by
  by_contra apart
  have mine : (⟨lock, .exclusive, first⟩ : Hold) ∈ ledger.world.held := by
    simpa [World.excludes] using excludes
  have shared := locked.apart _ mine _ (locked.holds second lock _ holds) rfl apart
  cases shared.1

section Acting

variable {thread : Nat} {operation : Operation} {answer : operation.Answer} {world : World}
  {after : Stance} {waiting : Waiting} {started : Option Stance}
  (viewed : ledger.Viewed) (locked : ledger.Locked)
  (performed : ledger.world.perform host thread operation = some (world, answer))
  (shift : Shift roots ledger.news (ledger.stances thread) operation answer after waiting started)

include performed

/-- The documents stay as they are while another thread holds them for itself. -/
theorem Locked.workspace_stays (locked : ledger.Locked) {other : Nat} (apart : other ≠ thread)
    (holds : (ledger.stances other).Holds .exclusive .documents) :
    world.workspace = ledger.world.workspace := by
  rw [(World.performed performed).workspace]
  apply Operation.workspaceAfter_of_ne
  rintro changed rfl
  simp only [World.perform] at performed
  split at performed
  · rename_i excludes
    exact apart (locked.excluding holds excludes).symm
  · cases performed

/-- The queue stays as it is while another thread holds it. -/
theorem Locked.queue_stays (locked : ledger.Locked) {other : Nat} (apart : other ≠ thread)
    (holds : (ledger.stances other).Holds .exclusive .queue) :
    world.queue = ledger.world.queue := by
  rw [(World.performed performed).queue]
  apply Operation.queueAfter_of_ne
  rintro changed rfl
  simp only [World.perform] at performed
  split at performed
  · rename_i excludes
    exact apart (locked.excluding holds excludes).symm
  · cases performed

include viewed shift

/-- Sessions that there are stay. -/
theorem Viewed.session_stays {key : SessionKey} {session : Session}
    (there : ledger.world.sessions.get? key = some session) :
    world.sessions.get? key = some session := by
  rcases shift.sessions (World.performed performed) with same | ⟨new, _, starting, joined⟩
  · rw [same]
    exact there
  · have missing := viewed.missing thread new.key starting
    have apart : new.key ≠ key := by
      rintro rfl
      rw [missing] at there
      cases there
    simp [joined, apart, there]

theorem Viewed.documents_acted {workspace : Workspace}
    (view : after.documents.view? = some workspace) : world.workspace = workspace := by
  have done := World.performed performed
  rcases shift.view view with ⟨before, others⟩ | rfl | same
  · rw [done.workspace, Operation.workspaceAfter_of_ne others]
    exact viewed.documents thread workspace before
  · exact done.workspace
  · cases same
    simp only [World.perform] at performed
    split at performed <;> cases performed
    rfl

theorem Viewed.queue_acted {queue : Table SessionKey (List BufferContent)}
    (seen : after.queue = .seen queue) : world.queue = queue := by
  have done := World.performed performed
  rcases shift.seen seen with ⟨before, others⟩ | rfl | same
  · rw [done.queue, Operation.queueAfter_of_ne others]
    exact viewed.queue thread queue before
  · exact done.queue
  · cases same
    simp only [World.perform] at performed
    split at performed <;> cases performed
    rfl

theorem Viewed.missing_acted {key : SessionKey} (starting : after.starting = some (key, true)) :
    world.sessions.get? key = none := by
  rcases shift.misses starting with ⟨before, others⟩ | same
  · rcases shift.sessions (World.performed performed) with same | ⟨new, added, _⟩
    · rw [same]
      exact viewed.missing thread key before
    · exact absurd added (others _ new)
  · cases same
    have found : (ledger.world, ledger.world.sessions.get? key) = (world, none) :=
      Option.some.inj performed
    obtain ⟨rfl, missing⟩ := Prod.mk.inj found
    exact missing

theorem Viewed.used_acted {session : Session} (uses : after.Uses session) :
    world.sessions.get? session.key = some session := by
  rcases shift.uses uses with before | rfl | ⟨key, same⟩
  · exact viewed.session_stays performed shift (viewed.used thread session before)
  · simp [(World.performed performed).sessions, Operation.sessionsAfter]
  · cases same
    have found : (ledger.world, ledger.world.sessions.get? key) = (world, some session) :=
      Option.some.inj performed
    obtain ⟨rfl, there⟩ := Prod.mk.inj found
    exact viewed.keyed key session there ▸ there

theorem Viewed.owned_acted {entry : String × Document}
    (member : entry ∈ world.workspace.documents.entries) :
    ∃ session, world.sessions.get? entry.2.session = some session := by
  have done := World.performed performed
  have before (old : String × Document)
      (present : old ∈ ledger.world.workspace.documents.entries)
      (same : old.2.session = entry.2.session) :
      ∃ session, world.sessions.get? entry.2.session = some session := by
    obtain ⟨session, there⟩ := viewed.owned old present
    exact ⟨session, viewed.session_stays performed shift (same ▸ there)⟩
  by_cases sets : ∃ changed, operation = .setWorkspace changed
  · obtain ⟨changed, rfl⟩ := sets
    obtain ⟨workspace, view, entries⟩ := shift.tracks
    rw [done.workspace] at member
    rw [← viewed.documents thread workspace view] at entries
    rcases entries entry member with ⟨old, present, same⟩ | ⟨session, uses, same⟩
    · exact before old present same
    · have there := viewed.used thread session uses
      exact ⟨session, same ▸ viewed.session_stays performed shift there⟩
  · rw [done.workspace, Operation.workspaceAfter_of_ne (not_exists.mp sets)] at member
    exact before entry member rfl

include locked

/-- A session that another thread saw missing while it starts it is still missing. -/
theorem Viewed.missing_beside {other : Nat} (apart : other ≠ thread) {key : SessionKey}
    (starting : (ledger.stances other).starting = some (key, true)) :
    world.sessions.get? key = none := by
  have missing := viewed.missing other key starting
  rcases shift.sessions (World.performed performed) with same | ⟨new, _, mine, joined⟩
  · rw [same]
    exact missing
  · have elsewhere : new.key ≠ key := by
      rintro rfl
      have one : (ledger.stances thread).Holds .exclusive (.starting new.key) :=
        ⟨⟨true, mine⟩, rfl⟩
      have two : (ledger.stances other).Holds .exclusive (.starting new.key) :=
        ⟨⟨true, starting⟩, rfl⟩
      exact apart (locked.alone two one)
    simp [joined, elsewhere, missing]

theorem Viewed.acted : (ledger.acted thread operation world after waiting started).Viewed := by
  constructor
  · refine forall_seat (fun _ stance => ∀ workspace,
      stance.documents.view? = some workspace → world.workspace = workspace) ?_ ?_ ?_
    · intro other apart workspace view
      rw [locked.workspace_stays performed apart (Stance.holds_of_view? view)]
      exact viewed.documents other workspace view
    · exact fun workspace view => viewed.documents_acted performed shift view
    · rintro child rfl workspace view
      rw [shift.blank.documents] at view
      cases view
  · refine forall_seat (fun _ stance => ∀ queue, stance.queue = .seen queue →
      world.queue = queue) ?_ ?_ ?_
    · intro other apart queue seen
      rw [locked.queue_stays performed apart ⟨by simp [seen], rfl⟩]
      exact viewed.queue other queue seen
    · exact fun queue seen => viewed.queue_acted performed shift seen
    · rintro child rfl queue seen
      rw [shift.blank.queue] at seen
      cases seen
  · refine forall_seat (fun _ stance => ∀ key, stance.starting = some (key, true) →
      world.sessions.get? key = none) ?_ ?_ ?_
    · exact fun other apart key starting =>
        viewed.missing_beside locked performed shift apart starting
    · exact fun key starting => viewed.missing_acted performed shift starting
    · rintro child rfl key starting
      rw [shift.blank.starting] at starting
      cases starting
  · refine forall_seat (fun _ stance => ∀ session, stance.Uses session →
      world.sessions.get? session.key = some session) ?_ ?_ ?_
    · exact fun other apart session uses =>
        viewed.session_stays performed shift (viewed.used other session uses)
    · exact fun session uses => viewed.used_acted performed shift uses
    · rintro child rfl session uses
      rcases uses with known | held
      · rw [shift.blank.known] at known
        cases known
      · rw [shift.blank.documents] at held
        cases held
  · intro key session there
    change world.sessions.get? key = some session at there
    rcases shift.sessions (World.performed performed) with same | ⟨new, _, _, joined⟩
    · exact viewed.keyed key session (same ▸ there)
    · rw [joined, Table.get?_insert] at there
      split at there
      · rename_i own
        cases there
        exact own
      · exact viewed.keyed key session there
  · exact fun entry member => viewed.owned_acted performed shift member

end Acting

theorem Viewed.advance (viewed : ledger.Viewed) (locked : ledger.Locked)
    (advances : ledger.Advances host roots next) : next.Viewed := by
  cases advances with
  | act here performed _ shift => exact viewed.acted locked performed shift
  | finish =>
    exact ⟨viewed.documents, viewed.queue, viewed.missing, viewed.used, viewed.keyed, viewed.owned⟩
  | @happen happening =>
    obtain ⟨_, workspace, queue, sessions, _⟩ := World.after_happening ledger.world happening
    constructor
    · exact workspace.symm ▸ viewed.documents
    · exact queue.symm ▸ viewed.queue
    · exact sessions.symm ▸ viewed.missing
    · exact sessions.symm ▸ viewed.used
    · exact sessions.symm ▸ viewed.keyed
    · exact workspace.symm ▸ sessions.symm ▸ viewed.owned

end Ledger

end LanguageBridge
