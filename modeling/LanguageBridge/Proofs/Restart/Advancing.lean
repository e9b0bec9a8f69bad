import LanguageBridge.Proofs.Document.Placed
import LanguageBridge.Proofs.Restart.Guidance
import LanguageBridge.Proofs.Session.Start
import Mathlib.Logic.Function.Basic

/-!
What is known while a session is started again: which documents were there when the new server was
to be told of them, how many of them it has been told of, and that documents are different since
only where a straggler has strayed.
-/
namespace LanguageBridge

/-- A document has been changed to the text of a straggler. -/
def Straggler.Overtakes (straggler : Straggler) (key : SessionKey) (before now : Workspace) :
    Prop :=
  ∃ old new, before.documents.get? straggler.file = some old ∧
    now.documents.get? straggler.file = some new ∧ old.session = key ∧ new.session = key ∧
    old.version < new.version ∧ new.lines = straggler.text.splitLines

namespace Restart

variable (restart : Restart)

/-- What may come of a system while the session is started, as long as servers ask for no edits. -/
abbrev Leads : System → System → Prop := Course restart.setup Happening.Editless

/-- Who holds a context of the session before has no server any more. -/
def Gone (world : World) : Prop :=
  ∀ straggler ∈ restart.stragglers, ∀ session, straggler.context.session = some session →
    world.isAlive session.peer = false

/-- No server of the language was started meanwhile. -/
structure Unbegun (world : World) : Prop where
  connected : (world.connected.get? restart.key.language).getD 0 = restart.count
  notices : world.noticesTo restart.server = []

/-- Documents are as they were, but for those that stragglers have changed who have strayed. -/
def Since (footings : Nat → Footing) (before now : Workspace) : Prop :=
  ∀ file, now.documents.get? file = before.documents.get? file ∨
    ∃ thread straggler, restart.straggler? thread = some straggler ∧ straggler.file = file ∧
      (footings thread).Strayed ∧ straggler.Overtakes restart.key before now

/-- The new server is being told of the documents as they were when the thread that starts it looked
at them; some are left. -/
structure Opening (footings : Nat → Footing) (left : List (String × Document))
    (opening now : System) : Prop where
  before : restart.Leads restart.system opening
  after : restart.Leads opening now
  reads : ∃ next, opening.threads[0]? = some (.step .workspace next)
  untold : opening.world.noticesTo restart.server = []
  unique : (opening.world.workspace.documents.entries.map (·.1)).Nodup
  told : ∃ done, opening.world.workspace.documentsOf restart.key = done ++ left ∧
    now.world.noticesTo restart.server = done.filterMap Notice.opening? ∧
    ∀ entry ∈ done, ∃ uri, Uri.ofFileName entry.1 = .ok uri
  unoffered : ∀ thread workspace, (footings thread).tenure ≠ .offered workspace
  since : restart.Since footings opening.world.workspace now.world.workspace

/-- What is known at every stage. -/
def Stage.Fits (footings : Nat → Footing) (now : System) : Stage → Prop
  | .looking => restart.Unbegun now.world ∧
    now.world.sessions.get? restart.key = restart.world.sessions.get? restart.key
  | .found session => restart.Unbegun now.world ∧
    restart.world.sessions.get? restart.key = some session
  | .gone => restart.Unbegun now.world ∧ restart.Gone now.world
  | .begun => now.world.noticesTo restart.server = [] ∧ restart.Gone now.world
  | .opening left => restart.Gone now.world ∧ ∃ opening, restart.Opening footings left opening now
  | .opened => restart.Gone now.world ∧ ∃ opening, restart.Opening footings [] opening now
  | .ended => True

/-- All threads go by their rules; only those that were there at first may be stragglers. -/
structure Guided (stage : Stage) (footings : Nat → Footing) (system : System) : Prop where
  starter : ∃ script, system.threads[0]? = some script ∧
    script.Guided restart.rules stage fun _ _ => True
  others : ∀ thread script, thread ≠ 0 → system.threads[thread]? = some script →
    script.Guided (Straggler.rules restart.server (restart.straggler? thread)) (footings thread)
      fun outcome after => after.Strayed → outcome = .error .terminated
  first : footings 0 = {}
  unborn : ∀ thread, system.threads.length ≤ thread → footings thread = {}
  many : restart.stragglers.length < system.threads.length

/-- Who has the documents holds their lock, alone, and knows what is tracked if it has looked. -/
structure Tenant (footings : Nat → Footing) (world : World) : Prop where
  locked : ∀ thread, (footings thread).tenure ≠ .free →
    ⟨.documents, .exclusive, thread⟩ ∈ world.held
  sole : ∀ thread other, (footings thread).tenure ≠ .free → (footings other).tenure ≠ .free →
    thread = other
  knows : ∀ thread, (footings thread).tenure.Knows world.workspace

/-- What holds at any time: a file has one document, stragglers hold contexts of servers that are
gone or of the session that was registered at first, and no server has asked for an edit. -/
structure Ground (world : World) : Prop where
  forked : world.forked = []
  unique : (world.workspace.documents.entries.map (·.1)).Nodup
  lapsing : ∀ straggler ∈ restart.stragglers, ∀ session,
    straggler.context.session = some session →
      world.isAlive session.peer = false ∨
        restart.world.sessions.get? restart.key = some session
  editless : ∀ server, ∀ message ∈ world.waiting (.server server), ¬ message.AsksEdit

/-- All that is known of a moment. -/
structure Sound (stage : Stage) (footings : Nat → Footing) (now : System) : Prop where
  guided : restart.Guided stage footings now
  tenant : Tenant footings now.world
  ground : restart.Ground now.world
  registered : ∀ session, now.world.sessions.get? restart.key = some session →
    restart.count < session.server.number →
      stage = .opened ∧ session.key = restart.key ∧ session.server = restart.server
  fits : stage.Fits restart footings now

/-- Where the session is to be started: stragglers hold contexts of sessions for the key whose
servers are gone, or of the one that is registered; a server that is not started was told nothing,
and no server has asked for an edit. -/
structure Stranded : Prop where
  forked : restart.world.forked = []
  unique : (restart.world.workspace.documents.entries.map (·.1)).Nodup
  holds : ∀ straggler ∈ restart.stragglers, ∃ session, straggler.context.session = some session ∧
    session.key = restart.key ∧ session.server.number ≤ restart.count ∧
    (restart.world.isAlive session.peer = false ∨
      restart.world.sessions.get? restart.key = some session)
  registered : ∀ session, restart.world.sessions.get? restart.key = some session →
    session.server.number ≤ restart.count
  untold : restart.world.noticesTo restart.server = []
  editless : ∀ server, ∀ message ∈ restart.world.waiting (.server server), ¬ message.AsksEdit

variable {restart} {stage : Stage} {footings after : Nat → Footing} {now next : System}
  {world later : World}

/-- A straggler's server is not the new one. -/
theorem Stranded.other (stranded : restart.Stranded) {straggler : Straggler}
    (member : straggler ∈ restart.stragglers) {session : Session}
    (holds : straggler.context.session = some session) :
    session.key = restart.key ∧ session.server ≠ restart.server := by
  obtain ⟨own, held, keyed, counted, _⟩ := stranded.holds straggler member
  obtain rfl := Option.some.inj (held.symm.trans holds)
  refine ⟨keyed, fun same => ?_⟩
  have beyond : own.server.number = restart.count + 1 := congrArg ServerId.number same
  omega

theorem mem_of_straggler? {thread : Nat} {straggler : Straggler}
    (here : restart.straggler? thread = some straggler) : straggler ∈ restart.stragglers := by
  cases thread with
  | zero => cases here
  | succ thread => exact List.mem_of_getElem? here

/-- At first everything is as it should be. -/
theorem Stranded.sound (stranded : restart.Stranded) :
    restart.Sound .looking (fun _ => {}) restart.system where
  guided := by
    refine ⟨⟨_, rfl, restart.starter_guided⟩, ?_, rfl, fun _ _ => rfl, by simp [system]⟩
    intro thread script other here
    obtain ⟨index, rfl⟩ := Nat.exists_eq_succ_of_ne_zero other
    obtain ⟨straggler, own, rfl⟩ : ∃ straggler, restart.stragglers[index]? = some straggler ∧
        straggler.script = script := by
      simpa [system] using here
    have member := List.mem_of_getElem? own
    obtain ⟨session, holds, _⟩ := stranded.holds straggler member
    change straggler.script.Guided (Straggler.rules _ restart.stragglers[index]?) _ _
    rw [own]
    exact Straggler.script_guided holds (stranded.other member holds).2
  tenant := ⟨fun _ has => absurd rfl has, fun _ _ has => absurd rfl has, fun _ => trivial⟩
  ground := by
    refine ⟨stranded.forked, stranded.unique, ?_, stranded.editless⟩
    intro straggler member session holds
    obtain ⟨own, held, _, _, lapsing⟩ := stranded.holds straggler member
    obtain rfl := Option.some.inj (held.symm.trans holds)
    exact lapsing
  registered := fun session here beyond =>
    absurd (stranded.registered session here) (Nat.not_le.mpr beyond)
  fits := ⟨⟨rfl, stranded.untold⟩, rfl⟩

/-- No server is started, the new one hears nothing of documents, and who is gone stays away. -/
structure Drift (restart : Restart) (before after : World) : Prop where
  connected : after.connected.get? restart.key.language =
    before.connected.get? restart.key.language
  notices : after.noticesTo restart.server = before.noticesTo restart.server
  dead : ∀ peer, before.isAlive peer = false → after.isAlive peer = false

theorem Drift.gone (drift : Drift restart world later) (gone : restart.Gone world) :
    restart.Gone later :=
  fun straggler member session holds => drift.dead _ (gone straggler member session holds)

theorem Drift.unbegun (drift : Drift restart world later) (unbegun : restart.Unbegun world) :
    restart.Unbegun later :=
  ⟨(congrArg (Option.getD · 0) drift.connected).trans unbegun.connected,
    drift.notices.trans unbegun.notices⟩

/-- What is known of a stage stays so, if who is started on it does not go further; the documents
may change only as they may while the new server is being told of them. -/
theorem Stage.Fits.advance (fits : stage.Fits restart footings now)
    (advance : Advance restart.setup Happening.Editless now next)
    (drift : Drift restart now.world next.world)
    (sessions : stage = .looking → next.world.sessions.get? restart.key =
      now.world.sessions.get? restart.key)
    (changes : restart.Gone now.world →
      (∀ thread workspace, (footings thread).tenure ≠ .offered workspace) →
      (∀ thread workspace, (after thread).tenure ≠ .offered workspace) ∧
        ∀ before, restart.Since footings before now.world.workspace →
          restart.Since after before next.world.workspace) :
    stage.Fits restart after next := by
  have opening (left : List (String × Document)) (gone : restart.Gone now.world)
      (before : ∃ opening, restart.Opening footings left opening now) :
      ∃ opening, restart.Opening after left opening next := by
    obtain ⟨opening, fits⟩ := before
    obtain ⟨unoffered, since⟩ := changes gone fits.unoffered
    obtain ⟨done, whole, told, named⟩ := fits.told
    exact ⟨opening, fits.before, fits.after.tail advance, fits.reads, fits.untold, fits.unique,
      ⟨done, whole, drift.notices.trans told, named⟩, unoffered, since _ fits.since⟩
  cases stage with
  | looking => exact ⟨drift.unbegun fits.1, (sessions rfl).trans fits.2⟩
  | found session => exact ⟨drift.unbegun fits.1, fits.2⟩
  | gone => exact ⟨drift.unbegun fits.1, drift.gone fits.2⟩
  | begun => exact ⟨drift.notices.trans fits.1, drift.gone fits.2⟩
  | opening left => exact ⟨drift.gone fits.1, opening left fits.1 fits.2⟩
  | opened => exact ⟨drift.gone fits.1, opening [] fits.1 fits.2⟩
  | ended => trivial

end Restart

end LanguageBridge

/-!
Whatever a thread does while a session is started again, and whatever happens, what is known of the
moment before leads to what is known of the next.
-/
namespace LanguageBridge

variable {host : Host} {thread : Nat} {operation : Operation} {answer : operation.Answer}
  {before after : World} {server : ServerId}

/-- Operations by which a server is started or reached. -/
def Operation.Connects : Operation → Prop
  | .spawn .. | .connect _ => True
  | _ => False

namespace World

/-- Servers are counted when they are spawned or connected. -/
theorem connected_of_performed
    (performed : before.perform host thread operation = some (after, answer))
    (apart : ¬ operation.Connects) : after.connected = before.connected := by
  cases operation with
  | spawn | connect => exact absurd trivial apart
  | acquire | workspace | setWorkspace | queue | setQueue | join | dropIfDead =>
    simp only [perform] at performed
    split at performed <;> cases performed <;> rfl
  | receive peer =>
    simp only [perform, receive] at performed
    split at performed
    · cases performed
      rfl
    · split at performed <;> cases performed
      rfl
  | notify peer | reply peer | call peer =>
    simp only [perform, say, Sent.peer] at performed
    by_cases alive : before.isAlive peer = true
    · simp only [alive, if_true] at performed
      cases performed
      rfl
    · simp only [alive] at performed
      cases performed
      rfl
  | await ticket =>
    obtain ⟨outcome, _, same⟩ := Option.map_eq_some_iff.mp performed
    cases same
    rfl
  | _ =>
    cases performed
    rfl

/-- Who looks at the documents sees what is tracked. -/
theorem workspace_of_performed {workspace : Workspace}
    (performed : before.perform host thread .workspace = some (after, workspace)) :
    after = before ∧ workspace = before.workspace := by
  simp only [perform] at performed
  split at performed <;> cases performed
  exact ⟨rfl, rfl⟩

/-- A server hears of documents what is said to it. -/
theorem noticesTo_of_performed
    (performed : before.perform host thread operation = some (after, answer)) (server : ServerId) :
    after.noticesTo server =
      before.noticesTo server ++ (operation.saying before).filterMap (Notice.heard? server) := by
  rw [noticesTo, (World.performed performed).traffic, List.filterMap_append]
  rfl

end World

namespace Operation.Calm

theorem silent (calm : operation.Calm server) (before : World) :
    (operation.saying before).filterMap (Notice.heard? server) = [] := by
  cases operation with
  | notify peer method params =>
    simp only [saying]
    split
    · by_cases same : peer = .server server
      · simp [Notice.heard?, same, Notice.read?_ofJson, calm same]
      · simp [Notice.heard?, same]
    · rfl
  | reply | call =>
    simp only [saying]
    split <;> simp [Notice.heard?]
  | _ => rfl

theorem workspace (calm : operation.Calm server) (before : Workspace) :
    operation.workspaceAfter before = before := by
  cases operation with
  | setWorkspace => exact calm.elim
  | _ => rfl

theorem sessions (calm : operation.Calm server) (before : World) :
    operation.sessionsAfter before = before.sessions := by
  cases operation with
  | dropIfDead | register | unregister | drain => exact calm.elim
  | _ => rfl

theorem starts (calm : operation.Calm server) :
    ∀ work ∈ operation.starting, ∃ session, work = .serveSession session := by
  cases operation with
  | fork work =>
    cases work with
    | serveSession session => exact fun _ member => ⟨session, List.mem_singleton.mp member⟩
    | _ => exact calm.elim
  | _ => exact List.forall_mem_nil _

theorem apart (calm : operation.Calm server) : ¬ operation.Connects := by
  cases operation with
  | spawn | connect => exact calm.elim
  | _ => exact id

theorem counts (calm : operation.Calm server)
    (performed : before.perform host thread operation = some (after, answer)) :
    after.connected = before.connected :=
  World.connected_of_performed performed calm.apart

end Operation.Calm

namespace Restart

variable {restart : Restart} {stage further : Stage} {footings : Nat → Footing} {now : System}

/-- An operation by which no server is started and the new one hears nothing of documents. -/
theorem Drift.performed (performed : before.perform host thread operation = some (after, answer))
    (connected : after.connected = before.connected)
    (silent : (operation.saying before).filterMap (Notice.heard? restart.server) = []) :
    Drift restart before { after with forked := [] } where
  connected := by rw [connected]
  notices := by
    change after.noticesTo restart.server = _
    rw [World.noticesTo_of_performed performed, silent, List.append_nil]
  dead := fun peer gone => by
    rw [World.isAlive] at gone ⊢
    rwa [(World.performed performed).dead]

/-- A thread has gone on and others were started, which take the messages of a server. -/
theorem Guided.step (guided : restart.Guided stage footings now) {last : Nat → Footing}
    {rest : Script (Outcome Json)} {forked : List Work} {world : World}
    (within : thread < now.threads.length)
    (starts : ∀ work ∈ forked, ∃ session, work = .serveSession session)
    (kept : ∀ other, other ≠ thread → last other = footings other) (first : last 0 = {})
    (starter : thread = 0 → rest.Guided restart.rules further fun _ _ => True)
    (other : thread ≠ 0 → further = stage ∧
      rest.Guided (Straggler.rules restart.server (restart.straggler? thread)) (last thread)
        fun outcome after => after.Strayed → outcome = .error .terminated) :
    restart.Guided further last
      ⟨world, now.threads.set thread rest ++ forked.map (Program.scriptOf restart.setup)⟩ where
  starter := by
    obtain ⟨script, here, goes⟩ := guided.starter
    have some : 0 < now.threads.length := Nat.zero_lt_of_lt within
    rw [List.getElem?_append_left (by simpa using some)]
    by_cases self : thread = 0
    · subst self
      exact ⟨rest, by simp [some], starter rfl⟩
    · obtain ⟨rfl, _⟩ := other self
      exact ⟨script, by rw [List.getElem?_set_ne self, here], goes⟩
  others := by
    intro index script apart here
    by_cases old : index < now.threads.length
    · rw [List.getElem?_append_left (by simpa using old)] at here
      by_cases self : thread = index
      · subst self
        rw [List.getElem?_set_self old] at here
        cases here
        exact (other apart).2
      · rw [List.getElem?_set_ne self] at here
        rw [kept index (Ne.symm self)]
        exact guided.others index script apart here
    · rw [List.getElem?_append_right (by simpa using old), List.getElem?_map] at here
      obtain ⟨work, member, rfl⟩ := Option.map_eq_some_iff.mp here
      obtain ⟨session, rfl⟩ := starts work (List.mem_of_getElem? member)
      have beyond : now.threads.length ≤ index := Nat.not_lt.mp old
      have unknown : restart.straggler? index = none := by
        obtain ⟨place, rfl⟩ := Nat.exists_eq_succ_of_ne_zero apart
        have many := guided.many
        exact List.getElem?_eq_none (by omega)
      have young : last index = {} :=
        (kept index (by omega)).trans (guided.unborn index beyond)
      rw [unknown, young]
      refine (Program.serveSession_guided restart.setup session).mono ?_
      rintro _ _ rfl strayed
      simp [Footing.Strayed] at strayed
  first := first
  unborn := by
    intro index beyond
    simp only [List.length_append, List.length_set] at beyond
    rw [kept index (by omega)]
    exact guided.unborn index (by omega)
  many := by
    have many := guided.many
    simp only [List.length_append, List.length_set]
    omega

namespace Tenant

variable {last : Footing}

/-- An operation that does not change the documents, and by which nobody who has them lets go of
them. -/
theorem frame (tenant : Tenant footings before)
    (performed : before.perform host thread operation = some (after, answer))
    (same : after.workspace = before.workspace)
    (stays : ∀ other, (footings other).tenure ≠ .free →
      other ≠ thread ∨ operation ≠ .release .documents) : Tenant footings after where
  locked := fun other has => World.hold_stays performed (tenant.locked other has) (stays other has)
  sole := tenant.sole
  knows := by
    rw [same]
    exact tenant.knows

/-- A thread takes the documents when nobody has them. -/
theorem enter (tenant : Tenant footings before)
    (performed : before.perform host thread (.acquire .documents .exclusive) = some (after, ()))
    (entered : last.tenure = .entered) : Tenant (Function.update footings thread last) after := by
  have admitted : before.admits .documents .exclusive = true := by
    simp only [World.perform] at performed
    split at performed
    · assumption
    · cases performed
  have nobody (other : Nat) : (footings other).tenure = .free := by
    by_contra has
    have fits := List.all_eq_true.mp admitted _ (tenant.locked other has)
    simp at fits
  have held : ⟨.documents, .exclusive, thread⟩ ∈ after.held := by
    rw [(World.performed performed).held]
    exact List.mem_cons_self
  have only (other : Nat) (has : (Function.update footings thread last other).tenure ≠ .free) :
      other = thread := by
    by_contra apart
    rw [Function.update_of_ne apart] at has
    exact has (nobody other)
  refine ⟨?_, ?_, ?_⟩
  · intro other has
    rw [only other has]
    exact held
  · exact fun first second has too => (only first has).trans (only second too).symm
  · intro other
    by_cases same : other = thread
    · rw [same, Function.update_self, entered]
      trivial
    · rw [Function.update_of_ne same, nobody other]
      trivial

/-- A thread that has the documents goes on with them, alone. -/
theorem proceed (tenant : Tenant footings before)
    (performed : before.perform host thread operation = some (after, answer))
    (has : (footings thread).tenure ≠ .free) (stays : operation ≠ .release .documents)
    (knows : last.tenure.Knows after.workspace) :
    Tenant (Function.update footings thread last) after := by
  have held := World.hold_stays performed (tenant.locked thread has) (.inr stays)
  have free (other : Nat) (apart : other ≠ thread) :
      (Function.update footings thread last other).tenure = .free := by
    rw [Function.update_of_ne apart]
    by_contra too
    exact apart (tenant.sole other thread too has)
  have only (other : Nat) (too : (Function.update footings thread last other).tenure ≠ .free) :
      other = thread := not_imp_comm.mp (free other) too
  refine ⟨?_, ?_, ?_⟩
  · intro other too
    rw [only other too]
    exact held
  · exact fun first second too also => (only first too).trans (only second also).symm
  · intro other
    by_cases same : other = thread
    · rwa [same, Function.update_self]
    · rw [free other same]
      trivial

/-- A thread lets go of the documents. -/
theorem leave (tenant : Tenant footings before)
    (performed : before.perform host thread (.release .documents) = some (after, ()))
    (free : last.tenure = .free) : Tenant (Function.update footings thread last) after := by
  have apart {other : Nat} (has : (Function.update footings thread last other).tenure ≠ .free) :
      other ≠ thread := by
    rintro rfl
    rw [Function.update_self] at has
    exact has free
  have same := (World.performed performed).workspace
  refine ⟨?_, ?_, ?_⟩
  · intro other has
    have different := apart has
    rw [Function.update_of_ne different] at has
    exact World.hold_stays performed (tenant.locked other has) (.inl different)
  · intro first second has too
    have one := apart has
    have another := apart too
    rw [Function.update_of_ne one] at has
    rw [Function.update_of_ne another] at too
    exact tenant.sole first second has too
  · intro other
    by_cases own : other = thread
    · rw [own, Function.update_self, free]
      trivial
    · rw [Function.update_of_ne own, same]
      exact tenant.knows other

end Tenant

/-- Messages are taken, and documents change as long as a file has one. -/
theorem Ground.step (ground : restart.Ground before)
    (performed : before.perform host thread operation = some (after, answer))
    (unique : (after.workspace.documents.entries.map (·.1)).Nodup) :
    restart.Ground { after with forked := [] } where
  forked := rfl
  unique := unique
  lapsing := fun straggler member session holds => by
    rw [World.isAlive, (World.performed performed).dead]
    exact ground.lapsing straggler member session holds
  editless := fun server message member => by
    change message ∈ after.waiting (.server server) at member
    rw [(World.performed performed).waiting] at member
    refine ground.editless server message ?_
    cases operation with
    | receive peer =>
      rw [Operation.waitingAfter] at member
      split at member
      · exact List.mem_of_mem_tail member
      · exact member
    | _ => exact member

/-- A thread learns nothing that it may not. -/
theorem Ground.expected (ground : restart.Ground before)
    (performed : before.perform host thread operation = some (after, answer)) :
    Straggler.Expects operation answer := by
  cases operation with
  | receive peer =>
    cases peer with
    | editor => trivial
    | server id =>
      rintro message rfl
      have waiting := World.waiting_of_receive performed
      exact ground.editless id message (waiting ▸ List.mem_cons_self)
  | notify peer method params =>
    rintro failure rfl
    simp only [World.perform, World.say] at performed
    split at performed <;> cases performed
    rfl
  | _ => trivial

end Restart

end LanguageBridge
