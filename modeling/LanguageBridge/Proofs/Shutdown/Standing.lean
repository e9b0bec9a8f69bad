import LanguageBridge.Proofs.Session.Sound
import LanguageBridge.Proofs.Session.UntilUse
import LanguageBridge.Proofs.Shutdown.Threads

/-!
What threads have in hand stands at every moment, whatever the other threads do: who starts a server
holds the lock of its key's starts, alone, and what it has found out of the sessions in use is so. A
server that is there and was told that it is initialized is put in use, if its start is not under
way any more, and stays in use until it is taken.
-/
namespace LanguageBridge

variable {setup : Setup} {tree : FileTree} {journal before rest : Journal} {now : System}
  {thread mover : Nat} {work : Work} {act : Act} {charge after : Charge}

/-- The sessions that an act took out of use. -/
def Act.taken : Act → List Session
  | ⟨.unregister _, answer⟩ => (answer : Option Session).toList
  | ⟨.drain, answer⟩ => (answer : List Session)
  | _ => []

/-- The session that an act left to a thread that stops it. -/
def Act.stopped? : Act → Option Session
  | ⟨.fork (.stopSession session), _⟩ => some session
  | _ => none

namespace Charge

theorem Turns.accounts (turns : Turns work charge act.operation act.answer after) :
    charge.debts ++ act.taken = act.stopped?.toList ++ after.debts := by
  obtain ⟨operation, answer⟩ := act
  cases turns with
  | aside aside =>
    cases operation with
    | fork forked =>
      cases forked with
      | stopSession => cases aside
      | _ => exact List.append_nil _
    | unregister | drain => cases aside
    | _ => exact List.append_nil _
  | take | drain => rfl
  | stop due => exact (List.append_nil _).trans due
  | _ => exact List.append_nil _

/-- A thread is with the start of a session when it was before, or has just taken the lock. -/
theorem Turns.starts {operation : Operation} {answer : operation.Answer} {key : SessionKey}
    (turns : Turns work charge operation answer after) (starts : after.launch.key? = some key) :
    operation = .acquire (.starting key) .exclusive ∨
      charge.launch.key? = some key ∧ operation ≠ .release (.starting key) := by
  cases turns with
  | aside aside =>
    refine .inr ⟨starts, ?_⟩
    rintro rfl
    exact aside
  | enter =>
    cases starts
    exact .inl rfl
  | leave => cases starts
  | miss same | find same | gone same | spawn same | confirm same | lose same | register same =>
    refine .inr ⟨?_, nofun⟩
    rw [same]
    exact starts
  | _ => exact .inr ⟨starts, nofun⟩

theorem Turns.confirmed {server : ServerId} {params : Json}
    (turns : Turns work charge (.notify (.server server) "initialized" params)
      (.ok () : Outcome Unit) after) : ∃ key, after.launch = .told key server := by
  generalize named : "initialized" = method at turns
  cases turns with
  | aside aside => exact absurd named.symm aside.1
  | confirm => exact ⟨_, rfl⟩
  | exit => exact absurd named (by decide)

/-- What was taken out of use was left to threads that stop it, but for what is still to be. -/
theorem accounts {acts : List Act} (follows : (rules work).Follows charge acts after) :
    charge.debts ++ acts.flatMap Act.taken = acts.filterMap Act.stopped? ++ after.debts := by
  induction follows with
  | nothing => simp
  | @act standing between after act acts turns _ ih =>
    rw [List.flatMap_cons, ← List.append_assoc, Turns.accounts turns, List.append_assoc, ih,
      List.filterMap_cons]
    cases act.stopped? <;> simp

end Charge

namespace Journal

/-- The sessions that were taken out of use. -/
def taken (journal : Journal) : List Session := journal.acts.flatMap Act.taken

@[simp]
theorem taken_did : taken (journal ++ [.did thread act]) = journal.taken ++ act.taken := by
  simp [taken]

@[simp] theorem taken_ended : taken (journal ++ [.ended thread]) = journal.taken := by simp [taken]

@[simp]
theorem taken_happened (happening : Happening) :
    taken (journal ++ [.happened happening]) = journal.taken := by
  simp [taken]

/-- What a thread may have in hand after what it did. -/
def Has (journal : Journal) (thread : Nat) (charge : Charge) : Prop :=
  ∃ work, journal.works[thread]? = some work ∧
    (Charge.rules work).Follows {} (journal.actsOf thread) charge

namespace Kept

theorem guided (kept : Kept setup tree journal now)
    (named : ∀ tracked, (⟨.workspace, tracked⟩ : Act) ∈ journal.acts → Workspace.Named tracked)
    (started : journal.works[thread]? = some work) : ∃ script charge,
      now.threads[thread]? = some script ∧
      (Charge.rules work).Follows {} (journal.actsOf thread) charge ∧
      script.Guided (Charge.rules work) charge fun _ after => after = {} := by
  obtain ⟨script, here, does⟩ := kept.script started
  have expected (standing : Charge) (act : Act) (member : act ∈ journal.actsOf thread) :
      (Charge.rules work).expects standing act.operation act.answer := by
    obtain ⟨operation, answer⟩ := act
    cases operation with
    | workspace => exact named answer (mem_acts_of_mem_actsOf member)
    | _ => trivial
  obtain ⟨charge, follows, guided⟩ :=
    (Program.scriptOf_steady setup work).does does expected
  exact ⟨script, charge, here, follows, guided⟩

/-- All documents that are tracked and that were found have names. -/
theorem named (kept : Kept setup tree journal now) :
    (∀ tracked, (⟨.workspace, tracked⟩ : Act) ∈ journal.acts → Workspace.Named tracked) ∧
      now.world.workspace.Named := by
  induction kept with
  | begin => exact ⟨fun _ impossible => absurd impossible List.not_mem_nil, nofun⟩
  | @did journal now mover operation onward world answer kept here performed ih =>
    obtain ⟨found, tracked⟩ := ih
    constructor
    · intro workspace member
      rw [acts_did, List.mem_append, List.mem_singleton] at member
      rcases member with old | new
      · exact found workspace old
      · cases new
        exact workspace_of_perform performed ▸ tracked
    · change world.workspace.Named
      rw [(World.performed performed).workspace]
      cases operation with
      | setWorkspace changed =>
        obtain ⟨work, started⟩ := kept.work_of_thread here
        obtain ⟨script, charge, there, _, guided⟩ := kept.guided found started
        obtain rfl : _ = script := Option.some.inj (here.symm.trans there)
        obtain ⟨_, turns, _⟩ := guided answer trivial
        cases turns with
        | aside impossible => cases impossible
        | track named => exact named
      | _ => exact tracked
  | ended _ _ _ ih => simpa using ih
  | happened _ happening ih =>
    rw [System.occur_eq, acts_happened]
    refine ⟨ih.1, ?_⟩
    dsimp only
    rw [(World.after_happening _ happening).2.1]
    exact ih.2

/-- Whatever a thread does next turns what it has in hand. -/
theorem turns (kept : Kept setup tree journal now) {operation : Operation}
    {onward : operation.Answer → Script (Outcome Json)} {world : World}
    {answer : operation.Answer} (here : now.threads[thread]? = some (.step operation onward))
    (performed : now.world.perform setup.host thread operation = some (world, answer)) :
    ∃ work charge after, journal.works[thread]? = some work ∧
      (Charge.rules work).Follows {} (journal.actsOf thread) charge ∧
      Charge.Turns work charge operation answer after := by
  obtain ⟨found, tracked⟩ := kept.named
  obtain ⟨work, started⟩ := kept.work_of_thread here
  obtain ⟨script, charge, there, follows, guided⟩ := kept.guided found started
  obtain rfl : _ = script := Option.some.inj (here.symm.trans there)
  have expected : (Charge.rules work).expects charge operation answer := by
    cases operation with
    | workspace => exact workspace_of_perform performed ▸ tracked
    | _ => trivial
  obtain ⟨after, turns, _⟩ := guided answer expected
  exact ⟨work, charge, after, started, follows, turns⟩

/-- Whatever a thread did turned what it had in hand. -/
theorem turned (kept : Kept setup tree journal now)
    (split : journal = before ++ .did thread act :: rest) : ∃ work charge after,
      journal.works[thread]? = some work ∧
        Charge.Turns work charge act.operation act.answer after := by
  obtain ⟨moment, world, onward, earlier, here, performed⟩ := kept.stood split
  obtain ⟨work, charge, after, started, _, turns⟩ := earlier.turns here performed
  exact ⟨work, charge, after, split ▸ work_stays started _, turns⟩

/-- A thread that is done has nothing in hand. -/
theorem spent (kept : Kept setup tree journal now) {outcome : Outcome Json}
    (started : journal.works[thread]? = some work)
    (done : now.threads[thread]? = some (.done outcome)) :
    (Charge.rules work).Follows {} (journal.actsOf thread) {} := by
  obtain ⟨script, charge, there, follows, guided⟩ := kept.guided kept.named.1 started
  obtain rfl : _ = script := Option.some.inj (done.symm.trans there)
  obtain rfl : charge = {} := guided
  exact follows

end Kept

/-- What a thread may have in hand after an act: what the act made of it, if it is its own, and
otherwise what it had before; a thread that was just started has nothing. -/
theorem Kept.has_did (kept : Kept setup tree journal now) {script : Script (Outcome Json)}
    (here : now.threads[mover]? = some script)
    (has : Has (journal ++ [.did mover act]) thread charge) :
    (thread = mover ∧ ∃ work before, journal.works[mover]? = some work ∧
        journal.Has mover before ∧ Charge.Turns work before act.operation act.answer charge) ∨
      thread ≠ mover ∧ (journal.Has thread charge ∨
        charge = {} ∧ journal.works.length ≤ thread) := by
  obtain ⟨work, started, follows⟩ := has
  by_cases same : thread = mover
  · subst same
    obtain ⟨known, before⟩ := kept.work_of_thread here
    obtain rfl : known = work :=
      Option.some.inj ((work_stays before [.did thread act]).symm.trans started)
    rw [actsOf_did_self] at follows
    obtain ⟨between, earlier, last⟩ := follows.of_append
    cases last with
    | act turns nothing =>
      cases nothing
      exact .inl ⟨rfl, known, between, before, ⟨known, before, earlier⟩, turns⟩
  · rw [actsOf_did_of_ne same] at follows
    refine .inr ⟨same, ?_⟩
    by_cases old : thread < journal.works.length
    · rw [works_did, List.getElem?_append_left old] at started
      exact .inl ⟨work, started, follows⟩
    · rw [kept.actsOf_of_le (Nat.not_lt.mp old)] at follows
      cases follows
      exact .inr ⟨rfl, Nat.not_lt.mp old⟩

theorem has_ended : Has (journal ++ [.ended mover]) thread charge ↔ journal.Has thread charge := by
  simp [Has]

theorem has_happened {happening : Happening} :
    Has (journal ++ [.happened happening]) thread charge ↔ journal.Has thread charge := by
  simp [Has]

/-- Whoever is with the start of a session holds the lock of its key's starts. -/
theorem Kept.holds_start (kept : Kept setup tree journal now) {key : SessionKey}
    (has : journal.Has thread charge) (starts : charge.launch.key? = some key) :
    ⟨.starting key, .exclusive, thread⟩ ∈ now.world.held := by
  induction kept generalizing charge thread with
  | begin =>
    obtain ⟨work, _, follows⟩ := has
    cases follows
    cases starts
  | @did journal now mover operation onward world answer kept here performed ih =>
    change _ ∈ world.held
    rcases kept.has_did here has with ⟨rfl, work, before, _, had, turns⟩ | ⟨other, had | ⟨rfl, _⟩⟩
    · rcases turns.starts starts with rfl | ⟨before, kept⟩
      · rw [(World.performed performed).held]
        exact List.mem_cons_self
      · exact World.hold_stays performed (ih had before) (.inr kept)
    · exact World.hold_stays performed (ih had starts) (.inl other)
    · cases starts
  | ended _ _ _ ih => exact ih (has_ended.mp has) starts
  | happened _ happening ih =>
    rw [System.occur_eq, World.after_held]
    exact ih (has_happened.mp has) starts

/-- Nobody else is with the start of a session of the same key. -/
theorem Kept.starts_alone (kept : Kept setup tree journal now) {key : SessionKey} {other : Nat}
    {theirs : Charge} (has : journal.Has thread charge) (also : journal.Has other theirs)
    (starts : charge.launch.key? = some key) (also_starts : theirs.launch.key? = some key) :
    thread = other := by
  by_contra apart
  have both := kept.shared (kept.holds_start has starts) (kept.holds_start also also_starts) rfl
    apart
  cases both.1

end Journal

/-- What a thread that holds the lock of a key's starts has found out of the sessions in use is
so. -/
def Launch.Stands (world : World) : Launch → Prop
  | .seen key session => ∀ found, world.sessions.get? key = some found → found = session
  | .vacant key | .spawned key _ | .told key _ => ∀ found, world.sessions.get? key = some found →
      world.isAlive found.peer = false
  | _ => True

/-- Sessions may be taken out of use and servers may go away. -/
theorem Launch.Stands.later {launch : Launch} {world later : World} (stands : launch.Stands world)
    (sessions : ∀ key found, launch.key? = some key → later.sessions.get? key = some found →
      world.sessions.get? key = some found)
    (dead : ∀ peer, later.isAlive peer = true → world.isAlive peer = true) :
    launch.Stands later := by
  cases launch with
  | idle | entered => trivial
  | seen key session => exact fun found there => stands found (sessions key found rfl there)
  | vacant key | spawned key | told key =>
    intro found there
    have gone := stands found (sessions key found rfl there)
    rw [Bool.eq_false_iff] at gone ⊢
    exact fun alive => gone (dead _ alive)

namespace Journal

theorem Kept.stands (kept : Kept setup tree journal now) (has : journal.Has thread charge) :
    charge.launch.Stands now.world := by
  induction kept generalizing charge thread with
  | begin =>
    obtain ⟨work, _, follows⟩ := has
    cases follows
    trivial
  | @did journal now mover operation onward world answer kept here performed ih =>
    change charge.launch.Stands world
    have dead (peer : Peer) (alive : world.isAlive peer = true) :
        now.world.isAlive peer = true := by
      rwa [World.isAlive, (World.performed performed).dead] at alive
    have sessions {key : SessionKey} (found : Session)
        (spared : ∀ session, operation ≠ .register key session)
        (there : world.sessions.get? key = some found) :
        now.world.sessions.get? key = some found := by
      rw [(World.performed performed).sessions] at there
      rcases @Registry.get?_sessionsAfter now.world _ _ spared with same | none
      · rwa [same] at there
      · rw [none] at there
        cases there
    rcases kept.has_did here has with ⟨rfl, work, before, _, had, turns⟩ | ⟨other, had | ⟨rfl, _⟩⟩
    · have onward (spared : ∀ key session, operation ≠ .register key session) :
          before.launch.Stands world :=
        (ih had).later (fun key found _ => sessions found (spared key)) dead
      cases turns with
      | aside aside =>
        refine onward fun _ _ => ?_
        rintro rfl
        exact aside
      | enter | register | leave => trivial
      | miss =>
        obtain ⟨rfl, none⟩ := Prod.mk.inj (Option.some.inj performed)
        intro found there
        rw [none] at there
        cases there
      | find =>
        obtain ⟨rfl, some⟩ := Prod.mk.inj (Option.some.inj performed)
        exact fun found there => Option.some.inj (there.symm.trans some)
      | gone seen =>
        obtain ⟨rfl, gone⟩ := Prod.mk.inj (Option.some.inj performed)
        have stood := onward fun _ _ impossible => by cases impossible
        rw [seen] at stood
        intro found there
        rw [stood found there]
        exact gone
      | spawn stood | confirm stood | lose stood =>
        have stands := onward fun _ _ impossible => by cases impossible
        rw [stood] at stands
        exact stands
      | _ => exact onward fun _ _ impossible => by cases impossible
    · refine (ih had).later (fun key found starts there => ?_) dead
      refine sessions found ?_ there
      rintro session rfl
      obtain ⟨work, theirs, _, started, follows, turns⟩ := kept.turns here performed
      cases turns with
      | aside impossible => cases impossible
      | register told =>
        exact other (kept.starts_alone had ⟨work, started, follows⟩ starts (by rw [told]; rfl))
    · trivial
  | ended _ _ _ ih => exact ih (has_ended.mp has)
  | happened _ happening ih =>
    rw [System.occur_eq]
    refine (ih (has_happened.mp has)).later (fun key found _ there => ?_)
      (World.Undisturbed.happening _ happening).dead
    rwa [(World.after_happening _ happening).2.2.2.1] at there

/-- A session that was put in use and whose server is there is in use, or it was taken. -/
theorem Kept.in_use_or_taken (kept : Kept setup tree journal now) {key : SessionKey}
    {session : Session} (used : (⟨.register key session, ()⟩ : Act) ∈ journal.acts)
    (alive : now.world.isAlive session.peer = true) :
    now.world.sessions.get? key = some session ∨ session ∈ journal.taken := by
  induction kept with
  | begin => cases used
  | @did journal now mover operation onward world answer kept here performed ih =>
    change world.sessions.get? key = some session ∨ _
    rw [taken_did, List.mem_append, (World.performed performed).sessions]
    rw [acts_did, List.mem_append, List.mem_singleton] at used
    have before : now.world.isAlive session.peer = true := by
      rw [World.isAlive, ← (World.performed performed).dead]
      exact alive
    rcases used with old | new
    · rcases ih old before with there | gone
      · cases operation with
        | register given added =>
          by_cases same : given = key
          · subst same
            obtain ⟨work, charge, _, started, follows, turns⟩ := kept.turns here performed
            cases turns with
            | aside impossible => cases impossible
            | register told =>
              have stands := kept.stands ⟨work, started, follows⟩
              rw [told] at stands
              rw [stands session there] at before
              cases before
          · exact .inl (by simp [Operation.sessionsAfter, same, there])
        | dropIfDead given =>
          rw [Operation.sessionsAfter]
          split
          · rename_i dead
            by_cases same : given = key
            · subst same
              simp [World.hasDeadSession, there, before] at dead
            · exact .inl (by simp [same, there])
          · exact .inl there
        | unregister given =>
          by_cases same : given = key
          · subst same
            cases performed
            exact .inr (.inr (Option.mem_toList.mpr there))
          · exact .inl (by simp [Operation.sessionsAfter, same, there])
        | drain =>
          cases performed
          exact .inr (.inr (List.mem_map.mpr ⟨_, Table.mem_of_find? there, rfl⟩))
        | _ => exact .inl there
      · exact .inr (.inl gone)
    · cases new
      exact .inl (by simp [Operation.sessionsAfter])
  | ended _ _ _ ih =>
    rw [taken_ended]
    exact ih (by simpa using used) alive
  | happened _ happening ih =>
    rw [System.occur_eq] at alive ⊢
    rw [taken_happened]
    dsimp only
    rw [(World.after_happening _ happening).2.2.2.1]
    exact ih (by simpa using used) ((World.Undisturbed.happening _ happening).dead _ alive)

/-- A server that is there and was told that it is initialized is put in use, or its start is still
under way. -/
theorem Kept.told_or_used (kept : Kept setup tree journal now) {server : ServerId} {params : Json}
    (told : .did thread ⟨.notify (.server server) "initialized" params, (.ok () : Outcome Unit)⟩ ∈
      journal)
    (alive : now.world.isAlive (.server server) = true) (unused : ¬ journal.PutInUse server)
    (has : journal.Has thread charge) : ∃ key, charge.launch = .told key server := by
  induction kept generalizing charge with
  | begin => cases told
  | @did journal now mover operation onward world answer kept here performed ih =>
    have before : now.world.isAlive (.server server) = true := by
      rw [World.isAlive, ← (World.performed performed).dead]
      exact alive
    have onward {earlier : Charge} (had : journal.Has thread earlier)
        (old : .did thread ⟨.notify (.server server) "initialized" params,
          (.ok () : Outcome Unit)⟩ ∈ journal) : ∃ key, earlier.launch = .told key server :=
      ih old before (fun used => unused used.did) had
    rw [List.mem_append, List.mem_singleton] at told
    rcases kept.has_did here has with ⟨rfl, work, earlier, _, had, turns⟩ | ⟨other, had⟩
    · rcases told with old | new
      · obtain ⟨key, told⟩ := onward had old
        cases turns with
        | enter other | miss other | find other | gone other | spawn other | confirm other =>
          cases told.symm.trans other
        | lose other =>
          cases told.symm.trans other
          rw [World.dead_of_unheard performed rfl] at before
          cases before
        | register other =>
          cases told.symm.trans other
          refine absurd ⟨key, _, rfl, ?_⟩ unused
          rw [acts_did]
          exact List.mem_append_right _ List.mem_cons_self
        | leave _ past =>
          rw [told] at past
          cases past
        | _ => exact ⟨key, told⟩
      · cases new
        exact turns.confirmed
    · rcases told with old | new
      · rcases had with had | ⟨_, late⟩
        · exact onward had old
        · exact absurd (kept.thread_lt old) (Nat.not_lt.mpr late)
      · cases new
        exact absurd rfl other
  | ended _ _ _ ih =>
    refine ih (by simpa using told) alive (fun used => unused ?_) (has_ended.mp has)
    simpa [PutInUse] using used
  | happened _ happening ih =>
    rw [System.occur_eq] at alive
    refine ih (by simpa using told) ((World.Undisturbed.happening _ happening).dead _ alive)
      (fun used => unused ?_) (has_happened.mp has)
    simpa [PutInUse] using used

end Journal

end LanguageBridge
