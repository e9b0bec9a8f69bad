import LanguageBridge.Proofs.Acquaintance.Threads
import LanguageBridge.Proofs.Journal.Cuts
import LanguageBridge.Proofs.Journal.Progress

/-!
Servers that are not in use yet. Nobody speaks to a server before it is started, by one thread, and
as long as its session is not in use, only the thread that has started it and those for its messages
do. Nobody else puts a session in use for it.
-/
namespace LanguageBridge

variable {setup : Setup} {tree : FileTree} {journal before rest : Journal} {now : System}
  {thread : Nat} {act : Act} {server : ServerId}

/-- The server that is spoken to by an operation. -/
def Operation.addressee? : Operation → Option ServerId
  | .notify (.server server) .. | .reply (.server server) .. | .call (.server server) .. =>
    some server
  | _ => none

namespace Acquaintance

variable {acquaintance after : Acquaintance} {forwards : Bool} {acts : List Act}

theorem after_eq (follows : (rules forwards).Follows acquaintance acts after) :
    after = acts.foldl Acquaintance.after acquaintance := by
  induction follows with
  | nothing => rfl
  | act turns _ ih =>
    rw [List.foldl_cons, ← turns.2]
    exact ih

/-- The servers of a thread are those that it knew from the start and those that it has started. -/
theorem mem_own_foldl : server ∈ (acts.foldl Acquaintance.after acquaintance).own ↔
    server ∈ acquaintance.own ∨ ∃ act ∈ acts, act.spawned? = some server := by
  induction acts generalizing acquaintance with
  | nil => simp
  | cons act rest ih => simp [ih, Acquaintance.after, or_left_comm, or_assoc]

theorem mem_met_foldl : server ∈ (acts.foldl Acquaintance.after acquaintance).met ↔
    server ∈ acquaintance.met ∨ ∃ act ∈ acts, server ∈ act.met := by
  induction acts generalizing acquaintance with
  | nil => simp
  | cons act rest ih => simp [ih, Acquaintance.after, or_left_comm, or_assoc]

/-- What was done from where a server was started last is the end of all that was done. -/
theorem since_foldl (acquaintance : Acquaintance) (acts : List Act) :
    (acts.foldl Acquaintance.after acquaintance).since <:+ acquaintance.since ++ acts := by
  induction acts generalizing acquaintance with
  | nil => simp
  | cons act rest ih =>
    refine (ih (acquaintance.after act)).trans ?_
    unfold Acquaintance.after
    split
    · exact List.suffix_append _ _
    · simp

theorem Permits.knows {operation : Operation} (permits : acquaintance.Permits forwards operation)
    (speaks : operation.addressee? = some server) : acquaintance.Knows server := by
  cases operation with
  | notify peer | reply peer | call peer =>
    cases peer with
    | editor => cases speaks
    | server => exact Option.some.inj speaks ▸ permits
  | _ => cases speaks

end Acquaintance

namespace Journal

/-- What a thread knows. -/
def acquaintance (journal : Journal) (thread : Nat) : Acquaintance :=
  (journal.actsOf thread).foldl Acquaintance.after
    ((journal.works[thread]?.map Work.acquainted).getD {})

theorem since_suffix : (journal.acquaintance thread).since <:+ journal.actsOf thread := by
  refine (Acquaintance.since_foldl _ _).trans ?_
  have nothing : ((journal.works[thread]?.map Work.acquainted).getD {}).since = [] := by
    cases journal.works[thread]? with
    | none => rfl
    | some work => cases work <;> rfl
  rw [nothing]
  exact List.suffix_rfl

/-- The session of a server has been put in use. -/
def PutInUse (journal : Journal) (server : ServerId) : Prop :=
  ∃ (key : SessionKey) (session : Session), session.server = server ∧
    (⟨.register key session, ()⟩ : Act) ∈ journal.acts

theorem PutInUse.did (used : journal.PutInUse server) :
    PutInUse (journal ++ [.did thread act]) server := by
  obtain ⟨key, session, same, member⟩ := used
  exact ⟨key, session, same, by simp [member]⟩

/-- The servers that a thread has of its own are the one that it is for and those that it has
started. -/
theorem mem_own : server ∈ (journal.acquaintance thread).own ↔
    journal.serves (.server server) thread = true ∨
      ∃ act ∈ journal.actsOf thread, act.spawned? = some server := by
  rw [acquaintance, Acquaintance.mem_own_foldl]
  refine or_congr_left ?_
  rw [serves]
  cases journal.works[thread]? with
  | none => simp
  | some work => cases work <;> simp [Work.acquainted, Work.peer?, Session.peer, eq_comm]

theorem mem_met : server ∈ (journal.acquaintance thread).met ↔
    (∃ session, journal.works[thread]? = some (.stopSession session) ∧
      session.server = server) ∨ ∃ act ∈ journal.actsOf thread, server ∈ act.met := by
  rw [acquaintance, Acquaintance.mem_met_foldl]
  refine or_congr_left ?_
  cases journal.works[thread]? with
  | none => simp
  | some work => cases work <;> simp [Work.acquainted, eq_comm]

/-- Whatever a thread does next, it may do with what it knows. -/
theorem Kept.permits (kept : Kept setup tree journal now) {operation : Operation}
    {onward : operation.Answer → Script (Outcome Json)}
    (here : now.threads[thread]? = some (.step operation onward)) :
    ∃ work, journal.works[thread]? = some work ∧
      (journal.acquaintance thread).Permits work.isService operation := by
  obtain ⟨work, started⟩ := kept.work_of_thread here
  obtain ⟨script, there, does⟩ := kept.script started
  obtain rfl : _ = script := Option.some.inj (here.symm.trans there)
  obtain ⟨after, follows, guided⟩ := Script.Guided.does (Program.scriptOf_speaks setup work) does
    fun _ _ _ => trivial
  obtain ⟨answer⟩ := operation.answerable
  obtain ⟨_, turns, _⟩ := guided answer trivial
  refine ⟨work, started, ?_⟩
  rw [acquaintance, started]
  exact Acquaintance.after_eq follows ▸ turns.1

/-- What threads know, have started and spoken to are servers that were counted when they were
started, and whom they have met was put in use before. -/
structure Acquainted (journal : Journal) (world : World) : Prop where
  spawned : ∀ act ∈ journal.acts, ∀ server, act.spawned? = some server →
    server.number ≤ world.started server.language
  used : ∀ server, journal.PutInUse server → server.number ≤ world.started server.language
  addressed : ∀ act ∈ journal.acts, ∀ server, act.operation.addressee? = some server →
    server.number ≤ world.started server.language
  sessions : ∀ entry ∈ world.sessions.entries, journal.PutInUse entry.2.server
  stopped : ∀ session, .stopSession session ∈ journal.works → journal.PutInUse session.server
  met : ∀ act ∈ journal.acts, ∀ server ∈ act.met, journal.PutInUse server

namespace Acquainted

variable {world : World}

theorem of_met (acquainted : journal.Acquainted world)
    (met : server ∈ (journal.acquaintance thread).met) : journal.PutInUse server := by
  rcases mem_met.mp met with ⟨session, started, rfl⟩ | ⟨act, member, among⟩
  · exact acquainted.stopped session (List.mem_of_getElem? started)
  · exact acquainted.met act (mem_acts_of_mem_actsOf member) server among

theorem of_own (acquainted : journal.Acquainted world) (fresh : journal.Fresh world)
    (own : server ∈ (journal.acquaintance thread).own) :
    server.number ≤ world.started server.language := by
  rcases mem_own.mp own with serves | ⟨act, member, spawned⟩
  · obtain ⟨work, started, takes⟩ := serves_iff.mp serves
    exact fresh.served work (List.mem_of_getElem? started) server takes
  · exact acquainted.spawned act (mem_acts_of_mem_actsOf member) server spawned

theorem of_knows (acquainted : journal.Acquainted world) (fresh : journal.Fresh world)
    (knows : (journal.acquaintance thread).Knows server) :
    server.number ≤ world.started server.language :=
  knows.elim (acquainted.of_own fresh) fun met => acquainted.used server (acquainted.of_met met)

end Acquainted

end Journal

/-- The sessions in use after an operation were in use before, or it puts one in use. -/
theorem World.Performed.entries {operation : Operation} {before after : World}
    (performed : World.Performed thread operation before after) :
    ∀ entry ∈ after.sessions.entries, entry ∈ before.sessions.entries ∨
      operation = .register entry.1 entry.2 := by
  rw [performed.sessions]
  intro entry member
  cases operation with
  | register key session =>
    rcases Table.mem_put member with rfl | old
    · exact .inr rfl
    · exact .inl old
  | dropIfDead key =>
    rw [Operation.sessionsAfter] at member
    split at member
    · exact .inl (List.mem_filter.mp member).1
    · exact .inl member
  | unregister key => exact .inl (List.mem_filter.mp member).1
  | drain => cases member
  | _ => exact .inl member

/-- Whom an act meets is among the sessions in use. -/
theorem World.entry_of_met {host : Host} {operation : Operation} {answer : operation.Answer}
    {world after : World}
    (performed : world.perform host thread operation = some (after, answer))
    (met : server ∈ Act.met ⟨operation, answer⟩) :
    ∃ entry ∈ world.sessions.entries, entry.2.server = server := by
  cases operation with
  | session key | unregister key =>
    cases performed
    obtain ⟨session, found, rfl⟩ := List.mem_map.mp met
    exact ⟨(key, session), Table.mem_of_find? (Option.mem_toList.mp found), rfl⟩
  | drain =>
    cases performed
    obtain ⟨session, among, rfl⟩ := List.mem_map.mp met
    obtain ⟨entry, there, rfl⟩ := List.mem_map.mp among
    exact ⟨entry, there, rfl⟩
  | _ => cases met

namespace Journal

theorem Acquainted.did (acquainted : journal.Acquainted now.world)
    (kept : Kept setup tree journal now) {operation : Operation}
    {onward : operation.Answer → Script (Outcome Json)} {world : World}
    {answer : operation.Answer}
    (here : now.threads[thread]? = some (.step operation onward))
    (performed : now.world.perform setup.host thread operation = some (world, answer)) :
    Acquainted (journal ++ [.did thread ⟨operation, answer⟩]) world := by
  have moved := World.moved performed
  have grown {server : ServerId} (before : server.number ≤ now.world.started server.language) :
      server.number ≤ world.started server.language :=
    Nat.le_trans before (moved.started _)
  obtain ⟨work, _, permits⟩ := kept.permits here
  constructor
  · intro act member server spawned
    rw [acts_did, List.mem_append, List.mem_singleton] at member
    rcases member with old | rfl
    · exact grown (acquainted.spawned act old server spawned)
    · exact (moved.spawned server spawned).2
  · rintro server ⟨key, session, rfl, member⟩
    rw [acts_did, List.mem_append, List.mem_singleton] at member
    rcases member with old | same
    · exact grown (acquainted.used _ ⟨key, session, rfl, old⟩)
    · cases same
      exact grown (acquainted.of_own kept.fresh permits.1)
  · intro act member server speaks
    rw [acts_did, List.mem_append, List.mem_singleton] at member
    rcases member with old | rfl
    · exact grown (acquainted.addressed act old server speaks)
    · exact grown (acquainted.of_knows kept.fresh (permits.knows speaks))
  · intro entry member
    rcases (World.performed performed).entries entry member with old | rfl
    · exact (acquainted.sessions entry old).did
    · refine ⟨entry.1, entry.2, rfl, ?_⟩
      rw [acts_did]
      exact List.mem_append_right _ (List.mem_singleton.mpr rfl)
  · intro session member
    rcases mem_works_did.mp member with old | ⟨number, forked⟩
    · exact (acquainted.stopped session old).did
    · cases operation with
      | fork given =>
        cases forked
        exact (acquainted.of_met permits).did
      | _ => cases forked
  · intro act member server met
    rw [acts_did, List.mem_append, List.mem_singleton] at member
    rcases member with old | rfl
    · exact (acquainted.met act old server met).did
    · obtain ⟨entry, there, rfl⟩ := World.entry_of_met performed met
      exact (acquainted.sessions entry there).did

theorem Acquainted.frame {world after : World} {other : Journal}
    (acquainted : journal.Acquainted world) (acts : other.acts = journal.acts)
    (works : other.works = journal.works) (started : after.started = world.started)
    (sessions : after.sessions = world.sessions) : other.Acquainted after := by
  have used (server : ServerId) : other.PutInUse server ↔ journal.PutInUse server := by
    rw [PutInUse, PutInUse, acts]
  constructor
  · rw [acts, started]
    exact acquainted.spawned
  · intro server there
    rw [started]
    exact acquainted.used server ((used server).mp there)
  · rw [acts, started]
    exact acquainted.addressed
  · rw [sessions]
    exact fun entry member => (used _).mpr (acquainted.sessions entry member)
  · rw [works]
    exact fun session member => (used _).mpr (acquainted.stopped session member)
  · rw [acts]
    exact fun act member server met => (used server).mpr (acquainted.met act member server met)

theorem Kept.acquainted (kept : Kept setup tree journal now) : journal.Acquainted now.world := by
  induction kept with
  | begin =>
    constructor
    · exact fun _ impossible => absurd impossible List.not_mem_nil
    · rintro _ ⟨_, _, _, impossible⟩
      cases impossible
    · exact fun _ impossible => absurd impossible List.not_mem_nil
    · exact fun _ impossible => absurd impossible List.not_mem_nil
    · intro session member
      cases List.mem_singleton.mp member
    · exact fun _ impossible => absurd impossible List.not_mem_nil
  | did kept here performed ih => exact (ih.did kept here performed).frame rfl rfl rfl rfl
  | ended _ _ _ ih => exact ih.frame acts_ended works_ended rfl rfl
  | happened _ happening ih =>
    rw [System.occur_eq]
    refine ih.frame (acts_happened _) (works_happened _) ?_ (World.after_happening _ _).2.2.2.1
    unfold World.started
    rw [(World.Undisturbed.happening _ happening).connected]

/-- Whatever a thread did, it could do with what it knew. -/
theorem Kept.permitted (kept : Kept setup tree journal now)
    (split : journal = before ++ .did thread act :: rest) :
    ∃ work, before.works[thread]? = some work ∧
      (before.acquaintance thread).Permits work.isService act.operation := by
  induction kept generalizing rest with
  | begin => simp at split
  | did kept here _ ih =>
    rcases append_singleton_eq split with ⟨rfl, same⟩ | ⟨fewer, earlier⟩
    · cases same
      exact kept.permits here
    · exact ih earlier
  | ended _ _ _ ih | happened _ _ ih =>
    rcases append_singleton_eq split with ⟨_, same⟩ | ⟨fewer, earlier⟩
    · cases same
    · exact ih earlier

/-- Whoever speaks to a server whose session has never been in use is there for its messages, or has
started it. -/
theorem Kept.speaker (kept : Kept setup tree journal now)
    (split : journal = before ++ .did thread act :: rest)
    (speaks : act.operation.addressee? = some server) (unused : ¬ before.PutInUse server) :
    before.serves (.server server) thread = true ∨
      ∃ act ∈ before.actsOf thread, act.spawned? = some server := by
  obtain ⟨moment, world, earlier, _⟩ := kept.moment split
  obtain ⟨work, _, permits⟩ := kept.permitted split
  rcases permits.knows speaks with own | met
  · exact mem_own.mp own
  · exact absurd (earlier.acquainted.of_met met) unused

/-- A server that is started is new to everyone. -/
theorem Kept.newcomer (kept : Kept setup tree journal now)
    (split : journal = before ++ .did thread act :: rest)
    (spawned : act.spawned? = some server) :
    (∀ act ∈ before.acts, act.operation.addressee? ≠ some server ∧
      act.spawned? ≠ some server) ∧ ¬ before.PutInUse server ∧
      ∀ work ∈ before.works, work.peer? ≠ some (.server server) := by
  obtain ⟨moment, world, earlier, performed⟩ := kept.moment split
  have new : moment.world.started server.language < server.number :=
    ((World.moved performed).spawned server spawned).1
  have acquainted := earlier.acquainted
  refine ⟨fun act member => ⟨fun speaks => ?_, fun again => ?_⟩, fun used => ?_,
    fun work member takes => ?_⟩
  · exact absurd (acquainted.addressed act member server speaks) (Nat.not_le.mpr new)
  · exact absurd (acquainted.spawned act member server again) (Nat.not_le.mpr new)
  · exact absurd (acquainted.used server used) (Nat.not_le.mpr new)
  · exact absurd (earlier.fresh.served work member server takes) (Nat.not_le.mpr new)

section Starters

variable {start later : Journal} {other : Nat} {spawn : Act} {session : Session}

/-- A session is put in use by the thread that has just started it. -/
theorem Kept.begins (kept : Kept setup tree journal now) {key : SessionKey}
    (split : journal = before ++ .did thread ⟨.register key session, ()⟩ :: rest) :
    ∃ earlier begins, before.actsOf thread = earlier ++ begins ∧ session.Begins key begins := by
  obtain ⟨work, _, _, begins⟩ := kept.permitted split
  obtain ⟨earlier, whole⟩ : (before.acquaintance thread).since <:+ before.actsOf thread :=
    since_suffix
  exact ⟨earlier, _, whole.symm, begins⟩

section Started

variable (kept : Kept setup tree journal now)
  (split : journal = start ++ .did thread spawn :: later) (spawned : spawn.spawned? = some server)
include kept split spawned

/-- A server is started by one thread. -/
theorem Kept.spawner (member : .did other act ∈ journal) (again : act.spawned? = some server) :
    other = thread := by
  obtain ⟨new, _⟩ := kept.newcomer split spawned
  rw [split, List.mem_append, List.mem_cons] at member
  rcases member with old | same | more
  · exact absurd again (new act (mem_actsBy.mpr ⟨other, rfl, old⟩)).2
  · cases same
    rfl
  · obtain ⟨middle, rest, rfl⟩ := List.append_of_mem more
    have cut : journal = (start ++ .did thread spawn :: middle) ++ .did other act :: rest := by
      simp [split]
    have earlier : spawn ∈ acts (start ++ .did thread spawn :: middle) :=
      mem_actsBy.mpr ⟨thread, rfl, by simp⟩
    exact absurd spawned ((kept.newcomer cut again).1 spawn earlier).2

/-- Whoever starts a server is not there for its messages. -/
theorem Kept.starter_serves_not : journal.serves (.server server) thread = false := by
  obtain ⟨work, started, _⟩ := kept.permitted split
  obtain ⟨_, _, unserved⟩ := kept.newcomer split spawned
  rw [Bool.eq_false_iff]
  intro serves
  obtain ⟨given, here, takes⟩ := serves_iff.mp serves
  rw [split, work_stays started] at here
  cases here
  exact unserved work (List.mem_of_getElem? started) takes

/-- Unless the thread that has started a server puts a session in use, nobody does so for it. -/
theorem Kept.unused
    (unregistered : ∀ key session, ⟨.register key session, ()⟩ ∉ later.actsOf thread) :
    ¬ journal.PutInUse server := by
  rintro ⟨key, session, rfl, member⟩
  obtain ⟨_, new, _⟩ := kept.newcomer split spawned
  obtain ⟨other, _, there⟩ := mem_actsBy.mp member
  have placed := there
  rw [split, List.mem_append, List.mem_cons] at placed
  rcases placed with old | same | more
  · exact new ⟨key, session, rfl, mem_actsBy.mpr ⟨other, rfl, old⟩⟩
  · cases same
    cases spawned
  · obtain ⟨before, rest, cut⟩ := List.append_of_mem there
    obtain ⟨earlier, begins, whole, begun⟩ := kept.begins cut
    obtain ⟨first, among, again⟩ := begun.spawned
    have mine : first ∈ actsOf before other := whole ▸ List.mem_append_right _ among
    have did : .did other first ∈ journal := cut ▸ List.mem_append_left _ (mem_actsOf.mp mine)
    obtain rfl := kept.spawner split spawned did again
    exact unregistered key session (mem_actsOf.mpr more)

/-- As long as its session is not in use, a server is spoken to only by the thread that has started
it and by those for its messages. -/
theorem Kept.speaks (unused : ¬ journal.PutInUse server)
    (cut : journal = before ++ .did other act :: rest)
    (speaks : act.operation.addressee? = some server) :
    other = thread ∨ before.serves (.server server) other = true := by
  have still : ¬ before.PutInUse server := by
    rintro ⟨key, session, same, used⟩
    refine unused ⟨key, session, same, ?_⟩
    rw [acts_cut cut]
    exact List.mem_append_left _ used
  rcases kept.speaker cut speaks still with serves | ⟨first, mine, again⟩
  · exact .inr serves
  · have did : .did other first ∈ journal := cut ▸ List.mem_append_left _ (mem_actsOf.mp mine)
    exact .inl (kept.spawner split spawned did again)

end Started

end Starters

end Journal

end LanguageBridge
