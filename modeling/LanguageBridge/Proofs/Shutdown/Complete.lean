import LanguageBridge.Proofs.Shutdown.Stopping

/-!
What is left when the program has shut down. The last thread for the editor takes all sessions out
of use at one moment and waits until their servers are stopped. A session whose start ends later is
put in use after that moment; nobody takes it any more, and its server is never told to end.
-/
namespace LanguageBridge

variable {setup : Setup} {tree : FileTree} {journal before after : Journal} {now : System}
  {thread last : Nat} {work : Work} {act : Act} {drained : List Session}

namespace World

/-- A server was told that it is initialized. -/
def initialized (world : World) (server : ServerId) : Bool :=
  world.traffic.any (Sent.isInitialized server)

/-- No session is being started. -/
def StartsOver (world : World) : Prop := ∀ hold ∈ world.held, ∀ key, hold.lock ≠ .starting key

theorem startsOver_of_free {world : World} (free : world.held.isEmpty = true) :
    world.StartsOver := by
  intro hold member
  rw [List.isEmpty_iff.mp free] at member
  cases member

/-- No session is in use, and every server that is there and was told that it is initialized was
asked to get ready for its end and then told to exit, once each. -/
def AllEnded (world : World) : Prop :=
  world.sessions.entries = [] ∧ ∀ server, world.initialized server = true →
    world.isAlive (.server server) = true → world.endingsTo server = ["shutdown", "exit"]

end World

namespace Session

variable {acts : List Act}

/-- For each session a thread is started that stops it. -/
theorem stopAll_comes {sessions : List Session} {outcome : Outcome (List Nat)}
    (comes : (stopAll sessions).Comes acts outcome) : ∃ threads, outcome = .ok threads ∧
      ∀ session ∈ sessions, ∃ thread ∈ threads,
        (⟨.fork (.stopSession session), thread⟩ : Act) ∈ acts := by
  induction sessions generalizing acts outcome with
  | nil => exact ⟨[], comes.of_pure.2, List.forall_mem_nil _⟩
  | cons session sessions ih =>
    obtain ⟨(thread : Nat), rest, rfl, others⟩ := comes.of_ask_bind
    rcases others.of_bind with
      ⟨failure, _, impossible⟩ | ⟨threads, first, second, rfl, done, ending⟩
    · obtain ⟨_, other, _⟩ := ih impossible
      cases other
    · obtain ⟨_, same, each⟩ := ih done
      cases same
      obtain ⟨rfl, rfl⟩ := ending.of_pure
      refine ⟨_, rfl, List.forall_mem_cons.mpr ⟨⟨thread, by simp, by simp⟩, ?_⟩⟩
      intro other member
      obtain ⟨stopper, among, forked⟩ := each other member
      exact ⟨stopper, List.mem_cons_of_mem _ among, by simp [forked]⟩

/-- Every thread is waited for. -/
theorem joinAll_comes {threads : List Nat} {outcome : Outcome Unit}
    (comes : (threads.forM fun thread => do let _ ← Job.ask (.join thread)).Comes acts outcome) :
    ∀ thread ∈ threads, (⟨.join thread, ()⟩ : Act) ∈ acts := by
  induction threads generalizing acts with
  | nil => exact List.forall_mem_nil _
  | cons thread threads ih =>
    rcases Job.Comes.of_bind comes with
      ⟨failure, _, joining⟩ | ⟨_, first, second, rfl, joining, rest⟩
    · obtain ⟨_, _, _, ending⟩ := joining.of_ask_bind
      cases ending.of_pure.2
    · obtain ⟨_, nothing, rfl, _⟩ := joining.of_ask_bind
      refine List.forall_mem_cons.mpr ⟨List.mem_cons_self, fun other member => ?_⟩
      exact List.mem_append_right _ (ih rest other member)

/-- When all sessions are taken out of use, a thread is started for each that stops it, and is
waited for. -/
theorem shutdownAll_comes {sessions : List Session} {outcome : Outcome Unit}
    (comes : shutdownAll.Comes (⟨.drain, sessions⟩ :: acts) outcome) :
    ∀ session ∈ sessions, ∃ thread, (⟨.fork (.stopSession session), thread⟩ : Act) ∈ acts ∧
      (⟨.join thread, ()⟩ : Act) ∈ acts := by
  obtain ⟨(answer : List Session), rest, same, onward⟩ := comes.of_ask_bind
  cases same
  rcases onward.of_bind with ⟨failure, _, impossible⟩ | ⟨threads, first, second, rfl, done, joining⟩
  · obtain ⟨_, other, _⟩ := stopAll_comes impossible
    cases other
  · obtain ⟨_, same, each⟩ := stopAll_comes done
    cases same
    intro session member
    obtain ⟨thread, among, forked⟩ := each session member
    exact ⟨thread, List.mem_append_left _ forked,
      List.mem_append_right _ (joinAll_comes joining thread among)⟩

end Session

theorem Charge.Turns.takes {charge after : Charge} {session : Session}
    (turns : Turns work charge act.operation act.answer after) (taken : session ∈ act.taken) :
    work = .serveEditor := by
  obtain ⟨operation, answer⟩ := act
  cases turns with
  | take editor | drain editor => exact editor
  | aside aside =>
    cases operation with
    | unregister | drain => cases aside
    | _ => cases taken
  | _ => cases taken

/-- Which threads have ended is noted by themselves alone. -/
theorem World.finished_of_perform {host : Host} {operation : Operation} {world later : World}
    {answer : operation.Answer}
    (performed : world.perform host thread operation = some (later, answer)) :
    later.finished = world.finished := by
  cases operation with
  | receive =>
    simp only [perform, receive] at performed
    split at performed
    · cases performed
      rfl
    · split at performed <;> cases performed
      rfl
  | notify | reply =>
    simp only [perform, say] at performed
    split at performed <;> cases performed <;> rfl
  | call peer =>
    simp only [perform, say] at performed
    by_cases alive : world.isAlive peer = true
    · simp only [Sent.peer, alive, if_true] at performed
      cases performed
      rfl
    · simp only [Sent.peer, alive] at performed
      cases performed
      rfl
  | await =>
    obtain ⟨_, _, same⟩ := Option.map_eq_some_iff.mp performed
    cases same
    rfl
  | acquire | workspace | setWorkspace | queue | setQueue | join | dropIfDead | spawn =>
    simp only [perform] at performed
    split at performed <;> cases performed <;> rfl
  | _ =>
    cases performed
    rfl

theorem World.after_finished (world : World) (happening : Happening) :
    (world.after happening).finished = world.finished := by
  cases happening with
  | answer =>
    simp only [World.after, System.occur]
    split <;> rfl
  | _ => rfl

namespace Journal

/-- Threads that are known to have ended are done. -/
theorem Kept.done_of_finished (kept : Kept setup tree journal now)
    (finished : thread ∈ now.world.finished) :
    ∃ outcome, now.threads[thread]? = some (.done outcome) := by
  induction kept with
  | begin => cases finished
  | @did journal now mover operation onward world answer kept here performed ih =>
    change thread ∈ world.finished at finished
    rw [World.finished_of_perform performed] at finished
    obtain ⟨outcome, done⟩ := ih finished
    have other : mover ≠ thread := by
      rintro rfl
      cases here.symm.trans done
    refine ⟨outcome, ?_⟩
    rw [System.startForked, List.getElem?_append_left, List.getElem?_set_ne other]
    · exact done
    · rw [List.length_set]
      exact (List.getElem?_eq_some_iff.mp done).1
  | @ended journal now mover outcome kept here fresh ih =>
    rcases List.mem_cons.mp finished with rfl | before
    · exact ⟨outcome, here⟩
    · exact ih before
  | happened _ happening ih =>
    rw [System.occur_eq] at finished ⊢
    rw [World.after_finished] at finished
    exact ih finished

/-- Threads that were waited for are done. -/
theorem Kept.done_of_joined (kept : Kept setup tree journal now)
    (joined : (⟨.join thread, ()⟩ : Act) ∈ journal.acts) :
    ∃ outcome, now.threads[thread]? = some (.done outcome) := by
  refine kept.done_of_finished ?_
  induction kept with
  | begin => cases joined
  | @did journal now mover operation onward world answer kept here performed ih =>
    change thread ∈ world.finished
    rw [World.finished_of_perform performed]
    rw [acts_did, List.mem_append, List.mem_singleton] at joined
    rcases joined with before | new
    · exact ih before
    · cases new
      simp only [World.perform] at performed
      split at performed
      · rename_i finished
        exact List.contains_iff_mem.mp finished
      · cases performed
  | ended _ _ _ ih => exact List.mem_cons_of_mem _ (ih (by simpa using joined))
  | happened _ happening ih =>
    rw [System.occur_eq, World.after_finished]
    exact ih (by simpa using joined)

/-- The server of a session that was put in use was told that it is initialized. -/
theorem Kept.initialized_of_used (kept : Kept setup tree journal now) {server : ServerId}
    (used : journal.PutInUse server) : now.world.initialized server = true := by
  obtain ⟨key, session, rfl, member⟩ := used
  obtain ⟨thread, _, did⟩ := mem_actsBy.mp member
  obtain ⟨before, rest, split⟩ := List.append_of_mem did
  obtain ⟨earlier, begins, mine, begun⟩ := kept.begins split
  have told : session.telling "initialized" (.obj []) ∈ actsOf before thread := by
    rw [mine]
    cases begun with
    | intro _ _ _ introduces =>
      cases introduces with
      | intro => simp [Session.introducing]
  have known : session.telling "initialized" (.obj []) ∈ journal.acts := by
    rw [acts_cut split]
    exact List.mem_append_left _ (mem_acts_of_mem_actsOf told)
  rw [World.initialized, kept.traffic, List.any_eq_true]
  exact ⟨_, List.mem_filterMap.mpr ⟨_, known, rfl⟩, by simp [Sent.isInitialized, Session.peer]⟩

/-- When no session is being started, every server that is there and was told that it is initialized
was put in use. -/
theorem Kept.used_of_initialized (kept : Kept setup tree journal now) {server : ServerId}
    (settled : now.world.StartsOver) (initialized : now.world.initialized server = true)
    (alive : now.world.isAlive (.server server) = true) : journal.PutInUse server := by
  rw [World.initialized, kept.traffic, List.any_eq_true] at initialized
  obtain ⟨sent, member, tells⟩ := initialized
  obtain ⟨⟨operation, answer⟩, acted, said⟩ := List.mem_filterMap.mp member
  cases operation with
  | notify peer method params =>
    cases (answer : Outcome Unit) with
    | error => cases said
    | ok =>
      cases said
      obtain ⟨rfl, rfl⟩ : peer = .server server ∧ method = "initialized" := by
        simpa [Sent.isInitialized] using tells
      obtain ⟨thread, _, did⟩ := mem_actsBy.mp acted
      obtain ⟨before, rest, split⟩ := List.append_of_mem did
      obtain ⟨work, _, _, started, _⟩ := kept.turned split
      obtain ⟨_, charge, _, follows, _⟩ := kept.guided kept.named.1 started
      by_contra unused
      have has : journal.Has thread charge := ⟨work, started, follows⟩
      obtain ⟨key, launch⟩ := kept.told_or_used did alive unused has
      exact settled _ (kept.holds_start has (by rw [launch]; rfl)) key rfl
  | reply | call =>
    cases answer
    · cases said
    · cases said
      cases tells
  | _ => cases said

/-- Servers whose sessions are in use have not been told to end. -/
theorem Kept.endingsTo_of_in_use (kept : Kept setup tree journal now)
    {entry : SessionKey × Session} (member : entry ∈ now.world.sessions.entries) :
    now.world.endingsTo entry.2.server = [] := by
  refine kept.endingsTo_eq_nil fun session stopped same => ?_
  obtain ⟨_, _, apart⟩ := List.nodup_append.mp kept.servers_nodup
  exact apart _ (List.mem_map.mpr ⟨entry, member, rfl⟩) _
    (List.mem_map_of_mem (kept.taken_of_stopped stopped)) same.symm

/-- The sessions that are in use after all were taken out of use were put in use after that. -/
theorem Kept.registered_after_drain (kept : Kept setup tree journal now)
    (whole : journal = before ++ .did last ⟨.drain, drained⟩ :: after)
    {entry : SessionKey × Session} (member : entry ∈ now.world.sessions.entries) :
    ∃ starter, .did starter ⟨.register entry.1 entry.2, ()⟩ ∈ after := by
  have longer {journal fewer after : Journal} {made : Entry}
      (earlier : journal = before ++ .did last ⟨.drain, drained⟩ :: fewer)
      (whole : journal ++ [made] = before ++ .did last ⟨.drain, drained⟩ :: after) :
      after = fewer ++ [made] := by
    rw [earlier] at whole
    simpa using whole.symm
  induction kept generalizing after with
  | begin => cases member
  | @did journal now mover operation onward world answer kept here performed ih =>
    change entry ∈ world.sessions.entries at member
    rcases append_singleton_eq whole with ⟨rfl, same⟩ | ⟨fewer, earlier⟩
    · cases same
      cases performed
      cases member
    · rw [longer earlier whole]
      rcases (World.performed performed).entries entry member with old | new
      · obtain ⟨starter, there⟩ := ih earlier old
        exact ⟨starter, List.mem_append_left _ there⟩
      · subst new
        exact ⟨mover, List.mem_append_right _ List.mem_cons_self⟩
  | ended kept here fresh ih =>
    rcases append_singleton_eq whole with ⟨_, same⟩ | ⟨fewer, earlier⟩
    · cases same
    · obtain ⟨starter, there⟩ := ih earlier member
      exact ⟨starter, longer earlier whole ▸ List.mem_append_left _ there⟩
  | happened kept happening ih =>
    rcases append_singleton_eq whole with ⟨_, same⟩ | ⟨fewer, earlier⟩
    · cases same
    · rw [System.occur_eq] at member
      dsimp only at member
      rw [(World.after_happening _ happening).2.2.2.1] at member
      obtain ⟨starter, there⟩ := ih earlier member
      exact ⟨starter, longer earlier whole ▸ List.mem_append_left _ there⟩

/-- The program has shut down: the last thread for the editor has found that it is gone, has taken
all sessions out of use, and has come to its end. -/
structure ShutDown (journal before : Journal) (now : System) (after : Journal) (last : Nat)
    (drained : List Session) : Prop where
  whole : journal = before ++ .did last ⟨.drain, drained⟩ :: after
  gone : before.actsOf last = [⟨.receive .editor, (none : Option Message)⟩]
  done : ∃ outcome, now.threads[last]? = some (.done outcome)

namespace ShutDown

variable (shut : ShutDown journal before now after last drained)
  (kept : Kept setup tree journal now)
include shut

theorem acts_last : journal.actsOf last =
    ⟨.receive .editor, (none : Option Message)⟩ :: ⟨.drain, drained⟩ :: after.actsOf last := by
  rw [actsOf_cut shut.whole, shut.gone]
  rfl

include kept

theorem serves_last : journal.serves .editor last = true := by
  have took : .did last ⟨.receive .editor, (none : Option Message)⟩ ∈ journal :=
    mem_actsOf.mp (shut.acts_last ▸ List.mem_cons_self)
  obtain ⟨work, _, started, allows⟩ := kept.allowed took
  exact serves_iff.mpr ⟨work, started, Work.peer?_of_takes allows.receive⟩

/-- All threads for the editor's messages are done. -/
theorem editors_done (started : journal.works[thread]? = some .serveEditor) :
    ∃ outcome, now.threads[thread]? = some (.done outcome) := by
  rcases kept.relay .editor with nobody | ⟨work, legs, final, relay⟩
  · exact absurd rfl (nobody .serveEditor (List.mem_of_getElem? started))
  have among {other : Nat} (serves : journal.serves .editor other = true) :
      other ∈ legs.map Leg.thread ++ [final] := by
    obtain ⟨work, started, _⟩ := serves_iff.mp serves
    rw [← relay.threads, List.mem_filter, List.mem_range]
    exact ⟨(List.getElem?_eq_some_iff.mp started).1, serves⟩
  have same : last = final := by
    rcases List.mem_append.mp (among (shut.serves_last kept)) with handled | same
    · -- Whoever has handled a message has not found the editor gone.
      obtain ⟨leg, there, mine⟩ := List.mem_map.mp handled
      have own := relay.own leg there
      rw [mine, shut.acts_last, Leg.acts] at own
      cases own
    · exact List.mem_singleton.mp same
  rcases List.mem_append.mp (among (serves_iff.mpr ⟨_, started, rfl⟩)) with handled | final
  · obtain ⟨leg, there, rfl⟩ := List.mem_map.mp handled
    exact ⟨_, relay.leg_done kept there⟩
  · rw [List.mem_singleton.mp final, ← same]
    exact shut.done

/-- For every session that was taken out of use there is a thread that stops it. -/
theorem stopper_of_taken {session : Session} (taken : session ∈ journal.taken) :
    ∃ stopper : Nat, journal.works[stopper]? = some (.stopSession session) := by
  obtain ⟨act, member, took⟩ := List.mem_flatMap.mp taken
  obtain ⟨thread, _, did⟩ := mem_actsBy.mp member
  obtain ⟨earlier, rest, split⟩ := List.append_of_mem did
  obtain ⟨work, _, _, started, turns⟩ := kept.turned split
  obtain rfl := turns.takes took
  obtain ⟨outcome, done⟩ := shut.editors_done kept started
  have accounts := Charge.accounts (kept.spent started done)
  have stopped : session ∈ (journal.actsOf thread).filterMap Act.stopped? := by
    rw [List.nil_append, List.append_nil] at accounts
    exact accounts ▸ List.mem_flatMap.mpr ⟨act, mem_actsOf.mpr did, took⟩
  obtain ⟨⟨operation, answer⟩, stopping, same⟩ := List.mem_filterMap.mp stopped
  cases operation with
  | fork work =>
    cases work with
    | stopSession =>
      cases same
      exact ⟨answer, kept.work_of_fork (mem_acts_of_mem_actsOf stopping)⟩
    | _ => cases same
  | _ => cases same

/-- The servers of the sessions that were in use at the end are stopped. -/
theorem stopper_done {session : Session} (among : session ∈ drained) :
    ∃ (stopper : Nat) (outcome : Outcome Json),
      journal.works[stopper]? = some (.stopSession session) ∧
        now.threads[stopper]? = some (.done outcome) := by
  obtain ⟨work, started, takes⟩ := serves_iff.mp (shut.serves_last kept)
  cases work with
  | serveEditor =>
    obtain ⟨outcome, done⟩ := shut.done
    obtain ⟨script, here, does⟩ := kept.script started
    obtain rfl : script = .done outcome := Option.some.inj (here.symm.trans done)
    rw [shut.acts_last, Program.scriptOf_of_peer? setup takes] at does
    cases does with
    | act _ ending =>
      obtain ⟨given, first, second, parts, stopping, quiet⟩ := Script.Does.of_bind_done ending
      obtain ⟨rfl, _⟩ := quiet.of_done
      rw [List.append_nil] at parts
      subst parts
      obtain ⟨stopper, forked, joined⟩ := Session.shutdownAll_comes stopping session among
      have did {act : Act} (member : act ∈ after.actsOf last) : act ∈ journal.acts := by
        apply @mem_acts_of_mem_actsOf _ last
        rw [shut.acts_last]
        exact List.mem_cons_of_mem _ (List.mem_cons_of_mem _ member)
      obtain ⟨outcome, done⟩ := kept.done_of_joined (did joined)
      exact ⟨stopper, outcome, kept.work_of_fork (did forked), done⟩
  | _ => cases takes

/-- A server of a session that was in use at the end has been told to exit when it has answered that
it is ready. -/
theorem endingsTo_drained {session : Session} (among : session ∈ drained)
    (alive : now.world.isAlive session.peer = true) :
    now.world.endingsTo session.server =
      if now.world.answeredShutdown session.server then ["shutdown", "exit"] else ["shutdown"] := by
  obtain ⟨stopper, outcome, stops, done⟩ := shut.stopper_done kept among
  exact kept.endingsTo_of_done stops done alive

/-- No session is left when none of those that are put in use afterwards is. -/
theorem sessions_eq_nil (early : ∀ starter key session,
      .did starter ⟨.register key session, ()⟩ ∈ after →
        now.world.sessions.get? key ≠ some session) : now.world.sessions.entries = [] := by
  cases there : now.world.sessions.entries with
  | nil => rfl
  | cons entry rest =>
    obtain ⟨key, session⟩ := entry
    obtain ⟨starter, used⟩ :=
      kept.registered_after_drain shut.whole (there ▸ List.mem_cons_self)
    exact absurd (by simp [Table.get?, there, Table.find?]) (early starter key session used)

end ShutDown

/-- The server of a session that was taken was told that it is initialized. -/
theorem Kept.initialized_of_taken (kept : Kept setup tree journal now) {session : Session}
    (taken : session ∈ journal.taken) : now.world.initialized session.server = true :=
  kept.initialized_of_used
    (kept.used_of_servers (List.mem_append_right _ (List.mem_map_of_mem taken)))

/-- When the program has shut down and no session is being started, all servers have ended just if
no session is in use that was put in use after all were taken, every server whose session was taken
then has answered that it is ready to end, and every server that is stopped otherwise has been told
to exit. What is in use was put in use later, and its server is not told to end; the servers of the
sessions that were taken last are told to exit when they have answered. -/
theorem all_ended_iff (kept : Kept setup tree journal now)
    (shut : ShutDown journal before now after last drained) (settled : now.world.StartsOver) :
    (now.world.AllEnded ↔
      (∀ starter key session, .did starter ⟨.register key session, ()⟩ ∈ after →
        now.world.sessions.get? key ≠ some session) ∧
      (∀ session ∈ drained, now.world.isAlive session.peer = true →
        now.world.answeredShutdown session.server = true) ∧
      ∀ session, .stopSession session ∈ journal.works → session ∉ drained →
        now.world.isAlive session.peer = true → "exit" ∈ now.world.endingsTo session.server) ∧
    (∀ key session, now.world.sessions.get? key = some session →
      (∃ starter, .did starter ⟨.register key session, ()⟩ ∈ after) ∧
        now.world.initialized session.server = true ∧
        now.world.endingsTo session.server = []) ∧
    ∀ session ∈ drained, now.world.isAlive session.peer = true →
      now.world.endingsTo session.server =
        if now.world.answeredShutdown session.server then ["shutdown", "exit"]
        else ["shutdown"] := by
  have ended (session : Session) (among : session ∈ drained) :=
    shut.endingsTo_drained kept among
  refine ⟨⟨fun all => ⟨?_, ?_, ?_⟩, fun ⟨early, ready, closed⟩ => ?_⟩, ?_, ended⟩
  · intro starter key session _ there
    have member := Table.mem_of_find? there
    rw [all.1] at member
    cases member
  · intro session among alive
    have taken : session ∈ journal.taken := by
      rw [taken, acts_cut shut.whole]
      exact List.mem_flatMap.mpr ⟨_, List.mem_append_right _ List.mem_cons_self, among⟩
    have both := all.2 _ (kept.initialized_of_taken taken) alive
    rw [ended session among alive] at both
    by_contra unready
    rw [if_neg unready] at both
    cases both
  · intro session stopped _ alive
    rw [all.2 _ (kept.initialized_of_taken (kept.taken_of_stopped stopped)) alive]
    simp
  · have nothing := shut.sessions_eq_nil kept early
    refine ⟨nothing, fun server initialized alive => ?_⟩
    obtain ⟨key, session, rfl, member⟩ := kept.used_of_initialized settled initialized alive
    rcases kept.in_use_or_taken member alive with there | taken
    · have among := Table.mem_of_find? there
      rw [nothing] at among
      cases among
    · obtain ⟨stopper, stops⟩ := shut.stopper_of_taken kept taken
      by_cases among : session ∈ drained
      · rw [ended session among alive, if_pos (ready session among alive)]
      · exact kept.endingsTo_eq_both (closed session (List.mem_of_getElem? stops) among alive)
  · intro key session there
    have member := Table.mem_of_find? there
    exact ⟨kept.registered_after_drain shut.whole member,
      kept.initialized_of_used (kept.acquainted.sessions _ member),
      kept.endingsTo_of_in_use member⟩

/-- Where all sessions were first taken out of use: what came before, by whom it was done, the
sessions, and what came after. -/
def drainedAt? : Journal → Option (Journal × Nat × List Session × Journal)
  | [] => none
  | .did last ⟨.drain, drained⟩ :: after => some ([], last, drained, after)
  | entry :: rest => (drainedAt? rest).map fun cut => (entry :: cut.1, cut.2)

theorem eq_of_drainedAt? (found : drainedAt? journal = some (before, last, drained, after)) :
    journal = before ++ .did last ⟨.drain, drained⟩ :: after := by
  fun_induction drainedAt? journal generalizing before with
  | case1 => cases found
  | case2 =>
    cases found
    rfl
  | case3 entry rest _ ih =>
    obtain ⟨⟨earlier, cut⟩, there, same⟩ := Option.map_eq_some_iff.mp found
    cases same
    rw [ih there]
    rfl

/-- Whether the program has shut down. -/
def hasShutDown (journal : Journal) (now : System) : Bool :=
  match drainedAt? journal with
  | none => false
  | some (before, last, _) =>
    (match before.actsOf last with
      | [⟨.receive .editor, (none : Option Message)⟩] => true
      | _ => false) && hasEnded now last

theorem exists_of_hasShutDown (down : hasShutDown journal now = true) :
    ∃ before after last drained, ShutDown journal before now after last drained := by
  unfold hasShutDown at down
  cases found : drainedAt? journal with
  | none =>
    rw [found] at down
    cases down
  | some cut =>
    obtain ⟨before, last, drained, after⟩ := cut
    simp only [found, Bool.and_eq_true] at down
    obtain ⟨gone, ended⟩ := down
    refine ⟨before, after, last, drained, eq_of_drainedAt? found, ?_, exists_of_hasEnded ended⟩
    split at gone
    · assumption
    · cases gone

end Journal

namespace Session

open Server Journal

/-- A document is opened and its server starts; then the editor is gone, and the server answers that
it is ready to end. -/
def endedInOrder : Journal × System := afterOpening [.endInput .editor, .answer 1 (.ok .null)]

theorem sole_server_ended : ∃ before after last drained,
    Kept soleServer ⟨[], []⟩ endedInOrder.1 endedInOrder.2 ∧
    ShutDown endedInOrder.1 before endedInOrder.2 after last drained ∧
    endedInOrder.2.world.StartsOver ∧
    endedInOrder.2.world.initialized soleSession.server = true ∧ endedInOrder.2.world.AllEnded := by
  obtain ⟨down, free, told, nothing, ready, exits, stopped⟩ :
      hasShutDown endedInOrder.1 endedInOrder.2 = true ∧
      endedInOrder.2.world.held.isEmpty = true ∧
      endedInOrder.2.world.initialized soleSession.server = true ∧
      endedInOrder.2.world.sessions.entries.isEmpty = true ∧
      endedInOrder.2.world.answeredShutdown soleSession.server = true ∧
      "exit" ∈ endedInOrder.2.world.endingsTo soleSession.server ∧
      endedInOrder.1.works.all (fun work =>
        work.stopped?.all fun session => session.server = soleSession.server) = true := by
    decide +kernel
  have kept : Kept soleServer ⟨[], []⟩ endedInOrder.1 endedInOrder.2 := kept_afterOpening _
  obtain ⟨before, after, last, drained, shut⟩ := exists_of_hasShutDown down
  have settled := World.startsOver_of_free free
  have sole {session : Session} (stopping : .stopSession session ∈ endedInOrder.1.works) :
      session.server = soleSession.server := by
    simpa [Work.stopped?] using List.all_eq_true.mp stopped _ stopping
  refine ⟨before, after, last, drained, kept, shut, settled, told,
    (all_ended_iff kept shut settled).1.mpr ⟨?_, ?_, ?_⟩⟩
  · intro _ key session _ there
    have member := Table.mem_of_find? there
    rw [List.isEmpty_iff.mp nothing] at member
    cases member
  · intro session among _
    obtain ⟨stopper, _, stops, _⟩ := shut.stopper_done kept among
    rw [sole (List.mem_of_getElem? stops)]
    exact ready
  · intro session stops _ _
    rw [sole stops]
    exact exits

/-- A document is opened and the editor is gone before its server has answered that it can be told
of documents. -/
def startedLate : Journal × System :=
  play soleServer 60
    [.deliver .editor (.notification true "textDocument/didOpen" (Params.ofJson (.obj
        [("text_document", .str "/a.go"), ("language_id", .str "go"), ("text", .str "x")]))),
      .endInput .editor, .answer 0 (.ok (.obj [("capabilities", .obj [])]))]
    ([], listening soleServer ⟨[], []⟩)

/-- A session whose start ends after the program has shut down is put in use, and its server goes on
running and is never told to end. -/
theorem started_late_left_running : ¬ ∀ (setup : Setup) (tree : FileTree)
    (journal before after : Journal) (now : System) (last : Nat) (drained : List Session),
    Kept setup tree journal now → ShutDown journal before now after last drained →
    now.world.StartsOver → now.world.AllEnded := by
  intro claimed
  have kept : Kept soleServer ⟨[], []⟩ startedLate.1 startedLate.2 := Kept.played _ _ 60 _
  obtain ⟨down, free, used⟩ : hasShutDown startedLate.1 startedLate.2 = true ∧
      startedLate.2.world.held.isEmpty = true ∧
      startedLate.2.world.sessions.entries.isEmpty = false := by
    decide +kernel
  obtain ⟨before, after, last, drained, shut⟩ := exists_of_hasShutDown down
  rw [(claimed _ _ _ _ _ _ _ _ kept shut (World.startsOver_of_free free)).1] at used
  cases used

end Session

end LanguageBridge
