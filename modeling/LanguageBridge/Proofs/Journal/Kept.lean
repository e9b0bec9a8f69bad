import LanguageBridge.Proofs.Journal.Basic

/-!
Journals kept along with the program. Every course can be written down, and what is written down is
what the system has come to: its threads are where their acts have brought them, all that was said
is what they said, and every message that came waits or was taken.
-/
namespace LanguageBridge

/-- Written down while the program went on from when it listened to the editor. -/
inductive Journal.Kept (setup : Setup) (tree : FileTree) : Journal → System → Prop
  | begin : Kept setup tree [] (listening setup tree)
  | did {journal : Journal} {now : System} {thread : Nat} {operation : Operation}
      {onward : operation.Answer → Script (Outcome Json)} {world : World}
      {answer : operation.Answer} (kept : Kept setup tree journal now)
      (here : now.threads[thread]? = some (.step operation onward))
      (performed : now.world.perform setup.host thread operation = some (world, answer)) :
      Kept setup tree (journal ++ [.did thread ⟨operation, answer⟩])
        (System.startForked (Program.scriptOf setup)
          { world, threads := now.threads.set thread (onward answer) })
  | ended {journal : Journal} {now : System} {thread : Nat} {outcome : Outcome Json}
      (kept : Kept setup tree journal now)
      (here : now.threads[thread]? = some (.done outcome))
      (fresh : now.world.finished.contains thread = false) :
      Kept setup tree (journal ++ [.ended thread])
        { now with world := { now.world with finished := thread :: now.world.finished } }
  | happened {journal : Journal} {now : System} (kept : Kept setup tree journal now)
      (happening : Happening) :
      Kept setup tree (journal ++ [.happened happening]) (now.occur happening)

variable {setup : Setup} {tree : FileTree} {journal : Journal} {now : System}

namespace Journal

/-- Lets a thread take its next step and writes it down. -/
def step (setup : Setup) (state : Journal × System) (thread : Nat) : Option (Journal × System) :=
  match state.2.threads[thread]? with
  | none => none
  | some (.done _) =>
    if state.2.world.finished.contains thread then none
    else
      let finished := thread :: state.2.world.finished
      some (state.1 ++ [.ended thread], { state.2 with world := { state.2.world with finished } })
  | some (.step operation onward) =>
    (state.2.world.perform setup.host thread operation).map fun (world, answer) =>
      (state.1 ++ [.did thread ⟨operation, answer⟩],
        System.startForked (Program.scriptOf setup)
          { world, threads := state.2.threads.set thread (onward answer) })

/-- Lets threads take steps, always the first that can, until none can or the steps are used up. -/
def settle (setup : Setup) : Nat → Journal × System → Journal × System
  | 0, state => state
  | steps + 1, state =>
    match (List.range state.2.threads.length).findSome? (step setup state) with
    | some next => settle setup steps next
    | none => state

/-- Lets things happen one after the other, and threads take steps after each. -/
def play (setup : Setup) (steps : Nat) (happenings : List Happening)
    (state : Journal × System) : Journal × System :=
  happenings.foldl (fun state happening =>
    settle setup steps (state.1 ++ [.happened happening], state.2.occur happening)) state

theorem Kept.step {state next : Journal × System} {thread : Nat}
    (kept : Kept setup tree state.1 state.2) (moved : Journal.step setup state thread = some next) :
    Kept setup tree next.1 next.2 := by
  unfold Journal.step at moved
  split at moved
  · cases moved
  · rename_i outcome here
    split at moved
    · cases moved
    · rename_i fresh
      cases moved
      exact kept.ended here (Bool.eq_false_iff.mpr fresh)
  · rename_i operation onward here
    obtain ⟨⟨world, answer⟩, performed, rfl⟩ := Option.map_eq_some_iff.mp moved
    exact kept.did here performed

/-- The steps that are written down are those of the program. -/
theorem map_step (state : Journal × System) (thread : Nat) :
    (step setup state thread).map (·.2) = Program.step setup state.2 thread := by
  rw [step, Program.step, System.step]
  cases here : state.2.threads[thread]? with
  | none => rfl
  | some script =>
    cases script with
    | done outcome =>
      dsimp only
      split <;> rfl
    | step operation onward =>
      dsimp only
      cases state.2.world.perform setup.host thread operation <;> rfl

theorem Kept.settle {state : Journal × System} (kept : Kept setup tree state.1 state.2)
    (steps : Nat) : Kept setup tree (settle setup steps state).1 (settle setup steps state).2 := by
  induction steps generalizing state with
  | zero => exact kept
  | succ steps ih =>
    unfold Journal.settle
    split
    · rename_i next found
      obtain ⟨thread, _, moved⟩ := List.exists_of_findSome?_eq_some found
      exact ih (kept.step moved)
    · exact kept

theorem Kept.play {state : Journal × System} (kept : Kept setup tree state.1 state.2)
    (steps : Nat) (happenings : List Happening) :
    Kept setup tree (play setup steps happenings state).1
      (play setup steps happenings state).2 := by
  induction happenings generalizing state with
  | nil => exact kept
  | cons happening rest ih => exact ih (Kept.settle (kept.happened happening) steps)

/-- What comes of things that happen from the beginning on is kept. -/
theorem Kept.played (setup : Setup) (tree : FileTree) (steps : Nat) (happenings : List Happening) :
    Kept setup tree (Journal.play setup steps happenings ([], listening setup tree)).1
      (Journal.play setup steps happenings ([], listening setup tree)).2 :=
  Kept.play (.begin : Kept setup tree ([], listening setup tree).1 _) steps happenings

theorem mem_settle {entry : Entry} {state : Journal × System} (member : entry ∈ state.1)
    (steps : Nat) : entry ∈ (settle setup steps state).1 := by
  induction steps generalizing state with
  | zero => exact member
  | succ steps ih =>
    unfold settle
    split
    · rename_i next found
      obtain ⟨thread, _, moved⟩ := List.exists_of_findSome?_eq_some found
      refine ih ?_
      unfold step at moved
      split at moved
      · cases moved
      · split at moved <;> cases moved
        exact List.mem_append_left _ member
      · obtain ⟨both, _, rfl⟩ := Option.map_eq_some_iff.mp moved
        exact List.mem_append_left _ member
    · exact member

theorem mem_play_of_mem {entry : Entry} {state : Journal × System} (member : entry ∈ state.1)
    (steps : Nat) (happenings : List Happening) :
    entry ∈ (play setup steps happenings state).1 := by
  induction happenings generalizing state with
  | nil => exact member
  | cons happening rest ih => exact ih (mem_settle (List.mem_append_left _ member) steps)

/-- What was let happen is in the journal. -/
theorem mem_play {happening : Happening} {happenings : List Happening}
    (member : happening ∈ happenings) (steps : Nat) (state : Journal × System) :
    .happened happening ∈ (play setup steps happenings state).1 := by
  induction happenings generalizing state with
  | nil => cases member
  | cons first rest ih =>
    rcases List.mem_cons.mp member with rfl | later
    · exact mem_play_of_mem (mem_settle (List.mem_append_right _ List.mem_cons_self) steps) steps rest
    · exact ih later _

/-- Journals are kept of the courses of the program, and of nothing else. -/
theorem exists_kept_iff : (∃ journal, Kept setup tree journal now) ↔
    Course setup (fun _ => True) (listening setup tree) now := by
  constructor
  · rintro ⟨journal, kept⟩
    induction kept with
    | begin => exact .refl
    | @did journal now thread operation onward world answer kept here performed ih =>
      have moved : Program.step setup now thread = some (System.startForked (Program.scriptOf setup)
          { world, threads := now.threads.set thread (onward answer) }) := by
        simp only [Program.step, System.step, here, performed]
      exact ih.tail (.step moved)
    | @ended journal now thread outcome kept here fresh ih =>
      have moved : Program.step setup now thread = some { now with
          world := { now.world with finished := thread :: now.world.finished } } := by
        simp only [Program.step, System.step, here, fresh, Bool.false_eq_true, if_false]
      exact ih.tail (.step moved)
    | happened kept happening ih => exact ih.tail (.happen happening trivial)
  · intro course
    induction course with
    | refl => exact ⟨[], .begin⟩
    | tail _ advance ih =>
      obtain ⟨journal, kept⟩ := ih
      cases advance with
      | step moved =>
        rw [← map_step (_, _)] at moved
        obtain ⟨state, taken, rfl⟩ := Option.map_eq_some_iff.mp moved
        exact ⟨state.1, Kept.step (kept : Kept setup tree (_, _).1 (_, _).2) taken⟩
      | happen happening _ => exact ⟨_, kept.happened happening⟩

namespace Kept

theorem forked (kept : Kept setup tree journal now) : now.world.forked = [] := by
  induction kept with
  | begin => rfl
  | did => rfl
  | ended _ _ _ ih => exact ih
  | happened _ happening ih =>
    rw [System.occur_eq]
    exact (World.after_forked _ _).trans ih

end Kept

end Journal

/-- An operation that need not wait is carried out. -/
theorem Program.step_isSome {thread : Nat} {operation : Operation}
    {onward : operation.Answer → Script (Outcome Json)}
    (here : now.threads[thread]? = some (.step operation onward))
    (able : (now.world.perform setup.host thread operation).isSome = true) :
    (Program.step setup now thread).isSome = true := by
  obtain ⟨⟨world, answer⟩, performed⟩ := Option.isSome_iff_exists.mp able
  simp [Program.step, System.step, here, performed]

theorem Act.starting_eq (act : Act) :
    act.operation.starting = (act.forked?.map (·.1)).toList := by
  obtain ⟨operation, answer⟩ := act
  cases operation <;> rfl

/-- An entry of a longer journal is the last one or stands in the shorter one. -/
theorem Journal.append_singleton_eq {before rest : Journal} {last entry : Entry}
    (split : journal ++ [last] = before ++ entry :: rest) :
    journal = before ∧ last = entry ∨ ∃ fewer, journal = before ++ entry :: fewer := by
  rcases List.append_eq_append_iff.mp split with ⟨more, rfl, same⟩ | ⟨more, rfl, same⟩
  · cases more with
    | nil =>
      cases same
      exact .inl ⟨(List.append_nil _).symm, rfl⟩
    | cons => simp at same
  · cases more with
    | nil =>
      cases same
      exact .inl ⟨List.append_nil _, rfl⟩
    | cons head fewer =>
      cases same
      exact .inr ⟨fewer, rfl⟩

namespace Journal.Kept

theorem begun (kept : Kept setup tree journal now) :
    now.world.begun = journal.works.length := by
  induction kept with
  | begin => rfl
  | did kept here performed ih =>
    rw [works_did, List.length_append, ← Act.starting_eq, ← ih]
    exact (World.moved performed).begun
  | ended _ _ _ ih => simpa using ih
  | happened _ happening ih =>
    rw [System.occur_eq, works_happened, ← ih]
    exact World.after_begun _ _

/-- The threads that are forked by a step start with their work before them. -/
theorem forks (kept : Kept setup tree journal now) {thread : Nat} {operation : Operation}
    {answer : operation.Answer} {world : World}
    (performed : now.world.perform setup.host thread operation = some (world, answer)) :
    world.forked.map (Program.scriptOf setup) =
      ((Act.forked? ⟨operation, answer⟩).map (·.1)).toList.map (Program.scriptOf setup) := by
  rw [(World.performed performed).forked, kept.forked, List.nil_append, ← Act.starting_eq]

theorem threads_length (kept : Kept setup tree journal now) :
    now.threads.length = journal.works.length := by
  induction kept with
  | begin => rfl
  | did kept here performed ih =>
    simp [System.startForked, kept.forks performed, ih]
  | ended _ _ _ ih => simpa using ih
  | happened _ happening ih =>
    rw [System.occur_eq, works_happened]
    exact ih

/-- Whatever a thread did, it did after it was started. -/
theorem thread_lt (kept : Kept setup tree journal now) {thread : Nat} {act : Act}
    (member : .did thread act ∈ journal) : thread < journal.works.length := by
  induction kept with
  | begin => cases member
  | did kept here performed ih =>
    rw [works_did, List.length_append]
    rcases List.mem_append.mp member with before | new
    · exact Nat.lt_add_right _ (ih before)
    · cases List.mem_singleton.mp new
      rw [← kept.threads_length]
      exact Nat.lt_add_right _ (List.getElem?_eq_some_iff.mp here).1
  | ended _ _ _ ih =>
    rw [works_ended]
    exact ih (by simpa using member)
  | happened _ _ ih =>
    rw [works_happened]
    exact ih (by simpa using member)

theorem actsOf_of_le (kept : Kept setup tree journal now) {thread : Nat}
    (late : journal.works.length ≤ thread) : journal.actsOf thread = [] := by
  rw [List.eq_nil_iff_forall_not_mem]
  intro act member
  obtain ⟨other, same, there⟩ := mem_actsBy.mp member
  obtain rfl : other = thread := by simpa using same
  exact absurd (kept.thread_lt there) (Nat.not_lt.mpr late)

/-- Every thread is where its acts have brought it. -/
theorem script (kept : Kept setup tree journal now) {thread : Nat} {work : Work}
    (started : journal.works[thread]? = some work) : ∃ script,
      now.threads[thread]? = some script ∧
        (Program.scriptOf setup work).Does (journal.actsOf thread) script := by
  induction kept generalizing thread work with
  | begin =>
    cases thread with
    | zero =>
      cases started
      exact ⟨_, rfl, .nothing _⟩
    | succ => cases started
  | @did journal now mover operation onward world answer kept here performed ih =>
    have length := kept.threads_length
    have within := (List.getElem?_eq_some_iff.mp here).1
    simp only [System.startForked, kept.forks performed]
    rw [works_did] at started
    by_cases old : thread < journal.works.length
    · rw [List.getElem?_append_left old] at started
      rw [List.getElem?_append_left (by simpa [length] using old)]
      obtain ⟨script, there, does⟩ := ih started
      by_cases same : thread = mover
      · subst same
        obtain rfl : _ = script := Option.some.inj (here.symm.trans there)
        rw [actsOf_did_self]
        exact ⟨_, List.getElem?_set_self within, does.snoc answer⟩
      · rw [List.getElem?_set_ne (Ne.symm same), actsOf_did_of_ne same]
        exact ⟨script, there, does⟩
    · have late := Nat.not_lt.mp old
      have other : thread ≠ mover := by omega
      rw [List.getElem?_append_right late] at started
      rw [List.getElem?_append_right (by simpa [length] using late), List.length_set, length,
        List.getElem?_map, started, actsOf_did_of_ne other, kept.actsOf_of_le late]
      exact ⟨_, rfl, .nothing _⟩
  | ended _ _ _ ih =>
    rw [works_ended] at started
    rw [actsOf_ended]
    exact ih started
  | happened _ happening ih =>
    rw [works_happened] at started
    rw [actsOf_happened, System.occur_eq]
    exact ih started

/-- Every act was carried out at some moment of the course. -/
theorem moment (kept : Kept setup tree journal now) {before rest : Journal} {thread : Nat}
    {act : Act} (split : journal = before ++ .did thread act :: rest) :
    ∃ moment world, Kept setup tree before moment ∧
      moment.world.perform setup.host thread act.operation = some (world, act.answer) := by
  induction kept generalizing rest with
  | begin => simp at split
  | did kept here performed ih =>
    rcases append_singleton_eq split with ⟨rfl, same⟩ | ⟨fewer, earlier⟩
    · cases same
      exact ⟨_, _, kept, performed⟩
    · exact ih earlier
  | ended _ _ _ ih | happened _ _ ih =>
    rcases append_singleton_eq split with ⟨_, same⟩ | ⟨fewer, earlier⟩
    · cases same
    · exact ih earlier

/-- All that was done is what each thread did, in some order. -/
theorem acts_perm (kept : Kept setup tree journal now) :
    journal.acts.Perm ((List.range journal.works.length).flatMap journal.actsOf) := by
  have known : journal.acts =
      journal.actsBy fun thread => (List.range journal.works.length).contains thread :=
    actsBy_congr fun thread act member => by simpa using (kept.thread_lt member)
  rw [known]
  exact actsBy_mem_perm List.nodup_range

/-- All that was said is what the threads said. -/
theorem traffic (kept : Kept setup tree journal now) :
    now.world.traffic = journal.acts.filterMap Act.sent? := by
  induction kept with
  | begin => rfl
  | did kept here performed ih =>
    rw [acts_did, List.filterMap_append, ← ih, List.filterMap_cons]
    refine (World.moved performed).sent.trans ?_
    split <;> rename_i said <;> rw [said] <;> rfl
  | ended _ _ _ ih => simpa using ih
  | happened _ happening ih =>
    rw [System.occur_eq, acts_happened, ← ih]
    exact (World.after_happening _ happening).2.2.2.2

/-- The replies to a peer are those that the threads gave. -/
theorem repliesTo (kept : Kept setup tree journal now) (peer : Peer) :
    now.world.repliesTo peer = journal.acts.filterMap (Act.reply? peer) := by
  rw [World.repliesTo, kept.traffic, List.filterMap_filterMap]
  rfl

/-- Every message that came was taken or waits. -/
theorem delivered (kept : Kept setup tree journal now) (peer : Peer) :
    journal.delivered peer = journal.received peer ++ now.world.waiting peer := by
  induction kept with
  | begin => rfl
  | did kept here performed ih =>
    rw [delivered_did, received_did, ih, World.waiting_eq_received performed peer,
      List.append_assoc]
    rfl
  | ended _ _ _ ih =>
    rw [delivered_ended, ih, Journal.received, Journal.received, acts_ended]
    rfl
  | happened _ happening ih =>
    rw [delivered_happened, ih, System.occur_eq, World.waiting_eq_delivered, List.append_assoc,
      Journal.received, Journal.received, acts_happened]

/-- What was waited for is the answer there is. -/
theorem answered (kept : Kept setup tree journal now) {ticket : Nat} {outcome : Outcome Json}
    (member : (⟨.await ticket, outcome⟩ : Act) ∈ journal.acts) :
    now.world.answers.get? ticket = some outcome := by
  induction kept with
  | begin => cases member
  | @did journal now thread operation onward world answer kept here performed ih =>
    change world.answers.get? ticket = some outcome
    rw [acts_did, List.mem_append, List.mem_singleton] at member
    rw [(World.performed performed).answers]
    rcases member with before | new
    · exact ih before
    · cases new
      exact World.answered_of_await performed
  | ended _ _ _ ih => exact ih (by simpa using member)
  | happened _ happening ih =>
    rw [System.occur_eq]
    exact World.after_answers (ih (by simpa using member)) happening

/-- Who was told that there are no more messages of a peer was told so because it sends no more. -/
theorem silent (kept : Kept setup tree journal now) {peer : Peer}
    (member : (⟨.receive peer, (none : Option Message)⟩ : Act) ∈ journal.acts) :
    peer ∈ now.world.silent := by
  induction kept with
  | begin => cases member
  | @did journal now thread operation onward world answer kept here performed ih =>
    change peer ∈ world.silent
    rw [acts_did, List.mem_append, List.mem_singleton] at member
    rw [(World.performed performed).silent]
    rcases member with before | new
    · exact ih before
    · cases new
      simp only [World.perform, World.receive] at performed
      split at performed
      · cases performed
      · split at performed
        · rename_i silent
          exact List.contains_iff_mem.mp silent
        · cases performed
  | ended _ _ _ ih => exact ih (by simpa using member)
  | happened _ happening ih =>
    have before := ih (by simpa using member)
    cases happening with
    | answer =>
      simp only [System.occur]
      split <;> exact before
    | endInput => exact List.mem_cons_of_mem _ before
    | _ => exact before

/-- Peers that are there have heard all they were told. -/
theorem heard (kept : Kept setup tree journal now) {peer : Peer}
    (alive : now.world.isAlive peer = true) {act : Act} (member : act ∈ journal.acts) :
    act.unheard? ≠ some peer := by
  induction kept with
  | begin => cases member
  | @did journal now thread operation onward world answer kept here performed ih =>
    have before : now.world.isAlive peer = true := by
      rw [World.isAlive, ← (World.performed performed).dead]
      exact alive
    rw [acts_did, List.mem_append, List.mem_singleton] at member
    rcases member with old | rfl
    · exact ih before old
    · intro unheard
      rw [World.dead_of_unheard performed unheard] at before
      cases before
  | ended _ _ _ ih => exact ih alive (by simpa using member)
  | happened _ happening ih =>
    rw [System.occur_eq] at alive
    refine ih ?_ (by simpa using member)
    exact (World.Undisturbed.happening _ happening).dead peer alive

/-- The floating preview is what the acts made of it. -/
theorem float (kept : Kept setup tree journal now) :
    now.world.float = journal.acts.foldl Act.floatAfter .closed := by
  induction kept with
  | begin => rfl
  | did kept here performed ih =>
    rw [acts_did, List.foldl_append, ← ih]
    exact (World.moved performed).float
  | ended _ _ _ ih => simpa using ih
  | happened _ happening ih =>
    rw [System.occur_eq, acts_happened, ← ih]
    exact World.after_float _ happening

/-- Threads are numbered in the order in which they were forked. -/
theorem numbered (kept : Kept setup tree journal now) :
    journal.acts.filterMap Act.forked? = journal.works.tail.zipIdx 1 := by
  induction kept with
  | begin => rfl
  | @did journal now thread operation onward world answer kept here performed ih =>
    rw [acts_did, List.filterMap_append, ih, works_did]
    cases operation with
    | fork work =>
      cases performed
      simp [works, Act.forked?, List.zipIdx_append, kept.begun, Nat.add_comm]
    | _ => simp [Act.forked?]
  | ended _ _ _ ih => simpa using ih
  | happened _ _ ih => simpa using ih

/-- A thread that was forked does the work that it was forked for. -/
theorem work_of_fork (kept : Kept setup tree journal now) {work : Work} {number : Nat}
    (member : (⟨.fork work, number⟩ : Act) ∈ journal.acts) :
    journal.works[number]? = some work := by
  have given : (work, number) ∈ journal.acts.filterMap Act.forked? :=
    List.mem_filterMap.mpr ⟨_, member, rfl⟩
  rw [kept.numbered, List.mem_zipIdx_iff_le_and_getElem?_sub] at given
  obtain ⟨positive, there⟩ := given
  obtain ⟨before, rfl⟩ := Nat.exists_eq_add_of_le positive
  rw [Nat.add_sub_cancel_left] at there
  rw [Nat.add_comm]
  exact there

/-- Whether all actions have come to their ends can be seen from the threads. -/
theorem actionsDone (kept : Kept setup tree journal now)
    (all : journal.actionsEnded now = true) : journal.ActionsDone now := by
  intro thread id method params started
  obtain ⟨script, here, _⟩ := kept.script started
  have both : (.runAction id method params, script) ∈ journal.works.zip now.threads :=
    List.mem_of_getElem? (List.getElem?_zip_eq_some.mpr ⟨started, here⟩)
  have known := List.all_eq_true.mp all _ both
  cases script with
  | done outcome => exact ⟨outcome, here⟩
  | step => cases known

end Journal.Kept

end LanguageBridge
