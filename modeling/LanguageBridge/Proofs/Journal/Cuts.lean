import LanguageBridge.Proofs.Journal.Progress

/-!
Journals that are cut where a thread does something: what the thread has done before, and where it
stood.
-/
namespace LanguageBridge.Journal

variable {setup : Setup} {tree : FileTree} {journal before rest : Journal} {now : System}
  {thread : Nat} {act : Act}

theorem actsOf_cut (split : journal = before ++ .did thread act :: rest) :
    journal.actsOf thread = before.actsOf thread ++ act :: rest.actsOf thread := by
  rw [split, ← List.singleton_append, actsOf, actsBy_append, actsBy_append, actsBy_did]
  simp [actsOf]

theorem acts_cut (split : journal = before ++ .did thread act :: rest) :
    journal.acts = before.acts ++ act :: rest.acts := by
  rw [split, ← List.singleton_append, acts, actsBy_append, actsBy_append, actsBy_did]
  rfl

theorem received_cut (split : journal = before ++ .did thread act :: rest) (peer : Peer) :
    before.received peer <+: journal.received peer := by
  rw [received, received, acts_cut split, List.filterMap_append]
  exact List.prefix_append _ _

theorem mem_actsOf : act ∈ journal.actsOf thread ↔ .did thread act ∈ journal := by
  rw [actsOf, mem_actsBy]
  constructor
  · intro own
    obtain ⟨mover, own, did⟩ := own
    exact beq_iff_eq.mp own ▸ did
  · exact fun did => ⟨thread, beq_self_eq_true thread, did⟩

/-- A thread keeps its work. -/
theorem work_stays {work : Work} (started : before.works[thread]? = some work) (rest : Journal) :
    (works (before ++ rest))[thread]? = some work := by
  have grown : works (before ++ rest) =
      before.works ++ rest.acts.filterMap fun act => act.forked?.map (·.1) := by
    simp [works, acts]
  rw [grown, List.getElem?_append_left (List.getElem?_eq_some_iff.mp started).1]
  exact started

theorem serves_stays {peer : Peer} (serves : before.serves peer thread = true)
    (whole : journal = before ++ rest) : journal.serves peer thread = true := by
  obtain ⟨work, started, takes⟩ := serves_iff.mp serves
  exact serves_iff.mpr ⟨work, whole ▸ work_stays started rest, takes⟩

/-- Where one of some threads did something, the journal can be cut. -/
theorem exists_cut_by {mine : Nat → Bool} {first second : List Act}
    (whole : journal.actsBy mine = first ++ act :: second) :
    ∃ (thread : Nat) (before rest : Journal), journal = before ++ .did thread act :: rest ∧
      mine thread = true ∧ before.actsBy mine = first ∧ rest.actsBy mine = second := by
  induction journal generalizing first with
  | nil => simp at whole
  | cons entry journal ih =>
    have apart (later : Journal) :
        actsBy (entry :: later) mine = actsBy [entry] mine ++ later.actsBy mine :=
      actsBy_append [entry] later mine
    rw [apart] at whole
    by_cases own : ∃ thread made, entry = .did thread made ∧ mine thread = true
    · obtain ⟨mover, made, rfl, known⟩ := own
      have shown : actsBy [.did mover made] mine = [made] := by simp [known]
      rw [shown] at whole
      cases first with
      | nil =>
        obtain ⟨rfl, later⟩ := List.cons.inj whole
        exact ⟨mover, [], journal, rfl, known, rfl, later⟩
      | cons done first =>
        obtain ⟨rfl, later⟩ := List.cons.inj whole
        obtain ⟨thread, before, rest, rfl, found, done, left⟩ := ih later
        exact ⟨thread, _ :: before, rest, rfl, found, by rw [apart, shown, done]; rfl, left⟩
    · have nothing : actsBy [entry] mine = [] := by
        cases entry with
        | did mover made =>
          have other : ¬ mine mover = true := fun known => own ⟨mover, made, rfl, known⟩
          simp [other]
        | ended | happened => rfl
      rw [nothing] at whole
      obtain ⟨thread, before, rest, rfl, found, done, left⟩ := ih whole
      exact ⟨thread, entry :: before, rest, rfl, found, by rw [apart, nothing, done]; rfl, left⟩

/-- Where a thread did something, the journal can be cut. -/
theorem exists_cut {first second : List Act}
    (whole : journal.actsOf thread = first ++ act :: second) : ∃ before rest : Journal,
      journal = before ++ .did thread act :: rest ∧ before.actsOf thread = first ∧
        rest.actsOf thread = second := by
  obtain ⟨mover, before, rest, split, own, done, left⟩ := exists_cut_by whole
  obtain rfl : mover = thread := beq_iff_eq.mp own
  exact ⟨before, rest, split, done, left⟩

/-- Where a thread did something, it stood before that, at some moment of the course. -/
theorem Kept.stood (kept : Kept setup tree journal now)
    (split : journal = before ++ .did thread act :: rest) : ∃ moment world onward,
      Kept setup tree before moment ∧
      moment.threads[thread]? = some (.step act.operation onward) ∧
      moment.world.perform setup.host thread act.operation = some (world, act.answer) := by
  induction kept generalizing rest with
  | begin => simp at split
  | did kept here performed ih =>
    rcases append_singleton_eq split with ⟨rfl, same⟩ | ⟨fewer, earlier⟩
    · cases same
      exact ⟨_, _, _, kept, here, performed⟩
    · exact ih earlier
  | ended _ _ _ ih | happened _ _ ih =>
    rcases append_singleton_eq split with ⟨_, same⟩ | ⟨fewer, earlier⟩
    · cases same
    · exact ih earlier

/-- Whether a thread is done. -/
def hasEnded (now : System) (thread : Nat) : Bool :=
  match now.threads[thread]? with
  | some (.done _) => true
  | _ => false

theorem exists_of_hasEnded (ended : hasEnded now thread = true) :
    ∃ outcome, now.threads[thread]? = some (.done outcome) := by
  unfold hasEnded at ended
  split at ended
  · rename_i outcome here
    exact ⟨outcome, here⟩
  · cases ended

/-- Whether all threads that have done anything are done. -/
def settled (journal : Journal) (now : System) : Bool :=
  (List.range journal.works.length).all fun thread =>
    (journal.actsOf thread).isEmpty || hasEnded now thread

/-- When all threads that have done anything are done, no message is under way. -/
theorem Attended.under_eq_none {peer : Peer} {work : Work} {handled : List Leg}
    {under : Option Message} (attended : Attended setup journal now peer work handled under)
    (settled : journal.settled now = true) : under = none := by
  obtain ⟨last, rest, serves, _, rests⟩ := attended.order
  cases rests with
  | ready | ended => rfl
  | under own here does =>
    obtain ⟨given, started, _⟩ := serves_iff.mp serves
    have there : last ∈ List.range journal.works.length :=
      List.mem_range.mpr (List.getElem?_eq_some_iff.mp started).1
    have done := List.all_eq_true.mp settled last there
    rw [own, hasEnded, here] at done
    cases done

/-- When all threads that have done anything are done and no message waits, all were handled. -/
theorem Attended.exists_leg {peer : Peer} {work : Work} {handled : List Leg}
    {under : Option Message} (attended : Attended setup journal now peer work handled under)
    (settled : journal.settled now = true) (nothing : now.world.waiting peer = [])
    {message : Message} (came : message ∈ journal.delivered peer) :
    ∃ leg ∈ handled, leg.message = message := by
  rw [attended.delivered, attended.under_eq_none settled, nothing] at came
  exact List.mem_map.mp (by simpa using came)

/-- Lets threads take steps in turn. -/
def inTurn (setup : Setup) (threads : List Nat) (state : Journal × System) : Journal × System :=
  threads.foldl (fun state thread => (step setup state thread).getD state) state

theorem Kept.inTurn {state : Journal × System} (kept : Kept setup tree state.1 state.2)
    (threads : List Nat) :
    Kept setup tree (inTurn setup threads state).1 (inTurn setup threads state).2 := by
  induction threads generalizing state with
  | nil => exact kept
  | cons thread threads ih =>
    rw [Journal.inTurn, List.foldl_cons]
    cases moved : Journal.step setup state thread with
    | none => exact ih kept
    | some next => exact ih (kept.step moved)

theorem prefix_of_step {state next : Journal × System} (moved : step setup state thread = some next) :
    state.1 <+: next.1 := by
  unfold step at moved
  split at moved
  · cases moved
  · split at moved <;> cases moved
    exact List.prefix_append _ _
  · obtain ⟨both, _, rfl⟩ := Option.map_eq_some_iff.mp moved
    exact List.prefix_append _ _

theorem prefix_of_inTurn (threads : List Nat) (state : Journal × System) :
    state.1 <+: (inTurn setup threads state).1 := by
  induction threads generalizing state with
  | nil => exact List.prefix_rfl
  | cons thread threads ih =>
    rw [inTurn, List.foldl_cons]
    cases moved : step setup state thread with
    | none => exact ih state
    | some next => exact (prefix_of_step moved).trans (ih next)

theorem prefix_of_settle (steps : Nat) (state : Journal × System) :
    state.1 <+: (settle setup steps state).1 := by
  induction steps generalizing state with
  | zero => exact List.prefix_rfl
  | succ steps ih =>
    unfold settle
    split
    · rename_i next found
      obtain ⟨thread, _, moved⟩ := List.exists_of_findSome?_eq_some found
      exact (prefix_of_step moved).trans (ih next)
    · exact List.prefix_rfl

end LanguageBridge.Journal
