import LanguageBridge.Proofs.Precedence.Tracking

/-!
The messages of the editor are taken by one thread after the other. Who is started for a message
after the one that carries the content is started once the content was passed on.
-/
namespace LanguageBridge

namespace Letter

/-- Messages are taken in the order in which they came, by a single thread, which knows where it
stands with the content, and threads for later messages are started when it is past. -/
structure Watched (letter : Letter) (bearings : Bearings) (now : Moment) : Prop where
  dealt : ∃ earlier, now.chronicle.arrived = earlier ++ now.world.waiting .editor
  single : ∀ first second, (bearings first).watch ≠ .none → (bearings second).watch ≠ .none →
    first = second
  before : ∀ thread, (bearings thread).watch = .before → now.taken ≤ letter.index
  after : ∀ thread, (bearings thread).watch = .owing ∨ (bearings thread).watch = .past →
    letter.index < now.taken
  late : ∀ thread, (bearings thread).late = true → letter.index < now.taken ∧
    ∀ other, (bearings other).watch ≠ .owing
  tasks : ∀ thread later, now.chronicle.tasks[thread]? = some (some later) →
    letter.index < later → (bearings thread).late = true

namespace Turns

variable {letter : Letter} {due : Bool} {bearing after new : Bearing} {heading : Heading}
  {operation : Operation} {answer : operation.Answer} {child : Option Bearing}
  (turns : letter.Turns due bearing heading operation answer after child)

include turns

theorem watch (watches : after.watch ≠ .none) : bearing.watch ≠ .none := by
  cases turns <;> simp_all

theorem watch_before (before : after.watch = .before) : bearing.watch = .before ∧
    (operation = .receive .editor → due = false ∨
      (⟨operation, answer⟩ : Σ operation : Operation, operation.Answer) =
        ⟨.receive .editor, none⟩) := by
  cases turns with
  | plain plain => exact ⟨before, by rintro rfl; exact plain.elim⟩
  | receive other =>
    refine ⟨before, fun _ => ?_⟩
    rcases other with past | ⟨_, early | rfl⟩
    · cases before.symm.trans past
    · exact .inl early
    · exact .inr rfl
  | _ => simp_all

theorem watch_after (past : after.watch = .owing ∨ after.watch = .past) :
    (bearing.watch = .owing ∨ bearing.watch = .past) ∨ due = true ∧ ∃ message : Message,
      (⟨operation, answer⟩ : Σ operation : Operation, operation.Answer) =
        ⟨.receive .editor, some message⟩ := by
  cases turns with
  | @receiveDue message here => exact .inr ⟨here, message, rfl⟩
  | _ => simp_all

theorem watch_owing (owing : after.watch = .owing) : bearing.watch = .owing ∨
    due = true ∧ operation = .receive .editor := by
  cases turns <;> simp_all

theorem watch_child (begun : child = some new) (watches : new.watch ≠ .none) :
    after.watch = .none ∧ new.watch = bearing.watch ∧
      (bearing.watch = .before ∨ bearing.watch = .past) ∧ operation = .fork .serveEditor := by
  cases turns <;> simp_all <;> grind

theorem late_child (begun : child = some new) (late : new.late = true) :
    bearing.watch = .past ∧ after.watch = .past := by
  cases turns <;> simp_all <;> grind

/-- Who is started for an action is late if the content was passed on. -/
theorem dispatches {work : Work} {task : Nat} (forks : operation = .fork work)
    (does : work.task? task = some task) :
    (bearing.watch = .before ∨ bearing.watch = .past) ∧
      child = some { late := decide (bearing.watch = .past) } := by
  cases turns with
  | plain plain => exact (forks ▸ plain : Operation.Plain (.fork work)).elim
  | dispatch clear => exact ⟨clear, rfl⟩
  | passOn =>
    cases forks
    cases does
  | start other =>
    cases forks
    cases work <;> first | exact other.elim | cases does
  | _ => cases forks

/-- Who takes a message of the editor is the one that watches. -/
theorem watches (receives : operation = .receive .editor) : bearing.watch ≠ .none := by
  cases turns with
  | plain plain => exact (receives ▸ plain : Operation.Plain (.receive .editor)).elim
  | receiveDue _ before => simp [before]
  | receive other =>
    rcases other with past | ⟨before, _⟩
    · simp [past]
    · simp [before]
  | _ => cases receives

end Turns

namespace Acts

variable {letter : Letter} {host : Host} {bearings : Bearings} {now next : Moment}
  {past : List Moment} {thread count : Nat} {operation : Operation} {answer : operation.Answer}
  {due : Bool} {heading : Heading} {after : Bearing} {child : Option Bearing}
  (acts : letter.Acts host bearings now next thread operation answer due heading after child)

include acts

theorem arrived : next.chronicle.arrived = now.chronicle.arrived := by
  rw [acts.chronicle]
  rfl

/-- An operation takes no message of the editor, or the first that waits. -/
theorem waiting : (next.world.waiting .editor = now.world.waiting .editor ∧
      ∀ message, (⟨operation, answer⟩ : Σ operation : Operation, operation.Answer) ≠
        ⟨.receive .editor, some message⟩) ∨
    ∃ message, (⟨operation, answer⟩ : Σ operation : Operation, operation.Answer) =
        ⟨.receive .editor, some message⟩ ∧
      now.world.waiting .editor = message :: next.world.waiting .editor := by
  obtain ⟨later, performed, same⟩ := acts.performed
  have waits : next.world.waiting .editor = later.waiting .editor := by
    rw [same]
    rfl
  rw [waits]
  by_cases receives : operation = .receive .editor
  · subst receives
    cases answer with
    | some message => exact .inr ⟨message, rfl, World.waiting_of_receive performed⟩
    | none =>
      refine .inl ⟨?_, fun message equal => by cases equal⟩
      simp only [World.perform, World.receive] at performed
      split at performed
      · cases performed
      · split at performed <;> cases performed
        rfl
  · refine .inl ⟨?_, fun message equal => receives (congrArg Sigma.fst equal)⟩
    rw [(World.performed performed).waiting]
    unfold Operation.waitingAfter
    split
    · rename_i peer
      exact if_neg fun same => receives (by rw [same])
    · rfl

theorem taken (dealt : ∃ earlier, now.chronicle.arrived = earlier ++ now.world.waiting .editor) :
    (next.taken = now.taken ∧
      ∀ message, (⟨operation, answer⟩ : Σ operation : Operation, operation.Answer) ≠
        ⟨.receive .editor, some message⟩) ∨
    ∃ message, (⟨operation, answer⟩ : Σ operation : Operation, operation.Answer) =
      ⟨.receive .editor, some message⟩ ∧ next.taken = now.taken + 1 := by
  obtain ⟨earlier, whole⟩ := dealt
  have before : now.taken = earlier.length := by
    simp [Moment.taken, Chronicle.taken, whole]
  rcases acts.waiting with ⟨same, nothing⟩ | ⟨message, receives, waits⟩
  · refine .inl ⟨?_, nothing⟩
    rw [Moment.taken, Chronicle.taken, acts.arrived, same]
    rfl
  · refine .inr ⟨message, receives, ?_⟩
    rw [before, Moment.taken, Chronicle.taken, acts.arrived, whole, waits]
    simp
    omega

theorem tasks {other : Nat} {task : Option Nat}
    (given : next.chronicle.tasks[other]? = some task) :
    now.chronicle.tasks[other]? = some task ∨ other = now.chronicle.tasks.length ∧
      ∃ work, operation = .fork work ∧ work.task? (now.taken - 1) = task := by
  rw [acts.chronicle] at given
  cases operation with
  | fork work =>
    change (now.chronicle.tasks ++ [work.task? (now.taken - 1)])[other]? = some task at given
    rcases Nat.lt_or_ge other now.chronicle.tasks.length with old | beyond
    · rw [List.getElem?_append_left old] at given
      exact .inl given
    · rw [List.getElem?_append_right beyond, List.getElem?_singleton] at given
      split at given
      · cases given
        exact .inr ⟨by omega, work, rfl, rfl⟩
      · cases given
  | _ => exact .inl given

/-- The thread that watches goes on doing so, or has left that to the one that it started. -/
theorem seats {other : Nat} (unborn : bearings count = {})
    (watches : (bearings.turn count thread after child other).watch ≠ .none) :
    ((bearings other).watch ≠ .none ∧ (other = thread → after.watch ≠ .none)) ∨
      other = count ∧ after.watch = .none ∧ (bearings thread).watch ≠ .none := by
  obtain ⟨rfl, turned⟩ | ⟨apart, turned⟩ | ⟨_, rfl, new, begun, turned⟩ :=
    bearings.turn_cases count thread after child other
  · rw [turned] at watches
    exact .inl ⟨acts.turns.watch watches, fun _ => watches⟩
  · rw [turned] at watches
    exact .inl ⟨watches, fun same => absurd same apart⟩
  · rw [turned] at watches
    obtain ⟨left, same, _⟩ := acts.turns.watch_child begun watches
    exact .inr ⟨rfl, left, same ▸ watches⟩

/-- Nobody gets to have the content to pass on that was passed on before. -/
theorem not_owing (past : letter.index < now.taken)
    (nobody : ∀ other, (bearings other).watch ≠ .owing) (other : Nat) :
    (bearings.turn count thread after child other).watch ≠ .owing := by
  refine Bearings.forall_turn (fun _ bearing => bearing.watch ≠ .owing)
    (fun other _ => nobody other) ?_ ?_ other
  · intro owing
    rcases acts.turns.watch_owing owing with before | ⟨here, receives⟩
    · exact nobody thread before
    · have timely := acts.timely
      subst receives
      have due : now.taken = letter.index := timely.mp here
      omega
  · intro new begun owing
    obtain ⟨_, same, clear, _⟩ := acts.turns.watch_child begun (by rw [owing]; nofun)
    rw [← same, owing] at clear
    rcases clear with impossible | impossible <;> cases impossible

/-- A thread that acts is there. -/
theorem born : thread < now.system.threads.length := by
  obtain ⟨_, here, _⟩ := acts.heads
  exact (List.getElem?_eq_some_iff.mp here).1

theorem watched (unborn : bearings count = {}) (there : now.system.threads.length = count)
    (counted : now.chronicle.tasks.length = count) (watched : letter.Watched bearings now) :
    letter.Watched (bearings.turn count thread after child) next := by
  have turns := acts.turns
  have timely := acts.timely
  have taking := acts.taken watched.dealt
  have grows : now.taken ≤ next.taken := by
    rcases taking with ⟨same, _⟩ | ⟨_, _, more⟩ <;> omega
  have due (receives : operation = .receive .editor) : due = true ↔ now.taken = letter.index := by
    subst receives
    exact timely
  refine ⟨?_, ?_, ?_, ?_, ?_, ?_⟩
  · obtain ⟨earlier, whole⟩ := watched.dealt
    rw [acts.arrived]
    rcases acts.waiting with ⟨same, _⟩ | ⟨message, _, waits⟩
    · exact ⟨earlier, by rw [whole, same]⟩
    · exact ⟨earlier ++ [message], by simp [whole, waits]⟩
  · intro first second one two
    rcases acts.seats unborn one with ⟨here, stays⟩ | ⟨rfl, left, mine⟩
    · rcases acts.seats unborn two with ⟨there, _⟩ | ⟨_, left, mine⟩
      · exact watched.single first second here there
      · exact absurd left (stays (watched.single first thread here mine))
    · rcases acts.seats unborn two with ⟨there, stays⟩ | ⟨same, _⟩
      · exact absurd left (stays (watched.single second thread there mine))
      · exact same.symm
  · refine Bearings.forall_turn
      (fun _ bearing => bearing.watch = .before → next.taken ≤ letter.index) ?_ ?_ ?_
    · intro other apart before
      rcases taking with ⟨same, _⟩ | ⟨_, receives, _⟩
      · exact same ▸ watched.before other before
      · have mine := turns.watches (congrArg Sigma.fst receives)
        exact absurd (watched.single other thread (by rw [before]; nofun) mine) apart
    · intro before
      obtain ⟨former, early⟩ := turns.watch_before before
      have low := watched.before thread former
      rcases taking with ⟨same, _⟩ | ⟨message, receives, more⟩
      · omega
      · have receiving := congrArg Sigma.fst receives
        rcases early receiving with early | nothing
        · have other : now.taken ≠ letter.index := by
            rw [Ne, ← due receiving, early]
            nofun
          omega
        · cases receives.symm.trans nothing
    · intro new begun before
      obtain ⟨_, same, _, forks⟩ := turns.watch_child begun (by rw [before]; nofun)
      have low := watched.before thread (same ▸ before)
      rcases taking with ⟨kept, _⟩ | ⟨_, receives, _⟩
      · omega
      · cases forks.symm.trans (congrArg Sigma.fst receives)
  · refine Bearings.forall_turn (fun _ bearing => bearing.watch = .owing ∨ bearing.watch = .past →
      letter.index < next.taken) ?_ ?_ ?_
    · intro other _ past
      exact Nat.lt_of_lt_of_le (watched.after other past) grows
    · intro past
      rcases turns.watch_after past with former | ⟨here, message, receives⟩
      · exact Nat.lt_of_lt_of_le (watched.after thread former) grows
      · have now_due := (due (congrArg Sigma.fst receives)).mp here
        rcases taking with ⟨_, nothing⟩ | ⟨_, _, more⟩
        · exact absurd receives (nothing message)
        · omega
    · intro new begun past
      have watches : new.watch ≠ .none := by rcases past with past | past <;> rw [past] <;> nofun
      obtain ⟨_, same, _⟩ := turns.watch_child begun watches
      exact Nat.lt_of_lt_of_le (watched.after thread (same ▸ past)) grows
  · refine Bearings.forall_turn (fun _ bearing => bearing.late = true → letter.index < next.taken ∧
      ∀ other, (bearings.turn count thread after child other).watch ≠ .owing) ?_ ?_ ?_
    · intro other _ late
      obtain ⟨past, nobody⟩ := watched.late other late
      exact ⟨Nat.lt_of_lt_of_le past grows, acts.not_owing past nobody⟩
    · intro late
      obtain ⟨past, nobody⟩ := watched.late thread (turns.late ▸ late)
      exact ⟨Nat.lt_of_lt_of_le past grows, acts.not_owing past nobody⟩
    · intro new begun late
      obtain ⟨mine, _⟩ := turns.late_child begun late
      have past := watched.after thread (.inr mine)
      refine ⟨Nat.lt_of_lt_of_le past grows, acts.not_owing past fun other owing => ?_⟩
      have same := watched.single other thread (by rw [owing]; nofun) (by rw [mine]; nofun)
      rw [same, mine] at owing
      cases owing
  · intro other later given early
    rcases acts.tasks given with before | ⟨last, work, forks, task⟩
    · have late := watched.tasks other later before early
      obtain ⟨rfl, turned⟩ | ⟨_, turned⟩ | ⟨_, rfl, _⟩ :=
        bearings.turn_cases count thread after child other
      · rw [turned, turns.late]
        exact late
      · rw [turned]
        exact late
      · rw [unborn] at late
        cases late
    · obtain ⟨late, same⟩ : later = now.taken - 1 ∧ work.task? later = some later := by
        cases work <;> cases task
        exact ⟨rfl, rfl⟩
      obtain ⟨clear, begun⟩ := turns.dispatches forks same
      have past : (bearings thread).watch = .past := by
        rcases clear with before | past
        · have low := watched.before thread before
          omega
        · exact past
      have apart : count ≠ thread := by
        have born := acts.born
        omega
      simp [Bearings.turn, apart, begun, last, counted, past]

end Acts

end Letter

end LanguageBridge
