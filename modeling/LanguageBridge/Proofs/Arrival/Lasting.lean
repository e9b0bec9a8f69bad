import LanguageBridge.Proofs.Arrival.Tasks

/-!
Which texts are ahead of others. A thread that holds the queue, when nothing waits there for the
session of its text, is ahead with it of all events of the session that came before, and stays so.
-/
namespace LanguageBridge

namespace Shift

variable {roots : Roots} {news : News} {stance after child : Stance} {operation : Operation}
  {answer : operation.Answer} {waiting : Waiting} {started : Option Stance} {parcel : Parcel}

theorem cleared (shift : Shift roots news stance operation answer after waiting started)
    (cleared : after.cleared = true) :
    stance.cleared = true ∨ ∃ queue, stance.editor = false ∧ after.debts = stance.debts ∧
      stance.queue = .seen queue ∧ ∀ parcel ∈ stance.debts, parcel.event = false ∧
        ∃ key, parcel.key roots = .ok key ∧ queue.get? key = none := by
  cases shift with
  | clear worker seen empty => exact .inr ⟨_, worker, rfl, seen, empty⟩
  | fork splits => exact .inl (splits.kept.2.2.2.2.1 ▸ cleared)
  | _ => exact .inl cleared

end Shift

namespace Ledger

variable {host : Host} {roots : Roots} {ledger next : Ledger} {parcel : Parcel}

/-- What has to be written had to be before, or comes with a message that was not taken before. -/
theorem Pending.former (pending : next.Pending parcel)
    (advances : ledger.Advances host roots next) :
    ledger.Pending parcel ∨ ledger.taken ≤ parcel.index := by
  cases advances with
  | @act thread operation answer world after waiting started here performed _ shift =>
    rcases pending with ⟨debtor, owed⟩ | ⟨key, queued⟩
    · change parcel ∈ (ledger.seat thread after started debtor).debts at owed
      obtain ⟨rfl, same⟩ | ⟨_, same⟩ | ⟨_, _, child, rfl, same⟩ :=
        @seat_cases ledger thread after started debtor <;> rw [same] at owed
      · rcases shift.origin owed with ⟨before, _⟩ | ⟨_, key, queued⟩ | ⟨new, _⟩
        · exact .inl (.inl ⟨debtor, before⟩)
        · exact .inl (.inr ⟨key, queued⟩)
        · obtain ⟨_, _, _, same, _⟩ := Chronicle.parcelAt_eq_some.mp new
          exact .inr (Nat.le_of_eq same.symm)
      · exact .inl (.inl ⟨debtor, owed⟩)
      · exact .inl (.inl ⟨thread, (shift.handed owed).1⟩)
    · rcases shift.queued queued with before | ⟨debts, _⟩
      · exact .inl (.inr ⟨key, before⟩)
      · exact .inl (.inl ⟨thread, by simp [debts]⟩)
  | finish => exact .inl pending
  | happen => exact .inl pending

/-- No text of an event that came before waits for the session of a text. -/
def Ahead (roots : Roots) (ledger : Ledger) (parcel : Parcel) : Prop :=
  ∃ key, parcel.key roots = .ok key ∧ ∀ other, ledger.Pending other → other.event = true →
    other.key roots = .ok key → parcel.index ≤ other.index

theorem Ahead.advance (ahead : ledger.Ahead roots parcel) (taken : parcel.index < ledger.taken)
    (advances : ledger.Advances host roots next) : next.Ahead roots parcel := by
  obtain ⟨key, own, first⟩ := ahead
  refine ⟨key, own, fun other pending event same => ?_⟩
  rcases pending.former advances with before | new
  · exact first other before event same
  · exact Nat.le_of_lt (Nat.lt_of_lt_of_le taken new)

/-- What holds of every ledger that may come about. -/
structure Kept (roots : Roots) (ledger : Ledger) : Prop where
  calm : ledger.Calm roots
  locked : ledger.Locked
  viewed : ledger.Viewed
  dealt : ledger.Dealt
  counted : ledger.Counted
  manned : ledger.Manned
  newest : ledger.Newest
  stored : ledger.Stored roots
  fresh : ledger.Fresh
  given : ledger.Given
  tasked : ledger.Tasked

theorem Kept.advance (kept : ledger.Kept roots) (advances : ledger.Advances host roots next) :
    next.Kept roots where
  calm := kept.calm.advance advances
  locked := kept.locked.advance advances
  viewed := kept.viewed.advance kept.locked advances
  dealt := kept.dealt.advance advances
  counted := kept.counted.advance kept.dealt advances
  manned := kept.manned.advance advances
  newest := kept.newest.advance kept.manned kept.counted kept.dealt advances
  stored := kept.stored.advance kept.viewed kept.newest advances
  fresh := kept.fresh.advance kept.manned kept.dealt advances
  given := kept.given.advance kept.fresh kept.manned kept.dealt advances
  tasked := kept.tasked.advance kept.fresh kept.newest kept.stored kept.dealt advances

/-- While a thread holds the queue and nothing waits there for the session of its text, no other
thread has a text for the session that came before. -/
theorem Kept.ahead (kept : ledger.Kept roots) {thread : Nat}
    {queue : Table SessionKey (List BufferContent)} {key : SessionKey}
    (seen : (ledger.stances thread).queue = .seen queue) (own : parcel.key roots = .ok key)
    (empty : queue.get? key = none) (taken : parcel.index < ledger.taken)
    (mine : ∀ other ∈ (ledger.stances thread).debts, other.event = true →
      parcel.index ≤ other.index) : ledger.Ahead roots parcel := by
  refine ⟨key, own, fun other pending event same => ?_⟩
  rcases pending with ⟨debtor, owed⟩ | ⟨name, queued⟩
  · by_cases here : debtor = thread
    · exact mine other (here ▸ owed) event
    · cases token : (ledger.stances debtor).editor with
      | true =>
        have last := (kept.newest debtor token other owed).1
        omega
      | false =>
        have holds : (ledger.stances debtor).Holds .exclusive .queue :=
          ⟨kept.stored.tended debtor token other owed event, rfl⟩
        have mine : (ledger.stances thread).Holds .exclusive .queue := ⟨by simp [seen], rfl⟩
        exact absurd (kept.locked.alone holds mine) here
  · have lined := kept.stored.lined name
    have there := (lined.2.1 other queued).2
    rw [same] at there
    cases there
    rw [kept.viewed.queue thread queue seen, empty] at lined
    have some : ledger.queued key ≠ [] := List.ne_nil_of_mem queued
    simp [some] at lined

/-- Threads that sent what was queued are ahead with their own texts, threads that left their
message to a preview owe no text of it, and the last change of a file made its lines. -/
structure Lasting (roots : Roots) (ledger : Ledger) : Prop where
  cleared : ∀ thread, (ledger.stances thread).cleared = true →
    ∀ parcel ∈ (ledger.stances thread).debts, parcel.event = false → ledger.Ahead roots parcel
  plain : ∀ thread, (ledger.stances thread).cleared = true →
    (ledger.stances thread).editor = false
  entered : ∀ thread ∈ ledger.chronicle.entered, thread < ledger.threads ∧
    (ledger.stances thread).editor = false ∧
    ∀ parcel ∈ (ledger.stances thread).debts, parcel.event = true
  latest : ∀ file, ledger.world.workspace.linesOf? file =
    (ledger.chronicle.latest file).map (·.lines)

section Acting

variable {thread : Nat} {operation : Operation} {answer : operation.Answer} {world : World}
  {after : Stance} {waiting : Waiting} {started : Option Stance}
  (performed : ledger.world.perform host thread operation = some (world, answer))
  (shift : Shift roots ledger.news (ledger.stances thread) operation answer after waiting started)

include shift

/-- Who has sent what was queued is ahead with its own text, also when it has just done so. -/
theorem Lasting.cleared_acted (lasting : ledger.Lasting roots) (kept : ledger.Kept roots)
    (cleared : after.cleared = true) {parcel : Parcel} (owed : parcel ∈ after.debts)
    (plain : parcel.event = false) : ledger.Ahead roots parcel ∧ parcel.index < ledger.taken := by
  rcases shift.cleared cleared with before | ⟨queue, worker, same, seen, empty⟩
  · rcases shift.origin owed with ⟨old, _⟩ | ⟨_, key, queued⟩ | ⟨_, rfl⟩
    · exact ⟨lasting.cleared thread before parcel old plain,
        (kept.counted.debts thread parcel old).1⟩
    · rw [((kept.stored.lined key).2.1 parcel queued).1] at plain
      cases plain
    · have token := shift.receives.1
      rw [lasting.plain thread before] at token
      cases token
  · rw [same] at owed
    obtain ⟨_, key, own, none⟩ := empty parcel owed
    have taken := (kept.counted.debts thread parcel owed).1
    refine ⟨kept.ahead seen own none taken fun other mine event => ?_, taken⟩
    rw [(empty other mine).1] at event
    cases event

theorem Lasting.plain_acted (lasting : ledger.Lasting roots) (cleared : after.cleared = true) :
    after.editor = false := by
  rw [Bool.eq_false_iff]
  intro held
  have token := shift.token held
  rcases shift.cleared cleared with before | ⟨_, worker, _⟩
  · rw [lasting.plain thread before] at token
    cases token
  · rw [worker] at token
    cases token

include performed

/-- A thread leaves its message to a preview only while it has not sent what was queued. -/
theorem entered_acted {other : Nat} (entered : other ∈
      (ledger.acted thread operation world after waiting started).chronicle.entered) :
    other ∈ ledger.chronicle.entered ∨ other = thread ∧
      (ledger.stances thread).cleared = false ∧ after.editor = false ∧ after.debts = [] := by
  cases operation with
  | hoverAgain buffer =>
    change other ∈ (if _ then thread :: ledger.chronicle.entered else ledger.chronicle.entered)
      at entered
    cases performed
    split at entered
    · rename_i shown
      rcases List.mem_cons.mp entered with own | before
      · right
        generalize ledger.world.float.hoverAgain buffer = answer at shown shift
        cases shift with
        | harmless harmless => exact harmless.elim
        | hover => cases shown
        | preview _ own early => exact ⟨‹_›, early, own, rfl⟩
      · exact .inl before
    · exact .inl entered
  | _ => exact .inl entered

/-- Who has left its message to a preview owes no text of a message, but may send what was
queued. -/
theorem Lasting.entered_acted (lasting : ledger.Lasting roots) (kept : ledger.Kept roots)
    (entered : thread ∈
      (ledger.acted thread operation world after waiting started).chronicle.entered) :
    after.editor = false ∧ ∀ parcel ∈ after.debts, parcel.event = true := by
  rcases Ledger.entered_acted performed shift entered with there | ⟨_, _, own, none⟩
  · obtain ⟨_, worker, plain⟩ := lasting.entered thread there
    constructor
    · rw [Bool.eq_false_iff]
      intro held
      rw [shift.token held] at worker
      cases worker
    · intro parcel owed
      rcases shift.origin owed with ⟨old, _⟩ | ⟨_, key, queued⟩ | ⟨_, rfl⟩
      · exact plain parcel old
      · exact ((kept.stored.lined key).2.1 parcel queued).1
      · rw [shift.receives.1] at worker
        cases worker
  · exact ⟨own, by simp [none]⟩

theorem Lasting.acted (lasting : ledger.Lasting roots) (kept : ledger.Kept roots)
    (here : thread < ledger.threads)
    (ahead : ∀ {parcel : Parcel}, ledger.Ahead roots parcel → parcel.index < ledger.taken →
      (ledger.acted thread operation world after waiting started).Ahead roots parcel) :
    (ledger.acted thread operation world after waiting started).Lasting roots := by
  constructor
  · refine forall_seat (fun _ stance => stance.cleared = true → ∀ parcel ∈ stance.debts,
      parcel.event = false → Ahead roots _ parcel) ?_ ?_ ?_
    · intro other _ cleared parcel owed plain
      have taken := (kept.counted.debts other parcel owed).1
      exact ahead (lasting.cleared other cleared parcel owed plain) taken
    · intro cleared parcel owed plain
      obtain ⟨first, taken⟩ := lasting.cleared_acted shift kept cleared owed plain
      exact ahead first taken
    · rintro child rfl cleared
      rw [shift.blank.cleared] at cleared
      cases cleared
  · refine forall_seat (fun _ stance => stance.cleared = true → stance.editor = false) ?_ ?_ ?_
    · exact fun other _ => lasting.plain other
    · exact lasting.plain_acted shift
    · rintro child rfl cleared
      rw [shift.blank.cleared] at cleared
      cases cleared
  · intro other entered
    have born : other < ledger.threads := by
      rcases Ledger.entered_acted performed shift entered with there | ⟨rfl, _⟩
      · exact (lasting.entered other there).1
      · exact here
    constructor
    · rw [threads_acted]
      exact Nat.lt_of_lt_of_le born (Nat.le_add_right _ _)
    · change (ledger.seat thread after started other).editor = false ∧
        ∀ parcel ∈ (ledger.seat thread after started other).debts, parcel.event = true
      obtain ⟨rfl, same⟩ | ⟨apart, same⟩ | ⟨_, last, _⟩ :=
        @seat_cases ledger thread after started other
      · rw [same]
        exact lasting.entered_acted performed shift kept entered
      · rw [same]
        rcases Ledger.entered_acted performed shift entered with there | ⟨own, _⟩
        · exact (lasting.entered other there).2
        · exact absurd own apart
      · exact absurd last (Nat.ne_of_lt born)
  · intro file
    change world.workspace.linesOf? file = Option.map _ (if world.workspace.linesOf? file =
      ledger.world.workspace.linesOf? file then _ else _)
    split
    · rename_i same
      rw [same]
      exact lasting.latest file
    · cases world.workspace.linesOf? file <;> rfl

end Acting

theorem Lasting.advance (lasting : ledger.Lasting roots) (kept : ledger.Kept roots)
    (advances : ledger.Advances host roots next) : next.Lasting roots := by
  have ahead {parcel : Parcel} (ahead : ledger.Ahead roots parcel)
      (owed : parcel.index < ledger.taken) : next.Ahead roots parcel := ahead.advance owed advances
  cases advances with
  | act here performed _ shift => exact lasting.acted performed shift kept here ahead
  | finish => exact ⟨lasting.cleared, lasting.plain, lasting.entered, lasting.latest⟩
  | @happen happening =>
    have entered : (ledger.chronicle.occur happening).entered = ledger.chronicle.entered ∧
        (ledger.chronicle.occur happening).latest = ledger.chronicle.latest := by
      cases happening with
      | deliver peer => cases peer <;> exact ⟨rfl, rfl⟩
      | _ => exact ⟨rfl, rfl⟩
    refine ⟨fun thread cleared parcel owed plain => ?_, lasting.plain, fun thread there => ?_,
      fun file => ?_⟩
    · exact ahead (lasting.cleared thread cleared parcel owed plain)
        (kept.counted.debts thread parcel owed).1
    · have before := lasting.entered thread (entered.1 ▸ there)
      refine ⟨?_, before.2⟩
      change thread < (ledger.chronicle.occur happening).tasks.length
      rw [tasks_of_happening]
      exact before.1
    · change (ledger.world.after happening).workspace.linesOf? file =
        ((ledger.chronicle.occur happening).latest file).map _
      rw [entered.2, (World.after_happening ledger.world happening).2.1]
      exact lasting.latest file

end Ledger

end LanguageBridge
