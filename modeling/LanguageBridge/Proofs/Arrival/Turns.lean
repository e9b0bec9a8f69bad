import LanguageBridge.Proofs.Arrival.Accounts

/-!
Whose turn it is. One thread takes the editor's messages; the text of the last one is with it until
it is written, queued or given to the thread of an action, and no message is given away twice.
-/
namespace LanguageBridge

namespace Shift

variable {roots : Roots} {news : News} {stance after child : Stance} {operation : Operation}
  {answer : operation.Answer} {waiting : Waiting} {started : Option Stance}

/-- Who takes the editor's messages owes what it owed, what comes with the message that it takes, or
nothing. -/
theorem debts_of_token (shift : Shift roots news stance operation answer after waiting started)
    (token : after.editor = true) (few : stance.debts.length ≤ 1) :
    (after.debts = stance.debts ∧ operation ≠ .receive .editor) ∨ after.debts = [] ∨
      (operation = .receive .editor ∧ after.debts = news.parcel.toList) := by
  cases shift with
  | harmless harmless => exact .inl ⟨rfl, by rintro rfl; exact harmless⟩
  | settle _ owed =>
    rw [owed] at few
    exact .inr (.inl (List.eq_nil_of_length_eq_zero (by simpa using few)))
  | take _ worker =>
    rw [worker] at token
    cases token
  | enqueue => exact .inr (.inl rfl)
  | receive => exact .inr (.inr ⟨rfl, rfl⟩)
  | fork splits =>
    cases splits with
    | serveEditor => cases token
    | runAction => exact .inr (.inl rfl)
    | startQueued | serveSession => exact .inl ⟨rfl, by simp⟩
  | preview => exact .inr (.inl rfl)
  | _ => exact .inl ⟨rfl, by simp⟩

/-- A thread is started by one operation only. -/
theorem started_none (shift : Shift roots news stance operation answer after waiting started)
    (other : ∀ work, operation ≠ .fork work) : started = none := by
  cases shift with
  | fork => exact absurd rfl (other _)
  | _ => rfl

end Shift

namespace Ledger

variable {host : Host} {roots : Roots} {ledger next : Ledger} {parcel : Parcel}

/-- A text has to be written: a thread owes it or it waits in the queue. -/
def Pending (ledger : Ledger) (parcel : Parcel) : Prop :=
  (∃ thread, parcel ∈ (ledger.stances thread).debts) ∨ ∃ key, parcel ∈ ledger.queued key

/-- A text has to be written, and not by this thread alone. -/
def PendingBeside (ledger : Ledger) (thread : Nat) (parcel : Parcel) : Prop :=
  (∃ other, other ≠ thread ∧ parcel ∈ (ledger.stances other).debts) ∨
    ∃ key, parcel ∈ ledger.queued key

theorem PendingBeside.pending {thread : Nat} (beside : ledger.PendingBeside thread parcel) :
    ledger.Pending parcel :=
  beside.imp_left fun ⟨other, _, owed⟩ => ⟨other, owed⟩

theorem Counted.pending (counted : ledger.Counted) (pending : ledger.Pending parcel) :
    parcel.index < ledger.taken ∧ ledger.chronicle.parcelAt parcel.index = some parcel := by
  rcases pending with ⟨thread, owed⟩ | ⟨key, queued⟩
  · exact counted.debts thread parcel owed
  · exact counted.queued key parcel queued

theorem taken_of_happening (happening : Happening) :
    (⟨ledger.world.after happening, ledger.chronicle.occur happening, ledger.stances,
      ledger.queued⟩ : Ledger).taken = ledger.taken := by
  change (ledger.chronicle.occur happening).arrived.length -
    ((ledger.world.after happening).waiting .editor).length = _
  rw [World.waiting_after]
  cases happening with
  | deliver peer message =>
    cases peer <;> simp [Chronicle.occur, Ledger.taken, Chronicle.taken]
  | _ => simp [Chronicle.occur, Ledger.taken, Chronicle.taken]

theorem tasks_of_happening (happening : Happening) :
    (ledger.chronicle.occur happening).tasks = ledger.chronicle.tasks := by
  cases happening with
  | deliver peer => cases peer <;> rfl
  | _ => rfl

/-- One thread takes the editor's messages, and it owes no more than a text; threads that are not
there yet are at rest. -/
structure Manned (ledger : Ledger) : Prop where
  unborn : ∀ thread, ledger.threads ≤ thread → ledger.stances thread = {}
  single : ∀ first second, (ledger.stances first).editor = true →
    (ledger.stances second).editor = true → first = second
  few : ∀ thread, (ledger.stances thread).editor = true →
    (ledger.stances thread).debts.length ≤ 1

theorem threads_acted {thread : Nat} {operation : Operation} {world : World} {after : Stance}
    {waiting : Waiting} {started : Option Stance} :
    (ledger.acted thread operation world after waiting started).threads =
      ledger.threads + (match operation with | .fork _ => 1 | _ => 0) := by
  cases operation with
  | fork work => exact List.length_append
  | _ => rfl

section Acting

variable {thread : Nat} {operation : Operation} {answer : operation.Answer} {world : World}
  {after : Stance} {waiting : Waiting} {started : Option Stance}
  (shift : Shift roots ledger.news (ledger.stances thread) operation answer after waiting started)

include shift

theorem Manned.unborn_acted (manned : ledger.Manned) (here : thread < ledger.threads) {other : Nat}
    (beyond : (ledger.acted thread operation world after waiting started).threads ≤ other) :
    ledger.seat thread after started other = {} := by
  rw [threads_acted] at beyond
  have far : ledger.threads ≤ other := Nat.le_of_add_right_le beyond
  obtain ⟨rfl, _⟩ | ⟨_, same⟩ | ⟨_, last, child, begun, _⟩ :=
    @seat_cases ledger thread after started other
  · exact absurd here (Nat.not_lt.mpr far)
  · rw [same]
    exact manned.unborn other far
  · exfalso
    by_cases fork : ∃ work, operation = .fork work
    · obtain ⟨work, rfl⟩ := fork
      dsimp only at beyond
      omega
    · rw [shift.started_none (not_exists.mp fork)] at begun
      cases begun

/-- The thread that takes the editor's messages did so before, or the one that did leaves them to
it. -/
theorem token_acted {holder : Nat}
    (held : (ledger.seat thread after started holder).editor = true) :
    (holder = thread ∧ after.editor = true ∧ (ledger.stances thread).editor = true) ∨
    (holder ≠ thread ∧ (ledger.stances holder).editor = true) ∨
    (holder = ledger.threads ∧ after.editor = false ∧ (ledger.stances thread).editor = true) := by
  obtain ⟨own, same⟩ | ⟨apart, same⟩ | ⟨_, last, child, rfl, same⟩ :=
    @seat_cases ledger thread after started holder <;> rw [same] at held
  · exact .inl ⟨own, held, shift.token held⟩
  · exact .inr (.inl ⟨apart, held⟩)
  · obtain ⟨token, left, _⟩ := shift.child_token held
    exact .inr (.inr ⟨last, left, token⟩)

theorem Manned.single_acted (manned : ledger.Manned) {first second : Nat}
    (one : (ledger.seat thread after started first).editor = true)
    (two : (ledger.seat thread after started second).editor = true) : first = second := by
  obtain ⟨own, kept, held⟩ | ⟨apart, held⟩ | ⟨last, left, held⟩ := token_acted shift one <;>
    obtain ⟨its, keeps, holds⟩ | ⟨other, holds⟩ | ⟨newest, leaves, holds⟩ := token_acted shift two
  · exact own.trans its.symm
  · exact absurd (manned.single second thread holds held) other
  · rw [kept] at leaves
    cases leaves
  · exact absurd (manned.single first thread held holds) apart
  · exact manned.single first second held holds
  · exact absurd (manned.single first thread held holds) apart
  · rw [keeps] at left
    cases left
  · exact absurd (manned.single second thread holds held) other
  · exact last.trans newest.symm

theorem Manned.few_acted (manned : ledger.Manned) (held : after.editor = true) :
    after.debts.length ≤ 1 := by
  have few := manned.few thread (shift.token held)
  rcases shift.debts_of_token held few with ⟨same, _⟩ | none | ⟨_, new⟩
  · rw [same]
    exact few
  · simp [none]
  · rw [new]
    cases ledger.news.parcel <;> simp

end Acting

theorem Manned.advance (manned : ledger.Manned) (advances : ledger.Advances host roots next) :
    next.Manned := by
  cases advances with
  | @act thread operation answer world after waiting started here performed _ shift =>
    refine ⟨fun _ beyond => manned.unborn_acted shift here beyond,
      fun _ _ one two => manned.single_acted shift one two, ?_⟩
    refine forall_seat (fun _ stance => stance.editor = true → stance.debts.length ≤ 1) ?_ ?_ ?_
    · exact fun other _ => manned.few other
    · exact manned.few_acted shift
    · rintro child rfl held
      simp [(shift.child_token held).2.2]
  | finish => exact ⟨manned.unborn, manned.single, manned.few⟩
  | @happen happening =>
    refine ⟨fun thread beyond => ?_, manned.single, manned.few⟩
    change (ledger.chronicle.occur happening).tasks.length ≤ thread at beyond
    rw [tasks_of_happening] at beyond
    exact manned.unborn thread beyond

/-- Only who takes the editor's messages takes one. -/
theorem Manned.taken_of_other (manned : ledger.Manned) {thread holder : Nat} {operation : Operation}
    {answer : operation.Answer} {world : World} {after : Stance} {waiting : Waiting}
    {started : Option Stance}
    (performed : ledger.world.perform host thread operation = some (world, answer))
    (shift : Shift roots ledger.news (ledger.stances thread) operation answer after waiting started)
    (held : (ledger.stances holder).editor = true) (apart : holder ≠ thread) :
    (ledger.acted thread operation world after waiting started).taken = ledger.taken := by
  refine taken_of_ne performed ?_
  rintro rfl
  cases shift with
  | harmless harmless => exact harmless.elim
  | receive token => exact apart (manned.single holder thread held token)

/-- The text that comes with the last message is newer than all that has to be written beside it. -/
def Newest (ledger : Ledger) : Prop :=
  ∀ thread, (ledger.stances thread).editor = true → ∀ parcel ∈ (ledger.stances thread).debts,
    parcel.index + 1 = ledger.taken ∧
      ∀ other, ledger.PendingBeside thread other → other.index < parcel.index

section Acting

variable {thread : Nat} {operation : Operation} {answer : operation.Answer} {world : World}
  {after : Stance} {waiting : Waiting} {started : Option Stance}
  (shift : Shift roots ledger.news (ledger.stances thread) operation answer after waiting started)

include shift

/-- What has to be written beside the text of the thread that takes the editor's messages had to be
before, while another thread takes a step. -/
theorem Manned.beside_acted (manned : ledger.Manned) {holder : Nat} (apart : holder ≠ thread)
    (held : (ledger.stances holder).editor = true)
    (beside : PendingBeside (ledger.acted thread operation world after waiting started) holder
      parcel) : ledger.PendingBeside holder parcel := by
  rcases beside with ⟨debtor, different, owed⟩ | ⟨key, queued⟩
  · change parcel ∈ (ledger.seat thread after started debtor).debts at owed
    obtain ⟨rfl, same⟩ | ⟨_, same⟩ | ⟨_, _, child, rfl, same⟩ :=
      @seat_cases ledger thread after started debtor <;> rw [same] at owed
    · rcases shift.origin owed with ⟨before, _⟩ | ⟨_, key, queued⟩ | ⟨_, rfl⟩
      · exact .inl ⟨debtor, different, before⟩
      · exact .inr ⟨key, queued⟩
      · exact absurd (manned.single holder debtor held shift.receives.1) apart
    · exact .inl ⟨debtor, different, owed⟩
    · exact .inl ⟨thread, Ne.symm apart, (shift.handed owed).1⟩
  · rcases shift.queued queued with before | ⟨debts, _⟩
    · exact .inr ⟨key, before⟩
    · exact .inl ⟨thread, Ne.symm apart, by simp [debts]⟩

/-- While a thread is left with texts by its step, none of them went elsewhere. -/
theorem beside_self (some : after.debts ≠ [])
    (beside : PendingBeside (ledger.acted thread operation world after waiting started) thread
      parcel) : ledger.PendingBeside thread parcel := by
  rcases beside with ⟨debtor, different, owed⟩ | ⟨key, queued⟩
  · change parcel ∈ (ledger.seat thread after started debtor).debts at owed
    obtain ⟨own, _⟩ | ⟨_, same⟩ | ⟨_, _, child, rfl, same⟩ :=
      @seat_cases ledger thread after started debtor
    · exact absurd own different
    · rw [same] at owed
      exact .inl ⟨debtor, different, owed⟩
    · rw [same] at owed
      exact absurd (shift.handed owed).2.2.2.1 some
  · rcases shift.queued queued with before | ⟨_, _, none⟩
    · exact .inr ⟨key, before⟩
    · exact absurd none some

theorem Newest.self_acted (newest : ledger.Newest) (manned : ledger.Manned)
    (counted : ledger.Counted) (dealt : ledger.Dealt)
    (performed : ledger.world.perform host thread operation = some (world, answer))
    (held : after.editor = true) (owed : parcel ∈ after.debts) :
    parcel.index + 1 = (ledger.acted thread operation world after waiting started).taken ∧
      ∀ other, PendingBeside (ledger.acted thread operation world after waiting started) thread
        other → other.index < parcel.index := by
  have token := shift.token held
  have some : after.debts ≠ [] := List.ne_nil_of_mem owed
  rcases shift.debts_of_token held (manned.few thread token) with
    ⟨same, other⟩ | none | ⟨rfl, new⟩
  · rw [same] at owed
    rw [taken_of_ne performed other]
    obtain ⟨last, newer⟩ := newest thread token parcel owed
    exact ⟨last, fun other there => newer other (beside_self shift some there)⟩
  · exact absurd none some
  · rw [new, Option.mem_toList] at owed
    obtain ⟨_, _, _, same, _⟩ := Chronicle.parcelAt_eq_some.mp owed
    obtain ⟨_, _, _, message, rfl, _⟩ := shift.receives
    rw [dealt.taken_of_receive performed, same]
    exact ⟨rfl, fun other there => (counted.pending (beside_self shift some there).pending).1⟩

end Acting

theorem Newest.advance (newest : ledger.Newest) (manned : ledger.Manned) (counted : ledger.Counted)
    (dealt : ledger.Dealt) (advances : ledger.Advances host roots next) : next.Newest := by
  cases advances with
  | @act thread operation answer world after waiting started here performed _ shift =>
    refine forall_seat (fun holder stance => stance.editor = true → ∀ parcel ∈ stance.debts,
      parcel.index + 1 = Ledger.taken _ ∧
        ∀ other, PendingBeside _ holder other → other.index < parcel.index) ?_ ?_ ?_
    · intro holder apart held parcel owed
      rw [manned.taken_of_other performed shift held apart]
      obtain ⟨last, newer⟩ := newest holder held parcel owed
      exact ⟨last, fun other there => newer other (manned.beside_acted shift apart held there)⟩
    · exact fun held parcel owed =>
        newest.self_acted shift manned counted dealt performed held owed
    · rintro child rfl held parcel owed
      rw [(shift.child_token held).2.2] at owed
      cases owed
  | finish => exact newest
  | @happen happening =>
    intro thread held parcel owed
    obtain ⟨last, newer⟩ := newest thread held parcel owed
    exact ⟨last.trans (taken_of_happening happening).symm, newer⟩

end Ledger

end LanguageBridge
