import LanguageBridge.Proofs.Arrival.Knowledge

/-!
Where the texts of messages are until they are written: with the thread that took the message, with
the thread of an action, in the queue, or with whoever sends what was queued.
-/
namespace LanguageBridge

namespace Chronicle

variable {chronicle : Chronicle} {index : Nat} {parcel : Parcel}

theorem parcelAt_eq_some : chronicle.parcelAt index = some parcel ↔
    ∃ message, chronicle.arrived[index]? = some message ∧
      message.content? = some parcel.content ∧ parcel.index = index ∧
      parcel.event = Editor.isEvent message.method := by
  simp only [parcelAt, Option.bind_eq_bind, Option.bind_eq_some_iff, Option.pure_def,
    Option.some.injEq]
  constructor
  · rintro ⟨message, arrived, content, carried, rfl⟩
    exact ⟨message, arrived, carried, rfl, rfl⟩
  · rintro ⟨message, arrived, carried, rfl, event⟩
    exact ⟨message, arrived, parcel.content, carried, by rw [← event]⟩

end Chronicle

namespace Shift

variable {roots : Roots} {news : News} {stance after child : Stance} {operation : Operation}
  {answer : operation.Answer} {waiting : Waiting} {started : Option Stance} {parcel : Parcel}

/-- A thread owes what it owed before, what it takes from the queue, or what comes with the message
that it takes. -/
theorem origin (shift : Shift roots news stance operation answer after waiting started)
    (owed : parcel ∈ after.debts) :
    (parcel ∈ stance.debts ∧ operation ≠ .receive .editor) ∨
    (stance.editor = false ∧ ∃ key, parcel ∈ news.queued key) ∨
    (news.parcel = some parcel ∧ operation = .receive .editor) := by
  cases shift with
  | harmless harmless => exact .inl ⟨owed, by rintro rfl; exact harmless⟩
  | settle _ debts => exact .inl ⟨debts ▸ List.mem_cons_of_mem _ owed, by simp⟩
  | take _ worker =>
    rcases List.mem_append.mp owed with queued | before
    · exact .inr (.inl ⟨worker, _, queued⟩)
    · exact .inl ⟨before, by simp⟩
  | receive => exact .inr (.inr ⟨by simpa using owed, rfl⟩)
  | fork splits =>
    refine .inl ⟨?_, by simp⟩
    cases splits <;> simp_all
  | _ => simp_all

/-- What waits waited before, or the thread owed it. -/
theorem queued (shift : Shift roots news stance operation answer after waiting started)
    {key : SessionKey} (queued : parcel ∈ waiting key) :
    parcel ∈ news.queued key ∨
      (stance.debts = [parcel] ∧ stance.editor = true ∧ after.debts = []) := by
  cases shift with
  | @enqueue queue name owed seen debts token =>
    by_cases same : key = name
    · subst same
      rw [Function.update_self, List.mem_append, List.mem_singleton] at queued
      rcases queued with before | rfl
      · exact .inl before
      · exact .inr ⟨debts, token, rfl⟩
    · rw [Function.update_of_ne same] at queued
      exact .inl queued
  | @take queue name =>
    by_cases same : key = name
    · subst same
      simp at queued
    · rw [Function.update_of_ne same] at queued
      exact .inl queued
  | _ => exact .inl queued

/-- A thread that is started gets what another owed. -/
theorem handed (shift : Shift roots news stance operation answer after waiting (some child))
    (owed : parcel ∈ child.debts) : parcel ∈ stance.debts ∧ parcel.event = false ∧
      child.editor = false ∧ after.debts = [] ∧
      ∃ work, operation = .fork work ∧ ∀ message, work.task? message = some message := by
  cases shift with
  | fork splits =>
    cases splits with
    | runAction fresh action debts plain =>
      exact ⟨owed, plain parcel owed, rfl, rfl, _, rfl, fun _ => rfl⟩
    | _ => cases owed

/-- Only one thread at a time takes the editor's messages. -/
theorem token (shift : Shift roots news stance operation answer after waiting started)
    (token : after.editor = true) : stance.editor = true := by
  cases shift with
  | fork splits => cases splits <;> simp_all
  | _ => exact token

theorem child_token (shift : Shift roots news stance operation answer after waiting (some child))
    (token : child.editor = true) :
    stance.editor = true ∧ after.editor = false ∧ child.debts = [] := by
  cases shift with
  | fork splits =>
    cases splits with
    | serveEditor held clear => exact ⟨held, rfl, rfl⟩
    | _ => cases token

/-- Whoever leaves the editor's messages to another has no debts. -/
theorem leaves_token (shift : Shift roots news stance operation answer after waiting started)
    (held : stance.editor = true) (left : after.editor = false) : after.debts = [] := by
  cases shift with
  | fork splits => cases splits <;> simp_all
  | _ => simp_all

theorem receives {answer : Option Message}
    (shift : Shift roots news stance (.receive .editor) answer after waiting started) :
    stance.editor = true ∧ after.editor = true ∧ started = none ∧
      ∃ message, answer = some message ∧
        after.fresh = if Editor.isEvent message.method then none else some message.method := by
  cases shift with
  | harmless harmless => exact harmless.elim
  | @receive message token => exact ⟨token, token, rfl, message, rfl, rfl⟩

/-- The last message of the editor may be given to a thread once, if it tells of no event. -/
theorem fresh (shift : Shift roots news stance operation answer after waiting started)
    {method : String} (fresh : after.fresh = some method) :
    (stance.fresh = some method ∧ operation ≠ .receive .editor ∧
      ∀ work, operation = .fork work → ∀ message, work.task? message = none) ∨
    ∃ message, (⟨operation, answer⟩ : Σ operation : Operation, operation.Answer) =
        ⟨.receive .editor, some message⟩ ∧
      message.method = method ∧ Editor.isEvent method = false := by
  cases shift with
  | harmless harmless =>
    refine .inl ⟨fresh, ?_, ?_⟩
    · rintro rfl
      exact harmless
    · rintro work rfl
      exact harmless.elim
  | @receive message =>
    right
    split at fresh
    · cases fresh
    · rename_i action
      cases fresh
      exact ⟨message, rfl, rfl, Bool.eq_false_iff.mpr action⟩
  | fork splits =>
    left
    cases splits with
    | startQueued | serveSession => exact ⟨fresh, by simp, by rintro _ ⟨⟩ message; rfl⟩
    | _ => cases fresh
  | _ => exact .inl ⟨fresh, by simp, by simp⟩

/-- A thread does the action of the message that it was started for. -/
theorem gives {work : Work} {thread : Nat}
    (shift : Shift roots news stance (.fork work) thread after waiting started)
    {last message : Nat} (task : work.task? last = some message) :
    message = last ∧ ∃ method child, stance.fresh = some method ∧ started = some child ∧
      child.edits = decide (method = "textDocument/rename") := by
  cases shift with
  | harmless harmless => exact harmless.elim
  | fork splits =>
    cases splits with
    | runAction fresh => exact ⟨(Option.some.inj task).symm, _, _, fresh, rfl, rfl⟩
    | _ => cases task

theorem edits (shift : Shift roots news stance operation answer after waiting started) :
    after.edits = stance.edits := by
  cases shift with
  | fork splits => exact splits.kept.2.2.2.2.2
  | _ => rfl

theorem child_edits (shift : Shift roots news stance operation answer after waiting (some child))
    (edits : child.edits = true) : stance.fresh = some "textDocument/rename" ∧
      ∃ work, operation = .fork work ∧ ∀ message, work.task? message = some message := by
  cases shift with
  | fork splits =>
    cases splits with
    | runAction fresh =>
      have method := of_decide_eq_true edits
      exact ⟨method ▸ fresh, _, rfl, fun _ => rfl⟩
    | _ => cases edits

end Shift

namespace Ledger

variable {host : Host} {roots : Roots} {ledger next : Ledger} {thread : Nat}
  {operation : Operation} {answer : operation.Answer} {world : World} {after : Stance}
  {waiting : Waiting} {started : Option Stance}

/-- Messages that have not been taken wait, in the order in which they came. -/
def Dealt (ledger : Ledger) : Prop :=
  ∃ earlier, ledger.chronicle.arrived = earlier ++ ledger.world.waiting .editor

theorem taken_of_ne (performed : ledger.world.perform host thread operation = some (world, answer))
    (other : operation ≠ .receive .editor) :
    (ledger.acted thread operation world after waiting started).taken = ledger.taken := by
  have same : world.waiting .editor = ledger.world.waiting .editor := by
    rw [(World.performed performed).waiting]
    unfold Operation.waitingAfter
    split
    · rename_i peer
      exact if_neg fun same => other (by rw [same])
    · rfl
  change ledger.chronicle.arrived.length - (world.waiting .editor).length = _
  rw [same]
  rfl

/-- The message that is taken is the first one that was not taken before. -/
theorem Dealt.arrived_of_receive (dealt : ledger.Dealt) {message : Message}
    (performed : ledger.world.perform host thread (.receive .editor) =
      some (world, some message)) :
    ledger.chronicle.arrived[ledger.taken]? = some message := by
  obtain ⟨earlier, whole⟩ := dealt
  have taken : ledger.taken = earlier.length := by simp [Ledger.taken, Chronicle.taken, whole]
  rw [whole, World.waiting_of_receive performed, taken]
  simp

theorem Dealt.taken_of_receive (dealt : ledger.Dealt) {message : Message}
    (performed : ledger.world.perform host thread (.receive .editor) =
      some (world, some message)) :
    (ledger.acted thread (.receive .editor) world after waiting started).taken =
      ledger.taken + 1 := by
  obtain ⟨earlier, whole⟩ := dealt
  change ledger.chronicle.arrived.length - (world.waiting .editor).length =
    ledger.chronicle.arrived.length - (ledger.world.waiting .editor).length + 1
  rw [whole, World.waiting_of_receive performed]
  simp
  omega

theorem Dealt.advance (dealt : ledger.Dealt) (advances : ledger.Advances host roots next) :
    next.Dealt := by
  obtain ⟨earlier, whole⟩ := dealt
  cases advances with
  | @act thread operation answer world after waiting started here performed =>
    change ∃ earlier, ledger.chronicle.arrived = earlier ++ world.waiting .editor
    rw [(World.performed performed).waiting]
    unfold Operation.waitingAfter
    split
    · split
      · rename_i peer same
        subst same
        refine ⟨earlier ++ (ledger.world.waiting .editor).take 1, ?_⟩
        rw [whole, List.append_assoc, ← List.drop_one, List.take_append_drop]
      · exact ⟨earlier, whole⟩
    · exact ⟨earlier, whole⟩
  | finish => exact ⟨earlier, whole⟩
  | @happen happening =>
    refine ⟨earlier, ?_⟩
    change (ledger.chronicle.occur happening).arrived =
      earlier ++ (ledger.world.after happening).waiting .editor
    rw [World.waiting_after, ← List.append_assoc, ← whole]
    cases happening with
    | deliver peer message => cases peer <;> simp [Chronicle.occur]
    | _ => simp [Chronicle.occur]

/-- What came, was taken and was begun stays so. -/
structure Grown (ledger next : Ledger) : Prop where
  arrived : ∀ {index : Nat} {message : Message},
    ledger.chronicle.arrived[index]? = some message →
    next.chronicle.arrived[index]? = some message
  taken : ledger.taken ≤ next.taken
  tasks : ∀ {thread : Nat} {task : Option Nat},
    ledger.chronicle.tasks[thread]? = some task → next.chronicle.tasks[thread]? = some task
  entered : ∀ {thread : Nat}, thread ∈ ledger.chronicle.entered →
    thread ∈ next.chronicle.entered

theorem taken_le (ledger : Ledger) : ledger.taken ≤ ledger.chronicle.arrived.length :=
  Nat.sub_le _ _

theorem Grown.arrived_of_lt (grown : ledger.Grown next) {index : Nat}
    (early : index < ledger.taken) :
    next.chronicle.arrived[index]? = ledger.chronicle.arrived[index]? := by
  have here := List.getElem?_eq_getElem (Nat.lt_of_lt_of_le early ledger.taken_le)
  rw [here]
  exact grown.arrived here

theorem Grown.parcelAt_of_lt (grown : ledger.Grown next) {index : Nat}
    (early : index < ledger.taken) :
    next.chronicle.parcelAt index = ledger.chronicle.parcelAt index := by
  unfold Chronicle.parcelAt
  rw [grown.arrived_of_lt early]

theorem Grown.parcelAt (grown : ledger.Grown next) {index : Nat} {parcel : Parcel}
    (found : ledger.chronicle.parcelAt index = some parcel) :
    next.chronicle.parcelAt index = some parcel := by
  rw [Chronicle.parcelAt_eq_some] at found ⊢
  obtain ⟨message, arrived, rest⟩ := found
  exact ⟨message, grown.arrived arrived, rest⟩

theorem Dealt.grown (dealt : ledger.Dealt) (advances : ledger.Advances host roots next) :
    ledger.Grown next := by
  cases advances with
  | @act thread operation answer world after waiting started here performed _ shift =>
    refine ⟨fun there => there, ?_, ?_, ?_⟩
    · by_cases receives : operation = .receive .editor
      · subst receives
        cases shift with
        | harmless harmless => exact harmless.elim
        | receive => exact Nat.le_of_lt (by rw [dealt.taken_of_receive performed]; omega)
      · rw [taken_of_ne performed receives]
    · intro other task there
      cases operation with
      | fork work =>
        change (ledger.chronicle.tasks ++ [_])[other]? = some task
        rw [List.getElem?_append_left (List.getElem?_eq_some_iff.mp there).1]
        exact there
      | _ => exact there
    · intro other there
      cases operation with
      | hoverAgain buffer =>
        change other ∈ if _ then thread :: ledger.chronicle.entered else ledger.chronicle.entered
        split
        · exact List.mem_cons_of_mem _ there
        · exact there
      | _ => exact there
  | finish => exact ⟨fun there => there, Nat.le_refl _, fun there => there, fun there => there⟩
  | @happen happening =>
    have taken : ledger.taken = (ledger.chronicle.occur happening).arrived.length -
        ((ledger.world.after happening).waiting .editor).length := by
      rw [World.waiting_after]
      cases happening with
      | deliver peer message =>
        cases peer <;> simp [Chronicle.occur, Ledger.taken, Chronicle.taken]
      | _ => simp [Chronicle.occur, Ledger.taken, Chronicle.taken]
    refine ⟨?_, Nat.le_of_eq taken, ?_, ?_⟩
    · intro index message there
      cases happening with
      | deliver peer new =>
        cases peer with
        | editor =>
          change (ledger.chronicle.arrived ++ [new])[index]? = some message
          rw [List.getElem?_append_left (List.getElem?_eq_some_iff.mp there).1]
          exact there
        | server => exact there
      | _ => exact there
    · intro other task there
      cases happening with
      | deliver peer => cases peer <;> exact there
      | _ => exact there
    · intro other there
      cases happening with
      | deliver peer => cases peer <;> exact there
      | _ => exact there

/-- Texts that have to be written came with messages that have been taken. -/
structure Counted (ledger : Ledger) : Prop where
  debts : ∀ thread, ∀ parcel ∈ (ledger.stances thread).debts,
    parcel.index < ledger.taken ∧ ledger.chronicle.parcelAt parcel.index = some parcel
  queued : ∀ key, ∀ parcel ∈ ledger.queued key,
    parcel.index < ledger.taken ∧ ledger.chronicle.parcelAt parcel.index = some parcel

theorem Counted.advance (counted : ledger.Counted) (dealt : ledger.Dealt)
    (advances : ledger.Advances host roots next) : next.Counted := by
  have grown := dealt.grown advances
  have kept {parcel : Parcel} (before : parcel.index < ledger.taken ∧
      ledger.chronicle.parcelAt parcel.index = some parcel) :
      parcel.index < next.taken ∧ next.chronicle.parcelAt parcel.index = some parcel :=
    ⟨Nat.lt_of_lt_of_le before.1 grown.taken, grown.parcelAt before.2⟩
  cases advances with
  | @act thread operation answer world after waiting started here performed _ shift =>
    constructor
    · refine forall_seat (fun _ stance => ∀ parcel ∈ stance.debts, parcel.index < Ledger.taken _ ∧
        Chronicle.parcelAt _ parcel.index = some parcel) ?_ ?_ ?_
      · exact fun other _ parcel owed => kept (counted.debts other parcel owed)
      · intro parcel owed
        rcases shift.origin owed with ⟨before, _⟩ | ⟨_, key, queued⟩ | ⟨new, rfl⟩
        · exact kept (counted.debts thread parcel before)
        · exact kept (counted.queued key parcel queued)
        · have same : parcel.index = ledger.taken := by
            obtain ⟨_, _, _, same, _⟩ := Chronicle.parcelAt_eq_some.mp new
            exact same
          cases shift with
          | harmless harmless => exact harmless.elim
          | receive =>
            rw [dealt.taken_of_receive performed, same]
            exact ⟨Nat.lt_succ_self _, grown.parcelAt new⟩
      · rintro child rfl parcel owed
        exact kept (counted.debts thread parcel (shift.handed owed).1)
    · intro key parcel member
      rcases shift.queued member with before | ⟨debts, _⟩
      · exact kept (counted.queued key parcel before)
      · exact kept (counted.debts thread parcel (by simp [debts]))
  | finish => exact ⟨counted.debts, counted.queued⟩
  | happen =>
    exact ⟨fun thread parcel owed => kept (counted.debts thread parcel owed),
      fun key parcel member => kept (counted.queued key parcel member)⟩

end Ledger

end LanguageBridge
