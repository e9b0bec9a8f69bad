import LanguageBridge.Proofs.Arrival.Turns

/-!
Texts stay in their order. The queue holds the texts of events that wait, for each session in the
order in which they came; who sends them keeps that order and holds the queue meanwhile.
-/
namespace LanguageBridge

namespace Shift

variable {roots : Roots} {news : News} {stance after child : Stance} {operation : Operation}
  {answer : operation.Answer} {waiting : Waiting} {started : Option Stance} {parcel : Parcel}

/-- Texts wait in the queue as they should, also after one has joined it or they were taken. -/
theorem lined (shift : Shift roots news stance operation answer after waiting started)
    {queue : Table SessionKey (List BufferContent)} (lined : Lined roots queue news.queued)
    (known : ∀ seen, stance.queue = .seen seen → queue = seen)
    (newer : stance.editor = true → ∀ parcel ∈ stance.debts, ∀ key, ∀ other ∈ news.queued key,
      other.index < parcel.index) :
    Lined roots (operation.queueAfter queue) waiting := by
  cases shift with
  | harmless harmless =>
    rw [Operation.queueAfter_of_ne]
    · exact lined
    · rintro changed rfl
      exact harmless.elim
  | @enqueue seen name parcel held owed token event own =>
    obtain rfl := known seen held
    intro key
    obtain ⟨same, events, sorted⟩ := lined key
    change (queue.insert name ((queue.get? name).getD [] ++ [parcel.content])).get? key = _ ∧ _
    by_cases here : name = key
    · subst here
      have before : (queue.get? name).getD [] = (news.queued name).map (·.content) := by
        rw [same]
        split <;> simp_all
      rw [Function.update_self]
      refine ⟨by simp [before], ?_, ?_⟩
      · intro other member
        rcases List.mem_append.mp member with old | new
        · exact events other old
        · rw [List.mem_singleton.mp new]
          exact ⟨event, own⟩
      · rw [List.pairwise_append]
        refine ⟨sorted, List.pairwise_singleton _ _, fun other member last new => ?_⟩
        rw [List.mem_singleton.mp new]
        exact newer token parcel (by simp [owed]) name other member
    · rw [Function.update_of_ne (Ne.symm here), Table.get?_insert, if_neg here]
      exact ⟨same, events, sorted⟩
  | @take seen name held =>
    obtain rfl := known seen held
    intro key
    change (queue.erase name).get? key = _ ∧ _
    by_cases here : name = key
    · subst here
      rw [Function.update_self]
      simp
    · rw [Function.update_of_ne (Ne.symm here), Table.get?_erase, if_neg here]
      exact lined key
  | _ => exact lined

/-- Texts of events are owed in the order in which they came. -/
theorem sorted (shift : Shift roots news stance operation answer after waiting started)
    {queue : Table SessionKey (List BufferContent)} (lined : Lined roots queue news.queued)
    (sorted : stance.debts.Pairwise fun first second =>
      first.event = true → second.event = true → first.index < second.index) :
    after.debts.Pairwise fun first second =>
      first.event = true → second.event = true → first.index < second.index := by
  cases shift with
  | settle _ owed =>
    rw [owed] at sorted
    exact (List.pairwise_cons.mp sorted).2
  | @take seen name _ _ plain =>
    rw [List.pairwise_append]
    refine ⟨(lined name).2.2.imp fun less _ _ => less, sorted, ?_⟩
    intro first _ second member _ event
    rw [plain second member] at event
    cases event
  | enqueue => exact List.Pairwise.nil
  | receive => cases news.parcel <;> simp
  | fork splits =>
    cases splits with
    | runAction => exact List.Pairwise.nil
    | _ => exact sorted
  | preview => exact List.Pairwise.nil
  | _ => exact sorted

/-- Who owes texts of events and takes no messages of the editor holds the queue. -/
theorem tended (shift : Shift roots news stance operation answer after waiting started)
    (tended : stance.editor = false → ∀ parcel ∈ stance.debts, parcel.event = true →
      stance.queue ≠ .free)
    (worker : after.editor = false) (owed : parcel ∈ after.debts) (event : parcel.event = true) :
    after.queue ≠ .free := by
  cases shift with
  | settle _ debts => exact tended worker parcel (debts ▸ List.mem_cons_of_mem _ owed) event
  | letGo _ plain =>
    rw [plain parcel owed event] at worker
    cases worker
  | clear _ _ empty =>
    rw [(empty parcel owed).1] at event
    cases event
  | receive token =>
    rw [show stance.editor = false from worker] at token
    cases token
  | fork splits =>
    cases splits with
    | serveEditor _ clear =>
      rw [show stance.debts = [] from clear] at owed
      cases owed
    | runAction => cases owed
    | _ => exact tended worker parcel owed event
  | preview => cases owed
  | hold | see | enqueue | take => simp
  | _ => exact tended worker parcel owed event

end Shift

namespace Ledger

variable {host : Host} {roots : Roots} {ledger next : Ledger} {parcel : Parcel}

/-- Texts of events are kept in their order, in the queue and with the threads that send them. -/
structure Stored (roots : Roots) (ledger : Ledger) : Prop where
  lined : Lined roots ledger.world.queue ledger.queued
  sorted : ∀ thread, (ledger.stances thread).debts.Pairwise fun first second =>
    first.event = true → second.event = true → first.index < second.index
  tended : ∀ thread, (ledger.stances thread).editor = false →
    ∀ parcel ∈ (ledger.stances thread).debts, parcel.event = true →
      (ledger.stances thread).queue ≠ .free

theorem Stored.advance (stored : ledger.Stored roots) (viewed : ledger.Viewed)
    (newest : ledger.Newest) (advances : ledger.Advances host roots next) :
    next.Stored roots := by
  cases advances with
  | @act thread operation answer world after waiting started here performed _ shift =>
    constructor
    · change Lined roots world.queue waiting
      rw [(World.performed performed).queue]
      refine shift.lined stored.lined (viewed.queue thread) ?_
      intro token parcel owed key other member
      exact (newest thread token parcel owed).2 other (.inr ⟨key, member⟩)
    · refine forall_seat (fun _ stance => stance.debts.Pairwise fun first second =>
        first.event = true → second.event = true → first.index < second.index) ?_ ?_ ?_
      · exact fun other _ => stored.sorted other
      · exact shift.sorted stored.lined (stored.sorted thread)
      · rintro child rfl
        refine List.pairwise_of_forall_mem_list fun first member _ _ event => ?_
        rw [(shift.handed member).2.1] at event
        cases event
    · refine forall_seat (fun _ stance => stance.editor = false → ∀ parcel ∈ stance.debts,
        parcel.event = true → stance.queue ≠ .free) ?_ ?_ ?_
      · exact fun other _ => stored.tended other
      · exact fun worker parcel owed event =>
          shift.tended (stored.tended thread) worker owed event
      · rintro child rfl _ parcel owed event
        rw [(shift.handed owed).2.1] at event
        cases event
  | finish => exact ⟨stored.lined, stored.sorted, stored.tended⟩
  | @happen happening =>
    obtain ⟨_, _, queue, _⟩ := World.after_happening ledger.world happening
    exact ⟨queue.symm ▸ stored.lined, stored.sorted, stored.tended⟩

end Ledger

end LanguageBridge

/-!
Which thread does which message's action. A message is given to one thread, with its text, right
after it was taken; what a thread owes besides are texts of events.
-/
namespace LanguageBridge

theorem Shift.token_of_fresh {roots : Roots} {news : News} {stance after : Stance}
    {operation : Operation} {answer : operation.Answer} {waiting : Waiting}
    {started : Option Stance} {method : String}
    (shift : Shift roots news stance operation answer after waiting started)
    (fresh : after.fresh = some method) (token : stance.editor = true) : after.editor = true := by
  cases shift with
  | fork splits =>
    cases splits with
    | serveEditor => cases fresh
    | _ => exact token
  | _ => exact token

namespace Ledger

variable {host : Host} {roots : Roots} {ledger next : Ledger}

/-- The message that may be given to a thread is the last one that was taken. -/
def Fresh (ledger : Ledger) : Prop :=
  ∀ thread method, (ledger.stances thread).fresh = some method →
    (ledger.stances thread).editor = true ∧ Editor.isEvent method = false ∧
      ∃ last message, ledger.taken = last + 1 ∧
        ledger.chronicle.arrived[last]? = some message ∧ message.method = method

/-- Messages are given to one thread each, and those that tell of events to none. -/
structure Given (ledger : Ledger) : Prop where
  taken : ∀ thread index : Nat, ledger.chronicle.tasks[thread]? = some (some index) →
    index < ledger.taken
  former : ∀ (thread index other : Nat) (method : String),
    ledger.chronicle.tasks[thread]? = some (some index) →
    (ledger.stances other).fresh = some method → index + 1 < ledger.taken
  action : ∀ (thread index : Nat) (message : Message),
    ledger.chronicle.tasks[thread]? = some (some index) →
    ledger.chronicle.arrived[index]? = some message → Editor.isEvent message.method = false
  once : ∀ first second index : Nat, ledger.chronicle.tasks[first]? = some (some index) →
    ledger.chronicle.tasks[second]? = some (some index) → first = second

/-- Threads owe texts of the messages whose actions they do, and only renames write other texts. -/
structure Tasked (ledger : Ledger) : Prop where
  owed : ∀ thread, ∀ parcel ∈ (ledger.stances thread).debts, parcel.event = false →
    (ledger.stances thread).editor = true ∨
      ledger.chronicle.tasks[thread]? = some (some parcel.index)
  edits : ∀ thread, (ledger.stances thread).edits = true → ∃ request message,
    ledger.chronicle.tasks[thread]? = some (some request) ∧
      ledger.chronicle.arrived[request]? = some message ∧
      message.method = "textDocument/rename"

theorem Fresh.advance (fresh : ledger.Fresh) (manned : ledger.Manned) (dealt : ledger.Dealt)
    (advances : ledger.Advances host roots next) : next.Fresh := by
  have grown := dealt.grown advances
  cases advances with
  | @act thread operation answer world after waiting started here performed _ shift =>
    refine forall_seat (fun _ stance => ∀ method, stance.fresh = some method →
      stance.editor = true ∧ Editor.isEvent method = false ∧ ∃ last message,
        Ledger.taken _ = last + 1 ∧ (Ledger.chronicle _).arrived[last]? = some message ∧
        message.method = method) ?_ ?_ ?_
    · intro other apart method held
      obtain ⟨token, action, last, message, taken, arrived, same⟩ := fresh other method held
      rw [manned.taken_of_other performed shift token apart]
      exact ⟨token, action, last, message, taken, grown.arrived arrived, same⟩
    · intro method held
      rcases shift.fresh held with ⟨before, receives, _⟩ | ⟨message, same, rfl, action⟩
      · obtain ⟨token, action, last, message, taken, arrived, same⟩ := fresh thread method before
        rw [taken_of_ne performed receives]
        exact ⟨shift.token_of_fresh held token, action, last, message, taken,
          grown.arrived arrived, same⟩
      · cases same
        exact ⟨shift.receives.2.1, action, ledger.taken, message, dealt.taken_of_receive performed,
          dealt.arrived_of_receive performed, rfl⟩
    · rintro child rfl method held
      rw [shift.blank.fresh] at held
      cases held
  | finish => exact fresh
  | @happen happening =>
    intro thread method held
    obtain ⟨token, action, last, message, taken, arrived, same⟩ := fresh thread method held
    refine ⟨token, action, last, message, ?_, grown.arrived arrived, same⟩
    exact (taken_of_happening happening).trans taken

/-- A task is there after a step if it was there before, or it is that of the thread that the step
started. -/
theorem tasks_acted {thread : Nat} {operation : Operation} {world : World} {after : Stance}
    {waiting : Waiting} {started : Option Stance} {other : Nat} {task : Option Nat} :
    (ledger.acted thread operation world after waiting started).chronicle.tasks[other]? =
        some task ↔
      ledger.chronicle.tasks[other]? = some task ∨ other = ledger.threads ∧
        ∃ work, operation = .fork work ∧ work.task? (ledger.taken - 1) = task := by
  cases operation with
  | fork work =>
    change (ledger.chronicle.tasks ++ [work.task? (ledger.taken - 1)])[other]? = some task ↔ _
    rw [List.getElem?_append]
    by_cases old : other < ledger.chronicle.tasks.length
    · have apart : other ≠ ledger.threads := Nat.ne_of_lt old
      simp [old, apart]
    · have absent : ledger.chronicle.tasks[other]? = none :=
        List.getElem?_eq_none (Nat.not_lt.mp old)
      rw [if_neg old, absent]
      by_cases last : other = ledger.threads
      · subst last
        simp [threads]
      · have beyond : other - ledger.chronicle.tasks.length ≠ 0 := by
          change other ≠ ledger.chronicle.tasks.length at last
          omega
        simp [beyond, last]
  | _ =>
    refine ⟨.inl, fun given => given.resolve_right ?_⟩
    rintro ⟨_, work, impossible, _⟩
    cases impossible

section Acting

variable {thread : Nat} {operation : Operation} {answer : operation.Answer} {world : World}
  {after : Stance} {waiting : Waiting} {started : Option Stance}
  (performed : ledger.world.perform host thread operation = some (world, answer))
  (shift : Shift roots ledger.news (ledger.stances thread) operation answer after waiting started)

include shift

/-- The thread that a step starts gets the last message, which was not given away before. -/
theorem Fresh.given (fresh : ledger.Fresh) {work : Work} {index : Nat}
    (forks : operation = .fork work) (task : work.task? (ledger.taken - 1) = some index) :
    index + 1 = ledger.taken ∧ after.fresh = none ∧ ∃ method message,
      (ledger.stances thread).fresh = some method ∧
        ledger.chronicle.arrived[index]? = some message ∧
        Editor.isEvent message.method = false := by
  subst forks
  obtain ⟨same, method, child, held, begun, _⟩ := shift.gives task
  obtain ⟨_, action, last, message, taken, arrived, rfl⟩ := fresh thread method held
  obtain rfl : index = last := by omega
  refine ⟨taken.symm, ?_, _, message, held, arrived, action⟩
  cases shift with
  | harmless harmless => exact harmless.elim
  | fork splits =>
    cases splits with
    | runAction => rfl
    | _ => cases task

theorem Given.once_acted (given : ledger.Given) (fresh : ledger.Fresh) {first second index : Nat}
    (one : (ledger.acted thread operation world after waiting started).chronicle.tasks[first]? =
      some (some index))
    (two : (ledger.acted thread operation world after waiting started).chronicle.tasks[second]? =
      some (some index)) : first = second := by
  have apart {other : Nat} (before : ledger.chronicle.tasks[other]? = some (some index))
      {work : Work} (forks : operation = .fork work)
      (task : work.task? (ledger.taken - 1) = some index) : False := by
    obtain ⟨last, _, method, _, held, _⟩ := fresh.given shift forks task
    have less := given.former other index thread method before held
    omega
  rcases tasks_acted.mp one with before | ⟨last, work, forks, task⟩ <;>
    rcases tasks_acted.mp two with old | ⟨newest, _, splits, same⟩
  · exact given.once first second index before old
  · exact (apart before splits same).elim
  · exact (apart old forks task).elim
  · exact last.trans newest.symm

include performed

/-- A message that was given away came before the last one, whichever thread may give that away. -/
theorem Given.former_acted (given : ledger.Given) (fresh : ledger.Fresh) (manned : ledger.Manned)
    (dealt : ledger.Dealt)
    (grown : ledger.Grown (ledger.acted thread operation world after waiting started))
    {other index : Nat} {method : String}
    (task : (ledger.acted thread operation world after waiting started).chronicle.tasks[other]? =
      some (some index)) (holder : Nat) :
    (ledger.seat thread after started holder).fresh = some method →
      index + 1 < (ledger.acted thread operation world after waiting started).taken := by
  revert holder
  refine forall_seat (fun _ stance => stance.fresh = some method → index + 1 < Ledger.taken _)
    ?_ ?_ ?_
  · intro holder apart held
    have token := (fresh holder method held).1
    rcases tasks_acted.mp task with before | ⟨_, work, forks, same⟩
    · exact Nat.lt_of_lt_of_le (given.former other index holder method before held) grown.taken
    · obtain ⟨_, _, name, _, own, _⟩ := fresh.given shift forks same
      exact absurd (manned.single holder thread token (fresh thread name own).1) apart
  · intro held
    rcases tasks_acted.mp task with before | ⟨_, work, forks, same⟩
    · rcases shift.fresh held with ⟨old, _⟩ | ⟨message, same, _⟩
      · exact Nat.lt_of_lt_of_le (given.former other index thread method before old) grown.taken
      · cases same
        rw [dealt.taken_of_receive performed]
        exact Nat.succ_lt_succ (given.taken other index before)
    · rw [(fresh.given shift forks same).2.1] at held
      cases held
  · rintro child rfl held
    rw [shift.blank.fresh] at held
    cases held

theorem Given.acted (given : ledger.Given) (fresh : ledger.Fresh) (manned : ledger.Manned)
    (dealt : ledger.Dealt)
    (grown : ledger.Grown (ledger.acted thread operation world after waiting started)) :
    (ledger.acted thread operation world after waiting started).Given := by
  constructor
  · intro other index task
    rcases tasks_acted.mp task with before | ⟨_, work, forks, same⟩
    · exact Nat.lt_of_lt_of_le (given.taken other index before) grown.taken
    · obtain ⟨last, _⟩ := fresh.given shift forks same
      have less := grown.taken
      omega
  · exact fun _ _ holder _ task =>
      given.former_acted performed shift fresh manned dealt grown task holder
  · intro other index message task arrived
    rcases tasks_acted.mp task with before | ⟨_, work, forks, same⟩
    · rw [grown.arrived_of_lt (given.taken other index before)] at arrived
      exact given.action other index message before arrived
    · obtain ⟨_, _, method, found, _, before, action⟩ := fresh.given shift forks same
      rw [grown.arrived before] at arrived
      cases arrived
      exact action
  · exact fun _ _ _ one two => given.once_acted shift fresh one two

end Acting

theorem Given.advance (given : ledger.Given) (fresh : ledger.Fresh) (manned : ledger.Manned)
    (dealt : ledger.Dealt) (advances : ledger.Advances host roots next) : next.Given := by
  have grown := dealt.grown advances
  cases advances with
  | act here performed _ shift => exact given.acted performed shift fresh manned dealt grown
  | finish => exact ⟨given.taken, given.former, given.action, given.once⟩
  | @happen happening =>
    have same := @taken_of_happening ledger happening
    have tasks := @tasks_of_happening ledger happening
    refine ⟨fun thread index task => ?_, fun thread index other method task held => ?_,
      fun thread index message task arrived => ?_, fun first second index one two => ?_⟩
    · rw [same]
      exact given.taken thread index (tasks ▸ task)
    · rw [same]
      exact given.former thread index other method (tasks ▸ task) held
    · have before : ledger.chronicle.tasks[thread]? = some (some index) := tasks ▸ task
      rw [grown.arrived_of_lt (given.taken thread index before)] at arrived
      exact given.action thread index message before arrived
    · exact given.once first second index (tasks ▸ one) (tasks ▸ two)

section Acting

variable {thread : Nat} {operation : Operation} {answer : operation.Answer} {world : World}
  {after : Stance} {waiting : Waiting} {started : Option Stance}
  (shift : Shift roots ledger.news (ledger.stances thread) operation answer after waiting started)
  (grown : ledger.Grown (ledger.acted thread operation world after waiting started))

include shift grown

/-- What a thread owes of a message is of the one that it takes care of, also when it has just been
started for it. -/
theorem Tasked.owed_acted (tasked : ledger.Tasked) (fresh : ledger.Fresh) (newest : ledger.Newest)
    (stored : ledger.Stored roots) (holder : Nat) :
    ∀ parcel ∈ (ledger.seat thread after started holder).debts, parcel.event = false →
      (ledger.seat thread after started holder).editor = true ∨
        (ledger.acted thread operation world after waiting started).chronicle.tasks[holder]? =
          some (some parcel.index) := by
  refine forall_seat (fun holder stance => ∀ parcel ∈ stance.debts, parcel.event = false →
    stance.editor = true ∨
      (Ledger.chronicle _).tasks[holder]? = some (some parcel.index)) ?_ ?_ ?_ holder
  · exact fun other _ parcel owed plain =>
      (tasked.owed other parcel owed plain).imp_right grown.tasks
  · intro parcel owed plain
    rcases shift.origin owed with ⟨before, _⟩ | ⟨_, key, queued⟩ | ⟨_, rfl⟩
    · rcases tasked.owed thread parcel before plain with token | task
      · left
        rw [← Bool.not_eq_false]
        intro left
        rw [shift.leaves_token token left] at owed
        cases owed
      · exact .inr (grown.tasks task)
    · rw [((stored.lined key).2.1 parcel queued).1] at plain
      cases plain
    · exact .inl shift.receives.2.1
  · rintro child rfl parcel owed plain
    obtain ⟨before, _, _, _, work, forks, task⟩ := shift.handed owed
    right
    rw [tasks_acted.mpr (.inr ⟨rfl, work, forks, task _⟩)]
    have token : (ledger.stances thread).editor = true := by
      subst forks
      obtain ⟨_, method, _, held, _⟩ := shift.gives (task (ledger.taken - 1))
      exact (fresh thread method held).1
    have last := (newest thread token parcel before).1
    simp [← last]

theorem Tasked.edits_acted (tasked : ledger.Tasked) (fresh : ledger.Fresh) (holder : Nat) :
    (ledger.seat thread after started holder).edits = true → ∃ request message,
      (ledger.acted thread operation world after waiting started).chronicle.tasks[holder]? =
          some (some request) ∧
        (ledger.acted thread operation world after waiting started).chronicle.arrived[request]? =
          some message ∧ message.method = "textDocument/rename" := by
  refine forall_seat (fun holder stance => stance.edits = true → ∃ request message,
    (Ledger.chronicle _).tasks[holder]? = some (some request) ∧
      (Ledger.chronicle _).arrived[request]? = some message ∧
      message.method = "textDocument/rename") ?_ ?_ ?_ holder
  · intro other _ edits
    obtain ⟨request, message, task, arrived, method⟩ := tasked.edits other edits
    exact ⟨request, message, grown.tasks task, grown.arrived arrived, method⟩
  · intro edits
    rw [shift.edits] at edits
    obtain ⟨request, message, task, arrived, method⟩ := tasked.edits thread edits
    exact ⟨request, message, grown.tasks task, grown.arrived arrived, method⟩
  · rintro child rfl edits
    obtain ⟨held, work, forks, task⟩ := shift.child_edits edits
    obtain ⟨_, _, last, message, taken, arrived, method⟩ := fresh thread _ held
    refine ⟨ledger.taken - 1, message, tasks_acted.mpr (.inr ⟨rfl, work, forks, task _⟩),
      grown.arrived ?_, method⟩
    rw [taken]
    exact arrived

end Acting

theorem Tasked.advance (tasked : ledger.Tasked) (fresh : ledger.Fresh) (newest : ledger.Newest)
    (stored : ledger.Stored roots) (dealt : ledger.Dealt)
    (advances : ledger.Advances host roots next) : next.Tasked := by
  have grown := dealt.grown advances
  cases advances with
  | act here performed _ shift =>
    exact ⟨tasked.owed_acted shift grown fresh newest stored, tasked.edits_acted shift grown fresh⟩
  | finish => exact ⟨tasked.owed, tasked.edits⟩
  | @happen happening =>
    constructor
    · exact fun thread parcel owed plain =>
        (tasked.owed thread parcel owed plain).imp_right grown.tasks
    · intro thread edits
      obtain ⟨request, message, task, arrived, method⟩ := tasked.edits thread edits
      exact ⟨request, message, grown.tasks task, grown.arrived arrived, method⟩

end Ledger

end LanguageBridge
