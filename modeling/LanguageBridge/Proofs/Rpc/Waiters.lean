import LanguageBridge.Rpc.Pending
import Mathlib.Data.Set.Card

/-!
Requests in flight over their whole history. Whatever is done to a table, in whatever order and with
whatever ids, a waiter that was taken in gets the next answer to its id, and nothing else.
-/
namespace LanguageBridge

/-- Something happened in a history, and nothing has undone it since. -/
def Since (event : List α → α → Prop) (undone : α → Prop) (history : List α) : Prop :=
  ∃ before moment after, history = before ++ moment :: after ∧ event before moment ∧
    ∀ later ∈ after, ¬ undone later

theorem not_since_nil {event : List α → α → Prop} {undone : α → Prop} :
    ¬ Since event undone [] := by
  rintro ⟨before, moment, after, same, -⟩
  simp at same

theorem since_append_singleton {event : List α → α → Prop} {undone : α → Prop} (history : List α)
    (last : α) : Since event undone (history ++ [last]) ↔
      Since event undone history ∧ ¬ undone last ∨ event history last := by
  constructor
  · rintro ⟨before, moment, after, same, happened, silent⟩
    rcases List.eq_nil_or_concat after with rfl | ⟨earlier, final, rfl⟩
    · obtain ⟨rfl, rfl⟩ : history = before ∧ last = moment := by simpa using same
      exact .inr happened
    · rw [List.concat_eq_append] at same silent
      obtain ⟨rfl, rfl⟩ : history = before ++ moment :: earlier ∧ last = final := by
        rw [← List.cons_append, ← List.append_assoc] at same
        simpa using List.append_inj' same rfl
      exact .inl ⟨⟨before, moment, earlier, rfl, happened,
        fun later member => silent later (List.mem_append_left _ member)⟩,
        silent last (by simp)⟩
  · rintro (⟨⟨before, moment, after, rfl, happened, silent⟩, kept⟩ | happened)
    · refine ⟨before, moment, after ++ [last], by simp, happened, fun later member => ?_⟩
      rcases List.mem_append.mp member with earlier | final
      · exact silent later earlier
      · rw [List.mem_singleton.mp final]
        exact kept
    · exact ⟨history, last, [], rfl, happened, fun _ member => absurd member List.not_mem_nil⟩

namespace Waiters

/-- What is done to a table of requests in flight. -/
inductive Operation
  | insert (id : RequestId)
  | drop (waiter : Nat)
  | resolve (response : Response)
  | failAll

/-- An operation that answers whoever waits under an id. -/
def Operation.Answers (id : RequestId) : Operation → Prop
  | .insert _ | .drop _ => False
  | .resolve response => response.id = id
  | .failAll => True

def perform (waiters : Waiters) : Operation → Waiters
  | .insert id => (waiters.insert id).1
  | .drop waiter => waiters.drop waiter
  | .resolve response => (waiters.resolve response).1
  | .failAll => waiters.failAll

/-- The waiters after a history of operations. -/
def run (operations : List Operation) : Waiters := operations.foldl perform {}

/-- How many waiters a history has brought, which is the number of the next one. -/
def inserted : List Operation → Nat
  | [] => 0
  | .insert _ :: rest => inserted rest + 1
  | _ :: rest => inserted rest

/-- What a waiter was given. -/
def received (waiters : Waiters) (waiter : Nat) : List Response :=
  waiters.delivered.filterMap fun entry => if entry.1 = waiter then some entry.2 else none

/-- What is due to a waiter of an id by what is done after it was taken in: the next answer to its
id, if it still listens. -/
def due (id : RequestId) (waiter : Nat) : List Operation → List Response
  | [] => []
  | .insert _ :: rest => due id waiter rest
  | .drop other :: rest => if other = waiter then [] else due id waiter rest
  | .resolve response :: rest => if response.id = id then [response] else due id waiter rest
  | .failAll :: _ => [.terminated id]

/-- A waiter was taken in under an id, and nothing has answered it since. -/
def Waits (operations : List Operation) (id : RequestId) (waiter : Nat) : Prop :=
  ∃ before after, operations = before ++ .insert id :: after ∧ waiter = inserted before ∧
    ((run before).insert id).2 = .ok () ∧ ∀ operation ∈ after, ¬ operation.Answers id

/-- What a table of requests in flight owes to its history. -/
structure Accounted (operations : List Operation) : Prop where
  /-- The entries are those of the waiters taken in and not answered since. -/
  entries : ∀ id waiter,
    (run operations).pending.entries.get? id = some waiter ↔ Waits operations id waiter
  /-- Their number is the number of these waiters. -/
  size : (run operations).pending.size = {waiter | ∃ id, Waits operations id waiter}.ncard
  emptied : (run operations).failAll.pending.size = 0
  once : ∀ waiter, ((run operations).received waiter).length ≤ 1
  /-- A waiter taken in gets exactly what is due to it. -/
  accepted : ∀ before id after, operations = before ++ .insert id :: after →
    ((run before).insert id).2 = .ok () →
      (run operations).received (inserted before) = due id (inserted before) after
  /-- A waiter that was turned away gets nothing. -/
  rejected : ∀ before id after, operations = before ++ .insert id :: after →
    ((run before).insert id).2 ≠ .ok () → (run operations).received (inserted before) = []
  /-- An id is free exactly when nobody waits under it; else those in flight stay as they are. -/
  free : ∀ id, (∀ waiter, ¬ Waits operations id waiter) → ((run operations).insert id).2 = .ok ()
  taken : ∀ id waiter, Waits operations id waiter → (run operations).insert id =
    ({ run operations with count := (run operations).count + 1 },
      .error (.violation s!"request id {id.described} already in flight"))
  /-- A response comes through exactly when somebody waits under its id; else nothing changes. -/
  known : ∀ response waiter, Waits operations response.id waiter →
    ((run operations).resolve response).2 = .ok ()
  unknown : ∀ response, (∀ waiter, ¬ Waits operations response.id waiter) →
    (run operations).resolve response = (run operations,
      .error (.violation s!"response for unknown id {response.id.described}"))

variable {waiters : Waiters} {id : RequestId} {waiter other : Nat} {response : Response}

theorem run_append_singleton (operations : List Operation) (operation : Operation) :
    run (operations ++ [operation]) = (run operations).perform operation := by
  simp [run]

theorem inserted_append (before after : List Operation) :
    inserted (before ++ after) = inserted before + inserted after := by
  induction before with
  | nil => simp [inserted]
  | cons operation rest ih =>
    cases operation with
    | insert => simp only [List.cons_append, inserted, ih]; omega
    | drop | resolve | failAll => exact ih

/-! ### What one operation does -/

theorem received_deliver (waiters : Waiters) (other waiter : Nat) (response : Response) :
    (waiters.deliver other response).received waiter =
      if other = waiter ∧ other ∉ waiters.gone then waiters.received waiter ++ [response]
      else waiters.received waiter := by
  unfold deliver received
  by_cases left : other ∈ waiters.gone
  · simp [left]
  · have told : waiters.gone.contains other = false := by simpa using left
    rw [told, if_neg Bool.false_ne_true, List.filterMap_append]
    by_cases same : other = waiter
    · rw [if_pos ⟨same, left⟩]
      simp [same]
    · rw [if_neg fun both => same both.1]
      simp [same]

@[simp] theorem deliver_pending (waiters : Waiters) (other : Nat) (response : Response) :
    (waiters.deliver other response).pending = waiters.pending := by
  unfold deliver
  split <;> rfl

@[simp] theorem deliver_count (waiters : Waiters) (other : Nat) (response : Response) :
    (waiters.deliver other response).count = waiters.count := by
  unfold deliver
  split <;> rfl

@[simp] theorem deliver_gone (waiters : Waiters) (other : Nat) (response : Response) :
    (waiters.deliver other response).gone = waiters.gone := by
  unfold deliver
  split <;> rfl

theorem insert_of_free (free : waiters.pending.entries.get? id = none) :
    waiters.insert id = ({ waiters with
      count := waiters.count + 1
      pending := ⟨waiters.pending.entries.insert id waiters.count⟩ }, .ok ()) := by
  simp [insert, Pending.insert_of_absent free]

theorem insert_of_taken (taken : waiters.pending.entries.get? id = some other) :
    waiters.insert id = ({ waiters with count := waiters.count + 1 },
      .error (.violation s!"request id {id.described} already in flight")) := by
  simp [insert, Pending.insert, Table.contains, taken]

theorem insert_ok_iff :
    (waiters.insert id).2 = .ok () ↔ waiters.pending.entries.get? id = none := by
  cases found : waiters.pending.entries.get? id with
  | none => simp [insert_of_free found]
  | some other => simp [insert_of_taken found]

theorem resolve_of_known (known : waiters.pending.entries.get? response.id = some other) :
    waiters.resolve response = (({ waiters with
      pending := ⟨waiters.pending.entries.erase response.id⟩ } : Waiters).deliver other response,
      .ok ()) := by
  simp [resolve, Pending.resolve, known]

theorem resolve_of_unknown (unknown : waiters.pending.entries.get? response.id = none) :
    waiters.resolve response = (waiters,
      .error (.violation s!"response for unknown id {response.id.described}")) := by
  simp [resolve, Pending.resolve, unknown]

/-- What is given out one after the other. -/
def deliverAll (waiters : Waiters) (given : List (Nat × Response)) : Waiters :=
  given.foldl (fun waiters entry => waiters.deliver entry.1 entry.2) waiters

theorem deliverAll_unchanged (waiters : Waiters) (given : List (Nat × Response)) :
    (waiters.deliverAll given).pending = waiters.pending ∧
      (waiters.deliverAll given).count = waiters.count ∧
      (waiters.deliverAll given).gone = waiters.gone := by
  induction given generalizing waiters with
  | nil => exact ⟨rfl, rfl, rfl⟩
  | cons entry rest ih => simpa [deliverAll] using ih (waiters.deliver entry.1 entry.2)

theorem failAll_eq (waiters : Waiters) :
    waiters.failAll = ({ waiters with pending := .empty } : Waiters).deliverAll
      (waiters.pending.entries.entries.map fun (id, waiter) => (waiter, .terminated id)) := rfl

theorem failAll_unchanged (waiters : Waiters) :
    waiters.failAll.pending = .empty ∧ waiters.failAll.count = waiters.count ∧
      waiters.failAll.gone = waiters.gone :=
  deliverAll_unchanged { waiters with pending := .empty } _

/-- Whoever is not among those that are given something gets nothing. -/
theorem received_deliverAll_of_notMem {given : List (Nat × Response)}
    (apart : waiter ∉ given.map (·.1)) :
    (waiters.deliverAll given).received waiter = waiters.received waiter := by
  induction given generalizing waiters with
  | nil => rfl
  | cons entry rest ih =>
    rw [List.map_cons, List.mem_cons, not_or] at apart
    have later := @ih (waiters.deliver entry.1 entry.2) apart.2
    rw [received_deliver, if_neg fun same => apart.1 same.1.symm] at later
    exact later

theorem received_deliverAll_of_gone {given : List (Nat × Response)} (gone : waiter ∈ waiters.gone) :
    (waiters.deliverAll given).received waiter = waiters.received waiter := by
  induction given generalizing waiters with
  | nil => rfl
  | cons entry rest ih =>
    have later := @ih (waiters.deliver entry.1 entry.2) (by simpa using gone)
    rw [received_deliver, if_neg] at later
    · exact later
    · rintro ⟨rfl, listening⟩
      exact listening gone

theorem received_deliverAll_of_mem {given : List (Nat × Response)}
    (unique : (given.map (·.1)).Nodup) (member : (waiter, response) ∈ given)
    (listening : waiter ∉ waiters.gone) :
    (waiters.deliverAll given).received waiter = waiters.received waiter ++ [response] := by
  induction given generalizing waiters with
  | nil => simp at member
  | cons entry rest ih =>
    rw [List.map_cons, List.nodup_cons] at unique
    rcases List.mem_cons.mp member with rfl | later
    · have now := received_deliver waiters waiter waiter response
      rw [if_pos ⟨rfl, listening⟩] at now
      rw [← now]
      exact received_deliverAll_of_notMem unique.1
    · have apart : entry.1 ≠ waiter := fun same =>
        unique.1 (List.mem_map.mpr ⟨_, later, same.symm⟩)
      have rest := @ih (waiters.deliver entry.1 entry.2) unique.2 later (by simpa using listening)
      rw [received_deliver, if_neg fun same => apart same.1] at rest
      exact rest

/-! ### Waiters and their entries -/

/-- No id and no waiter has two entries, and every waiter has a number that was given out. -/
structure Orderly (waiters : Waiters) : Prop where
  ids : (waiters.pending.entries.entries.map (·.1)).Nodup
  numbers : (waiters.pending.entries.entries.map (·.2)).Nodup
  entries : ∀ number ∈ waiters.pending.entries.entries.map (·.2), number < waiters.count
  gone : ∀ number ∈ waiters.gone, number < waiters.count
  delivered : ∀ entry ∈ waiters.delivered, entry.1 < waiters.count

namespace Orderly

theorem number_lt (orderly : Orderly waiters)
    (found : waiters.pending.entries.get? id = some waiter) :
    waiter < waiters.count :=
  orderly.entries waiter (List.mem_map.mpr ⟨_, Table.mem_of_find? found, rfl⟩)

theorem same_id {first second : RequestId} (orderly : Orderly waiters)
    (found : waiters.pending.entries.get? first = some waiter)
    (again : waiters.pending.entries.get? second = some waiter) : first = second :=
  congrArg Prod.fst (List.inj_on_of_nodup_map orderly.numbers
    (Table.mem_of_find? found) (Table.mem_of_find? again) rfl)

theorem deliver (orderly : Orderly waiters) (known : other < waiters.count) (response : Response) :
    Orderly (waiters.deliver other response) where
  ids := by simpa using orderly.ids
  numbers := by simpa using orderly.numbers
  entries := by simpa using orderly.entries
  gone := by simpa using orderly.gone
  delivered := by
    rw [deliver_count]
    intro entry member
    unfold Waiters.deliver at member
    split at member
    · exact orderly.delivered entry member
    · rcases List.mem_append.mp member with earlier | given
      · exact orderly.delivered entry earlier
      · rw [List.mem_singleton.mp given]
        exact known

theorem deliverAll {given : List (Nat × Response)} (orderly : Orderly waiters)
    (known : ∀ entry ∈ given, entry.1 < waiters.count) : Orderly (waiters.deliverAll given) := by
  induction given generalizing waiters with
  | nil => exact orderly
  | cons entry rest ih =>
    refine ih (orderly.deliver (known entry List.mem_cons_self) entry.2) fun later member => ?_
    rw [deliver_count]
    exact known later (List.mem_cons_of_mem _ member)

theorem erase (orderly : Orderly waiters) (id : RequestId) :
    Orderly { waiters with pending := ⟨waiters.pending.entries.erase id⟩ } where
  ids := Table.nodup_keys_erase orderly.ids id
  numbers := orderly.numbers.sublist (List.filter_sublist.map _)
  entries := fun number member => orderly.entries number ((List.filter_sublist.map _).subset member)
  gone := orderly.gone
  delivered := orderly.delivered

theorem counted (orderly : Orderly waiters) :
    Orderly { waiters with count := waiters.count + 1 } where
  ids := orderly.ids
  numbers := orderly.numbers
  entries := fun number member => Nat.lt_succ_of_lt (orderly.entries number member)
  gone := fun number member => Nat.lt_succ_of_lt (orderly.gone number member)
  delivered := fun entry member => Nat.lt_succ_of_lt (orderly.delivered entry member)

theorem insert (orderly : Orderly waiters) (free : waiters.pending.entries.get? id = none) :
    Orderly { waiters with
      count := waiters.count + 1
      pending := ⟨waiters.pending.entries.insert id waiters.count⟩ } := by
  have added : (waiters.pending.entries.insert id waiters.count).entries =
      waiters.pending.entries.entries ++ [(id, waiters.count)] :=
    Table.put_of_absent ((Table.find?_eq_none_iff _ _).mp free) _
  refine { orderly.counted with ids := ?_, numbers := ?_, entries := ?_ }
  · exact Table.nodup_keys_insert orderly.ids id _
  · simp only [added, List.map_append, List.map_cons, List.map_nil]
    refine List.nodup_append.mpr ⟨orderly.numbers, by simp, fun number member new same => ?_⟩
    have := orderly.entries number member
    rw [List.mem_singleton] at same
    omega
  · intro number member
    simp only [added, List.map_append, List.map_cons, List.map_nil] at member
    rcases List.mem_append.mp member with earlier | same
    · exact Nat.lt_succ_of_lt (orderly.entries number earlier)
    · rw [List.mem_singleton.mp same]
      exact Nat.lt_succ_self _

theorem perform (orderly : Orderly waiters) (operation : Operation) :
    Orderly (waiters.perform operation) := by
  cases operation with
  | insert id =>
    cases found : waiters.pending.entries.get? id with
    | none =>
      simp only [Waiters.perform, insert_of_free found]
      exact orderly.insert found
    | some other =>
      simp only [Waiters.perform, insert_of_taken found]
      exact orderly.counted
  | drop waiter =>
    simp only [Waiters.perform, drop]
    split
    · next known =>
      refine { orderly with gone := fun number member => ?_ }
      rcases List.mem_cons.mp member with rfl | earlier
      · exact known
      · exact orderly.gone number earlier
    · exact orderly
  | resolve response =>
    cases found : waiters.pending.entries.get? response.id with
    | none =>
      simp only [Waiters.perform, resolve_of_unknown found]
      exact orderly
    | some other =>
      simp only [Waiters.perform, resolve_of_known found]
      exact (orderly.erase response.id).deliver (orderly.number_lt found) response
  | failAll =>
    rw [Waiters.perform, failAll_eq]
    have emptied : Orderly { waiters with pending := .empty } :=
      { orderly with
        ids := List.nodup_nil
        numbers := List.nodup_nil
        entries := fun _ member => absurd member List.not_mem_nil }
    refine emptied.deliverAll fun entry member => ?_
    obtain ⟨⟨id, waiter⟩, held, rfl⟩ := List.mem_map.mp member
    exact orderly.entries waiter (List.mem_map_of_mem held)

end Orderly

theorem orderly_run (operations : List Operation) : Orderly (run operations) := by
  induction operations using List.reverseRecOn with
  | nil =>
    exact ⟨List.nodup_nil, List.nodup_nil, fun _ member => absurd member List.not_mem_nil,
      fun _ member => absurd member List.not_mem_nil,
      fun _ member => absurd member List.not_mem_nil⟩
  | append_singleton operations operation ih =>
    rw [run_append_singleton]
    exact ih.perform operation

theorem count_perform (waiters : Waiters) (operation : Operation) :
    (waiters.perform operation).count = waiters.count + inserted [operation] := by
  cases operation with
  | insert id =>
    cases found : waiters.pending.entries.get? id with
    | none => simp [perform, insert_of_free found, inserted]
    | some other => simp [perform, insert_of_taken found, inserted]
  | drop waiter =>
    simp only [perform, drop, inserted]
    split <;> rfl
  | resolve response =>
    cases found : waiters.pending.entries.get? response.id with
    | none => simp [perform, resolve_of_unknown found, inserted]
    | some other => simp [perform, resolve_of_known found, inserted]
  | failAll => exact (failAll_unchanged waiters).2.1

theorem count_run (operations : List Operation) : (run operations).count = inserted operations := by
  induction operations using List.reverseRecOn with
  | nil => rfl
  | append_singleton operations operation ih =>
    rw [run_append_singleton, count_perform, ih, inserted_append]

/-! ### What a waiter gets -/

/-- When the connection goes, whoever is in flight and listens is told so under its own id. -/
theorem received_failAll (orderly : Orderly waiters)
    (found : waiters.pending.entries.get? id = some waiter) (listening : waiter ∉ waiters.gone) :
    waiters.failAll.received waiter = waiters.received waiter ++ [.terminated id] := by
  rw [failAll_eq]
  refine received_deliverAll_of_mem ?_ ?_ listening
  · simpa [Function.comp_def] using orderly.numbers
  · exact List.mem_map.mpr ⟨_, Table.mem_of_find? found, rfl⟩

/-- A waiter that nothing more can be given to: it has gone, or no entry is left for it. -/
structure Settled (waiters : Waiters) (waiter : Nat) : Prop where
  known : waiter < waiters.count
  apart : waiter ∈ waiters.gone ∨ waiter ∉ waiters.pending.entries.entries.map (·.2)

theorem settled_failAll (known : waiter < waiters.count) : Settled waiters.failAll waiter := by
  obtain ⟨pending, count, -⟩ := failAll_unchanged waiters
  exact ⟨count ▸ known, .inr (by rw [pending]; exact List.not_mem_nil)⟩

namespace Settled

theorem perform (settled : Settled waiters waiter) (operation : Operation) :
    Settled (waiters.perform operation) waiter ∧
      (waiters.perform operation).received waiter = waiters.received waiter := by
  obtain ⟨known, apart⟩ := settled
  cases operation with
  | insert id =>
    cases found : waiters.pending.entries.get? id with
    | none =>
      simp only [Waiters.perform, insert_of_free found]
      refine ⟨⟨Nat.lt_succ_of_lt known, apart.imp_right fun absent member => ?_⟩, rfl⟩
      obtain ⟨entry, held, same⟩ := List.mem_map.mp member
      rcases Table.mem_put held with rfl | earlier
      · exact absurd same (Nat.ne_of_gt known)
      · exact absent (List.mem_map.mpr ⟨entry, earlier, same⟩)
    | some other =>
      simp only [Waiters.perform, insert_of_taken found]
      exact ⟨⟨Nat.lt_succ_of_lt known, apart⟩, rfl⟩
  | drop other =>
    simp only [Waiters.perform, drop]
    split
    · exact ⟨⟨known, apart.imp_left (List.mem_cons_of_mem _)⟩, rfl⟩
    · exact ⟨⟨known, apart⟩, rfl⟩
  | resolve response =>
    cases found : waiters.pending.entries.get? response.id with
    | none =>
      simp only [Waiters.perform, resolve_of_unknown found]
      exact ⟨⟨known, apart⟩, trivial⟩
    | some other =>
      simp only [Waiters.perform, resolve_of_known found]
      refine ⟨⟨by simpa using known, ?_⟩, ?_⟩
      · simp only [deliver_gone, deliver_pending]
        exact apart.imp_right fun absent member =>
          absent ((List.filter_sublist.map _).subset member)
      · rw [received_deliver, if_neg]
        · rfl
        · rintro ⟨rfl, listening⟩
          rcases apart with gone | absent
          · exact listening gone
          · exact absent (List.mem_map.mpr ⟨_, Table.mem_of_find? found, rfl⟩)
  | failAll =>
    refine ⟨settled_failAll known, ?_⟩
    rw [Waiters.perform, failAll_eq]
    rcases apart with gone | absent
    · exact received_deliverAll_of_gone gone
    · exact received_deliverAll_of_notMem (by simpa using absent)

theorem received_foldl (settled : Settled waiters waiter) (operations : List Operation) :
    (operations.foldl Waiters.perform waiters).received waiter = waiters.received waiter := by
  induction operations generalizing waiters with
  | nil => rfl
  | cons operation rest ih =>
    obtain ⟨still, same⟩ := settled.perform operation
    rw [List.foldl_cons, ih still, same]

end Settled

/-- A waiter in flight that listens gets what is due to it. -/
theorem received_foldl_of_listening (orderly : Orderly waiters)
    (found : waiters.pending.entries.get? id = some waiter) (listening : waiter ∉ waiters.gone)
    (operations : List Operation) :
    (operations.foldl perform waiters).received waiter =
      waiters.received waiter ++ due id waiter operations := by
  induction operations generalizing waiters with
  | nil => simp [due]
  | cons operation rest ih =>
    have orderly' := orderly.perform operation
    rw [List.foldl_cons]
    cases operation with
    | insert new =>
      cases free : waiters.pending.entries.get? new with
      | none =>
        simp only [perform, insert_of_free free] at orderly' ⊢
        refine ih orderly' ?_ listening
        have other : new ≠ id := by rintro rfl; rw [found] at free; cases free
        simpa [other] using found
      | some other =>
        simp only [perform, insert_of_taken free] at orderly' ⊢
        exact ih orderly' found listening
    | drop other =>
      by_cases same : other = waiter
      · subst same
        have left : Settled { waiters with gone := other :: waiters.gone } other :=
          ⟨orderly.number_lt found, .inl List.mem_cons_self⟩
        simp only [perform, drop, if_pos (orderly.number_lt found), due, if_true, List.append_nil]
        exact left.received_foldl rest
      · simp only [due, if_neg same]
        simp only [perform, drop] at orderly' ⊢
        split
        · next known =>
          rw [if_pos known] at orderly'
          exact ih orderly' found (by simpa [Ne.symm same] using listening)
        · exact ih orderly found listening
    | resolve response =>
      cases known : waiters.pending.entries.get? response.id with
      | none =>
        have other : response.id ≠ id := by rintro rfl; rw [found] at known; cases known
        simp only [perform, resolve_of_unknown known, due, if_neg other]
        exact ih orderly found listening
      | some other =>
        simp only [perform, resolve_of_known known] at orderly' ⊢
        by_cases same : response.id = id
        · rw [same, found] at known
          cases known
          have answered : Settled (({ waiters with
              pending := ⟨waiters.pending.entries.erase response.id⟩ } : Waiters).deliver waiter
                response) waiter := by
            refine ⟨by simpa using orderly.number_lt found, .inr fun member => ?_⟩
            rw [deliver_pending] at member
            obtain ⟨⟨key, number⟩, held, rfl⟩ := List.mem_map.mp member
            have found' :=
              (Table.mem_entries_iff (Table.nodup_keys_erase orderly.ids _) _ _).mp held
            rw [Table.get?_erase] at found'
            split at found'
            · cases found'
            · next apart => exact apart (same.trans (orderly.same_id found found'))
          rw [answered.received_foldl, received_deliver, if_pos ⟨rfl, listening⟩, due, if_pos same]
          rfl
        · have apart : other ≠ waiter := by
            rintro rfl
            exact same (orderly.same_id known found)
          rw [ih orderly' (by simpa [same] using found) (by simpa using listening),
            received_deliver, if_neg fun both => apart both.1, due, if_neg same]
          rfl
    | failAll =>
      have answered := settled_failAll (orderly.number_lt found)
      rw [perform, answered.received_foldl]
      exact received_failAll orderly found listening

/-! ### The whole history -/

theorem waits_iff_since (operations : List Operation) : Waits operations id waiter ↔
    Since (fun before operation => operation = .insert id ∧ waiter = inserted before ∧
      ((run before).insert id).2 = .ok ()) (Operation.Answers id) operations := by
  constructor
  · rintro ⟨before, after, rfl, numbered, accepted, silent⟩
    exact ⟨before, _, after, rfl, ⟨rfl, numbered, accepted⟩, silent⟩
  · rintro ⟨before, _, after, rfl, ⟨rfl, numbered, accepted⟩, silent⟩
    exact ⟨before, after, rfl, numbered, accepted, silent⟩

theorem waits_append_singleton (operations : List Operation) (operation : Operation) :
    Waits (operations ++ [operation]) id waiter ↔
      Waits operations id waiter ∧ ¬ operation.Answers id ∨
        operation = .insert id ∧ waiter = inserted operations ∧
          ((run operations).insert id).2 = .ok () := by
  rw [waits_iff_since, waits_iff_since, since_append_singleton]

/-- The entries of a table are the waiters that were taken in and not answered since. -/
theorem get?_run (operations : List Operation) (id : RequestId) (waiter : Nat) :
    (run operations).pending.entries.get? id = some waiter ↔ Waits operations id waiter := by
  induction operations using List.reverseRecOn generalizing id waiter with
  | nil =>
    refine iff_of_false (fun found => nomatch found) fun waits => ?_
    exact not_since_nil ((waits_iff_since []).mp waits)
  | append_singleton operations operation ih =>
    rw [waits_append_singleton, ← ih, run_append_singleton]
    cases operation with
    | insert new =>
      cases found : (run operations).pending.entries.get? new with
      | none =>
        by_cases same : new = id
        · subst same
          simp [perform, insert_of_free found, found, count_run, eq_comm]
        · simp [perform, insert_of_free found, same, Operation.Answers]
      | some other =>
        simp only [perform, insert_of_taken found, Operation.Answers, not_false_eq_true, and_true]
        refine ⟨.inl, fun known => known.resolve_right ?_⟩
        rintro ⟨same, -, accepted⟩
        cases same
        simp [insert_of_taken found] at accepted
    | drop other =>
      simp only [perform, drop, Operation.Answers, not_false_eq_true, and_true, reduceCtorEq,
        false_and, or_false]
      split <;> rfl
    | resolve response =>
      cases found : (run operations).pending.entries.get? response.id with
      | none =>
        simp only [perform, resolve_of_unknown found, Operation.Answers, reduceCtorEq, false_and,
          or_false, iff_self_and]
        rintro present rfl
        rw [found] at present
        cases present
      | some other =>
        by_cases same : response.id = id
        · simp [perform, resolve_of_known found, Operation.Answers, same]
        · simp [perform, resolve_of_known found, Operation.Answers, same]
    | failAll =>
      simp [perform, (failAll_unchanged _).1, Pending.empty, Operation.Answers]

theorem get?_run_eq_none {operations : List Operation}
    (nobody : ∀ waiter, ¬ Waits operations id waiter) :
    (run operations).pending.entries.get? id = none :=
  Option.eq_none_iff_forall_ne_some.mpr fun waiter found =>
    nobody waiter ((get?_run operations id waiter).mp found)

theorem exists_insert {number : Nat} {operations : List Operation}
    (given : number < inserted operations) :
    ∃ before id after, operations = before ++ .insert id :: after ∧ number = inserted before := by
  induction operations using List.reverseRecOn with
  | nil => exact absurd given (Nat.not_lt_zero _)
  | append_singleton operations operation ih =>
    by_cases earlier : number < inserted operations
    · obtain ⟨before, id, after, rfl, same⟩ := ih earlier
      exact ⟨before, id, after ++ [operation], by simp, same⟩
    · rw [inserted_append] at given
      cases operation with
      | insert id =>
        refine ⟨operations, id, [], rfl, ?_⟩
        simp only [inserted] at given
        omega
      | drop | resolve | failAll => exact absurd given earlier

theorem received_new (operations : List Operation) :
    (run operations).received (run operations).count = [] := by
  refine List.filterMap_eq_nil_iff.mpr fun entry member => if_neg ?_
  exact Nat.ne_of_lt ((orderly_run operations).delivered entry member)

theorem run_split (before : List Operation) (id : RequestId) (after : List Operation) :
    run (before ++ .insert id :: after) = after.foldl perform ((run before).insert id).1 := by
  simp [run, perform]

theorem received_accepted (before : List Operation) (after : List Operation)
    (accepted : ((run before).insert id).2 = .ok ()) :
    (run (before ++ .insert id :: after)).received (inserted before) =
      due id (inserted before) after := by
  have free := insert_ok_iff.mp accepted
  have orderly := orderly_run before
  rw [run_split, insert_of_free free, ← count_run]
  have listening : (run before).count ∉ (run before).gone := fun member =>
    absurd (orderly.gone _ member) (Nat.lt_irrefl _)
  have given := received_foldl_of_listening (orderly.insert free)
    (Table.get?_insert _ id id _ |>.trans (if_pos rfl)) listening after
  rw [given]
  exact congrArg (· ++ _) (received_new before)

theorem received_rejected (before : List Operation) (after : List Operation)
    (rejected : ((run before).insert id).2 ≠ .ok ()) :
    (run (before ++ .insert id :: after)).received (inserted before) = [] := by
  cases found : (run before).pending.entries.get? id with
  | none => exact absurd (insert_ok_iff.mpr found) rejected
  | some other =>
    have settled : Settled { run before with count := (run before).count + 1 } (run before).count :=
      ⟨Nat.lt_succ_self _, .inr fun member =>
        absurd ((orderly_run before).entries _ member) (Nat.lt_irrefl _)⟩
    rw [run_split, insert_of_taken found, ← count_run, settled.received_foldl]
    exact received_new before

theorem due_length_le_one (id : RequestId) (waiter : Nat) (operations : List Operation) :
    (due id waiter operations).length ≤ 1 := by
  induction operations with
  | nil => simp [due]
  | cons operation rest ih =>
    cases operation with
    | insert => exact ih
    | failAll => simp [due]
    | drop | resolve =>
      rw [due]
      split
      · simp
      · exact ih

theorem received_length_le_one (operations : List Operation) (waiter : Nat) :
    ((run operations).received waiter).length ≤ 1 := by
  by_cases given : waiter < inserted operations
  · obtain ⟨before, id, after, rfl, rfl⟩ := exists_insert given
    by_cases accepted : ((run before).insert id).2 = .ok ()
    · rw [received_accepted before after accepted]
      exact due_length_le_one id _ after
    · simp [received_rejected before after accepted]
  · have nothing : (run operations).received waiter = [] := by
      refine List.filterMap_eq_nil_iff.mpr fun entry member => if_neg ?_
      have := (orderly_run operations).delivered entry member
      rw [count_run] at this
      omega
    simp [nothing]

theorem size_run (operations : List Operation) :
    (run operations).pending.size = {waiter | ∃ id, Waits operations id waiter}.ncard := by
  have orderly := orderly_run operations
  have same : {waiter | ∃ id, Waits operations id waiter} =
      (((run operations).pending.entries.entries.map (·.2)).toFinset : Set Nat) := by
    ext waiter
    simp only [Set.mem_ofPred_eq, ← get?_run, ← Table.mem_entries_iff orderly.ids,
      List.coe_toFinset, List.mem_map, Prod.exists, exists_eq_right]
  rw [same, Set.ncard_coe_finset, List.toFinset_card_of_nodup orderly.numbers, List.length_map]
  rfl

/-- A table of requests in flight keeps its account, whatever is done to it. -/
theorem every_waiter_accounted_for (operations : List Operation) : Accounted operations where
  entries := get?_run operations
  size := size_run operations
  emptied := by
    rw [(failAll_unchanged _).1]
    rfl
  once := received_length_le_one operations
  accepted := by
    rintro before id after rfl
    exact received_accepted before after
  rejected := by
    rintro before id after rfl
    exact received_rejected before after
  free := fun id nobody => insert_ok_iff.mpr (get?_run_eq_none nobody)
  taken := fun _ _ waits => insert_of_taken ((get?_run _ _ _).mpr waits)
  known := fun _ _ waits => by rw [resolve_of_known ((get?_run _ _ _).mpr waits)]
  unknown := fun _ nobody => resolve_of_unknown (get?_run_eq_none nobody)

end Waiters

end LanguageBridge
