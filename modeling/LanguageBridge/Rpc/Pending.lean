import LanguageBridge.Rpc.Message
import LanguageBridge.Table

/-!
Requests in flight. Every request waits under its id; its entry goes the moment it is answered, so
that it is answered once at most.
-/
namespace LanguageBridge

/-- The waiters of requests in flight, by id. -/
structure Pending (ω : Type) where
  entries : Table RequestId ω := ∅

namespace Pending

variable {ω : Type}

/-- Nothing in flight. -/
def empty : Pending ω := ⟨∅⟩

instance : Inhabited (Pending ω) := ⟨empty⟩

/-- How many requests are in flight. -/
def size (pending : Pending ω) : Nat := pending.entries.entries.length

/-- Takes in a waiter; its id must not be in flight. -/
def insert (pending : Pending ω) (id : RequestId) (waiter : ω) : Outcome (Pending ω) :=
  if pending.entries.contains id then
    .error (.violation s!"request id {id.described} already in flight")
  else .ok ⟨pending.entries.insert id waiter⟩

/-- Takes out the waiter that a response is for. -/
def resolve (pending : Pending ω) (response : Response) : Outcome (Pending ω × ω) :=
  match pending.entries.get? response.id with
  | some waiter => .ok (⟨pending.entries.erase response.id⟩, waiter)
  | none => .error (.violation s!"response for unknown id {response.id.described}")

theorem insert_of_absent {pending : Pending ω} {id : RequestId}
    (absent : pending.entries.get? id = none) (waiter : ω) :
    pending.insert id waiter = .ok ⟨pending.entries.insert id waiter⟩ := by
  simp [insert, Table.contains, absent]

/-- What each waiter gets when the connection is gone; nothing stays in flight. -/
def failAll (pending : Pending ω) : Pending ω × List (ω × Response) :=
  (empty, pending.entries.entries.map fun (id, waiter) => (waiter, Response.terminated id))

end Pending

/-- Requests in flight together with those who wait: waiters are numbered as they come, some stop
listening, and what the others were given is kept. -/
structure Waiters where
  pending : Pending Nat := .empty
  count : Nat := 0
  gone : List Nat := []
  delivered : List (Nat × Response) := []

namespace Waiters

instance : Inhabited Waiters := ⟨{}⟩

/-- Gives a waiter its response, if it still listens. -/
def deliver (waiters : Waiters) (waiter : Nat) (response : Response) : Waiters :=
  if waiters.gone.contains waiter then waiters
  else { waiters with delivered := waiters.delivered ++ [(waiter, response)] }

/-- A new waiter for an id; it has a number even when the id is refused. -/
def insert (waiters : Waiters) (id : RequestId) : Waiters × Outcome Unit :=
  let waiters' := { waiters with count := waiters.count + 1 }
  match waiters.pending.insert id waiters.count with
  | .ok pending => ({ waiters' with pending }, .ok ())
  | .error failure => (waiters', .error failure)

/-- A waiter stops listening. -/
def drop (waiters : Waiters) (waiter : Nat) : Waiters :=
  if waiter < waiters.count then { waiters with gone := waiter :: waiters.gone } else waiters

/-- A response comes in. -/
def resolve (waiters : Waiters) (response : Response) : Waiters × Outcome Unit :=
  match waiters.pending.resolve response with
  | .ok (pending, waiter) => (({ waiters with pending } : Waiters).deliver waiter response, .ok ())
  | .error failure => (waiters, .error failure)

/-- The connection is gone. -/
def failAll (waiters : Waiters) : Waiters :=
  let (pending, given) := waiters.pending.failAll
  given.foldl (fun waiters entry => waiters.deliver entry.1 entry.2) { waiters with pending }

end Waiters

end LanguageBridge
