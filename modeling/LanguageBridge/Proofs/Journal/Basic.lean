import LanguageBridge.Proofs.Script.Courses
import LanguageBridge.Proofs.Script.Acts
import LanguageBridge.Proofs.Script.Performed

/-!
Journals of the program: all that its threads did and all that happened to it, in order. What a
course has come to can be read off its journal: what was said and to whom, what came and was taken,
which threads there are and how far each has got.
-/
namespace LanguageBridge

/-- One entry of a journal: a thread did something, a thread made known that it is done, or the
surroundings did something. -/
inductive Journal.Entry
  | did (thread : Nat) (act : Act)
  | ended (thread : Nat)
  | happened (happening : Happening)

/-- All that happened, in order. -/
abbrev Journal := List Journal.Entry

/-- A reply to a peer, with the id of the call that it answers. -/
def Sent.reply? (peer : Peer) : Sent → Option (RequestId × Json)
  | .reply other id result => if other = peer then some (id, result) else none
  | _ => none

/-- The replies that a peer has got, in order. -/
def World.repliesTo (world : World) (peer : Peer) : List (RequestId × Json) :=
  world.traffic.filterMap (Sent.reply? peer)

namespace Act

/-- What was said by an act; nothing when nobody was there to hear it. -/
def sent? : Act → Option Sent
  | ⟨.notify peer method params, answer⟩ =>
    match (answer : Outcome Unit) with
    | .ok _ => some (.notification peer method (Params.ofJson params))
    | .error _ => none
  | ⟨.reply peer id result, answer⟩ =>
    match (answer : Outcome Unit) with
    | .ok _ => some (.reply peer id result)
    | .error _ => none
  | ⟨.call peer method params, answer⟩ =>
    match (answer : Outcome Nat) with
    | .ok ticket => some (.call peer ticket method (Params.ofJson params))
    | .error _ => none
  | _ => none

/-- The peer that was not there to hear what an act wanted to say. -/
def unheard? : Act → Option Peer
  | ⟨.notify peer _ _, answer⟩ =>
    match (answer : Outcome Unit) with
    | .ok _ => none
    | .error _ => some peer
  | ⟨.reply peer _ _, answer⟩ =>
    match (answer : Outcome Unit) with
    | .ok _ => none
    | .error _ => some peer
  | ⟨.call peer _ _, answer⟩ =>
    match (answer : Outcome Nat) with
    | .ok _ => none
    | .error _ => some peer
  | _ => none

/-- The message of a peer that an act took. -/
def received? (peer : Peer) : Act → Option Message
  | ⟨.receive other, answer⟩ => if other = peer then (answer : Option Message) else none
  | _ => none

/-- The reply that an act gave to a peer. -/
def reply? (peer : Peer) (act : Act) : Option (RequestId × Json) := act.sent?.bind (Sent.reply? peer)

/-- The work that an act gave to a new thread, and the thread's number. -/
def forked? : Act → Option (Work × Nat)
  | ⟨.fork work, answer⟩ => some (work, (answer : Nat))
  | _ => none

/-- The server that an act started. -/
def spawned? : Act → Option ServerId
  | ⟨.spawn .., answer⟩ => (answer : Except SystemError ServerId).toOption
  | _ => none

/-- The floating preview after an act. -/
def floatAfter (before : FloatingWindow) : Act → FloatingWindow
  | ⟨.floatEvent event, _⟩ => (before.handle event).1
  | ⟨.reveal anchor surface, _⟩ => (before.reveal anchor surface).1
  | _ => before

end Act

/-- The message of a peer that came. -/
def Happening.delivered? (peer : Peer) : Happening → Option Message
  | .deliver other message => if other = peer then some message else none
  | _ => none

/-- How many servers of a language have been started. -/
def World.started (world : World) (language : String) : Nat :=
  (world.connected.get? language).getD 0

theorem World.started_connect (world : World) (language other : String) :
    (world.connect language).1.started other =
      if language = other then world.started other + 1 else world.started other := by
  by_cases same : language = other
  · subst same
    simp [started, connect]
  · simp [started, connect, same]

theorem World.started_le_connect (world : World) (language other : String) :
    world.started other ≤ (world.connect language).1.started other := by
  rw [started_connect]
  split <;> omega

/-- What an act does to the count of threads, the floating preview and the count of servers. -/
structure World.Moved (act : Act) (before after : World) : Prop where
  begun : after.begun = before.begun + act.operation.starting.length
  float : after.float = act.floatAfter before.float
  sent : after.traffic = before.traffic ++ act.sent?.toList
  started : ∀ language, before.started language ≤ after.started language
  spawned : ∀ server, act.spawned? = some server →
    before.started server.language < server.number ∧
      server.number ≤ after.started server.language

section Performed

variable {host : Host} {thread : Nat} {operation : Operation} {answer : operation.Answer}
  {before after : World}

theorem World.moved (performed : before.perform host thread operation = some (after, answer)) :
    World.Moved ⟨operation, answer⟩ before after := by
  cases operation with
  | acquire | workspace | setWorkspace | queue | setQueue | join | dropIfDead =>
    simp only [perform] at performed
    split at performed <;> cases performed <;>
      exact ⟨rfl, rfl, (List.append_nil _).symm, fun _ => Nat.le_refl _, fun _ new => by cases new⟩
  | spawn language =>
    simp only [perform] at performed
    split at performed <;> cases performed
    · exact ⟨rfl, rfl, (List.append_nil _).symm, fun _ => Nat.le_refl _, fun _ new => by cases new⟩
    · refine ⟨rfl, rfl, (List.append_nil _).symm, started_le_connect _ language, ?_⟩
      intro server new
      cases new
      have counted := started_connect before language language
      rw [if_pos rfl] at counted
      exact ⟨Nat.lt_succ_self _, Nat.le_of_eq counted.symm⟩
  | connect language =>
    cases performed
    exact ⟨rfl, rfl, (List.append_nil _).symm, started_le_connect _ language,
      fun _ new => by cases new⟩
  | receive peer =>
    simp only [perform, receive] at performed
    split at performed
    · cases performed
      exact ⟨rfl, rfl, (List.append_nil _).symm, fun _ => Nat.le_refl _, fun _ new => by cases new⟩
    · split at performed <;> cases performed
      exact ⟨rfl, rfl, (List.append_nil _).symm, fun _ => Nat.le_refl _, fun _ new => by cases new⟩
  | notify peer | reply peer | call peer =>
    simp only [perform, say, Sent.peer] at performed
    by_cases alive : before.isAlive peer = true
    · simp only [alive, if_true] at performed
      cases performed
      exact ⟨rfl, rfl, rfl, fun _ => Nat.le_refl _, fun _ new => by cases new⟩
    · simp only [alive] at performed
      cases performed
      exact ⟨rfl, rfl, (List.append_nil _).symm, fun _ => Nat.le_refl _, fun _ new => by cases new⟩
  | await ticket =>
    obtain ⟨outcome, _, same⟩ := Option.map_eq_some_iff.mp performed
    cases same
    exact ⟨rfl, rfl, (List.append_nil _).symm, fun _ => Nat.le_refl _, fun _ new => by cases new⟩
  | _ =>
    cases performed
    exact ⟨rfl, rfl, (List.append_nil _).symm, fun _ => Nat.le_refl _, fun _ new => by cases new⟩

/-- Only peers that are gone do not hear what they are told. -/
theorem World.dead_of_unheard {peer : Peer}
    (performed : before.perform host thread operation = some (after, answer))
    (unheard : Act.unheard? ⟨operation, answer⟩ = some peer) : before.isAlive peer = false := by
  cases operation with
  | notify other | reply other | call other =>
    simp only [perform, say, Sent.peer] at performed
    by_cases alive : before.isAlive other = true
    · simp only [alive, if_true] at performed
      cases performed
      cases unheard
    · simp only [alive] at performed
      cases performed
      cases unheard
      exact Bool.eq_false_iff.mpr alive
  | _ => cases unheard

theorem World.answered_of_await {ticket : Nat} {outcome : Outcome Json}
    (performed : before.perform host thread (.await ticket) = some (after, outcome)) :
    before.answers.get? ticket = some outcome := by
  obtain ⟨given, found, same⟩ := Option.map_eq_some_iff.mp performed
  cases same
  exact found

/-- The messages of a peer that wait, once an act has taken what it takes. -/
theorem World.waiting_eq_received
    (performed : before.perform host thread operation = some (after, answer)) (peer : Peer) :
    before.waiting peer = (Act.received? peer ⟨operation, answer⟩).toList ++ after.waiting peer := by
  rw [(World.performed performed).waiting]
  cases operation with
  | receive other =>
    by_cases same : other = peer
    · subst same
      simp only [perform, receive] at performed
      split at performed
      · rename_i there
        cases performed
        simp [Operation.waitingAfter, Act.received?, waiting, there]
      · rename_i nothing
        split at performed <;> cases performed
        simp [Operation.waitingAfter, Act.received?, waiting, nothing]
    · simp [Operation.waitingAfter, Act.received?, same]
  | _ => rfl

end Performed

theorem World.after_float (world : World) (happening : Happening) :
    (world.after happening).float = world.float := by
  cases happening with
  | answer =>
    simp only [World.after, System.occur]
    split <;> rfl
  | _ => rfl

theorem World.after_begun (world : World) (happening : Happening) :
    (world.after happening).begun = world.begun := by
  cases happening with
  | answer =>
    simp only [World.after, System.occur]
    split <;> rfl
  | _ => rfl

theorem World.waiting_eq_delivered (world : World) (happening : Happening) (peer : Peer) :
    (world.after happening).waiting peer =
      world.waiting peer ++ (happening.delivered? peer).toList := by
  rw [World.waiting_after]
  cases happening with
  | deliver other message =>
    by_cases same : other = peer <;> simp [Happening.delivered?, same]
  | _ => rfl

namespace Journal

variable {journal : Journal} {entry : Entry} {thread : Nat} {peer : Peer}

/-- What some of the threads did, in order. -/
def actsBy (journal : Journal) (mine : Nat → Bool) : List Act :=
  journal.filterMap fun
    | .did thread act => if mine thread then some act else none
    | _ => none

/-- What a thread did. -/
def actsOf (journal : Journal) (thread : Nat) : List Act := journal.actsBy (· == thread)

/-- What was done by any thread. -/
def acts (journal : Journal) : List Act := journal.actsBy fun _ => true

/-- The work of each thread, by number: the first serves the editor, the others were forked. -/
def works (journal : Journal) : List Work :=
  .serveEditor :: journal.acts.filterMap fun act => act.forked?.map (·.1)

/-- Every action has come to its end. -/
def ActionsDone (journal : Journal) (now : System) : Prop :=
  ∀ (thread : Nat) (id : Option RequestId) (method : String) (params : Json),
    journal.works[thread]? = some (.runAction id method params) →
      ∃ outcome, now.threads[thread]? = some (.done outcome)

/-- Whether the threads of all actions are done. -/
def actionsEnded (journal : Journal) (now : System) : Bool :=
  (journal.works.zip now.threads).all fun
    | (.runAction .., .done _) => true
    | (.runAction .., _) => false
    | _ => true

/-- The messages of a peer that came. -/
def delivered (journal : Journal) (peer : Peer) : List Message :=
  journal.filterMap fun
    | .happened happening => happening.delivered? peer
    | _ => none

/-- The messages of a peer that were taken. -/
def received (journal : Journal) (peer : Peer) : List Message :=
  journal.acts.filterMap (Act.received? peer)

@[simp]
theorem actsBy_append (first second : Journal) (mine : Nat → Bool) :
    actsBy (first ++ second) mine = actsBy first mine ++ actsBy second mine :=
  List.filterMap_append

@[simp] theorem actsBy_nil (mine : Nat → Bool) : actsBy [] mine = [] := rfl

@[simp]
theorem actsBy_did (thread : Nat) (act : Act) (mine : Nat → Bool) :
    actsBy [.did thread act] mine = if mine thread then [act] else [] := by
  by_cases own : mine thread <;> simp [actsBy, own]

@[simp]
theorem actsBy_ended (thread : Nat) (mine : Nat → Bool) : actsBy [.ended thread] mine = [] := rfl

@[simp]
theorem actsBy_happened (happening : Happening) (mine : Nat → Bool) :
    actsBy [.happened happening] mine = [] := rfl

theorem mem_actsBy {mine : Nat → Bool} {act : Act} :
    act ∈ journal.actsBy mine ↔ ∃ thread, mine thread = true ∧ .did thread act ∈ journal := by
  simp only [actsBy, List.mem_filterMap]
  constructor
  · rintro ⟨entry, member, same⟩
    cases entry with
    | did thread other =>
      dsimp only at same
      split at same
      · rename_i own
        cases same
        exact ⟨thread, own, member⟩
      · cases same
    | ended | happened => cases same
  · rintro ⟨thread, own, member⟩
    exact ⟨_, member, by simp [own]⟩

theorem mem_acts_of_mem_actsOf {act : Act} (member : act ∈ journal.actsOf thread) :
    act ∈ journal.acts := by
  obtain ⟨mover, _, done⟩ := mem_actsBy.mp member
  exact mem_actsBy.mpr ⟨mover, rfl, done⟩

theorem actsBy_congr {mine other : Nat → Bool}
    (same : ∀ thread act, .did thread act ∈ journal → mine thread = other thread) :
    journal.actsBy mine = journal.actsBy other := by
  induction journal with
  | nil => rfl
  | cons entry rest ih =>
    have later := ih fun thread act member => same thread act (List.mem_cons_of_mem _ member)
    cases entry with
    | did thread act =>
      have here := same thread act List.mem_cons_self
      simp only [actsBy, List.filterMap_cons, here] at later ⊢
      rw [later]
    | ended | happened => exact later

/-- What can be read off some acts can be read off those of the threads that they are of. -/
theorem filterMap_acts {β : Type} {read : Act → Option β} {mine : Nat → Bool}
    (own : ∀ thread act, .did thread act ∈ journal → (read act).isSome → mine thread = true) :
    journal.acts.filterMap read = (journal.actsBy mine).filterMap read := by
  induction journal with
  | nil => rfl
  | cons entry rest ih =>
    have later := ih fun thread act member => own thread act (List.mem_cons_of_mem _ member)
    cases entry with
    | did thread act =>
      rw [← List.singleton_append, acts, actsBy_append, actsBy_append, List.filterMap_append,
        List.filterMap_append, ← later, actsBy_did, actsBy_did, if_pos rfl]
      congr 1
      by_cases known : mine thread = true
      · rw [if_pos known]
      · rw [if_neg known, List.filterMap_nil, List.filterMap_eq_nil_iff]
        intro same member
        obtain rfl := List.mem_singleton.mp member
        rw [Option.eq_none_iff_forall_ne_some]
        exact fun value found => known (own thread same List.mem_cons_self (by simp [found]))
    | ended | happened => exact later

/-- What threads of two kinds did is what those of the one did and what those of the other did, in
some order. -/
theorem actsBy_or_perm {mine other : Nat → Bool}
    (apart : ∀ thread, mine thread = true → other thread = false) :
    (journal.actsBy fun thread => mine thread || other thread).Perm
      (journal.actsBy mine ++ journal.actsBy other) := by
  induction journal with
  | nil => exact .nil
  | cons entry rest ih =>
    cases entry with
    | ended | happened => exact ih
    | did thread act =>
      simp only [actsBy, List.filterMap_cons] at ih ⊢
      by_cases own : mine thread = true
      · simpa [own, apart thread own] using ih
      · by_cases theirs : other thread = true
        · simpa [own, theirs] using (ih.cons act).trans List.perm_middle.symm
        · simpa [own, theirs] using ih

/-- What some threads did is what each of them did, in some order. -/
theorem actsBy_mem_perm {threads : List Nat} (once : threads.Nodup) :
    (journal.actsBy fun thread => threads.contains thread).Perm
      (threads.flatMap journal.actsOf) := by
  induction threads with
  | nil =>
    have nothing : journal.actsBy (fun thread => [].contains thread) = [] :=
      List.eq_nil_iff_forall_not_mem.mpr fun act member => by
        obtain ⟨_, impossible, _⟩ := mem_actsBy.mp member
        cases impossible
    rw [nothing]
    exact .nil
  | cons first rest ih =>
    obtain ⟨absent, onceMore⟩ := List.nodup_cons.mp once
    have apart (thread : Nat) (same : (thread == first) = true) :
        rest.contains thread = false := by
      rw [beq_iff_eq.mp same]
      simpa using absent
    have split : (journal.actsBy fun thread => thread == first || rest.contains thread).Perm
        (journal.actsOf first ++ journal.actsBy fun thread => rest.contains thread) :=
      actsBy_or_perm apart
    have whole : (fun thread => (first :: rest).contains thread) =
        fun thread => thread == first || rest.contains thread := by
      funext thread
      rw [List.contains_cons]
    rw [whole, List.flatMap_cons]
    exact split.trans ((ih onceMore).append_left _)

@[simp] theorem actsOf_nil (thread : Nat) : actsOf [] thread = [] := rfl

@[simp]
theorem actsOf_did_self (thread : Nat) (act : Act) :
    actsOf (journal ++ [.did thread act]) thread = journal.actsOf thread ++ [act] := by
  simp [actsOf]

theorem actsOf_did_of_ne {other : Nat} (apart : other ≠ thread) (act : Act) :
    actsOf (journal ++ [.did thread act]) other = journal.actsOf other := by
  simp [actsOf, apart.symm]

@[simp]
theorem actsOf_ended (other : Nat) :
    actsOf (journal ++ [.ended thread]) other = journal.actsOf other := by
  simp [actsOf]

@[simp]
theorem actsOf_happened (happening : Happening) (other : Nat) :
    actsOf (journal ++ [.happened happening]) other = journal.actsOf other := by
  simp [actsOf]

@[simp]
theorem acts_did (act : Act) : acts (journal ++ [.did thread act]) = journal.acts ++ [act] := by
  simp [acts]

@[simp] theorem acts_ended : acts (journal ++ [.ended thread]) = journal.acts := by simp [acts]

@[simp]
theorem acts_happened (happening : Happening) :
    acts (journal ++ [.happened happening]) = journal.acts := by
  simp [acts]

@[simp]
theorem works_did (act : Act) :
    works (journal ++ [.did thread act]) =
      journal.works ++ (act.forked?.map (·.1)).toList := by
  cases forked : act.forked? <;> simp [works, forked]

@[simp] theorem works_ended : works (journal ++ [.ended thread]) = journal.works := by simp [works]

@[simp]
theorem works_happened (happening : Happening) :
    works (journal ++ [.happened happening]) = journal.works := by
  simp [works]

@[simp]
theorem received_did (act : Act) (peer : Peer) :
    received (journal ++ [.did thread act]) peer =
      journal.received peer ++ (act.received? peer).toList := by
  cases taken : act.received? peer <;> simp [received, taken]

@[simp]
theorem delivered_did (act : Act) (peer : Peer) :
    delivered (journal ++ [.did thread act]) peer = journal.delivered peer := by
  simp [delivered]

@[simp]
theorem delivered_ended (peer : Peer) :
    delivered (journal ++ [.ended thread]) peer = journal.delivered peer := by
  simp [delivered]

@[simp]
theorem delivered_happened (happening : Happening) (peer : Peer) :
    delivered (journal ++ [.happened happening]) peer =
      journal.delivered peer ++ (happening.delivered? peer).toList := by
  cases came : happening.delivered? peer <;> simp [delivered, came]

end Journal

end LanguageBridge
