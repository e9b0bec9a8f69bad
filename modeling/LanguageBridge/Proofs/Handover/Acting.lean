import LanguageBridge.Proofs.Handover.Accounts
import LanguageBridge.Proofs.Handover.Threads

/-!
Operations keep the accounts: content goes from what was given last to the queue and from there to
what a thread has taken out of it, and only whoever keeps the queue changes it.
-/
namespace LanguageBridge

variable {key : SessionKey} {now later : Narration} {custody after : Custody}
  {operation : Operation} {answer : operation.Answer}

/-- Who is started may take the editor's messages, and has nothing else to do with content. -/
theorem Operation.child_eq (operation : Operation) :
    operation.child = { listens := operation.child.listens } := by
  cases operation with
  | fork work => cases work <;> rfl
  | _ => rfl

/-- Threads are started by operations that say so. -/
theorem Operation.of_starting {index : Nat} {work : Work}
    (starts : operation.starting[index]? = some work) :
    index = 0 ∧ operation.child = work.custody := by
  cases operation with
  | fork other =>
    cases index with
    | zero =>
      cases starts
      exact ⟨rfl, rfl⟩
    | succ index => cases starts
  | _ => cases starts

theorem Operation.child_of_nobody (nobody : operation.starting = []) : operation.child = {} := by
  cases operation with
  | fork work => cases nobody
  | _ => rfl

namespace Custody.Turns

section

variable (turns : custody.Turns key operation answer after)

include turns

theorem holds (keeps : after.keeping ≠ .free) :
    custody.keeping ≠ .free ∧ operation ≠ .release .queue ∨
      operation = .acquire .queue .exclusive := by
  cases turns with
  | apart apart => exact .inl ⟨keeps, by rintro rfl; exact apart rfl⟩
  | _ => simp_all

/-- What a thread knows of the queue it knew before, has just seen, or has just put there. -/
theorem sees {queue : Table SessionKey (List BufferContent)} (sees : after.keeping = .seen queue) :
    (custody.keeping = .seen queue ∧ ∀ changed, operation ≠ .setQueue changed) ∨
      (⟨operation, answer⟩ : Σ operation : Operation, operation.Answer) = ⟨.queue, queue⟩ ∨
        operation = .setQueue queue := by
  cases turns with
  | apart apart => exact .inl ⟨sees, by rintro _ rfl; exact apart⟩
  | _ => simp_all

theorem has_taken (holds : custody.taken ≠ [] → custody.keeping ≠ .free)
    (has : after.taken ≠ []) : after.keeping ≠ .free := by
  cases turns <;> simp_all

theorem has_owed (has : after.owed ≠ []) : custody.owed ≠ [] := by
  cases turns <;> simp_all

/-- Whoever has something to pass on goes on taking the editor's messages. -/
theorem listens_on (has : after.owed ≠ []) : after.listens = custody.listens := by
  cases turns <;> simp_all

theorem failed : after.failed = custody.failed := by
  cases turns <;> rfl

/-- Whoever takes the editor's messages did before, and starts nobody else who does. -/
theorem listens (listens : after.listens = true) :
    custody.listens = true ∧ operation.child.listens = false := by
  cases turns with
  | @apart operation answer apart =>
    refine ⟨listens, ?_⟩
    cases operation with
    | fork work =>
      cases work with
      | serveEditor => exact apart.elim
      | _ => rfl
    | _ => rfl
  | passOn => cases listens
  | _ => exact ⟨listens, rfl⟩

/-- Only who takes the editor's messages starts somebody who does. -/
theorem passes (passes : operation.child.listens = true) : custody.listens = true := by
  cases turns with
  | @apart operation answer apart =>
    cases operation with
    | fork work =>
      cases work with
      | serveEditor => exact apart.elim
      | _ => cases passes
    | _ => cases passes
  | passOn listens => exact listens
  | _ => cases passes

end

/-- After an operation all content is accounted for, and what all threads have together changed as
what the thread has. -/
theorem accounts {taken owed : List BufferContent}
    (turns : custody.Turns key operation answer after)
    (accounts : now.Accounts key taken owed)
    (hands : custody.keeping ≠ .free → custody.taken = taken)
    (owes : custody.listens = true → custody.owed = owed)
    (owing : custody.owed ≠ [] → custody.listens = true)
    (seen : ∀ queue, custody.keeping = .seen queue → now.world.queue = queue)
    (said : later.said = now.said)
    (queue : later.world.queue = operation.queueAfter now.world.queue) :
    ∃ taken' owed', later.Accounts key taken' owed' ∧
      (after.taken = custody.taken ∧ taken' = taken ∨
        custody.taken = taken ∧ taken' = after.taken) ∧
      (after.owed = custody.owed ∧ owed' = owed ∨ custody.owed = owed ∧ owed' = after.owed) := by
  obtain ⟨settled, given, handed, dropped⟩ := accounts
  have same : later.given key = now.given key ∧ later.handed key = now.handed key ∧
      later.dropped key = now.dropped key := by
    simp [Narration.given, Narration.handed, Narration.dropped, said]
  unfold Narration.Accounts
  rw [same.1, same.2.1, same.2.2, given, handed, dropped]
  have unchanged (alike : (operation.queueAfter now.world.queue).get? key =
      now.world.queue.get? key) : later.queued key = now.queued key := by
    rw [Narration.queued, queue, alike, Narration.queued]
  cases turns with
  | apart apart =>
    rw [unchanged]
    · exact ⟨taken, owed, ⟨settled, rfl, rfl, rfl⟩, .inl ⟨rfl, rfl⟩, .inl ⟨rfl, rfl⟩⟩
    · rw [Operation.queueAfter_of_ne]
      rintro changed rfl
      exact apart
  | hold | see | leave | passOn =>
    rw [unchanged rfl]
    exact ⟨taken, owed, ⟨settled, rfl, rfl, rfl⟩, .inl ⟨rfl, rfl⟩, .inl ⟨rfl, rfl⟩⟩
  | @elsewhere old changed sees alike =>
    rw [unchanged (by rw [seen old sees]; exact alike)]
    exact ⟨taken, owed, ⟨settled, rfl, rfl, rfl⟩, .inl ⟨rfl, rfl⟩, .inl ⟨rfl, rfl⟩⟩
  | @lodge old content sees empty mine =>
    have last := owes (owing (by simp [mine]))
    have none_taken := hands (by simp [sees])
    subst last none_taken
    have before : now.queued key = (old.get? key).getD [] := by
      rw [Narration.queued, seen old sees]
    have behind : later.queued key = now.queued key ++ [content] := by
      rw [before, Narration.queued, queue]
      simp [Operation.queueAfter]
    refine ⟨custody.taken, [], ⟨settled, ?_, rfl, rfl⟩, .inl ⟨rfl, rfl⟩, .inr ⟨rfl, rfl⟩⟩
    simp [behind, mine]
  | @take old sees empty =>
    have none_taken := hands (by simp [sees])
    subst none_taken
    have before : now.queued key = (old.get? key).getD [] := by
      rw [Narration.queued, seen old sees]
    have behind : later.queued key = [] := by
      rw [Narration.queued, queue]
      simp [Operation.queueAfter]
    refine ⟨_, owed, ⟨settled, ?_, rfl, rfl⟩, .inr ⟨rfl, rfl⟩, .inl ⟨rfl, rfl⟩⟩
    simp [behind, before, empty]

end Custody.Turns

/-- The narration once a thread has carried out an operation. -/
def Narration.acting (setup : Setup) (now : Narration) (thread : Nat) (world : World)
    (rest : Annotated (Outcome Json)) : Narration :=
  { now with
    world := { world with forked := [] }
    threads := now.threads.set thread rest ++ world.forked.map (Remarked.scriptOf setup) }

/-- The custodies once a thread has carried out an operation. -/
def Custodies.acting (custodies : Custodies) (now : Narration) (thread : Nat)
    (operation : Operation) (after : Custody) : Custodies :=
  custodies.turn now.threads.length thread after operation.child

namespace Custodies

variable {custodies : Custodies} {thread other : Nat}

theorem acting_self : custodies.acting now thread operation after thread = after :=
  turn_self

theorem acting_of_ne (apart : other ≠ thread) (old : other ≠ now.threads.length) :
    custodies.acting now thread operation after other = custodies other := by
  simp [acting, turn, apart, old]

theorem acting_newest (within : thread < now.threads.length) :
    custodies.acting now thread operation after now.threads.length = operation.child := by
  simp [acting, turn, Nat.ne_of_gt within]

end Custodies

namespace Custodies.Sound

variable {setup : Setup} {custodies : Custodies} {thread : Nat} {world : World}

/-- Only whoever keeps the queue changes it. -/
theorem queue_stays (sound : custodies.Sound key now) {other : Nat} (apart : other ≠ thread)
    (keeps : (custodies other).keeping ≠ .free)
    (performed : now.world.perform setup.host thread operation = some (world, answer)) :
    world.queue = now.world.queue := by
  rw [(World.performed performed).queue]
  apply Operation.queueAfter_of_ne
  rintro changed rfl
  simp only [World.perform] at performed
  split at performed
  · rename_i excludes
    exact apart (sound.alone other thread (sound.locked other keeps)
      (by simpa [World.excludes] using excludes))
  · cases performed

/-- Nobody is born before it is started, with nothing but the editor's messages to take. -/
theorem blank (sound : custodies.Sound key now) {γ : Type} (field : Custody → γ)
    (blind : ∀ listens, field { listens := listens } = field {}) :
    field operation.child = field (custodies now.threads.length) := by
  rw [operation.child_eq, blind, sound.unborn _ (Nat.le_refl _)]

/-- But for who takes the editor's messages only the custody changes of the thread that acts. -/
theorem turned (sound : custodies.Sound key now) {γ : Type} (field : Custody → γ)
    (blind : ∀ listens, field { listens := listens } = field {}) (other : Nat) :
    field (custodies.acting now thread operation after other) =
      if other = thread then field after else field (custodies other) :=
  Custodies.turn_eq field (sound.blank field blind) other

/-- All threads do as their custodies allow, those included that were started. -/
theorem obeys_acting (sound : custodies.Sound key now)
    {rest : Annotated (Outcome Json)} (within : thread < now.threads.length)
    (forked : world.forked = operation.starting)
    (onward : rest.Obeys key after fun _ last => last.Rests) (other : Nat)
    (script : Annotated (Outcome Json))
    (there : (now.acting setup thread world rest).threads[other]? = some script) :
    script.Obeys key (custodies.acting now thread operation after other)
      fun _ last => last.Rests := by
  simp only [Narration.acting] at there
  rcases Nat.lt_or_ge other now.threads.length with old | new
  · rw [List.getElem?_append_left (by simpa using old)] at there
    by_cases own : other = thread
    · subst own
      rw [List.getElem?_set_self within] at there
      cases there
      rw [acting_self]
      exact onward
    · rw [List.getElem?_set_ne (Ne.symm own)] at there
      rw [acting_of_ne own (Nat.ne_of_lt old)]
      exact sound.obeys other script there
  · rw [List.getElem?_append_right (by simpa using new), List.length_set, forked,
      List.getElem?_map, Option.map_eq_some_iff] at there
    obtain ⟨work, starts, rfl⟩ := there
    obtain ⟨first, begun⟩ := Operation.of_starting starts
    obtain rfl : other = now.threads.length := by omega
    rw [acting_newest within, begun]
    exact Remarked.scriptOf_obeys setup work

/-- Whoever has the queue in keeping holds its lock. -/
theorem locked_acting (sound : custodies.Sound key now)
    (performed : now.world.perform setup.host thread operation = some (world, answer))
    (turns : (custodies thread).Turns key operation answer after) (other : Nat)
    (keeps : (custodies.acting now thread operation after other).keeping ≠ .free) :
    ⟨.queue, .exclusive, other⟩ ∈ world.held := by
  rw [sound.turned Custody.keeping fun _ => rfl] at keeps
  split at keeps
  · rename_i own
    subst own
    rcases turns.holds keeps with ⟨before, stays⟩ | rfl
    · exact World.hold_stays performed (sound.locked other before) (.inr stays)
    · rw [(World.performed performed).held]
      exact List.mem_cons_self
  · rename_i apart
    exact World.hold_stays performed (sound.locked other keeps) (.inl apart)

/-- Nobody comes to hold the queue beside somebody else. -/
theorem alone_acting (sound : custodies.Sound key now)
    (performed : now.world.perform setup.host thread operation = some (world, answer))
    {first second : Nat} (one : ⟨.queue, .exclusive, first⟩ ∈ world.held)
    (two : ⟨.queue, .exclusive, second⟩ ∈ world.held) : first = second := by
  rcases World.hold_cases performed one with former | ⟨_, mine, others⟩ <;>
    rcases World.hold_cases performed two with latter | ⟨_, mine', others'⟩
  · exact sound.alone first second former latter
  · exact absurd (others' _ former rfl).1 (by simp)
  · exact absurd (others _ latter rfl).1 (by simp)
  · exact mine.trans mine'.symm

/-- What a thread knows of the queue is what is in it. -/
theorem seen_acting (sound : custodies.Sound key now)
    (performed : now.world.perform setup.host thread operation = some (world, answer))
    (turns : (custodies thread).Turns key operation answer after) {other : Nat}
    {queue : Table SessionKey (List BufferContent)}
    (sees : (custodies.acting now thread operation after other).keeping = .seen queue) :
    world.queue = queue := by
  have effect := (World.performed performed).queue
  rw [sound.turned Custody.keeping fun _ => rfl] at sees
  split at sees
  · rcases turns.sees sees with ⟨before, stays⟩ | same | rfl
    · rw [effect, Operation.queueAfter_of_ne stays]
      exact sound.seen thread queue before
    · cases same
      simp only [World.perform] at performed
      split at performed <;> cases performed
      rfl
    · rw [effect]
      rfl
  · rename_i apart
    rw [sound.queue_stays apart (by simp [sees]) performed]
    exact sound.seen other queue sees

/-- Still one thread at most takes the editor's messages: who does so did before, or was started by
the one that did. -/
theorem listener_acting (sound : custodies.Sound key now) (within : thread < now.threads.length)
    (turns : (custodies thread).Turns key operation answer after) {first second : Nat}
    (one : (custodies.acting now thread operation after first).listens = true)
    (two : (custodies.acting now thread operation after second).listens = true) :
    first = second := by
  have before (other : Nat)
      (listens : (custodies.acting now thread operation after other).listens = true) :
      (custodies other).listens = true ∨ other = now.threads.length ∧
        (custodies thread).listens = true ∧ operation.child.listens = true := by
    by_cases own : other = thread
    · rw [own, acting_self] at listens
      exact .inl (own ▸ (turns.listens listens).1)
    · by_cases last : other = now.threads.length
      · rw [last, acting_newest within] at listens
        exact .inr ⟨last, turns.passes listens, listens⟩
      · rw [acting_of_ne own last] at listens
        exact .inl listens
  -- a thread that starts another to take the messages does not take them any more
  have apart (other : Nat)
      (listens : (custodies.acting now thread operation after other).listens = true)
      (was : (custodies other).listens = true) (gives : (custodies thread).listens = true)
      (begins : operation.child.listens = true) : False := by
    rw [sound.listener other thread was gives, acting_self] at listens
    rw [(turns.listens listens).2] at begins
    cases begins
  rcases before first one with was | ⟨last, gives, begins⟩ <;>
    rcases before second two with was' | ⟨last', gives', begins'⟩
  · exact sound.listener first second was was'
  · exact (apart first one was gives' begins').elim
  · exact (apart second two was' gives begins).elim
  · exact last.trans last'.symm

/-- The threads stand soundly after an operation of one of them. -/
theorem act (sound : custodies.Sound key now) {next : operation.Answer → Annotated (Outcome Json)}
    (here : now.threads[thread]? = some (.step operation next))
    (performed : now.world.perform setup.host thread operation = some (world, answer)) :
    ∃ later : Custodies, later.Sound key (now.acting setup thread world (next answer)) := by
  obtain ⟨after, turns, onward⟩ := sound.obeys thread _ here answer
  have within := (List.getElem?_eq_some_iff.mp here).1
  have forked : world.forked = operation.starting := by
    rw [(World.performed performed).forked, sound.forked, List.nil_append]
  have locked := sound.locked_acting performed turns
  refine ⟨custodies.acting now thread operation after, ?_⟩
  exact {
    obeys := sound.obeys_acting within forked onward
    unborn := by
      intro other beyond
      simp only [Narration.acting, List.length_append, List.length_set, List.length_map,
        forked] at beyond
      by_cases last : other = now.threads.length
      · have nobody : operation.starting = [] := List.eq_nil_of_length_eq_zero (by omega)
        rw [last, acting_newest within, Operation.child_of_nobody nobody]
      · rw [acting_of_ne (by omega) last]
        exact sound.unborn other (by omega)
    forked := rfl
    locked := locked
    alone := fun _ _ => sound.alone_acting performed
    seen := fun _ _ => sound.seen_acting performed turns
    taken := by
      intro other has
      rw [sound.turned Custody.taken fun _ => rfl] at has
      rw [sound.turned Custody.keeping fun _ => rfl]
      split at has
      · rename_i own
        rw [if_pos own]
        exact turns.has_taken (sound.taken thread) has
      · rename_i apart
        rw [if_neg apart]
        exact sound.taken other has
    owed := by
      intro other has
      rw [sound.turned Custody.owed fun _ => rfl] at has
      split at has
      · rename_i own
        rw [own, acting_self, turns.listens_on has]
        exact sound.owed thread (turns.has_owed has)
      · rename_i apart
        have old : other ≠ now.threads.length := by
          rintro rfl
          exact has (by rw [sound.unborn _ (Nat.le_refl _)])
        rw [acting_of_ne apart old]
        exact sound.owed other has
    listener := fun _ _ => sound.listener_acting within turns
    accounts := by
      obtain ⟨taken, owed, hasTaken, hasOwed, accounts⟩ := sound.accounts
      obtain ⟨left, due, kept, follows, pursues⟩ := turns.accounts accounts
        (sound.hands hasTaken) (sound.owes hasOwed) (sound.owed thread) (sound.seen thread)
        (rfl : (now.acting setup thread world (next answer)).said = now.said)
        (World.performed performed).queue
      exact ⟨left, due,
        Custodies.sole_turn Custody.taken (sound.blank _ fun _ => rfl) hasTaken follows,
        Custodies.sole_turn Custody.owed (sound.blank _ fun _ => rfl) hasOwed pursues, kept⟩
    failed := by
      intro other fails
      rw [sound.turned Custody.failed fun _ => rfl] at fails
      split at fails
      · rename_i own
        rw [turns.failed] at fails
        exact own ▸ sound.failed thread fails
      · exact sound.failed other fails
    blamed := sound.blamed }

/-- Ends that are made known and what the surroundings do are no matter of content. -/
theorem idle (sound : custodies.Sound key now) (forked : world.forked = now.world.forked)
    (held : world.held = now.world.held) (queue : world.queue = now.world.queue) :
    custodies.Sound key { now with world } where
  obeys := sound.obeys
  unborn := sound.unborn
  forked := forked.trans sound.forked
  locked := fun thread keeps => held ▸ sound.locked thread keeps
  alone := fun first second one two => sound.alone first second (held ▸ one) (held ▸ two)
  seen := fun thread sight sees => queue.trans (sound.seen thread sight sees)
  taken := sound.taken
  owed := sound.owed
  listener := sound.listener
  accounts := by
    obtain ⟨taken, owed, hasTaken, hasOwed, settled, given, handed, dropped⟩ := sound.accounts
    refine ⟨taken, owed, hasTaken, hasOwed, settled, ?_, handed, dropped⟩
    have same : Narration.queued key { now with world } = now.queued key := by
      rw [Narration.queued, queue, Narration.queued]
    rw [same]
    exact given
  failed := sound.failed
  blamed := sound.blamed

/-- When the program starts, the first thread takes the editor's messages. -/
theorem begin (setup : Setup) (tree : FileTree) (key : SessionKey) :
    Custodies.Sound key (fun thread => if thread = 0 then { listens := true } else {})
      (Narration.begin setup tree) where
  obeys := by
    intro thread script there
    cases thread with
    | zero =>
      cases there
      exact Remarked.scriptOf_obeys setup .serveEditor
    | succ thread => cases there
  unborn := fun thread beyond => if_neg (Nat.ne_of_gt beyond)
  forked := rfl
  locked := fun thread keeps => by
    split at keeps <;> exact absurd rfl keeps
  alone := fun _ _ member => by cases member
  seen := fun thread queue sees => by
    split at sees <;> cases sees
  taken := fun thread has => by
    split at has <;> exact absurd rfl has
  owed := fun thread has => by
    split at has <;> exact absurd rfl has
  listener := fun first second one two => by
    split at one <;> split at two <;> simp_all
  accounts := by
    refine ⟨[], [], ⟨0, rfl, fun thread apart => ?_⟩, ⟨0, rfl, fun thread apart => ?_⟩,
      [], rfl, rfl, rfl⟩ <;> simp [apart]
  failed := fun thread fails => by
    split at fails <;> cases fails
  blamed := fun before thread contents after told => by
    cases before <;> cases told

/-- At every moment of a narration the threads stand soundly. -/
theorem of_tells {tree : FileTree} (tells : Narration.Tells setup tree now) (key : SessionKey) :
    ∃ custodies : Custodies, custodies.Sound key now := by
  induction tells with
  | refl => exact ⟨_, begin setup tree key⟩
  | tail _ goes ih =>
    obtain ⟨custodies, sound⟩ := ih
    cases goes with
    | remark here => exact sound.remark here
    | step here performed => exact sound.act here performed
    | finish here unknown => exact ⟨custodies, sound.idle rfl rfl rfl⟩
    | happen happening =>
      obtain ⟨held, _, queue, _⟩ := World.after_happening (Narration.world _) happening
      exact ⟨custodies, sound.idle (World.after_forked _ happening) held queue⟩

end Custodies.Sound

end LanguageBridge
