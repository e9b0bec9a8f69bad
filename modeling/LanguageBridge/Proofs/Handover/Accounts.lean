import LanguageBridge.Proofs.Handover.Custody
import LanguageBridge.Proofs.Handover.Program
import LanguageBridge.Proofs.Script.Courses
import LanguageBridge.Proofs.Script.Performed
import LanguageBridge.Proofs.Script.Runs

/-!
Courses of the program narrated: the threads make their remarks on the way, in any order that their
steps allow. Narrations without remarks are courses of the program, and every course is narrated.
-/
namespace LanguageBridge

/-- The annotated threads, the world, and what was remarked so far by which thread. -/
structure Narration where
  world : World := {}
  threads : List (Annotated (Outcome Json)) := []
  said : List (Nat × Remark) := []

namespace Narration

/-- The threads without their remarks. -/
def system (now : Narration) : System where
  world := now.world
  threads := now.threads.map Annotated.erase

/-- A thread makes its next remark, takes a step or makes its end known, or the surroundings do
something. -/
inductive Goes (setup : Setup) (now : Narration) : Narration → Prop
  | remark {thread : Nat} {said : Remark} {rest : Annotated (Outcome Json)}
      (here : now.threads[thread]? = some (.remark said rest)) :
      Goes setup now { now with
        threads := now.threads.set thread rest
        said := now.said ++ [(thread, said)] }
  | step {thread : Nat} {operation : Operation}
      {next : operation.Answer → Annotated (Outcome Json)} {world : World}
      {answer : operation.Answer} (here : now.threads[thread]? = some (.step operation next))
      (performed : now.world.perform setup.host thread operation = some (world, answer)) :
      Goes setup now { now with
        world := { world with forked := [] }
        threads := now.threads.set thread (next answer) ++
          world.forked.map (Remarked.scriptOf setup) }
  | finish {thread : Nat} {outcome : Outcome Json}
      (here : now.threads[thread]? = some (.done outcome))
      (unknown : ¬ now.world.finished.contains thread) :
      Goes setup now { now with
        world := { now.world with finished := thread :: now.world.finished } }
  | happen (happening : Happening) :
      Goes setup now { now with world := now.world.after happening }

/-- The program once it listens to the editor, with nothing remarked. -/
def begin (setup : Setup) (tree : FileTree) : Narration where
  world := (listening setup tree).world
  threads := [Remarked.scriptOf setup .serveEditor]

/-- Everything that may be narrated of the program. -/
abbrev Tells (setup : Setup) (tree : FileTree) : Narration → Prop :=
  Relation.ReflTransGen (Goes setup) (begin setup tree)

variable {setup : Setup} {tree : FileTree} {now : Narration}

theorem system_begin : (begin setup tree).system = listening setup tree := by
  simp [system, begin, listening, System.start, Remarked.erase_scriptOf]

theorem get?_system (thread : Nat) :
    now.system.threads[thread]? = now.threads[thread]?.map Annotated.erase :=
  List.getElem?_map

/-- A step with its answer is the step of the program. -/
theorem system_step {thread : Nat} {script : Annotated (Outcome Json)} (world : World) :
    system { now with
        world := { world with forked := [] }
        threads := now.threads.set thread script ++ world.forked.map (Remarked.scriptOf setup) } =
      System.startForked (Program.scriptOf setup)
        { world, threads := now.system.threads.set thread script.erase } := by
  have erased : (Annotated.erase ∘ Remarked.scriptOf setup) = Program.scriptOf setup :=
    funext (Remarked.erase_scriptOf setup)
  simp [system, System.startForked, List.map_set, erased]

/-- Remarks are nothing that the program does. -/
theorem system_remark {thread : Nat} {said : Remark} {rest : Annotated (Outcome Json)}
    (here : now.threads[thread]? = some (.remark said rest)) (log : List (Nat × Remark)) :
    system { now with threads := now.threads.set thread rest, said := log } = now.system := by
  have unchanged : (now.threads.map Annotated.erase).set thread rest.erase =
      now.threads.map Annotated.erase := by
    obtain ⟨within, there⟩ := List.getElem?_eq_some_iff.mp here
    apply List.ext_getElem?
    intro other
    by_cases same : thread = other
    · subst same
      simp [within, there, Annotated.erase]
    · simp [same]
  simp [system, List.map_set, unchanged]

/-- Without the remarks, what is narrated is what the program may do. -/
theorem Tells.course (tells : Tells setup tree now) :
    Course setup (fun _ => True) (listening setup tree) now.system := by
  induction tells with
  | refl => rw [system_begin]
  | @tail before after _ goes course =>
    cases goes with
    | remark here =>
      rw [system_remark here]
      exact course
    | @step thread operation next world answer here performed =>
      have moved : Program.step setup before.system thread =
          some (System.startForked (Program.scriptOf setup)
            { world, threads := before.system.threads.set thread (next answer).erase }) := by
        have there : before.system.threads[thread]? =
            some (.step operation fun answer => (next answer).erase) := by
          rw [get?_system, here]
          rfl
        have done : before.system.world.perform setup.host thread operation =
          some (world, answer) := performed
        rw [Program.step, System.step, there]
        simp only [done]
      rw [system_step]
      exact course.tail (.step moved)
    | @finish thread outcome here unknown =>
      have moved : Program.step setup before.system thread = some { before.system with
          world := { before.world with finished := thread :: before.world.finished } } := by
        have there : before.system.threads[thread]? = some (.done outcome) := by
          rw [get?_system, here]
          rfl
        rw [Program.step, System.step, there]
        exact if_neg unknown
      exact course.tail (.step moved)
    | happen happening =>
      have moved := course.happen happening trivial
      rwa [System.occur_eq] at moved

/-- A thread that has remarks to make makes them. -/
theorem remarked (setup : Setup) {thread : Nat} {script : Annotated (Outcome Json)}
    (here : now.threads[thread]? = some script) : ∃ later : Narration,
      Relation.ReflTransGen (Goes setup) now later ∧ later.system = now.system ∧
        ∃ rest, later.threads[thread]? = some rest ∧ ∀ said after, rest ≠ .remark said after := by
  induction script generalizing now with
  | done value => exact ⟨now, .refl, rfl, _, here, by simp⟩
  | step operation next => exact ⟨now, .refl, rfl, _, here, by simp⟩
  | remark said rest ih =>
    have within := (List.getElem?_eq_some_iff.mp here).1
    let next : Narration :=
      { now with threads := now.threads.set thread rest, said := now.said ++ [(thread, said)] }
    have there : next.threads[thread]? = some rest := List.getElem?_set_self within
    obtain ⟨later, path, same, rest⟩ := ih there
    exact ⟨later, .head (.remark here) path, same.trans (system_remark here _), rest⟩

/-- Every course of the program is narrated. -/
theorem narrated {system : System}
    (course : Course setup (fun _ => True) (listening setup tree) system) :
    ∃ now, Tells setup tree now ∧ now.system = system := by
  induction course with
  | refl => exact ⟨begin setup tree, .refl, system_begin⟩
  | tail _ advance ih =>
    obtain ⟨now, tells, rfl⟩ := ih
    cases advance with
    | @step thread next moved =>
      have within : thread < now.threads.length := by
        refine Classical.byContradiction fun beyond => ?_
        have nobody : now.system.threads[thread]? = none := by
          rw [get?_system, List.getElem?_eq_none (Nat.not_lt.mp beyond)]
          rfl
        rw [Program.step, System.step, nobody] at moved
        cases moved
      obtain ⟨later, path, same, script, there, ready⟩ := remarked setup
        (List.getElem?_eq_getElem within)
      have told : Tells setup tree later := Relation.ReflTransGen.trans tells path
      have here : later.system.threads[thread]? = some script.erase := by
        rw [get?_system, there]
        rfl
      rw [← same, Program.step, System.step, here] at moved
      cases script with
      | done outcome =>
        simp only [Annotated.erase] at moved
        split at moved <;> cases moved
        exact ⟨_, told.tail (.finish there ‹_›), rfl⟩
      | step operation onward =>
        simp only [Annotated.erase] at moved
        split at moved <;> cases moved
        exact ⟨_, told.tail (.step there ‹_›), system_step _⟩
      | remark said rest => exact absurd rfl (ready said rest)
    | happen happening fits =>
      refine ⟨_, tells.tail (.happen happening), ?_⟩
      rw [System.occur_eq]
      rfl

end Narration

end LanguageBridge

/-!
Accounts of content: in the order in which it was given, what was handed over or dropped, what a
thread has taken out of the queue, what is queued, and what was given last and is not passed on yet.
-/
namespace LanguageBridge

/-- What became of content for a session. -/
inductive Fate
  | handed
  | dropped
  deriving DecidableEq, Repr

namespace Remark

/-- The content that a remark says was given for a session. -/
def givenFor? (key : SessionKey) : Remark → Option BufferContent
  | .given other content => if other = key then some content else none
  | _ => none

/-- The content that a remark says was handed over for a session. -/
def handedFor? (key : SessionKey) : Remark → Option BufferContent
  | .handed other content => if other = key then some content else none
  | _ => none

/-- The content that a remark says was dropped for a session. -/
def droppedFor (key : SessionKey) : Remark → List BufferContent
  | .dropped other contents => if other = key then contents else []
  | _ => []

end Remark

namespace Narration

variable (key : SessionKey) (now : Narration)

/-- The content that was given for a session so far, in that order. -/
def given : List BufferContent := now.said.filterMap fun entry => entry.2.givenFor? key

/-- The content that was handed over for a session so far, in that order. -/
def handed : List BufferContent := now.said.filterMap fun entry => entry.2.handedFor? key

/-- The content that was dropped for a session so far, in that order. -/
def dropped : List BufferContent := now.said.flatMap fun entry => entry.2.droppedFor key

/-- The content that is queued for a session. -/
def queued : List BufferContent := (now.world.queue.get? key).getD []

/-- Content of some fates. -/
def ofFate (fate : Fate) (settled : List (BufferContent × Fate)) : List BufferContent :=
  (settled.filter fun entry => entry.2 = fate).map Prod.fst

/-- All content that was given is accounted for, in the order in which it came: it is settled, or a
thread has taken it out of the queue, or it is queued, or a thread has still to pass it on. -/
def Accounts (taken owed : List BufferContent) : Prop :=
  ∃ settled : List (BufferContent × Fate),
    now.given key = settled.map Prod.fst ++ taken ++ now.queued key ++ owed ∧
    now.handed key = ofFate .handed settled ∧ now.dropped key = ofFate .dropped settled

end Narration

/-- The custodies of all threads, by number. -/
abbrev Custodies := Nat → Custody

/-- One thread has what there is, and the others have nothing. -/
def Sole {α : Type} (having : Nat → List α) (value : List α) : Prop :=
  ∃ thread, having thread = value ∧ ∀ other ≠ thread, having other = []

namespace Sole

variable {α : Type} {having later : Nat → List α} {value : List α} {thread : Nat}

/-- When the others have nothing, a thread has what there is. -/
theorem eq (sole : Sole having value) (others : ∀ other ≠ thread, having other = []) :
    having thread = value := by
  obtain ⟨holder, has, rest⟩ := sole
  by_cases same : thread = holder
  · rw [same, has]
  · rw [rest thread same, ← has, others holder (Ne.symm same)]

end Sole

/-- The custodies once a thread has taken a step, and another was perhaps started. -/
def Custodies.turn (custodies : Custodies) (count thread : Nat) (after child : Custody) :
    Custodies :=
  fun other => if other = thread then after else if other = count then child else custodies other

/-- Where a thread stands that an operation starts. -/
def Operation.child : Operation → Custody
  | .fork work => work.custody
  | _ => {}

namespace Custodies

variable {custodies : Custodies} {count thread : Nat} {after child : Custody}

@[simp] theorem turn_self : custodies.turn count thread after child thread = after := if_pos rfl

/-- What is said of a custody is said of the thread that took a step afterwards, and of the others
as before, unless the thread that is started is an exception. -/
theorem turn_eq {γ : Type} (field : Custody → γ) (blank : field child = field (custodies count))
    (other : Nat) : field (custodies.turn count thread after child other) =
      if other = thread then field after else field (custodies other) := by
  unfold turn
  split
  · rfl
  · split
    · rename_i born
      rw [blank, born]
    · rfl

/-- When a thread comes to have something else, what there is stays, or it is what the thread had
and then what it has. -/
theorem sole_turn (field : Custody → List BufferContent)
    (blank : field child = field (custodies count)) {value changed : List BufferContent}
    (sole : Sole (fun thread => field (custodies thread)) value)
    (follows : field after = field (custodies thread) ∧ changed = value ∨
      field (custodies thread) = value ∧ changed = field after) :
    Sole (fun other => field (custodies.turn count thread after child other)) changed := by
  rw [funext (turn_eq field blank)]
  obtain ⟨holder, has, rest⟩ := sole
  dsimp only at has rest
  rcases follows with ⟨same, rfl⟩ | ⟨mine, rfl⟩
  · refine ⟨holder, ?_, fun other apart => ?_⟩
    · dsimp only
      split <;> simp_all
    · have nothing := rest other apart
      dsimp only
      split <;> simp_all
  · refine ⟨thread, if_pos rfl, fun other apart => ?_⟩
    dsimp only
    rw [if_neg apart]
    by_cases own : other = holder
    · rw [own, has, ← mine]
      exact rest thread fun same => apart (own.trans same.symm)
    · exact rest other own

end Custodies

/-- Where the threads of a narration stand with the content for a session. -/
structure Custodies.Sound (key : SessionKey) (custodies : Custodies) (now : Narration) : Prop where
  obeys : ∀ thread (script : Annotated (Outcome Json)), now.threads[thread]? = some script →
    script.Obeys key (custodies thread) fun _ after => after.Rests
  unborn : ∀ thread, now.threads.length ≤ thread → custodies thread = {}
  forked : now.world.forked = []
  locked : ∀ thread, (custodies thread).keeping ≠ .free →
    ⟨.queue, .exclusive, thread⟩ ∈ now.world.held
  alone : ∀ first second, ⟨.queue, .exclusive, first⟩ ∈ now.world.held →
    ⟨.queue, .exclusive, second⟩ ∈ now.world.held → first = second
  seen : ∀ thread queue, (custodies thread).keeping = .seen queue → now.world.queue = queue
  taken : ∀ thread, (custodies thread).taken ≠ [] → (custodies thread).keeping ≠ .free
  owed : ∀ thread, (custodies thread).owed ≠ [] → (custodies thread).listens = true
  listener : ∀ first second, (custodies first).listens = true → (custodies second).listens = true →
    first = second
  accounts : ∃ taken owed, Sole (fun thread => (custodies thread).taken) taken ∧
    Sole (fun thread => (custodies thread).owed) owed ∧ now.Accounts key taken owed
  failed : ∀ thread, (custodies thread).failed = true → (thread, .failed key) ∈ now.said
  blamed : ∀ before thread contents after,
    now.said = before ++ (thread, .dropped key contents) :: after → (thread, .failed key) ∈ before

namespace Custodies.Sound

variable {key : SessionKey} {custodies : Custodies} {now : Narration} {thread : Nat}
  {contents : List BufferContent}

/-- Whoever keeps the queue has all that was taken out of it. -/
theorem hands (sound : custodies.Sound key now)
    (sole : Sole (fun thread => (custodies thread).taken) contents)
    (keeps : (custodies thread).keeping ≠ .free) : (custodies thread).taken = contents := by
  refine sole.eq fun other apart => Classical.byContradiction fun has => apart ?_
  exact sound.alone other thread (sound.locked other (sound.taken other has))
    (sound.locked thread keeps)

/-- Whoever takes the editor's messages has all that is still to be passed on. -/
theorem owes (sound : custodies.Sound key now)
    (sole : Sole (fun thread => (custodies thread).owed) contents)
    (listens : (custodies thread).listens = true) : (custodies thread).owed = contents := by
  refine sole.eq fun other apart => Classical.byContradiction fun has => apart ?_
  exact sound.listener other thread (sound.owed other has) listens

end Custodies.Sound

end LanguageBridge

/-!
Remarks keep the accounts: content goes from what was given last or was taken out of the queue to
what is settled, and nothing else changes.
-/
namespace LanguageBridge

namespace Narration

/-- A thread has made a remark. -/
def saying (now : Narration) (thread : Nat) (said : Remark) (rest : Annotated (Outcome Json)) :
    Narration :=
  { now with threads := now.threads.set thread rest, said := now.said ++ [(thread, said)] }

variable {key : SessionKey} {now : Narration} {thread : Nat} {said : Remark}
  {rest : Annotated (Outcome Json)}

theorem given_saying : (now.saying thread said rest).given key =
    now.given key ++ (said.givenFor? key).toList := by
  simp only [given, saying, List.filterMap_append]
  cases found : said.givenFor? key <;> simp [found]

theorem handed_saying : (now.saying thread said rest).handed key =
    now.handed key ++ (said.handedFor? key).toList := by
  simp only [handed, saying, List.filterMap_append]
  cases found : said.handedFor? key <;> simp [found]

theorem dropped_saying : (now.saying thread said rest).dropped key =
    now.dropped key ++ said.droppedFor key := by
  simp [dropped, saying]

theorem ofFate_append (fate : Fate) (first second : List (BufferContent × Fate)) :
    ofFate fate (first ++ second) = ofFate fate first ++ ofFate fate second := by
  simp [ofFate]

theorem ofFate_map (fate other : Fate) (contents : List BufferContent) :
    ofFate fate (contents.map fun content => (content, other)) =
      if other = fate then contents else [] := by
  induction contents with
  | nil => simp [ofFate]
  | cons content rest ih =>
    simp only [ofFate, List.map_cons] at ih ⊢
    by_cases same : other = fate <;> simp_all

end Narration

open Narration

variable {key : SessionKey} {now : Narration} {custody after : Custody} {said : Remark}

namespace Custody.Remarks

section

variable (remarks : custody.Remarks key said after)

include remarks

theorem keeping : after.keeping = custody.keeping := by
  cases remarks <;> rfl

theorem listens : after.listens = custody.listens := by
  cases remarks <;> rfl

theorem has_taken (some : after.taken ≠ []) : custody.taken ≠ [] := by
  cases remarks <;> simp_all

theorem has_owed (some : after.owed ≠ []) : custody.owed ≠ [] ∨ custody.listens = true := by
  cases remarks <;> simp_all

/-- Only a start that failed is remembered as such. -/
theorem has_failed (fails : after.failed = true) : custody.failed = true ∨ said = .failed key := by
  cases remarks <;> simp_all

/-- What is dropped was queued for a start that failed. -/
theorem blamed {contents : List BufferContent} (drops : said = .dropped key contents) :
    custody.failed = true := by
  cases remarks <;> simp_all [Remark.key]

end

/-- After a remark all content is accounted for, and what all threads have together changed as what
the thread has. -/
theorem accounts {thread : Nat} {rest : Annotated (Outcome Json)} {taken owed : List BufferContent}
    (remarks : custody.Remarks key said after) (accounts : now.Accounts key taken owed)
    (holds : custody.taken ≠ [] → custody.keeping ≠ .free)
    (hands : custody.keeping ≠ .free → custody.taken = taken)
    (owes : custody.listens = true → custody.owed = owed)
    (owing : custody.owed ≠ [] → custody.listens = true)
    (seen : ∀ queue, custody.keeping = .seen queue → now.world.queue = queue) :
    ∃ taken' owed', (now.saying thread said rest).Accounts key taken' owed' ∧
      (after.taken = custody.taken ∧ taken' = taken ∨
        custody.taken = taken ∧ taken' = after.taken) ∧
      (after.owed = custody.owed ∧ owed' = owed ∨ custody.owed = owed ∧ owed' = after.owed) := by
  obtain ⟨settled, given, handed, dropped⟩ := accounts
  unfold Accounts
  simp only [given_saying, handed_saying, dropped_saying, given, handed, dropped]
  have queued : (now.saying thread said rest).queued key = now.queued key := rfl
  rw [queued]
  cases remarks with
  | elsewhere other _ =>
    refine ⟨taken, owed, ⟨settled, ?_⟩, .inl ⟨rfl, rfl⟩, .inl ⟨rfl, rfl⟩⟩
    cases said <;> simp_all [Remark.key, Remark.givenFor?, Remark.handedFor?, Remark.droppedFor]
  | @given content listens empty =>
    obtain rfl : owed = [] := (owes listens).symm.trans empty
    refine ⟨taken, [content], ⟨settled, ?_⟩, .inl ⟨rfl, rfl⟩, .inr ⟨empty, rfl⟩⟩
    simp [Remark.givenFor?, Remark.handedFor?, Remark.droppedFor]
  | @handNext content rest mine =>
    have same := hands (holds (by simp [mine]))
    subst same
    refine ⟨rest, owed, ⟨settled ++ [(content, .handed)], ?_⟩, .inr ⟨rfl, rfl⟩, .inl ⟨rfl, rfl⟩⟩
    simp [mine, ofFate, Remark.givenFor?, Remark.handedFor?, Remark.droppedFor]
  | @handOwed content queue sees nothing empty mine =>
    have same := hands (by simp [sees])
    have last := owes (owing (by simp [mine]))
    subst same last
    have free : now.queued key = [] := by simp [Narration.queued, seen queue sees, nothing]
    refine ⟨[], [], ⟨settled ++ [(content, .handed)], ?_⟩, .inl ⟨rfl, empty.symm⟩, .inr ⟨rfl, rfl⟩⟩
    simp [mine, empty, free, ofFate, Remark.givenFor?, Remark.handedFor?, Remark.droppedFor]
  | failed =>
    refine ⟨taken, owed, ⟨settled, ?_⟩, .inl ⟨rfl, rfl⟩, .inl ⟨rfl, rfl⟩⟩
    simp [Remark.givenFor?, Remark.handedFor?, Remark.droppedFor]
  | @drop contents failed keeping mine =>
    have same := hands keeping
    subst mine same
    let gone := custody.taken.map fun content => (content, Fate.dropped)
    have fates (fate : Fate) : ofFate fate (settled ++ gone) =
        ofFate fate settled ++ if Fate.dropped = fate then custody.taken else [] := by
      rw [ofFate_append, ofFate_map]
    refine ⟨[], owed, ⟨settled ++ gone, ?_⟩, .inr ⟨rfl, rfl⟩, .inl ⟨rfl, rfl⟩⟩
    simp [fates, gone, Function.comp_def, Remark.givenFor?, Remark.handedFor?, Remark.droppedFor]

end Custody.Remarks

namespace Custodies.Sound

variable {custodies : Custodies} {thread : Nat} {rest : Annotated (Outcome Json)}

/-- The threads stand soundly after a remark of one of them. -/
theorem remark (sound : custodies.Sound key now)
    (here : now.threads[thread]? = some (.remark said rest)) :
    ∃ later : Custodies, later.Sound key (now.saying thread said rest) := by
  obtain ⟨after, remarks, onward⟩ := sound.obeys thread _ here
  have within := (List.getElem?_eq_some_iff.mp here).1
  let later := custodies.turn now.threads.length thread after {}
  have unborn := sound.unborn _ (Nat.le_refl now.threads.length)
  have turned {γ : Type} (field : Custody → γ) (other : Nat) :
      field (later other) = if other = thread then field after else field (custodies other) :=
    Custodies.turn_eq field (by rw [unborn]) other
  have mine : later thread = after := Custodies.turn_self
  have theirs {other : Nat} (apart : other ≠ thread) : later other = custodies other :=
    (turned id other).trans (if_neg apart)
  have keeping (other : Nat) : (later other).keeping = (custodies other).keeping := by
    rw [turned Custody.keeping]
    split
    · rename_i own
      rw [own, remarks.keeping]
    · rfl
  have listens (other : Nat) : (later other).listens = (custodies other).listens := by
    rw [turned Custody.listens]
    split
    · rename_i own
      rw [own, remarks.listens]
    · rfl
  refine ⟨later, ?_⟩
  exact {
    obeys := by
      intro other script there
      simp only [saying] at there
      by_cases own : other = thread
      · subst own
        rw [List.getElem?_set_self within] at there
        cases there
        rw [mine]
        exact onward
      · rw [List.getElem?_set_ne (Ne.symm own)] at there
        rw [theirs own]
        exact sound.obeys other script there
    unborn := by
      intro other beyond
      simp only [saying, List.length_set] at beyond
      rw [theirs (by omega)]
      exact sound.unborn other beyond
    forked := sound.forked
    locked := fun other keeps => sound.locked other (keeping other ▸ keeps)
    alone := sound.alone
    seen := fun other queue sees => sound.seen other queue (keeping other ▸ sees)
    taken := by
      intro other has
      rw [keeping]
      rw [turned Custody.taken] at has
      split at has
      · rename_i own
        exact own ▸ sound.taken thread (remarks.has_taken has)
      · exact sound.taken other has
    owed := by
      intro other has
      rw [listens]
      rw [turned Custody.owed] at has
      split at has
      · rename_i own
        exact own ▸ (remarks.has_owed has).elim (sound.owed thread) id
      · exact sound.owed other has
    listener := fun first second one two =>
      sound.listener first second (listens first ▸ one) (listens second ▸ two)
    accounts := by
      obtain ⟨taken, owed, hasTaken, hasOwed, accounts⟩ := sound.accounts
      obtain ⟨left, due, kept, follows, pursues⟩ := remarks.accounts accounts (sound.taken thread)
        (sound.hands hasTaken) (sound.owes hasOwed) (sound.owed thread) (sound.seen thread)
      exact ⟨left, due, Custodies.sole_turn Custody.taken (by rw [unborn]) hasTaken follows,
        Custodies.sole_turn Custody.owed (by rw [unborn]) hasOwed pursues, kept⟩
    failed := by
      intro other fails
      rw [turned Custody.failed] at fails
      split at fails
      · rename_i own
        rcases remarks.has_failed fails with before | rfl
        · exact List.mem_append_left _ (own ▸ sound.failed thread before)
        · exact List.mem_append_right _ (own ▸ List.mem_singleton_self _)
      · exact List.mem_append_left _ (sound.failed other fails)
    blamed := by
      intro before other contents rest' same
      have told : now.said ++ [(thread, said)] =
          before ++ (other, .dropped key contents) :: rest' := same
      rcases rest'.eq_nil_or_concat with rfl | ⟨earlier, last, rfl⟩
      · obtain ⟨rfl, one⟩ := List.append_inj' told rfl
        cases one
        exact sound.failed thread (remarks.blamed rfl)
      · rw [List.concat_eq_append, ← List.cons_append, ← List.append_assoc] at told
        exact sound.blamed before other contents earlier (List.append_inj' told rfl).1 }

end Custodies.Sound

end LanguageBridge
