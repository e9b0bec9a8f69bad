import Mathlib.Logic.Relation
import LanguageBridge.Proofs.Script.Performed

/-!
How far a script may get among others, and what it may have to wait for. A script that takes the
documents, and nothing else, in turns never gets stuck on its own: with nobody else about it waits
only for answers to what it asked.
-/
namespace LanguageBridge

namespace Script

/-- A script gets so far, while others do what they may. -/
inductive Reaches (host : Host) (thread : Nat) (others : World → World → Prop) {α : Type} :
    Script α → World → Script α → World → Prop
  | here (script : Script α) (world : World) : Reaches host thread others script world script world
  | step {operation : Operation} {next : operation.Answer → Script α} {answer : operation.Answer}
      {world later there : World} {left : Script α}
      (performed : world.perform host thread operation = some (later, answer))
      (rest : Reaches host thread others (next answer) later left there) :
      Reaches host thread others (.step operation next) world left there
  | meanwhile {script left : Script α} {world later there : World} (moved : others world later)
      (rest : Reaches host thread others script later left there) :
      Reaches host thread others script world left there

/-- The surroundings do something. -/
def Surroundings (world later : World) : Prop := ∃ happening, later = world.after happening

variable {host : Host} {thread : Nat} {others : World → World → Prop} {α β : Type}
  {world there : World}

theorem Reaches.meanwhiles {script left : Script α} {later : World}
    (path : Relation.ReflTransGen others world later)
    (rest : script.Reaches host thread others later left there) :
    script.Reaches host thread others world left there := by
  induction path using Relation.ReflTransGen.head_induction_on with
  | refl => exact rest
  | head moved _ ih => exact .meanwhile moved ih

/-- A script that is at its end stays there. -/
theorem Reaches.of_done {value : α} {left : Script α}
    (reaches : (Script.done value).Reaches host thread others world left there) :
    left = .done value := by
  generalize whole : Script.done value = script at reaches
  induction reaches with
  | here => rfl
  | step => cases whole
  | meanwhile _ _ ih => exact ih whole

/-- A script stands before its first operation, others having moved, or it has carried it out. -/
theorem Reaches.stands_or_goes {operation : Operation} {next : operation.Answer → Script α}
    {left : Script α}
    (reaches : (Script.step operation next).Reaches host thread others world left there) :
    left = .step operation next ∧ Relation.ReflTransGen others world there ∨
      ∃ here later answer, Relation.ReflTransGen others world here ∧
        here.perform host thread operation = some (later, answer) ∧
        (next answer).Reaches host thread others later left there := by
  generalize whole : Script.step operation next = script at reaches
  induction reaches with
  | here => exact .inl ⟨rfl, .refl⟩
  | step performed rest =>
    cases whole
    exact .inr ⟨_, _, _, .refl, performed, rest⟩
  | meanwhile moved _ ih =>
    rcases ih whole with ⟨same, path⟩ | ⟨here, later, answer, path, performed, rest⟩
    · exact .inl ⟨same, .head moved path⟩
    · exact .inr ⟨here, later, answer, .head moved path, performed, rest⟩

/-- A script stands before its first operation, or it has carried it out. -/
theorem Reaches.of_step {operation : Operation} {next : operation.Answer → Script α}
    {left : Script α}
    (reaches : (Script.step operation next).Reaches host thread others world left there) :
    left = .step operation next ∨ ∃ here later answer,
      Relation.ReflTransGen others world here ∧
      here.perform host thread operation = some (later, answer) ∧
      (next answer).Reaches host thread others later left there :=
  reaches.stands_or_goes.imp_left And.left

/-- All operations of a script are of a kind, whatever they answer. -/
def Each (kind : Operation → Prop) : Script α → Prop
  | .done _ => True
  | .step operation next => kind operation ∧ ∀ answer, (next answer).Each kind

theorem Each.bind {kind : Operation → Prop} {script : Script α} {next : α → Script β}
    (first : script.Each kind) (rest : ∀ value, (next value).Each kind) :
    (script.bind next).Each kind := by
  induction script with
  | done value => exact rest value
  | step operation onward ih => exact ⟨first.1, fun answer => ih answer (first.2 answer)⟩

theorem Each.mono {kind weaker : Operation → Prop} {script : Script α} (each : script.Each kind)
    (fits : ∀ operation, kind operation → weaker operation) : script.Each weaker := by
  induction script with
  | done value => trivial
  | step operation onward ih =>
    exact ⟨fits operation each.1, fun answer => ih answer (each.2 answer)⟩

theorem Each.reaches {kind : Operation → Prop} {script left : Script α} (each : script.Each kind)
    (reaches : script.Reaches host thread others world left there) : left.Each kind := by
  induction reaches with
  | here => exact each
  | step _ _ ih => exact ih (each.2 _)
  | meanwhile _ _ ih => exact ih each

end Script

namespace Operation

/-- Whether a thread holds the documents after an operation, if it may carry it out holding them or
not; of all locks it may use only that of the documents, and of what may have to wait only calls. -/
def turn? : Operation → Bool → Option Bool
  | .acquire .documents .exclusive, false => some true
  | .release .documents, true => some false
  | .setWorkspace _, true => some true
  | .workspace, held | .disk, held | .notify .., held | .call .., held | .await _, held => some held
  | _, _ => none

end Operation

/-- A script that takes the documents in turns, holding them or not at its end. -/
def Script.InTurns {α : Type} (finish : Bool) : Bool → Script α → Prop
  | held, .done _ => held = finish
  | held, .step operation next =>
    ∃ after, operation.turn? held = some after ∧ ∀ answer, (next answer).InTurns finish after

/-- A script is at its end, can go on, or waits for an answer to one of its calls. -/
def Script.Proceeds {α : Type} (host : Host) (thread : Nat) (world : World) : Script α → Prop
  | .done _ => True
  | .step operation _ =>
    (∃ later answer, world.perform host thread operation = some (later, answer)) ∨
      ∃ ticket, operation = .await ticket ∧ world.answers.get? ticket = none

/-- The locks that are held when nobody but a thread holds any, and it at most the documents. -/
def documentsHeld (thread : Nat) (held : Bool) : List Hold :=
  if held then [⟨.documents, .exclusive, thread⟩] else []

variable {host : Host} {thread : Nat} {world there : World} {α β : Type}

/-- An operation in turn is carried out, or it waits for the answer to a call. -/
theorem Operation.performs {operation : Operation} {held after : Bool}
    (turn : operation.turn? held = some after) (locks : world.held = documentsHeld thread held) :
    (∃ later answer, world.perform host thread operation = some (later, answer)) ∨
      ∃ ticket, operation = .await ticket ∧ world.answers.get? ticket = none := by
  cases operation with
  | acquire lock mode =>
    cases lock <;> cases mode <;> cases held <;> cases turn
    exact .inl ⟨_, _, if_pos (by simp [World.admits, locks, documentsHeld])⟩
  | release lock => exact .inl ⟨_, _, rfl⟩
  | workspace =>
    refine .inl ⟨_, _, if_pos ?_⟩
    cases held <;> simp [World.mayRead, locks, documentsHeld]
  | setWorkspace workspace =>
    cases held <;> cases turn
    exact .inl ⟨_, _, if_pos (by simp [World.excludes, locks, documentsHeld])⟩
  | disk => exact .inl ⟨_, _, rfl⟩
  | notify => exact .inl ⟨_, _, rfl⟩
  | call peer method params =>
    refine .inl ?_
    simp only [World.perform]
    split <;> exact ⟨_, _, rfl⟩
  | await ticket =>
    cases found : world.answers.get? ticket with
    | none => exact .inr ⟨ticket, rfl, found⟩
    | some outcome => exact .inl ⟨world, outcome, by rw [World.perform, found]; rfl⟩
  | _ => cases turn

theorem Operation.held_of_turn {operation : Operation} {held after : Bool}
    (turn : operation.turn? held = some after) :
    operation.heldAfter thread (documentsHeld thread held) = documentsHeld thread after := by
  cases operation with
  | acquire lock mode =>
    cases lock <;> cases mode <;> cases held <;> cases turn
    rfl
  | release lock =>
    cases lock <;> cases held <;> cases turn
    simp [Operation.heldAfter, documentsHeld]
  | setWorkspace =>
    cases held <;> cases turn
    rfl
  | workspace | disk | notify | call | await => cases turn; rfl
  | _ => cases turn

namespace Script.InTurns

variable {held finish : Bool}

theorem bind {script : Script α} {next : α → Script β} {middle : Bool}
    (first : script.InTurns middle held) (rest : ∀ value, (next value).InTurns finish middle) :
    (script.bind next).InTurns finish held := by
  induction script generalizing held with
  | done value =>
    obtain rfl : held = middle := first
    exact rest value
  | step operation onward ih =>
    obtain ⟨after, turn, each⟩ := first
    exact ⟨after, turn, fun answer => ih answer (each answer)⟩

/-- With nobody else about, a script in turns never gets stuck. -/
theorem proceeds {script left : Script α} (turns : script.InTurns finish held)
    (locks : world.held = documentsHeld thread held)
    (reaches : script.Reaches host thread Surroundings world left there) :
    left.Proceeds host thread there := by
  induction reaches generalizing held with
  | here script world =>
    cases script with
    | done => trivial
    | step operation next =>
      obtain ⟨after, turn, _⟩ := turns
      exact Operation.performs turn locks
  | step performed _ ih =>
    obtain ⟨after, turn, each⟩ := turns
    refine ih (each _) ?_
    rw [(World.performed performed).held, locks]
    exact Operation.held_of_turn turn
  | meanwhile moved _ ih =>
    obtain ⟨happening, rfl⟩ := moved
    exact ih turns ((World.after_held _ happening).trans locks)

end Script.InTurns

namespace Job

/-- A job stands before its first operation, or goes on with the answer. -/
theorem reaches_ask_bind {others : World → World → Prop} {operation : Operation}
    {next : operation.Answer → Job β} {left : Script (Outcome β)}
    (reaches : (ask operation >>= next).run.Reaches host thread others world left there) :
    (∃ onward, left = .step operation onward) ∨ ∃ here later answer,
      Relation.ReflTransGen others world here ∧
      here.perform host thread operation = some (later, answer) ∧
      (next answer).run.Reaches host thread others later left there :=
  (Script.Reaches.of_step reaches).imp_left fun same => ⟨_, same⟩

/-- A job that takes the documents in turns, and is done holding them or not as it was begun. -/
def InTurns (held : Bool) (job : Job α) : Prop := job.run.InTurns held held

namespace InTurns

variable {held : Bool}

theorem ofOutcome (outcome : Outcome α) : (Job.ofOutcome outcome).InTurns held := rfl

theorem pure (value : α) : (Pure.pure value : Job α).InTurns held := rfl

theorem throw (failure : Failure) : (throw failure : Job α).InTurns held := rfl

theorem bind {job : Job α} {next : α → Job β} (first : job.InTurns held)
    (rest : ∀ value, (next value).InTurns held) : (job >>= next).InTurns held := by
  refine Script.InTurns.bind first fun outcome => ?_
  cases outcome with
  | ok value => exact rest value
  | error failure => rfl

theorem ask_bind {operation : Operation} {next : operation.Answer → Job β}
    (turn : operation.turn? held = some held) (rest : ∀ answer, (next answer).InTurns held) :
    (Job.ask operation >>= next).InTurns held :=
  ⟨held, turn, rest⟩

theorem notify (peer : Peer) (method : String) (params : Json) :
    (Job.notify peer method params).InTurns held :=
  ⟨held, rfl, fun _ => rfl⟩

theorem call (peer : Peer) (method : String) (params : Json) (read : Json → Shaped α) :
    (Job.call peer method params read).InTurns held := by
  have asking : InTurns held (ExceptT.mk (Script.ask (.call peer method params)) : Job Nat) :=
    ⟨held, rfl, fun _ => rfl⟩
  have awaiting (ticket : Nat) :
      InTurns held (ExceptT.mk (Script.ask (.await ticket)) : Job Json) :=
    ⟨held, rfl, fun _ => rfl⟩
  unfold Job.call
  refine asking.bind fun ticket => (awaiting ticket).bind fun result => ?_
  split
  · exact pure _
  · exact throw _

theorem holding {job : Job α} (turns : job.InTurns true) :
    (Job.holding .documents .exclusive job).InTurns false := by
  have releasing : (job.run.bind fun outcome =>
      Script.step (.release .documents) fun _ => .done outcome).InTurns false true :=
    Script.InTurns.bind turns fun _ => ⟨false, rfl, fun _ => rfl⟩
  exact ⟨true, rfl, fun _ => releasing⟩

theorem forM {f : α → Job Unit} (each : ∀ value, (f value).InTurns held) (values : List α) :
    (values.forM f).InTurns held := by
  induction values with
  | nil => exact pure _
  | cons value rest ih => exact (each value).bind fun _ => ih

end InTurns

/-- All operations of a job are of a kind. -/
def Each (kind : Operation → Prop) (job : Job α) : Prop := job.run.Each kind

namespace Each

variable {kind : Operation → Prop}

theorem bind {job : Job α} {next : α → Job β} (first : job.Each kind)
    (rest : ∀ value, (next value).Each kind) : (job >>= next).Each kind := by
  refine Script.Each.bind first fun outcome => ?_
  cases outcome with
  | ok value => exact rest value
  | error failure => trivial

theorem ofOutcome (outcome : Outcome α) : (Job.ofOutcome outcome).Each kind := trivial

theorem ask_bind {operation : Operation} {next : operation.Answer → Job β}
    (fits : kind operation) (rest : ∀ answer, (next answer).Each kind) :
    (Job.ask operation >>= next).Each kind :=
  ⟨fits, rest⟩

theorem notify {peer : Peer} {method : String} {params : Json}
    (fits : kind (.notify peer method params)) : (Job.notify peer method params).Each kind :=
  ⟨fits, fun _ => trivial⟩

theorem call {peer : Peer} {method : String} {params : Json} (read : Json → Shaped α)
    (asks : kind (.call peer method params)) (waits : ∀ ticket, kind (.await ticket)) :
    (Job.call peer method params read).Each kind := by
  have asking : Each kind (ExceptT.mk (Script.ask (.call peer method params)) : Job Nat) :=
    ⟨asks, fun _ => trivial⟩
  have awaiting (ticket : Nat) :
      Each kind (ExceptT.mk (Script.ask (.await ticket)) : Job Json) :=
    ⟨waits ticket, fun _ => trivial⟩
  unfold Job.call
  refine asking.bind fun ticket => (awaiting ticket).bind fun result => ?_
  split <;> trivial

theorem holding {lock : Lock} {mode : LockMode} {job : Job α} (takes : kind (.acquire lock mode))
    (leaves : kind (.release lock)) (inside : job.Each kind) :
    (Job.holding lock mode job).Each kind := by
  have rest : (job.run.bind fun outcome =>
      Script.step (.release lock) fun _ => .done outcome).Each kind :=
    Script.Each.bind inside fun _ => ⟨leaves, fun _ => trivial⟩
  exact ⟨takes, fun _ => rest⟩

theorem ofScript {script : Script α} (each : script.Each kind) : (Job.ofScript script).Each kind :=
  Script.Each.bind each fun _ => trivial

theorem attempt {job : Job α} (each : job.Each kind) : (Job.attempt job).Each kind :=
  Script.Each.bind each fun _ => trivial

theorem forM {f : α → Job Unit} {values : List α} (each : ∀ value ∈ values, (f value).Each kind) :
    (values.forM f).Each kind := by
  induction values with
  | nil => trivial
  | cons value rest ih =>
    exact (each value List.mem_cons_self).bind fun _ =>
      ih fun other member => each other (List.mem_cons_of_mem _ member)

end Each

end Job

end LanguageBridge
