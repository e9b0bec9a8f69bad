import LanguageBridge.Proofs.Script.Reaches

/-!
Scripts that go by rules. At every moment a thread has a standing; the rules say what it may be
answered at a standing, and which standing it may have after its next operation and the answer.
-/
namespace LanguageBridge

/-- What the operations of a thread may answer, and what its standing becomes. -/
structure Rules (σ : Type) where
  expects : σ → (operation : Operation) → operation.Answer → Prop
  turns : σ → (operation : Operation) → operation.Answer → σ → Prop

variable {σ α β : Type} {rules : Rules σ} {standing : σ}

/-- An operation that the rules allow and that leaves a standing as it is. -/
def Rules.Keeps (rules : Rules σ) (standing : σ) (operation : Operation) : Prop :=
  ∀ answer, rules.expects standing operation answer →
    rules.turns standing operation answer standing

/-- A script goes by rules from a standing and then comes to a value. -/
def Script.Guided (rules : Rules σ) : Script α → σ → (α → σ → Prop) → Prop
  | .done value, standing, post => post value standing
  | .step operation next, standing, post => ∀ answer, rules.expects standing operation answer →
    ∃ after, rules.turns standing operation answer after ∧ (next answer).Guided rules after post

namespace Script

@[simp]
theorem guided_done {value : α} {post : α → σ → Prop} :
    (done value).Guided rules standing post ↔ post value standing :=
  Iff.rfl

variable {script : Script α} {next : α → Script β} {mid : α → σ → Prop} {post : β → σ → Prop}

theorem Guided.bind (first : script.Guided rules standing mid)
    (second : ∀ value after, mid value after → (next value).Guided rules after post) :
    (script.bind next).Guided rules standing post := by
  induction script generalizing standing with
  | done value => exact second value standing first
  | step operation onward ih =>
    intro answer expected
    obtain ⟨after, turns, rest⟩ := first answer expected
    exact ⟨after, turns, ih answer rest⟩

theorem Guided.mono {last : α → σ → Prop} (guided : script.Guided rules standing mid)
    (weaker : ∀ value after, mid value after → last value after) :
    script.Guided rules standing last := by
  rw [← script.bind_done]
  exact guided.bind weaker

/-- A script whose operations all leave a standing as it is. -/
theorem Each.guided (each : script.Each (rules.Keeps standing)) :
    script.Guided rules standing fun _ after => after = standing := by
  induction script with
  | done value => rfl
  | step operation onward ih =>
    exact fun answer expected => ⟨standing, each.1 answer expected, ih answer (each.2 answer)⟩

end Script

namespace Job

variable {job : Job α} {next : α → Job β} {mid : Outcome α → σ → Prop}
  {post : Outcome β → σ → Prop}

/-- A job goes by rules from a standing and then has an outcome. -/
def Guided (rules : Rules σ) (job : Job α) (standing : σ) (post : Outcome α → σ → Prop) : Prop :=
  job.run.Guided rules standing post

@[simp]
theorem guided_pure {value : α} :
    (pure value : Job α).Guided rules standing mid ↔ mid (.ok value) standing :=
  Iff.rfl

@[simp]
theorem guided_throw {failure : Failure} :
    (throw failure : Job α).Guided rules standing mid ↔ mid (.error failure) standing :=
  Iff.rfl

namespace Guided

theorem bind (first : job.Guided rules standing mid)
    (fails : ∀ failure after, mid (.error failure) after → post (.error failure) after)
    (second : ∀ value after, mid (.ok value) after → (next value).Guided rules after post) :
    (job >>= next).Guided rules standing post := by
  refine Script.Guided.bind first fun outcome after holds => ?_
  cases outcome with
  | ok value => exact second value after holds
  | error failure => exact fails failure after holds

theorem mono {last : Outcome α → σ → Prop} (guided : job.Guided rules standing mid)
    (weaker : ∀ outcome after, mid outcome after → last outcome after) :
    job.Guided rules standing last :=
  Script.Guided.mono guided weaker

/-- A job that leaves the standing as it is, followed by others. -/
theorem keeping_bind (each : job.Each (rules.Keeps standing))
    (fails : ∀ failure, post (.error failure) standing)
    (second : ∀ value, (next value).Guided rules standing post) :
    (job >>= next).Guided rules standing post := by
  refine bind (Script.Each.guided each) ?_ ?_
  · rintro failure _ rfl
    exact fails failure
  · rintro value _ rfl
    exact second value

theorem ofOutcome_bind {outcome : Outcome α}
    (fails : ∀ failure, outcome = .error failure → post (.error failure) standing)
    (second : ∀ value, outcome = .ok value → (next value).Guided rules standing post) :
    (ofOutcome outcome >>= next).Guided rules standing post := by
  cases outcome with
  | ok value => exact second value rfl
  | error failure => exact fails failure rfl

theorem ask_bind {operation : Operation} {next : operation.Answer → Job β}
    (turns : ∀ answer, rules.expects standing operation answer → ∃ after,
      rules.turns standing operation answer after ∧ (next answer).Guided rules after post) :
    (ask operation >>= next).Guided rules standing post :=
  turns

theorem notify_bind {peer : Peer} {method : String} {params : Json} {next : Unit → Job β}
    (turns : ∀ outcome, rules.expects standing (.notify peer method params) outcome → ∃ after,
      rules.turns standing (.notify peer method params) outcome after ∧
        match (outcome : Outcome Unit) with
        | .ok _ => (next ()).Guided rules after post
        | .error failure => post (.error failure) after) :
    (notify peer method params >>= next).Guided rules standing post := by
  intro (outcome : Outcome Unit) expected
  obtain ⟨after, turned, rest⟩ := turns outcome expected
  refine ⟨after, turned, ?_⟩
  cases outcome with
  | ok _ => exact rest
  | error failure => exact rest

/-- Whatever comes of an attempt, the job goes on. -/
theorem attempt_bind {next : Outcome α → Job β} (first : job.Guided rules standing mid)
    (second : ∀ outcome after, mid outcome after → (next outcome).Guided rules after post) :
    (attempt job >>= next).Guided rules standing post := by
  change Script.Guided rules (Script.bind (Script.bind job.run _) _) standing post
  rw [Script.bind_assoc]
  exact Script.Guided.bind first second

/-- A job done while a lock is held, which is let go of whatever comes of the job. -/
theorem holding {lock : Lock} {mode : LockMode} {held : σ}
    (takes : rules.turns standing (.acquire lock mode) () held)
    (inside : job.Guided rules held fun outcome after =>
      ∃ freed, rules.turns after (.release lock) () freed ∧ mid outcome freed) :
    (Job.holding lock mode job).Guided rules standing mid := by
  refine fun _ _ => ⟨held, takes, ?_⟩
  change Script.Guided rules
    (job.run.bind fun outcome => .step (.release lock) fun _ => .done outcome) _ _
  exact Script.Guided.bind inside fun outcome after freeing => fun _ _ => freeing

end Guided

end Job

end LanguageBridge
