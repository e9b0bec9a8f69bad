import LanguageBridge.Proofs.Script.Guided

/-!
What a script has done: its operations with what they answered, in order. A script and its acts say
how far it has got, and what a job does falls apart as the job does.
-/
namespace LanguageBridge

/-- An operation that was carried out, and what it answered. -/
structure Act where
  operation : Operation
  answer : operation.Answer

namespace Script

variable {α β : Type}

/-- A script gets so far by acts. -/
inductive Does : Script α → List Act → Script α → Prop
  | nothing (script : Script α) : Does script [] script
  | act {operation : Operation} {next : operation.Answer → Script α} (answer : operation.Answer)
      {acts : List Act} {left : Script α} (rest : Does (next answer) acts left) :
      Does (.step operation next) (⟨operation, answer⟩ :: acts) left

variable {script left last : Script α} {acts first second : List Act}

theorem does_nil : script.Does [] left ↔ left = script := by
  constructor
  · intro does
    cases does
    rfl
  · rintro rfl
    exact .nothing _

theorem Does.trans (does : script.Does first left) (more : left.Does second last) :
    script.Does (first ++ second) last := by
  induction does with
  | nothing => exact more
  | act answer _ ih => exact .act answer (ih more)

/-- One more operation has been carried out. -/
theorem Does.snoc {operation : Operation} {next : operation.Answer → Script α}
    (does : script.Does acts (.step operation next)) (answer : operation.Answer) :
    script.Does (acts ++ [⟨operation, answer⟩]) (next answer) :=
  does.trans (.act answer (.nothing _))

theorem Does.of_done {value : α} (does : (done value).Does acts left) :
    acts = [] ∧ left = done value := by
  cases does
  exact ⟨rfl, rfl⟩

theorem Does.of_step {operation : Operation} {next : operation.Answer → Script α}
    (does : (step operation next).Does acts left) :
    acts = [] ∧ left = step operation next ∨ ∃ answer rest,
      acts = ⟨operation, answer⟩ :: rest ∧ (next answer).Does rest left := by
  cases does with
  | nothing => exact .inl ⟨rfl, rfl⟩
  | act answer rest => exact .inr ⟨answer, _, rfl, rest⟩

/-- A script that has come to a value has carried out its first operation. -/
theorem Does.of_step_done {operation : Operation} {next : operation.Answer → Script α} {value : α}
    (does : (step operation next).Does acts (done value)) :
    ∃ answer rest, acts = ⟨operation, answer⟩ :: rest ∧
      (next answer).Does rest (done value) := by
  rcases does.of_step with ⟨_, impossible⟩ | does
  · cases impossible
  · exact does

/-- Acts leave no choice. -/
theorem Does.unique (does : script.Does acts left) (again : script.Does acts last) :
    left = last := by
  induction does with
  | nothing => exact (does_nil.mp again).symm
  | act answer _ ih =>
    cases again with
    | act _ rest => exact ih rest

theorem Does.bind (does : script.Does acts left) (next : α → Script β) :
    (script.bind next).Does acts (left.bind next) := by
  induction does with
  | nothing script => exact .nothing _
  | act answer _ ih => exact .act answer ih

/-- How far a script followed by another has got: it is amid the first, or it is done with it and
goes on with the other. -/
inductive Halves (script : Script α) (next : α → Script β) (acts : List Act)
    (left : Script β) : Prop
  | amid {operation : Operation} {onward : operation.Answer → Script α}
      (does : script.Does acts (.step operation onward))
      (stands : left = (Script.step operation onward).bind next)
  | beyond {value : α} {first second : List Act} (whole : acts = first ++ second)
      (does : script.Does first (.done value)) (rest : (next value).Does second left)

theorem Does.of_bind {next : α → Script β} {left : Script β}
    (does : (script.bind next).Does acts left) : script.Halves next acts left := by
  induction script generalizing acts with
  | done value => exact .beyond rfl (.nothing _) does
  | step operation onward ih =>
    have stepped : (step operation fun answer => (onward answer).bind next).Does acts left := does
    rcases stepped.of_step with ⟨rfl, rfl⟩ | ⟨answer, rest, rfl, more⟩
    · exact .amid (.nothing _) rfl
    · cases ih answer more with
      | amid does stands => exact .amid (.act answer does) stands
      | beyond whole does rest => exact .beyond (by rw [whole]; rfl) (.act answer does) rest

/-- A script followed by another that has come to a value is done with both. -/
theorem Does.of_bind_done {next : α → Script β} {value : β}
    (does : (script.bind next).Does acts (.done value)) :
    ∃ given first second, acts = first ++ second ∧ script.Does first (.done given) ∧
      (next given).Does second (.done value) := by
  cases does.of_bind with
  | amid _ stands => cases stands
  | beyond whole does rest => exact ⟨_, _, _, whole, does, rest⟩

/-- What a script has done and has before it is of the kind that all its operations are. -/
theorem Each.does {kind : Operation → Prop} (each : script.Each kind)
    (does : script.Does acts left) : (∀ act ∈ acts, kind act.operation) ∧ left.Each kind := by
  induction does with
  | nothing => exact ⟨List.forall_mem_nil _, each⟩
  | act answer _ ih =>
    obtain ⟨done, ahead⟩ := ih (each.2 answer)
    exact ⟨List.forall_mem_cons.mpr ⟨each.1, done⟩, ahead⟩

end Script

/-- Acts take one standing to another as rules have it. -/
inductive Rules.Follows {σ : Type} (rules : Rules σ) : σ → List Act → σ → Prop
  | nothing (standing : σ) : Follows rules standing [] standing
  | act {standing between after : σ} {act : Act} {acts : List Act}
      (turns : rules.turns standing act.operation act.answer between)
      (rest : Follows rules between acts after) : Follows rules standing (act :: acts) after

theorem Rules.Follows.of_append {σ : Type} {rules : Rules σ} {standing after : σ}
    {first second : List Act} (follows : rules.Follows standing (first ++ second) after) :
    ∃ between, rules.Follows standing first between ∧ rules.Follows between second after := by
  induction first generalizing standing with
  | nil => exact ⟨standing, .nothing _, follows⟩
  | cons act rest ih =>
    cases follows with
    | act turns onward =>
      obtain ⟨between, before, later⟩ := ih onward
      exact ⟨between, .act turns before, later⟩

/-- A script that goes by rules has done so, and goes on doing so. -/
theorem Script.Guided.does {σ α : Type} {rules : Rules σ} {script left : Script α}
    {acts : List Act} {standing : σ} {post : α → σ → Prop}
    (guided : script.Guided rules standing post) (does : script.Does acts left)
    (expected : ∀ standing, ∀ act ∈ acts, rules.expects standing act.operation act.answer) :
    ∃ after, rules.Follows standing acts after ∧ left.Guided rules after post := by
  induction does generalizing standing with
  | nothing => exact ⟨standing, .nothing _, guided⟩
  | act answer _ ih =>
    obtain ⟨between, turns, rest⟩ := guided answer (expected standing _ List.mem_cons_self)
    obtain ⟨after, follows, ahead⟩ := ih rest fun standing act member =>
      expected standing act (List.mem_cons_of_mem _ member)
    exact ⟨after, .act turns follows, ahead⟩

namespace Job

variable {α β : Type} {acts : List Act}

/-- A job comes to an outcome by acts. -/
def Comes (job : Job α) (acts : List Act) (outcome : Outcome α) : Prop :=
  job.run.Does acts (.done outcome)

theorem Comes.of_ofOutcome {given outcome : Outcome α}
    (comes : (ofOutcome given).Comes acts outcome) : acts = [] ∧ outcome = given := by
  obtain ⟨nothing, same⟩ := Script.Does.of_done comes
  exact ⟨nothing, Script.done.inj same⟩

theorem Comes.of_pure {value : α} {outcome : Outcome α}
    (comes : (pure value : Job α).Comes acts outcome) : acts = [] ∧ outcome = .ok value :=
  of_ofOutcome comes

theorem Comes.of_throw {failure : Failure} {outcome : Outcome α}
    (comes : (throw failure : Job α).Comes acts outcome) :
    acts = [] ∧ outcome = .error failure :=
  of_ofOutcome comes

/-- A job followed by another: the first fails, and then that is all, or the second goes on with its
value. -/
theorem Comes.of_bind {job : Job α} {next : α → Job β} {outcome : Outcome β}
    (comes : (job >>= next).Comes acts outcome) :
    (∃ failure, outcome = .error failure ∧ job.Comes acts (.error failure)) ∨
      ∃ value first second, acts = first ++ second ∧ job.Comes first (.ok value) ∧
        (next value).Comes second outcome := by
  obtain ⟨given, first, second, rfl, done, rest⟩ := Script.Does.of_bind_done comes
  cases given with
  | error failure =>
    obtain ⟨rfl, same⟩ := Script.Does.of_done rest
    rw [List.append_nil]
    exact .inl ⟨failure, Script.done.inj same, done⟩
  | ok value => exact .inr ⟨value, first, second, rfl, done, rest⟩

/-- A job that succeeds has done so in all its parts. -/
theorem Comes.of_bind_ok {job : Job α} {next : α → Job β} {value : β}
    (comes : (job >>= next).Comes acts (.ok value)) :
    ∃ given first second, acts = first ++ second ∧ job.Comes first (.ok given) ∧
      (next given).Comes second (.ok value) := by
  rcases comes.of_bind with ⟨failure, impossible, _⟩ | parts
  · cases impossible
  · exact parts

theorem Comes.of_ofOutcome_bind {given : Outcome α} {next : α → Job β} {outcome : Outcome β}
    (comes : (ofOutcome given >>= next).Comes acts outcome) :
    (∃ failure, given = .error failure ∧ outcome = .error failure ∧ acts = []) ∨
      ∃ value, given = .ok value ∧ (next value).Comes acts outcome := by
  cases given with
  | error failure =>
    obtain ⟨nothing, same⟩ := Comes.of_throw comes
    exact .inl ⟨failure, rfl, same, nothing⟩
  | ok value => exact .inr ⟨value, rfl, comes⟩

/-- A single operation does not fail. -/
theorem Comes.of_ask_bind {operation : Operation} {next : operation.Answer → Job β}
    {outcome : Outcome β} (comes : (ask operation >>= next).Comes acts outcome) :
    ∃ answer rest, acts = ⟨operation, answer⟩ :: rest ∧ (next answer).Comes rest outcome :=
  Script.Does.of_step_done comes

theorem Comes.of_attempt_bind {job : Job α} {next : Outcome α → Job β} {outcome : Outcome β}
    (comes : (attempt job >>= next).Comes acts outcome) :
    ∃ given first second, acts = first ++ second ∧ job.Comes first given ∧
      (next given).Comes second outcome := by
  change Script.Does (Script.bind (Script.bind job.run _) _) acts _ at comes
  rw [Script.bind_assoc] at comes
  exact Script.Does.of_bind_done comes

theorem Comes.of_ofScript_bind {script : Script α} {next : α → Job β} {outcome : Outcome β}
    (comes : (ofScript script >>= next).Comes acts outcome) :
    ∃ value first second, acts = first ++ second ∧ script.Does first (.done value) ∧
      (next value).Comes second outcome := by
  change Script.Does (Script.bind (Script.bind script _) _) acts _ at comes
  rw [Script.bind_assoc] at comes
  exact Script.Does.of_bind_done comes

theorem Comes.of_notify {peer : Peer} {method : String} {params : Json} {outcome : Outcome Unit}
    (comes : (notify peer method params).Comes acts outcome) :
    acts = [⟨.notify peer method params, outcome⟩] := by
  obtain ⟨answer, rest, rfl, ending⟩ := Script.Does.of_step_done comes
  obtain ⟨rfl, same⟩ := Script.Does.of_done ending
  rw [Script.done.inj same]

theorem Comes.of_reply {peer : Peer} {id : RequestId} {result : Json} {outcome : Outcome Unit}
    (comes : (reply peer id result).Comes acts outcome) :
    acts = [⟨.reply peer id result, outcome⟩] := by
  obtain ⟨answer, rest, rfl, ending⟩ := Script.Does.of_step_done comes
  obtain ⟨rfl, same⟩ := Script.Does.of_done ending
  rw [Script.done.inj same]

/-- A call that was made is waited for, and its answer has a shape; or nobody is there to be called,
or the answer is a failure or has another shape. -/
theorem Comes.of_call {peer : Peer} {method : String} {params : Json} {read : Json → Shaped α}
    {outcome : Outcome α} (comes : (call peer method params read).Comes acts outcome) :
    (∃ failure : Failure, outcome = .error failure ∧
      acts = [⟨.call peer method params, (.error failure : Outcome Nat)⟩]) ∨
    ∃ (ticket : Nat) (answer : Outcome Json),
      acts = [⟨.call peer method params, (.ok ticket : Outcome Nat)⟩, ⟨.await ticket, answer⟩] ∧
      ∀ value, outcome = .ok value → ∃ json, answer = .ok json ∧ read json = .ok value := by
  unfold call at comes
  rcases comes.of_bind with ⟨failure, rfl, calling⟩ | ⟨ticket, first, second, rfl, calling, rest⟩
  · obtain ⟨answer, rest, rfl, ending⟩ := Script.Does.of_step_done calling
    obtain ⟨rfl, same⟩ := Script.Does.of_done ending
    exact .inl ⟨failure, rfl, by rw [Script.done.inj same]⟩
  obtain ⟨answer, none, rfl, ending⟩ := Script.Does.of_step_done calling
  obtain ⟨rfl, same⟩ := Script.Does.of_done ending
  obtain rfl : answer = .ok ticket := (Script.done.inj same).symm
  refine .inr ⟨ticket, ?_⟩
  rcases rest.of_bind with ⟨failure, rfl, waiting⟩ | ⟨result, third, fourth, rfl, waiting, reading⟩
  · obtain ⟨answer, none, rfl, ending⟩ := Script.Does.of_step_done waiting
    obtain ⟨rfl, same⟩ := Script.Does.of_done ending
    exact ⟨answer, rfl, fun value impossible => by cases impossible⟩
  obtain ⟨answer, none, rfl, ending⟩ := Script.Does.of_step_done waiting
  obtain ⟨rfl, same⟩ := Script.Does.of_done ending
  obtain rfl : answer = .ok result := (Script.done.inj same).symm
  cases shaped : read result with
  | ok given =>
    rw [shaped] at reading
    obtain ⟨rfl, rfl⟩ := reading.of_pure
    refine ⟨.ok result, rfl, fun value same => ⟨result, rfl, ?_⟩⟩
    rw [shaped, Except.ok.inj same]
  | error error =>
    rw [shaped] at reading
    obtain ⟨rfl, rfl⟩ := reading.of_throw
    exact ⟨.ok result, rfl, fun value impossible => by cases impossible⟩

/-- Of jobs that have all succeeded each has done its part. -/
theorem Comes.of_forM_ok {f : α → Job Unit} {values : List α}
    (comes : (values.forM f).Comes acts (.ok ())) {value : α} (member : value ∈ values) :
    ∃ part, part <:+: acts ∧ (f value).Comes part (.ok ()) := by
  induction values generalizing acts with
  | nil => cases member
  | cons head rest ih =>
    obtain ⟨_, first, second, rfl, here, later⟩ := Comes.of_bind_ok comes
    rcases List.mem_cons.mp member with rfl | among
    · exact ⟨first, List.infix_append' [] first second, here⟩
    · obtain ⟨part, within, done⟩ := ih later among
      exact ⟨part, within.trans (List.suffix_append first second).isInfix, done⟩

end Job

end LanguageBridge
