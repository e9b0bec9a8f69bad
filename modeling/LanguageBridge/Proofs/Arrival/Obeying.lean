import LanguageBridge.Proofs.Arrival.Ledger

/-!
How jobs keep to their stances, construct by construct. A failure has to reach the user in the end,
so that nothing more is asked of a job once it has failed; what is asked of a job that comes to its
value is said by a condition on the value and the stance it leaves.
-/
namespace LanguageBridge

variable {roots : Roots} {α β : Type} {stance : Stance}

namespace Script

variable {script : Script α} {next : α → Script β} {mid : α → Stance → Prop}
  {post : β → Stance → Prop}

theorem Fails.bind (fails : script.Fails) (next : α → Script β) : (script.bind next).Fails := by
  induction script with
  | done value => exact fails.elim
  | step operation onward ih =>
    rcases fails with shows | ⟨quiet, rest⟩
    · exact .inl shows
    · exact .inr ⟨quiet, fun answer => ih answer (rest answer)⟩

theorem Fails.obeys (fails : script.Fails) (stance : Stance) (mid : α → Stance → Prop) :
    script.Obeys roots stance mid := by
  cases script with
  | done value => exact fails.elim
  | step operation onward => exact .inl fails

theorem Obeys.bind (first : script.Obeys roots stance mid)
    (second : ∀ value after, mid value after → (next value).Obeys roots after post) :
    (script.bind next).Obeys roots stance post := by
  induction script generalizing stance with
  | done value => exact second value stance first
  | step operation onward ih =>
    rcases first with fails | obeys
    · exact .inl (Fails.bind fails next)
    · refine .inr fun answer news expected => ?_
      obtain ⟨after, waiting, started, shift, rest⟩ := obeys answer news expected
      exact ⟨after, waiting, started, shift, ih answer rest⟩

theorem Obeys.mono {last : α → Stance → Prop} (obeys : script.Obeys roots stance mid)
    (weaker : ∀ value after, mid value after → last value after) :
    script.Obeys roots stance last := by
  rw [← script.bind_done]
  exact obeys.bind weaker

/-- All values that a script may come to. -/
def Gives (p : α → Prop) : Script α → Prop
  | .done value => p value
  | .step _ next => ∀ answer, Gives p (next answer)

theorem Gives.trivial (script : Script α) : script.Gives fun _ => True := by
  induction script with
  | done value => exact True.intro
  | step operation onward ih => exact ih

theorem Gives.bind {p : α → Prop} {q : β → Prop} (first : script.Gives p)
    (second : ∀ value, p value → (next value).Gives q) : (script.bind next).Gives q := by
  induction script with
  | done value => exact second value first
  | step operation onward ih => exact fun answer => ih answer (first answer)

/-- Only the values that a script may come to matter for what follows it. -/
theorem Gives.bind_congr {p : α → Prop} (gives : script.Gives p) {other : α → Script β}
    (same : ∀ value, p value → next value = other value) :
    script.bind next = script.bind other := by
  induction script with
  | done value => exact same value gives
  | step operation onward ih =>
    simp only [Script.bind]
    congr 1
    funext answer
    exact ih answer (gives answer)

theorem Idle.obeys (idle : script.Idle) (stance : Stance) :
    script.Obeys roots stance fun _ after => after = stance := by
  induction script with
  | done value => rfl
  | step operation onward ih =>
    exact .inr fun answer news _ =>
      ⟨stance, news.queued, none, .harmless idle.1, ih answer (idle.2 answer)⟩

theorem Idle.fails (idle : script.Idle) (rest : ∀ value, (next value).Fails) :
    (script.bind next).Fails := by
  induction script with
  | done value => exact rest value
  | step operation onward ih =>
    refine .inr ⟨fun receives => ?_, fun answer => ih answer (idle.2 answer)⟩
    cases operation <;> first | exact receives.elim | exact idle.1.elim

end Script

/-- A thread takes a step and goes on with a job from the stance that it has then. -/
abbrev Onward (roots : Roots) (stance : Stance) (operation : Operation)
    (goal : operation.Answer → Stance → Prop) : Prop :=
  ∀ answer news, Expects roots news stance operation answer →
    ∃ after waiting started, Shift roots news stance operation answer after waiting started ∧
      goal answer after

namespace Job

/-- A job keeps to a stance: whatever follows obeys if it does so after each value, and shows the
failure to the user when the job fails. -/
def Keeps (roots : Roots) (job : Job α) (stance : Stance) (post : α → Stance → Prop) : Prop :=
  ∀ (β : Type) (rest : Outcome α → Script β) (final : β → Stance → Prop),
    (∀ failure, (rest (.error failure)).Fails) →
    (∀ value after, post value after → (rest (.ok value)).Obeys roots after final) →
    (job.run.bind rest).Obeys roots stance final

/-- A job that leaves the stance as it is. -/
abbrev Returns (roots : Roots) (job : Job α) (stance : Stance) : Prop :=
  job.Keeps roots stance fun _ after => after = stance

/-- A job that leaves the stance as it is, also when it fails. -/
def Rests (roots : Roots) (job : Job α) (stance : Stance) : Prop :=
  job.run.Obeys roots stance fun _ after => after = stance

/-- A job that cannot fail. -/
def Sure (job : Job α) : Prop := job.run.Gives fun outcome => ∃ value, outcome = .ok value

/-- A job that shows a failure to the user or fails itself. -/
def Ruined (job : Job α) : Prop :=
  ∀ (β : Type) (rest : Outcome α → Script β), (∀ failure, (rest (.error failure)).Fails) →
    (job.run.bind rest).Fails

variable {job : Job α} {next : α → Job β} {mid : α → Stance → Prop} {post : β → Stance → Prop}

theorem run_bind_bind {γ : Type} (job : Job α) (next : α → Job β) (rest : Outcome β → Script γ) :
    (job >>= next).run.bind rest =
      job.run.bind fun outcome =>
        match outcome with
        | .ok value => (next value).run.bind rest
        | .error failure => rest (.error failure) := by
  change (Script.bind job.run _).bind rest = _
  rw [Script.bind_assoc]
  congr 1
  funext outcome
  cases outcome <;> rfl

section Keeping

theorem Keeps.pure {value : α} (holds : mid value stance) :
    (Pure.pure value : Job α).Keeps roots stance mid :=
  fun _ _ _ _ ending => ending value stance holds

theorem Keeps.throw {failure : Failure} : (throw failure : Job α).Keeps roots stance mid :=
  fun _ _ _ fails _ => (fails failure).obeys stance _

theorem Keeps.ofOutcome {outcome : Outcome α}
    (holds : ∀ value, outcome = .ok value → mid value stance) :
    (Job.ofOutcome outcome).Keeps roots stance mid := by
  intro γ rest final fails ending
  cases outcome with
  | ok value => exact ending value stance (holds value rfl)
  | error failure => exact (fails failure).obeys stance _

theorem Keeps.ofShaped {shaped : Shaped α}
    (holds : ∀ value, shaped = .ok value → mid value stance) :
    (Job.ofShaped shaped).Keeps roots stance mid := by
  apply Keeps.ofOutcome
  intro value given
  cases shaped with
  | ok read =>
    cases given
    exact holds _ rfl
  | error error => cases given

theorem Keeps.bind (first : job.Keeps roots stance mid)
    (second : ∀ value after, mid value after → (next value).Keeps roots after post) :
    (job >>= next).Keeps roots stance post := by
  intro γ rest final fails ending
  rw [run_bind_bind]
  apply first
  · intro failure
    exact fails failure
  · intro value after holds
    exact second value after holds γ rest final fails ending

theorem Keeps.mono {last : α → Stance → Prop} (keeps : job.Keeps roots stance mid)
    (weaker : ∀ value after, mid value after → last value after) : job.Keeps roots stance last :=
  fun γ rest final fails ending =>
    keeps γ rest final fails fun value after holds => ending value after (weaker value after holds)

theorem Keeps.ask_bind {operation : Operation} {next : operation.Answer → Job β}
    (onward : Onward roots stance operation fun answer after =>
      (next answer).Keeps roots after post) :
    (Job.ask operation >>= next).Keeps roots stance post := by
  intro γ rest final fails ending
  refine .inr fun answer news expected => ?_
  obtain ⟨after, waiting, started, shift, keeps⟩ := onward answer news expected
  exact ⟨after, waiting, started, shift, keeps γ rest final fails ending⟩

theorem Keeps.notify_bind {peer : Peer} {method : String} {params : Json} {next : Unit → Job β}
    (onward : Onward roots stance (.notify peer method params) fun outcome after =>
      outcome = Except.ok () → (next ()).Keeps roots after post) :
    (Job.notify peer method params >>= next).Keeps roots stance post := by
  intro γ rest final fails ending
  refine .inr fun answer news expected => ?_
  obtain ⟨after, waiting, started, shift, keeps⟩ := onward answer news expected
  have sent : answer = Except.ok () := expected
  refine ⟨after, waiting, started, shift, ?_⟩
  subst sent
  exact keeps rfl γ rest final fails ending

theorem Keeps.holding {lock : Lock} {mode : LockMode} {last : α → Stance → Prop}
    (onward : Onward roots stance (.acquire lock mode) fun _ after =>
      job.Keeps roots after fun value within =>
        Onward roots within (.release lock) fun _ => last value) :
    (Job.holding lock mode job).Keeps roots stance last := by
  intro γ rest final fails ending
  refine .inr fun answer news expected => ?_
  obtain ⟨after, waiting, started, shift, keeps⟩ := onward answer news expected
  refine ⟨after, waiting, started, shift, ?_⟩
  change Script.Obeys roots
    ((job.run.bind fun outcome => .step (.release lock) fun _ => .done outcome).bind rest) after
    final
  rw [Script.bind_assoc]
  apply keeps
  · intro failure
    exact .inr ⟨id, fun _ => fails failure⟩
  · intro value within release
    refine .inr fun answer news expected => ?_
    obtain ⟨left, waiting, started, shift, holds⟩ := release answer news expected
    exact ⟨left, waiting, started, shift, ending value left holds⟩

/-- A job that may fail, with a way to go on after each outcome; after a failure only the user has
to be shown it. -/
theorem Keeps.attempt_bind {next : Outcome α → Job β} (first : job.Keeps roots stance mid)
    (second : ∀ value after, mid value after → (next (.ok value)).Keeps roots after post)
    (ruined : ∀ failure, (next (.error failure)).Ruined) :
    (Job.attempt job >>= next).Keeps roots stance post := by
  intro γ rest final fails ending
  rw [run_bind_bind]
  change Script.Obeys roots
    ((job.run.bind fun outcome => .done (Except.ok outcome : Outcome (Outcome α))).bind _) stance
    final
  rw [Script.bind_assoc]
  apply first
  · intro failure
    exact ruined failure γ rest fails
  · intro value after holds
    exact second value after holds γ rest final fails ending

theorem Idle.keeps {last : α → Stance → Prop} (idle : job.Idle)
    (holds : ∀ value, last value stance) : job.Keeps roots stance last := by
  intro γ rest final fails ending
  refine Script.Obeys.bind (Script.Idle.obeys idle stance) ?_
  rintro outcome after rfl
  cases outcome with
  | ok value => exact ending value _ (holds value)
  | error failure => exact (fails failure).obeys _ _

theorem Idle.returns (idle : job.Idle) : job.Returns roots stance := idle.keeps fun _ => rfl

theorem Returns.bind (first : job.Returns roots stance)
    (second : ∀ value, (next value).Keeps roots stance post) :
    (job >>= next).Keeps roots stance post := by
  apply Keeps.bind first
  rintro value _ rfl
  exact second value

theorem Keeps.harmless_bind {operation : Operation} {next : operation.Answer → Job β}
    (harmless : operation.Harmless) (rest : ∀ answer, (next answer).Keeps roots stance post) :
    (Job.ask operation >>= next).Keeps roots stance post :=
  Keeps.ask_bind fun answer news _ => ⟨stance, news.queued, none, .harmless harmless, rest answer⟩

theorem Returns.forM {f : α → Job Unit} (each : ∀ value, (f value).Returns roots stance)
    (values : List α) : (values.forM f).Returns roots stance := by
  induction values with
  | nil => exact Keeps.pure rfl
  | cons value rest ih => exact (each value).bind fun _ => ih

theorem Idle.rests (idle : job.Idle) : job.Rests roots stance := Script.Idle.obeys idle stance

theorem Rests.bind (first : job.Rests roots stance)
    (second : ∀ value, (next value).Rests roots stance) : (job >>= next).Rests roots stance := by
  apply Script.Obeys.bind first
  rintro outcome _ rfl
  cases outcome with
  | ok value => exact second value
  | error failure => rfl

/-- A job with a way to go on after each outcome, where failures are shown to the user. -/
theorem Keeps.obeys {rest : Outcome α → Script β} (keeps : job.Keeps roots stance mid)
    (fails : ∀ failure, (rest (.error failure)).Fails)
    (ending : ∀ value after, mid value after → (rest (.ok value)).Obeys roots after post) :
    (job.run.bind rest).Obeys roots stance post :=
  keeps β rest post fails ending

end Keeping

section Ruining

theorem Ruined.throw {failure : Failure} : (throw failure : Job α).Ruined :=
  fun _ _ fails => fails failure

theorem Ruined.ofScript_bind {script : Script α} (fails : script.Fails) :
    (Job.ofScript script >>= next).Ruined := by
  intro γ rest _
  rw [run_bind_bind]
  exact Script.Fails.bind (Script.Fails.bind fails _) _

theorem Ruined.idle_bind (idle : job.Idle) (ruined : ∀ value, (next value).Ruined) :
    (job >>= next).Ruined := by
  intro γ rest fails
  rw [run_bind_bind]
  apply Script.Idle.fails idle
  intro outcome
  cases outcome with
  | ok value => exact ruined value γ rest fails
  | error failure => exact fails failure

end Ruining

section Certainty

theorem Sure.pure (value : α) : (Pure.pure value : Job α).Sure := ⟨value, rfl⟩

theorem Sure.bind (first : job.Sure) (second : ∀ value, (next value).Sure) :
    (job >>= next).Sure := by
  apply Script.Gives.bind first
  rintro _ ⟨value, rfl⟩
  exact second value

theorem Sure.ask (operation : Operation) : (Job.ask operation).Sure := fun answer => ⟨answer, rfl⟩

theorem Sure.ofScript (script : Script α) : (Job.ofScript script).Sure :=
  (Script.Gives.trivial script).bind fun value _ => ⟨value, rfl⟩

theorem Sure.attempt (job : Job α) : (Job.attempt job).Sure := Sure.ofScript job.run

theorem Sure.holding {lock : Lock} {mode : LockMode} (sure : job.Sure) :
    (Job.holding lock mode job).Sure := by
  intro answer
  change Script.Gives _ (job.run.bind fun outcome => .step (.release lock) fun _ => .done outcome)
  exact Script.Gives.bind sure fun _ holds _ => holds

/-- Nothing need be asked of what follows a failure of a job that cannot fail. -/
theorem Keeps.obeys_of_sure {rest : Outcome α → Script β} (keeps : job.Keeps roots stance mid)
    (sure : job.Sure)
    (ending : ∀ value after, mid value after → (rest (.ok value)).Obeys roots after post) :
    (job.run.bind rest).Obeys roots stance post := by
  let shown (outcome : Outcome α) : Script β :=
    match outcome with
    | .ok value => rest (.ok value)
    | .error failure =>
      .step (.notify .editor "vim#show_message"
        (.arr [.obj [("level", .str "Error"), ("message", .str failure.message)]]))
        fun _ => rest (.error failure)
  have same : job.run.bind rest = job.run.bind shown := by
    apply sure.bind_congr
    rintro _ ⟨value, rfl⟩
    rfl
  rw [same]
  exact keeps β shown post (fun failure => .inl ⟨rfl, failure.message, rfl⟩) ending

end Certainty

end Job

end LanguageBridge
