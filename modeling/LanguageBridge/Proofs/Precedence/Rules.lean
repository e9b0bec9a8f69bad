import LanguageBridge.Proofs.Precedence.Bearing

/-!
Scripts and jobs that bear themselves well, construct by construct, whether they come to a value or
fail. Most jobs leave a thread's bearing as it is, but for what the thread got to know.
-/
namespace LanguageBridge

variable {α β : Type} {letter : Letter} {bearing : Bearing}

namespace Script

variable {script : Script α} {next : α → Script β} {mid : α → Bearing → Prop}
  {post : β → Bearing → Prop}

theorem Heads.bind {heading : Heading} (heads : script.Heads letter heading)
    (next : α → Script β) : (script.bind next).Heads letter heading := by
  cases heading with
  | plain => trivial
  | drops queue =>
    obtain ⟨rest, rfl⟩ := heads
    exact ⟨fun answer => (rest answer).bind next, rfl⟩
  | opens session =>
    obtain ⟨rest, rfl⟩ := heads
    exact ⟨fun outcome => (rest outcome).bind next, bind_assoc ..⟩
  | brings session text =>
    obtain ⟨rest, rfl⟩ := heads
    exact ⟨fun outcome => (rest outcome).bind next, bind_assoc ..⟩

theorem Bears.bind (first : script.Bears letter bearing mid)
    (second : ∀ value after, mid value after → (next value).Bears letter after post) :
    (script.bind next).Bears letter bearing post := by
  induction script generalizing bearing with
  | done value => exact second value bearing first
  | step operation onward ih =>
    intro answer due expected
    obtain ⟨heading, after, child, heads, turns, rest⟩ := first answer due expected
    exact ⟨heading, after, child, heads.bind next, turns, ih answer rest⟩

theorem Bears.mono {last : α → Bearing → Prop} (bears : script.Bears letter bearing mid)
    (weaker : ∀ value after, mid value after → last value after) :
    script.Bears letter bearing last := by
  rw [← script.bind_done]
  exact bears.bind weaker

/-- An operation that only turns the bearing, and then the rest of a script. -/
theorem Bears.step {operation : Operation} {onward : operation.Answer → Script β}
    (turns : ∀ answer due, letter.Expects due operation answer → ∃ after child,
      letter.Turns due bearing .plain operation answer after child ∧
      (onward answer).Bears letter after post) :
    (Script.step operation onward).Bears letter bearing post := by
  intro answer due expected
  obtain ⟨after, child, turn, rest⟩ := turns answer due expected
  exact ⟨.plain, after, child, trivial, turn, rest⟩

theorem Each.bears (plain : script.Each Operation.Plain) :
    script.Bears letter bearing fun _ after => after = bearing := by
  induction script with
  | done value => rfl
  | step operation onward ih =>
    exact .step fun answer due _ => ⟨bearing, none, .plain plain.1, ih answer (plain.2 answer)⟩

end Script

/-- A thread stands as before, and may have got to know more. -/
structure Bearing.Grows (before after : Bearing) : Prop where
  watch : after.watch = before.watch
  late : after.late = before.late
  documents : after.documents = before.documents
  queue : after.queue = before.queue
  confirmed : before.confirmed ⊆ after.confirmed
  known : before.known ⊆ after.known
  had : before.had ⊆ after.had
  cleared : before.cleared ⊆ after.cleared
  found : before.found ⊆ after.found

namespace Bearing.Grows

variable {before middle after : Bearing}

theorem refl (bearing : Bearing) : bearing.Grows bearing :=
  ⟨rfl, rfl, rfl, rfl, fun _ => id, fun _ => id, fun _ => id, fun _ => id, fun _ => id⟩

theorem trans (first : before.Grows middle) (second : middle.Grows after) :
    before.Grows after where
  watch := second.watch.trans first.watch
  late := second.late.trans first.late
  documents := second.documents.trans first.documents
  queue := second.queue.trans first.queue
  confirmed := List.Subset.trans first.confirmed second.confirmed
  known := List.Subset.trans first.known second.known
  had := List.Subset.trans first.had second.had
  cleared := List.Subset.trans first.cleared second.cleared
  found := List.Subset.trans first.found second.found

theorem carries (grows : before.Grows after) : after.Carries ↔ before.Carries := by
  rw [Carries, Carries, grows.watch, grows.queue]

theorem knows (bearing : Bearing) (session : Session) :
    bearing.Grows { bearing with known := session :: bearing.known } :=
  { Grows.refl bearing with known := List.subset_cons_self _ _ }

theorem confirms (bearing : Bearing) (server : ServerId) :
    bearing.Grows { bearing with confirmed := server :: bearing.confirmed } :=
  { Grows.refl bearing with confirmed := List.subset_cons_self _ _ }

theorem has (bearing : Bearing) (session : Session) :
    bearing.Grows { bearing with had := session :: bearing.had } :=
  { Grows.refl bearing with had := List.subset_cons_self _ _ }

theorem clears (bearing : Bearing) (session : Session) :
    bearing.Grows { bearing with cleared := session :: bearing.cleared } :=
  { Grows.refl bearing with cleared := List.subset_cons_self _ _ }

theorem finds (bearing : Bearing) (file : String) (key : SessionKey) :
    bearing.Grows { bearing with found := (file, key) :: bearing.found } :=
  { Grows.refl bearing with found := List.subset_cons_self _ _ }

/-- Whoever did not hold the documents has let go of them. -/
theorem of_documents (free : bearing.documents = .free) :
    bearing.Grows { bearing with documents := .free } := by
  rw [← free]
  exact .refl bearing

/-- Whoever did not hold the queue has let go of it. -/
theorem of_queue {grip : QueueGrip} (free : bearing.queue = .free)
    (grows : Grows { bearing with queue := grip } after) :
    bearing.Grows { after with queue := .free } :=
  { grows with queue := free.symm }

end Bearing.Grows

namespace Job

variable (letter) in
/-- A job leaves a thread's bearing as it is, but for what the thread gets to know. -/
def Fits (job : Job α) (bearing : Bearing) (post : Outcome α → Bearing → Prop) : Prop :=
  job.run.Bears letter bearing fun outcome after => bearing.Grows after ∧ post outcome after

variable (letter) in
/-- A job fits every thread that does not hold the documents. -/
def Gentle (job : Job α) : Prop :=
  ∀ bearing : Bearing, bearing.documents = .free → job.Fits letter bearing fun _ _ => True

variable (letter) in
/-- A job fits every thread that holds neither the documents nor the queue. -/
def Tame (job : Job α) : Prop :=
  ∀ bearing : Bearing, bearing.documents = .free → bearing.queue = .free →
    job.Fits letter bearing fun _ _ => True

variable {job : Job α} {next : α → Job β} {mid : Outcome α → Bearing → Prop}
  {post : Outcome β → Bearing → Prop}

theorem Fits.pure {value : α} (holds : mid (.ok value) bearing) :
    (Pure.pure value : Job α).Fits letter bearing mid :=
  ⟨.refl bearing, holds⟩

theorem Fits.throw {failure : Failure} (holds : mid (.error failure) bearing) :
    (throw failure : Job α).Fits letter bearing mid :=
  ⟨.refl bearing, holds⟩

theorem Fits.ofOutcome {outcome : Outcome α} (holds : mid outcome bearing) :
    (Job.ofOutcome outcome).Fits letter bearing mid :=
  ⟨.refl bearing, holds⟩

/-- What was the outcome before is it still. -/
theorem Fits.outcome (outcome : Outcome α) : (Job.ofOutcome outcome).Fits letter bearing
    fun given after => given = outcome ∧ after = bearing :=
  ⟨.refl bearing, rfl, rfl⟩

theorem Fits.ofShaped {shaped : Shaped α} (holds : mid (Outcome.ofShaped shaped) bearing) :
    (Job.ofShaped shaped).Fits letter bearing mid :=
  Fits.ofOutcome holds

theorem Fits.mono {last : Outcome α → Bearing → Prop} (fits : job.Fits letter bearing mid)
    (weaker : ∀ outcome after, bearing.Grows after → mid outcome after → last outcome after) :
    job.Fits letter bearing last :=
  Script.Bears.mono fits fun outcome after ⟨grows, holds⟩ =>
    ⟨grows, weaker outcome after grows holds⟩

theorem Fits.bind (first : job.Fits letter bearing mid)
    (failed : ∀ failure after, bearing.Grows after → mid (.error failure) after →
      post (.error failure) after)
    (second : ∀ value after, bearing.Grows after → mid (.ok value) after →
      (next value).Fits letter after post) :
    (job >>= next).Fits letter bearing post := by
  apply Script.Bears.bind first
  rintro outcome after ⟨grows, holds⟩
  cases outcome with
  | error failure => exact ⟨grows, failed failure after grows holds⟩
  | ok value =>
    exact Script.Bears.mono (second value after grows holds) fun _ _ ⟨more, last⟩ =>
      ⟨grows.trans more, last⟩

/-- An operation and then the rest of a job, from the bearing that the operation turns to. -/
theorem Fits.ask_bind {operation : Operation} {next : operation.Answer → Job β}
    (turns : ∀ answer due, letter.Expects due operation answer → ∃ after child,
      letter.Turns due bearing .plain operation answer after child ∧ bearing.Grows after ∧
      (next answer).Fits letter after post) :
    (Job.ask operation >>= next).Fits letter bearing post := by
  refine Script.Bears.step fun answer due expected => ?_
  obtain ⟨after, child, turn, grows, rest⟩ := turns answer due expected
  exact ⟨after, child, turn, Script.Bears.mono rest fun _ _ ⟨more, last⟩ =>
    ⟨grows.trans more, last⟩⟩

/-- An operation and then the rest of a job, with a heading. -/
theorem bears_ask_bind {operation : Operation} {next : operation.Answer → Job β}
    (turns : ∀ answer due, letter.Expects due operation answer → ∃ heading after child,
      (Job.ask operation >>= next).run.Heads letter heading ∧
      letter.Turns due bearing heading operation answer after child ∧
      (next answer).run.Bears letter after post) :
    (Job.ask operation >>= next).run.Bears letter bearing post :=
  turns

/-- A notification and then the rest of a job, or its failure. -/
theorem bears_notify_bind {peer : Peer} {method : String} {params : Json} {next : Unit → Job β}
    (told : ∀ due, ∃ after child,
      letter.Turns due bearing .plain (.notify peer method params) (.ok ()) after child ∧
      (next ()).run.Bears letter after post)
    (failed : ∀ failure due, ∃ after child,
      letter.Turns due bearing .plain (.notify peer method params) (.error failure) after child ∧
      post (.error failure) after) :
    (Job.notify peer method params >>= next).run.Bears letter bearing post := by
  refine Script.Bears.step fun (outcome : Outcome Unit) due _ => ?_
  cases outcome with
  | ok _ => exact told due
  | error failure => exact failed failure due

theorem Fits.plain_bind {operation : Operation} {next : operation.Answer → Job β}
    (plain : operation.Plain)
    (rest : ∀ answer due, letter.Expects due operation answer →
      (next answer).Fits letter bearing post) :
    (Job.ask operation >>= next).Fits letter bearing post :=
  .ask_bind fun answer due expected =>
    ⟨bearing, none, .plain plain, .refl bearing, rest answer due expected⟩

theorem Fits.attempt (fits : job.Fits letter bearing mid) :
    (Job.attempt job).Fits letter bearing fun result after =>
      ∃ outcome, result = .ok outcome ∧ mid outcome after :=
  Script.Bears.bind fits fun outcome _ ⟨grows, holds⟩ => ⟨grows, outcome, rfl, holds⟩

theorem Fits.ofScript {script : Script α} {mid : α → Bearing → Prop}
    (bears : script.Bears letter bearing fun value after => bearing.Grows after ∧ mid value after) :
    (Job.ofScript script).Fits letter bearing fun result after =>
      ∃ value, result = .ok value ∧ mid value after :=
  Script.Bears.bind bears fun value _ ⟨grows, holds⟩ => ⟨grows, value, rfl, holds⟩

/-- A job done while a lock is held, which is let go of whatever comes of the job. -/
theorem bears_holding {lock : Lock} {mode : LockMode} {within : Bearing}
    (takes : ∀ due, letter.Turns due bearing .plain (.acquire lock mode) () within none)
    (inside : job.run.Bears letter within fun outcome held => ∀ due, ∃ left child,
      letter.Turns due held .plain (.release lock) () left child ∧ mid outcome left) :
    (Job.holding lock mode job).run.Bears letter bearing mid := by
  refine .step fun _ due _ => ⟨within, none, takes due, ?_⟩
  change Script.Bears letter
    (job.run.bind fun outcome => .step (.release lock) fun _ => .done outcome) within _
  refine Script.Bears.bind inside fun outcome held leaves => .step fun _ due _ => ?_
  obtain ⟨left, child, turn, holds⟩ := leaves due
  exact ⟨left, child, turn, holds⟩

theorem Fits.holding {lock : Lock} {mode : LockMode} {within : Bearing}
    (takes : ∀ due, letter.Turns due bearing .plain (.acquire lock mode) () within none)
    (inside : job.run.Bears letter within fun outcome held => ∀ due, ∃ left child,
      letter.Turns due held .plain (.release lock) () left child ∧ bearing.Grows left ∧
        mid outcome left) :
    (Job.holding lock mode job).Fits letter bearing mid :=
  bears_holding takes inside

/-- The start of a session is held without touching anything else. -/
theorem Fits.starting {key : SessionKey} (fits : job.Fits letter bearing mid) :
    (Job.holding (.starting key) .exclusive job).Fits letter bearing mid :=
  .holding (fun _ => .plain trivial) (Script.Bears.mono fits fun _ held ⟨grows, holds⟩ _ =>
    ⟨held, none, .plain trivial, grows, holds⟩)

theorem Each.fits (plain : job.Each Operation.Plain) :
    job.Fits letter bearing fun _ after => after = bearing := by
  refine Script.Bears.mono (Script.Each.bears plain) fun outcome after same => ?_
  subst same
  exact ⟨.refl _, rfl⟩

namespace Gentle

theorem of_each (plain : job.Each Operation.Plain) : job.Gentle letter :=
  fun _ _ => plain.fits.mono fun _ _ _ _ => trivial

theorem bind (first : job.Gentle letter) (second : ∀ value, (next value).Gentle letter) :
    (job >>= next).Gentle letter := by
  intro bearing free
  refine (first bearing free).bind (fun _ _ _ _ => trivial) fun value after grows _ => ?_
  exact second value after (grows.documents.trans free)

theorem ofOutcome (outcome : Outcome α) : (Job.ofOutcome outcome).Gentle letter :=
  fun _ _ => .ofOutcome trivial

theorem ofShaped (shaped : Shaped α) : (Job.ofShaped shaped).Gentle letter :=
  fun _ _ => .ofShaped trivial

theorem pure (value : α) : (Pure.pure value : Job α).Gentle letter := fun _ _ => .pure trivial

theorem plain_bind {operation : Operation} {next : operation.Answer → Job β}
    (plain : operation.Plain) (rest : ∀ answer, (next answer).Gentle letter) :
    (Job.ask operation >>= next).Gentle letter :=
  fun bearing free => .plain_bind plain fun answer _ _ => rest answer bearing free

theorem forM {f : α → Job Unit} (each : ∀ value, (f value).Gentle letter) (values : List α) :
    (values.forM f).Gentle letter := by
  induction values with
  | nil => exact pure _
  | cons value rest ih => exact (each value).bind fun _ => ih

theorem tame (gentle : job.Gentle letter) : job.Tame letter :=
  fun bearing documents _ => gentle bearing documents

/-- Documents that are read and put back as they are, as far as the document goes. -/
theorem holding (inside : ∀ within : Bearing, within.documents = .entered →
      job.run.Bears letter within fun _ held =>
        within.Grows { held with documents := .entered } ∧
          ∀ session text, held.documents ≠ .telling session text) :
    (Job.holding .documents .exclusive job).Gentle letter := by
  intro bearing free
  refine .holding (fun _ => .enter free) (Script.Bears.mono (inside _ rfl) ?_)
  rintro outcome held ⟨grows, quiet⟩ due
  refine ⟨{ held with documents := .free }, none, .leave quiet, ?_, trivial⟩
  exact { grows with documents := free.symm }

end Gentle

namespace Tame

theorem bind (first : job.Tame letter) (second : ∀ value, (next value).Tame letter) :
    (job >>= next).Tame letter := by
  intro bearing documents queue
  refine (first bearing documents queue).bind (fun _ _ _ _ => trivial) fun value after grows _ => ?_
  exact second value after (grows.documents.trans documents) (grows.queue.trans queue)

theorem plain_bind {operation : Operation} {next : operation.Answer → Job β}
    (plain : operation.Plain) (rest : ∀ answer, (next answer).Tame letter) :
    (Job.ask operation >>= next).Tame letter :=
  fun bearing documents queue =>
    .plain_bind plain fun answer _ _ => rest answer bearing documents queue

end Tame

end Job

end LanguageBridge
