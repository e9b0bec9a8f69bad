import LanguageBridge.Proofs.Handover.Apart
import LanguageBridge.Proofs.Handover.Program

/-!
Where a thread stands with content for a session, and how its operations and remarks change that.
Content is appended to the queue, taken out of it or handed over only by whoever holds the queue,
and only one thread at a time is given content.
-/
namespace LanguageBridge

/-- How a thread keeps the queue: not at all, without having looked, or knowing what is in it. -/
inductive Keeping
  | free
  | held
  | seen (queue : Table SessionKey (List BufferContent))

/-- What content for a session is in the hands of a thread: what it took out of the queue and has
still to hand over or to drop, what it was given and has still to pass on, whether the editor's
messages are its to take, and whether it saw a start fail. -/
@[ext] structure Custody where
  keeping : Keeping := .free
  taken : List BufferContent := []
  owed : List BufferContent := []
  listens : Bool := false
  failed : Bool := false

/-- Where a thread stands that is started for some work. -/
def Work.custody : Work → Custody
  | .serveEditor => { listens := true }
  | _ => {}

/-- A thread has nothing to do with the queue and owes nothing. -/
structure Custody.Rests (custody : Custody) : Prop where
  keeping : custody.keeping = .free
  taken : custody.taken = []
  owed : custody.owed = []

variable {α β : Type} (key : SessionKey)

/-- How an operation changes the custody of the thread that carries it out. Content that a thread
was given it passes on before anything else, but for waiting for the queue. -/
inductive Custody.Turns (custody : Custody) :
    (operation : Operation) → operation.Answer → Custody → Prop
  | apart {operation : Operation} {answer : operation.Answer} (apart : operation.Apart)
      (passed : custody.keeping = .free → custody.owed = []) :
      Turns custody operation answer custody
  | hold (free : custody.keeping = .free) :
      Turns custody (.acquire .queue .exclusive) () { custody with keeping := .held }
  | see {queue : Table SessionKey (List BufferContent)} (held : custody.keeping = .held) :
      Turns custody .queue queue { custody with keeping := .seen queue }
  | lodge {queue : Table SessionKey (List BufferContent)} {content : BufferContent}
      (seen : custody.keeping = .seen queue) (taken : custody.taken = [])
      (owed : custody.owed = [content]) :
      Turns custody (.setQueue (queue.insert key ((queue.get? key).getD [] ++ [content]))) ()
        { custody with
          keeping := .seen (queue.insert key ((queue.get? key).getD [] ++ [content]))
          owed := [] }
  | take {queue : Table SessionKey (List BufferContent)} (seen : custody.keeping = .seen queue)
      (taken : custody.taken = []) :
      Turns custody (.setQueue (queue.erase key)) ()
        { custody with
          keeping := .seen (queue.erase key)
          taken := (queue.get? key).getD [] }
  | elsewhere {queue changed : Table SessionKey (List BufferContent)}
      (seen : custody.keeping = .seen queue) (same : changed.get? key = queue.get? key) :
      Turns custody (.setQueue changed) () { custody with keeping := .seen changed }
  | leave (taken : custody.taken = []) (owed : custody.owed = []) :
      Turns custody (.release .queue) () { custody with keeping := .free }
  | passOn {thread : Nat} (listens : custody.listens = true) (owed : custody.owed = []) :
      Turns custody (.fork .serveEditor) thread { custody with listens := false }

/-- How a remark changes the custody of the thread that makes it. Here, too, content that a thread
was given comes first. -/
inductive Custody.Remarks (custody : Custody) : Remark → Custody → Prop
  | elsewhere {said : Remark} (other : said.key ≠ key)
      (passed : custody.keeping = .free → custody.owed = []) : Remarks custody said custody
  | given {content : BufferContent} (listens : custody.listens = true) (owed : custody.owed = []) :
      Remarks custody (.given key content) { custody with owed := [content] }
  | handNext {content : BufferContent} {rest : List BufferContent}
      (taken : custody.taken = content :: rest) :
      Remarks custody (.handed key content) { custody with taken := rest }
  | handOwed {content : BufferContent} {queue : Table SessionKey (List BufferContent)}
      (seen : custody.keeping = .seen queue) (nothing : queue.get? key = none)
      (taken : custody.taken = []) (owed : custody.owed = [content]) :
      Remarks custody (.handed key content) { custody with owed := [] }
  | failed (owed : custody.owed = []) :
      Remarks custody (.failed key) { custody with failed := true }
  | drop {contents : List BufferContent} (failed : custody.failed = true)
      (keeping : custody.keeping ≠ .free) (taken : custody.taken = contents) :
      Remarks custody (.dropped key contents) { custody with taken := [] }

/-- A script does its operations and makes its remarks as its custody allows, and then comes to a
value. -/
def Annotated.Obeys : Annotated α → Custody → (α → Custody → Prop) → Prop
  | .done value, custody, post => post value custody
  | .step operation next, custody, post => ∀ answer, ∃ after,
      custody.Turns key operation answer after ∧ (next answer).Obeys after post
  | .remark said rest, custody, post => ∃ after, custody.Remarks key said after ∧
      rest.Obeys after post

variable {key} {custody : Custody}

namespace Annotated

variable {script : Annotated α} {next : α → Annotated β} {mid : α → Custody → Prop}
  {post : β → Custody → Prop}

theorem Obeys.bind (first : script.Obeys key custody mid)
    (second : ∀ value after, mid value after → (next value).Obeys key after post) :
    (script.bind next).Obeys key custody post := by
  induction script generalizing custody with
  | done value => exact second value custody first
  | step operation onward ih =>
    intro answer
    obtain ⟨after, turns, rest⟩ := first answer
    exact ⟨after, turns, ih answer rest⟩
  | remark said rest ih =>
    obtain ⟨after, remarks, onward⟩ := first
    exact ⟨after, remarks, ih onward⟩

theorem Obeys.mono {last : α → Custody → Prop} (obeys : script.Obeys key custody mid)
    (weaker : ∀ value after, mid value after → last value after) :
    script.Obeys key custody last := by
  induction script generalizing custody with
  | done value => exact weaker value custody obeys
  | step operation onward ih =>
    intro answer
    obtain ⟨after, turns, rest⟩ := obeys answer
    exact ⟨after, turns, ih answer rest⟩
  | remark said rest ih =>
    obtain ⟨after, remarks, onward⟩ := obeys
    exact ⟨after, remarks, ih onward⟩

/-- A script that has nothing to do with the queue leaves the custody as it is. -/
theorem obeys_plain_bind {script : Script α} {next : α → Script β}
    (apart : script.Each Operation.Apart) (passed : custody.keeping = .free → custody.owed = [])
    (rest : ∀ value, (plain (next value)).Obeys key custody post) :
    (plain (script.bind next)).Obeys key custody post := by
  induction script with
  | done value => exact rest value
  | step operation onward ih =>
    exact fun answer => ⟨custody, .apart apart.1 passed, ih answer (apart.2 answer)⟩

theorem obeys_plain {script : Script α} (apart : script.Each Operation.Apart)
    (passed : custody.keeping = .free → custody.owed = []) :
    (plain script).Obeys key custody fun _ after => after = custody := by
  rw [← script.bind_done]
  exact obeys_plain_bind apart passed fun _ => rfl

end Annotated

namespace AnnotatedJob

variable {job : AnnotatedJob α} {next : α → AnnotatedJob β} {mid : Outcome α → Custody → Prop}
  {post : Outcome β → Custody → Prop}

variable (key) in
/-- A job does its operations and makes its remarks as a custody allows, and then has an
outcome. -/
def Obeys (job : AnnotatedJob α) (custody : Custody) (post : Outcome α → Custody → Prop) : Prop :=
  job.run.Obeys key custody post

theorem Obeys.bind (first : job.Obeys key custody mid)
    (fails : ∀ failure after, mid (.error failure) after → post (.error failure) after)
    (second : ∀ value after, mid (.ok value) after → (next value).Obeys key after post) :
    (job >>= next).Obeys key custody post := by
  refine Annotated.Obeys.bind first fun outcome after holds => ?_
  cases outcome with
  | ok value => exact second value after holds
  | error failure => exact fails failure after holds

theorem Obeys.mono {last : Outcome α → Custody → Prop} (obeys : job.Obeys key custody mid)
    (weaker : ∀ outcome after, mid outcome after → last outcome after) :
    job.Obeys key custody last :=
  Annotated.Obeys.mono obeys weaker

theorem Obeys.plain_bind {job : Job α} (apart : job.Each Operation.Apart)
    (passed : custody.keeping = .free → custody.owed = [])
    (fails : ∀ failure, post (.error failure) custody)
    (second : ∀ value, (next value).Obeys key custody post) :
    (plain job >>= next).Obeys key custody post := by
  refine Obeys.bind (Annotated.obeys_plain apart passed) ?_ ?_
  · rintro failure _ rfl
    exact fails failure
  · rintro value _ rfl
    exact second value

/-- A script that cannot fail, or the attempt at a job. -/
theorem Obeys.lift_bind {script : Script α} (apart : script.Each Operation.Apart)
    (passed : custody.keeping = .free → custody.owed = [])
    (rest : ∀ value, (next value).Obeys key custody post) :
    (plain (ExceptT.lift script) >>= next).Obeys key custody post := by
  have lifted : (plain (ExceptT.lift script)).Obeys key custody fun outcome after =>
      after = custody ∧ ∃ value, outcome = .ok value :=
    Annotated.obeys_plain_bind apart passed fun value => ⟨rfl, value, rfl⟩
  refine Obeys.bind lifted ?_ ?_
  · rintro failure after ⟨_, value, impossible⟩
    cases impossible
  · rintro value _ ⟨rfl, _⟩
    exact rest value

theorem Obeys.ask_bind {operation : Operation} {next : operation.Answer → AnnotatedJob β}
    (turns : ∀ answer, ∃ after, custody.Turns key operation answer after ∧
      (next answer).Obeys key after post) :
    (ask operation >>= next).Obeys key custody post :=
  turns

theorem Obeys.remark_bind {said : Remark} {next : Unit → AnnotatedJob β} {after : Custody}
    (remarks : custody.Remarks key said after) (rest : (next ()).Obeys key after post) :
    (remark said >>= next).Obeys key custody post :=
  ⟨after, remarks, rest⟩

/-- A job done while the queue is held, which is let go of whatever comes of the job. -/
theorem Obeys.holding (free : custody.keeping = .free)
    (inside : job.Obeys key { custody with keeping := .held } fun outcome held =>
      held.taken = [] ∧ held.owed = [] ∧ mid outcome { held with keeping := .free }) :
    (holding .queue .exclusive job).Obeys key custody mid := by
  refine fun _ => ⟨_, .hold free, ?_⟩
  change Annotated.Obeys key
    (job.run.bind fun outcome => .step (.release .queue) fun _ => .done outcome) _ _
  refine Annotated.Obeys.bind inside fun outcome held ⟨taken, owed, holds⟩ => ?_
  exact fun _ => ⟨_, .leave taken owed, holds⟩

variable (key) in
/-- A job that leaves every thread that rests as it was. -/
def Steady (job : AnnotatedJob α) : Prop :=
  ∀ custody : Custody, custody.Rests → job.Obeys key custody fun _ after => after = custody

namespace Steady

theorem plain {job : Job α} (apart : job.Each Operation.Apart) :
    (AnnotatedJob.plain job).Steady key :=
  fun _ rests => Annotated.obeys_plain apart fun _ => rests.owed

theorem pure (value : α) : (Pure.pure value : AnnotatedJob α).Steady key := fun _ _ => rfl

theorem bind (first : job.Steady key) (second : ∀ value, (next value).Steady key) :
    (job >>= next).Steady key := by
  refine fun custody rests => (first custody rests).bind ?_ ?_
  · exact fun _ _ same => same
  · rintro value _ rfl
    exact second value _ rests

end Steady

end AnnotatedJob

end LanguageBridge
