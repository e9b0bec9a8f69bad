import LanguageBridge.Script.System

/-!
Runs of a single script, with nothing but the surroundings besides it. Whatever they do may come
before any operation and at the end; they leave alone what only the program changes, and peers that
are gone stay gone.
-/
namespace LanguageBridge

/-- The world after the surroundings did something. -/
def World.after (world : World) (happening : Happening) : World :=
  (System.occur ⟨world, []⟩ happening).world

/-- The surroundings do nothing to threads. -/
theorem System.occur_eq (system : System) (happening : Happening) :
    system.occur happening = ⟨system.world.after happening, system.threads⟩ := by
  cases happening with
  | answer =>
    simp only [World.after, System.occur]
    split <;> rfl
  | _ => rfl

namespace Script

/-- A script comes to its value, and one world becomes another. -/
inductive Runs (host : Host) (thread : Nat) {α : Type} : Script α → World → α → World → Prop
  | done (value : α) (world : World) : Runs host thread (.done value) world value world
  | step {operation : Operation} {next : operation.Answer → Script α} {answer : operation.Answer}
      (performed : world.perform host thread operation = some (later, answer))
      (rest : Runs host thread (next answer) later value last) :
      Runs host thread (.step operation next) world value last
  | happen (happening : Happening)
      (rest : Runs host thread script (world.after happening) value last) :
      Runs host thread script world value last

end Script

/-- Of what servers were told, which sessions there are and what is tracked nothing changes. -/
structure World.Undisturbed (before after : World) : Prop where
  workspace : after.workspace = before.workspace
  sessions : after.sessions = before.sessions
  connected : after.connected = before.connected
  traffic : after.traffic = before.traffic
  dead : ∀ peer, after.isAlive peer = true → before.isAlive peer = true

namespace World.Undisturbed

variable {before middle after world : World}

theorem refl (world : World) : Undisturbed world world := ⟨rfl, rfl, rfl, rfl, fun _ alive => alive⟩

theorem trans (first : Undisturbed before middle) (second : Undisturbed middle after) :
    Undisturbed before after where
  workspace := second.workspace.trans first.workspace
  sessions := second.sessions.trans first.sessions
  connected := second.connected.trans first.connected
  traffic := second.traffic.trans first.traffic
  dead := fun peer alive => first.dead peer (second.dead peer alive)

theorem gone (drift : Undisturbed before after) {peer : Peer} (dead : before.isAlive peer = false) :
    after.isAlive peer = false := by
  rw [Bool.eq_false_iff] at dead ⊢
  exact fun alive => dead (drift.dead peer alive)

theorem happening (world : World) (happening : Happening) :
    Undisturbed world (world.after happening) := by
  cases happening with
  | answer ticket outcome =>
    simp only [World.after, System.occur]
    split <;> exact ⟨rfl, rfl, rfl, rfl, fun _ alive => alive⟩
  | deliver | endInput | change => exact ⟨rfl, rfl, rfl, rfl, fun _ alive => alive⟩
  | disconnect peer =>
    refine ⟨rfl, rfl, rfl, rfl, ?_⟩
    intro other alive
    simp only [World.isAlive, World.after, System.occur, Bool.not_eq_true'] at alive ⊢
    simp only [List.contains_cons, Bool.or_eq_false_iff] at alive
    exact alive.2

end World.Undisturbed

namespace Script

variable {host : Host} {thread : Nat} {world last : World}

theorem Runs.of_done (runs : Runs host thread (.done given) world value last) :
    value = given ∧ world.Undisturbed last := by
  generalize whole : Script.done given = script at runs
  induction runs with
  | done value world =>
    cases whole
    exact ⟨rfl, .refl _⟩
  | step => cases whole
  | happen happening _ ih =>
    obtain ⟨same, rest⟩ := ih whole
    exact ⟨same, (World.Undisturbed.happening _ happening).trans rest⟩

theorem Runs.of_step {operation : Operation} {next : operation.Answer → Script α}
    (runs : Runs host thread (.step operation next) world value last) :
    ∃ here later answer, world.Undisturbed here ∧
      here.perform host thread operation = some (later, answer) ∧
      Runs host thread (next answer) later value last := by
  generalize whole : Script.step operation next = script at runs
  induction runs with
  | done => cases whole
  | step performed rest =>
    cases whole
    exact ⟨_, _, _, .refl _, performed, rest⟩
  | happen happening _ ih =>
    obtain ⟨here, later, answer, drift, performed, rest⟩ := ih whole
    exact ⟨here, later, answer, (World.Undisturbed.happening _ happening).trans drift, performed,
      rest⟩

theorem Runs.of_ask {operation : Operation} {answer : operation.Answer}
    (runs : Runs host thread (ask operation) world answer last) :
    ∃ here later, world.Undisturbed here ∧
      here.perform host thread operation = some (later, answer) ∧ later.Undisturbed last := by
  obtain ⟨here, later, given, drift, performed, rest⟩ := runs.of_step
  obtain ⟨rfl, ending⟩ := rest.of_done
  exact ⟨here, later, drift, performed, ending⟩

theorem Runs.of_bind {script : Script α} {next : α → Script β}
    (runs : Runs host thread (script >>= next) world value last) :
    ∃ given here, Runs host thread script world given here ∧
      Runs host thread (next given) here value last := by
  induction script generalizing world with
  | done given => exact ⟨given, world, .done given world, runs⟩
  | step operation onward rest =>
    change Runs host thread (.step operation fun answer => (onward answer).bind next) world value
      last at runs
    generalize whole : Script.step operation (fun answer => (onward answer).bind next) = script
      at runs
    induction runs with
    | done => cases whole
    | step performed run =>
      cases whole
      obtain ⟨given, here, first, second⟩ := rest _ run
      exact ⟨given, here, .step performed first, second⟩
    | happen happening _ ih =>
      obtain ⟨given, here, first, second⟩ := ih rest whole
      exact ⟨given, here, .happen happening first, second⟩

/-- A run goes on with that of what follows. -/
theorem Runs.andThen {script : Script α} {next : α → Script β}
    (first : Runs host thread script world given here)
    (rest : Runs host thread (next given) here value last) :
    Runs host thread (script >>= next) world value last := by
  induction first with
  | done => exact rest
  | step performed _ ih => exact .step performed (ih rest)
  | happen happening _ ih => exact .happen happening (ih rest)

/-- What the surroundings do after a run still belongs to it. -/
theorem Runs.extend {script : Script α} {given other : β}
    (runs : Runs host thread script world value here)
    (rest : Runs host thread (.done given) here other last) :
    Runs host thread script world value last := by
  induction runs with
  | done value world =>
    generalize whole : Script.done given = idle at rest
    induction rest with
    | done given world => exact .done value world
    | step => cases whole
    | happen happening _ ih => exact .happen happening (ih whole)
  | step performed _ ih => exact .step performed (ih rest)
  | happen happening _ ih => exact .happen happening (ih rest)

/-- A script done in one go, with no surroundings; `none` when it has to wait. -/
def run? (host : Host) (thread : Nat) : Script α → World → Option (α × World)
  | .done value, world => some (value, world)
  | .step operation next, world =>
    match world.perform host thread operation with
    | none => none
    | some (later, answer) => run? host thread (next answer) later

theorem runs_of_run? {script : Script α} (ran : run? host thread script world = some (value, last)) :
    Runs host thread script world value last := by
  induction script generalizing world with
  | done given =>
    obtain ⟨rfl, rfl⟩ := Prod.mk.inj (Option.some.inj ran)
    exact .done given world
  | step operation next ih =>
    unfold run? at ran
    split at ran
    · cases ran
    · rename_i performed
      exact .step performed (ih _ ran)

end Script

end LanguageBridge

/-!
What a run of a job comes to, construct by construct: each lemma takes a run apart into the runs of
the job's parts, and says what the operations on the way did to the world.
-/
namespace LanguageBridge

namespace World

/-- The world once something was said to a peer that is still there. -/
def told (world : World) (sent : Sent) : World := { world with traffic := world.traffic ++ [sent] }

theorem say_of_alive (world : World) {sent : Sent} (alive : world.isAlive sent.peer = true) :
    world.say sent = (world.told sent, .ok ()) :=
  if_pos alive

theorem say_of_dead (world : World) {sent : Sent} (dead : ¬ world.isAlive sent.peer = true) :
    world.say sent = (world, .error .terminated) :=
  if_neg dead

theorem Undisturbed.told {before after : World} (drift : before.Undisturbed after) (sent : Sent) :
    (before.told sent).Undisturbed (after.told sent) where
  workspace := drift.workspace
  sessions := drift.sessions
  connected := drift.connected
  traffic := congrArg (· ++ [sent]) drift.traffic
  dead := drift.dead

theorem Undisturbed.withWorkspace {before after : World} (drift : before.Undisturbed after)
    (workspace : Workspace) :
    ({ before with workspace } : World).Undisturbed { after with workspace } :=
  ⟨rfl, drift.sessions, drift.connected, drift.traffic, drift.dead⟩

end World

namespace Job

/-- A job comes to its outcome, and one world becomes another. -/
def Runs (host : Host) (thread : Nat) {α : Type} (job : Job α) (world : World)
    (outcome : Outcome α) (last : World) : Prop :=
  Script.Runs host thread job.run world outcome last

variable {host : Host} {thread : Nat} {world last : World} {α β : Type}

theorem Runs.of_ofOutcome {given outcome : Outcome α}
    (runs : Runs host thread (ofOutcome given) world outcome last) :
    outcome = given ∧ world.Undisturbed last :=
  Script.Runs.of_done runs

theorem Runs.of_pure {value : α} {outcome : Outcome α}
    (runs : Runs host thread (pure value) world outcome last) :
    outcome = .ok value ∧ world.Undisturbed last :=
  Script.Runs.of_done runs

theorem Runs.of_throw {failure : Failure} {outcome : Outcome α}
    (runs : Runs host thread (throw failure) world outcome last) :
    outcome = .error failure ∧ world.Undisturbed last :=
  Script.Runs.of_done runs

/-- A job followed by another: the first fails, and then that is all, or the second goes on with its
value. -/
theorem Runs.of_bind {job : Job α} {next : α → Job β} {outcome : Outcome β}
    (runs : Runs host thread (job >>= next) world outcome last) :
    (∃ failure, outcome = .error failure ∧ Runs host thread job world (.error failure) last) ∨
      ∃ value here, Runs host thread job world (.ok value) here ∧
        Runs host thread (next value) here outcome last := by
  obtain ⟨given, here, first, second⟩ := Script.Runs.of_bind runs
  cases given with
  | error failure =>
    have rest : Script.Runs host thread (.done (.error failure)) here outcome last := second
    obtain ⟨rfl, _⟩ := rest.of_done
    exact .inl ⟨failure, rfl, first.extend rest⟩
  | ok value => exact .inr ⟨value, here, first, second⟩

/-- Jobs that succeed one after the other have both done so. -/
theorem Runs.of_bind_ok {job : Job α} {next : α → Job β} {value : β}
    (runs : Runs host thread (job >>= next) world (.ok value) last) :
    ∃ given here, Runs host thread job world (.ok given) here ∧
      Runs host thread (next given) here (.ok value) last := by
  rcases runs.of_bind with ⟨_, failed, _⟩ | parts
  · cases failed
  · exact parts

/-- A job that succeeds goes on with what follows. -/
theorem Runs.andThen {job : Job α} {next : α → Job β} {value : α} {here : World} {outcome : Outcome β}
    (first : Runs host thread job world (.ok value) here)
    (rest : Runs host thread (next value) here outcome last) :
    Runs host thread (job >>= next) world outcome last :=
  Script.Runs.andThen first rest

/-- A single operation does not fail. -/
theorem Runs.of_ask_bind {operation : Operation} {next : operation.Answer → Job β}
    {outcome : Outcome β} (runs : Runs host thread (ask operation >>= next) world outcome last) :
    ∃ answer here later, world.Undisturbed here ∧
      here.perform host thread operation = some (later, answer) ∧
      Runs host thread (next answer) later outcome last := by
  obtain ⟨here, later, answer, before, performed, rest⟩ := Script.Runs.of_step runs
  exact ⟨answer, here, later, before, performed, rest⟩

theorem Runs.of_attempt {job : Job α} {outcome : Outcome (Outcome α)}
    (runs : Runs host thread (attempt job) world outcome last) :
    ∃ given, outcome = .ok given ∧ Runs host thread job world given last := by
  obtain ⟨given, here, first, second⟩ := Script.Runs.of_bind runs
  have rest : Script.Runs host thread (.done (.ok given)) here outcome last := second
  exact ⟨given, rest.of_done.1, first.extend rest⟩

/-- Locks are nothing that is tracked or told. -/
theorem Runs.of_holding {lock : Lock} {mode : LockMode} {job : Job α} {outcome : Outcome α}
    (runs : Runs host thread (holding lock mode job) world outcome last) :
    ∃ first here, world.Undisturbed first ∧ Runs host thread job first outcome here ∧
      here.Undisturbed last := by
  obtain ⟨_, first, acquiring, others⟩ := Script.Runs.of_bind runs
  obtain ⟨given, here, inside, ending⟩ := Script.Runs.of_bind others
  obtain ⟨_, free, releasing, idle⟩ := Script.Runs.of_bind ending
  obtain ⟨rfl, after⟩ := Script.Runs.of_done idle
  refine ⟨first, here, ?_, inside, ?_⟩
  · obtain ⟨before, later, drift, performed, rest⟩ := acquiring.of_ask
    simp only [World.perform] at performed
    split at performed
    · cases performed
      exact drift.trans ⟨rest.workspace, rest.sessions, rest.connected, rest.traffic, rest.dead⟩
    · cases performed
  · obtain ⟨before, later, drift, performed, rest⟩ := releasing.of_ask
    cases performed
    have freed : before.Undisturbed free :=
      ⟨rest.workspace, rest.sessions, rest.connected, rest.traffic, rest.dead⟩
    exact (drift.trans freed).trans after

/-- Done in one go, an operation hands its answer to the rest. -/
theorem run?_ask_bind {later : World} {operation : Operation} {answer : operation.Answer}
    {next : operation.Answer → Job β}
    (performed : world.perform host thread operation = some (later, answer)) :
    (ask operation >>= next).run.run? host thread world =
      (next answer).run.run? host thread later := by
  change Script.run? host thread (.step operation fun answer => (next answer).run) world = _
  rw [Script.run?, performed]

section Asking

variable {outcome : Outcome β}

theorem Runs.of_workspace {next : Workspace → Job β}
    (runs : Runs host thread (ask .workspace >>= next) world outcome last) :
    ∃ here, world.Undisturbed here ∧
      Runs host thread (next world.workspace) here outcome last := by
  obtain ⟨answer, here, later, before, performed, rest⟩ := runs.of_ask_bind
  simp only [World.perform] at performed
  split at performed
  · cases performed
    rw [before.workspace] at rest
    exact ⟨here, before, rest⟩
  · cases performed

theorem Runs.of_setWorkspace {workspace : Workspace} {next : Unit → Job β}
    (runs : Runs host thread (ask (.setWorkspace workspace) >>= next) world outcome last) :
    ∃ here, ({ world with workspace } : World).Undisturbed here ∧
      Runs host thread (next ()) here outcome last := by
  obtain ⟨answer, here, later, before, performed, rest⟩ := runs.of_ask_bind
  simp only [World.perform] at performed
  split at performed
  · cases performed
    refine ⟨_, ?_, rest⟩
    exact ⟨rfl, before.sessions, before.connected, before.traffic, before.dead⟩
  · cases performed

theorem Runs.of_session {key : SessionKey} {next : Option Session → Job β}
    (runs : Runs host thread (ask (.session key) >>= next) world outcome last) :
    ∃ here, world.Undisturbed here ∧
      Runs host thread (next (world.sessions.get? key)) here outcome last := by
  obtain ⟨answer, here, later, before, performed, rest⟩ := runs.of_ask_bind
  cases performed
  rw [before.sessions] at rest
  exact ⟨here, before, rest⟩

theorem Runs.of_extensions {next : Extensions → Job β}
    (runs : Runs host thread (ask .extensions >>= next) world outcome last) :
    ∃ extensions here, world.Undisturbed here ∧
      Runs host thread (next extensions) here outcome last := by
  obtain ⟨answer, here, later, before, performed, rest⟩ := runs.of_ask_bind
  cases performed
  exact ⟨_, here, before, rest⟩

theorem Runs.of_isAlive {peer : Peer} {next : Bool → Job β}
    (runs : Runs host thread (ask (.isAlive peer) >>= next) world outcome last) :
    ∃ here, world.Undisturbed here ∧
      Runs host thread (next (here.isAlive peer)) here outcome last := by
  obtain ⟨answer, here, later, before, performed, rest⟩ := runs.of_ask_bind
  cases performed
  exact ⟨here, before, rest⟩

end Asking

/-- A notification reaches its peer, or the peer is gone. -/
theorem Runs.of_notify {peer : Peer} {method : String} {params : Json} {outcome : Outcome Unit}
    (runs : Runs host thread (notify peer method params) world outcome last) :
    (outcome = .ok () ∧ world.isAlive peer = true ∧
        (world.told (.notification peer method (Params.ofJson params))).Undisturbed last) ∨
      (outcome = .error .terminated ∧ last.isAlive peer = false ∧ world.Undisturbed last) := by
  obtain ⟨here, later, before, performed, after⟩ := Script.Runs.of_ask runs
  have spoken := Option.some.inj performed
  by_cases alive : here.isAlive peer = true
  · rw [World.say_of_alive _ alive] at spoken
    obtain ⟨rfl, rfl⟩ := Prod.mk.inj spoken
    exact .inl ⟨rfl, before.dead _ alive, (before.told _).trans after⟩
  · rw [World.say_of_dead _ alive] at spoken
    obtain ⟨rfl, rfl⟩ := Prod.mk.inj spoken
    exact .inr ⟨rfl, after.gone (Bool.eq_false_iff.mpr alive), before.trans after⟩

theorem Runs.of_await {ticket : Nat} {outcome : Outcome Json}
    (runs : Runs host thread (ExceptT.mk (Script.ask (.await ticket)) : Job Json) world outcome
      last) :
    world.Undisturbed last := by
  obtain ⟨here, later, before, performed, after⟩ := Script.Runs.of_ask runs
  obtain ⟨answer, _, same⟩ := Option.map_eq_some_iff.mp performed
  obtain ⟨rfl, rfl⟩ := Prod.mk.inj same
  exact before.trans after

/-- A call is made, and the waiting for its answer changes nothing; or its peer is gone. -/
theorem Runs.of_call {peer : Peer} {method : String} {params : Json} {read : Json → Shaped α}
    {outcome : Outcome α} (runs : Runs host thread (call peer method params read) world outcome last) :
    world.Undisturbed last ∨
      ∃ ticket, (world.told (.call peer ticket method (Params.ofJson params))).Undisturbed last := by
  have made {given : Outcome Nat} {later : World}
      (first : Runs host thread (ExceptT.mk (Script.ask (.call peer method params)) : Job Nat) world
        given later) :
      world.Undisturbed later ∨
        ∃ ticket, (world.told (.call peer ticket method (Params.ofJson params))).Undisturbed
          later := by
    obtain ⟨here, spoken, before, performed, after⟩ := Script.Runs.of_ask first
    simp only [World.perform] at performed
    by_cases alive : here.isAlive peer = true
    · rw [World.say_of_alive _ alive] at performed
      obtain ⟨rfl, rfl⟩ := Prod.mk.inj (Option.some.inj performed)
      refine .inr ⟨here.tickets, (before.told _).trans ?_⟩
      exact ⟨after.workspace, after.sessions, after.connected, after.traffic, after.dead⟩
    · rw [World.say_of_dead _ alive] at performed
      obtain ⟨rfl, rfl⟩ := Prod.mk.inj (Option.some.inj performed)
      exact .inl (before.trans after)
  rcases runs.of_bind with ⟨failure, rfl, first⟩ | ⟨ticket, called, first, others⟩
  · exact made first
  · have rest : called.Undisturbed last := by
      rcases others.of_bind with ⟨failure, rfl, waiting⟩ | ⟨result, answered, waiting, reading⟩
      · exact waiting.of_await
      · refine waiting.of_await.trans ?_
        cases shaped : read result with
        | ok value =>
          simp only [shaped] at reading
          exact reading.of_pure.2
        | error error =>
          simp only [shaped] at reading
          exact reading.of_throw.2
    rcases made first with before | ⟨number, before⟩
    · exact .inl (before.trans rest)
    · exact .inr ⟨number, before.trans rest⟩

end Job

end LanguageBridge
