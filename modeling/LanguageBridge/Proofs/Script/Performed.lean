import LanguageBridge.Proofs.Script.Runs

/-!
What each operation does to the world, part by part.
-/
namespace LanguageBridge

/-- The messages of a peer that nobody has taken yet. -/
def World.waiting (world : World) (peer : Peer) : List Message := (world.inbox.get? peer).getD []

namespace Operation

/-- The documents after an operation. -/
def workspaceAfter (before : Workspace) : Operation → Workspace
  | .setWorkspace changed => changed
  | _ => before

/-- The queue after an operation. -/
def queueAfter (before : Table SessionKey (List BufferContent)) :
    Operation → Table SessionKey (List BufferContent)
  | .setQueue changed => changed
  | _ => before

/-- The locks that are held after an operation of a thread. -/
def heldAfter (thread : Nat) (before : List Hold) : Operation → List Hold
  | .acquire lock mode => ⟨lock, mode, thread⟩ :: before
  | .release lock => before.filter fun hold => hold.lock ≠ lock || hold.thread ≠ thread
  | _ => before

/-- The sessions after an operation. -/
def sessionsAfter (before : World) : Operation → Table SessionKey Session
  | .register key added => before.sessions.insert key added
  | .dropIfDead key =>
    if before.hasDeadSession key then before.sessions.erase key else before.sessions
  | .unregister key => before.sessions.erase key
  | .drain => ∅
  | _ => before.sessions

/-- The messages of a peer that wait after an operation. -/
def waitingAfter (before : World) (peer : Peer) : Operation → List Message
  | .receive other => if other = peer then (before.waiting peer).tail else before.waiting peer
  | _ => before.waiting peer

/-- What an operation says, if the peer is still there. -/
def saying (before : World) : Operation → List Sent
  | .notify peer method params =>
    if before.isAlive peer then [.notification peer method (Params.ofJson params)] else []
  | .reply peer id result => if before.isAlive peer then [.reply peer id result] else []
  | .call peer method params =>
    if before.isAlive peer then [.call peer before.tickets method (Params.ofJson params)] else []
  | _ => []

/-- The threads that an operation starts. -/
def starting : Operation → List Work
  | .fork work => [work]
  | _ => []

theorem workspaceAfter_of_ne {operation : Operation} {before : Workspace}
    (other : ∀ changed, operation ≠ .setWorkspace changed) :
    operation.workspaceAfter before = before := by
  cases operation with
  | setWorkspace changed => exact absurd rfl (other changed)
  | _ => rfl

theorem queueAfter_of_ne {operation : Operation} {before : Table SessionKey (List BufferContent)}
    (other : ∀ changed, operation ≠ .setQueue changed) : operation.queueAfter before = before := by
  cases operation with
  | setQueue changed => exact absurd rfl (other changed)
  | _ => rfl

end Operation

/-- What an operation does to the world, as far as documents, sessions, queues, locks and messages
go. -/
structure World.Performed (thread : Nat) (operation : Operation) (before after : World) :
    Prop where
  tree : after.tree = before.tree
  dead : after.dead = before.dead
  silent : after.silent = before.silent
  workspace : after.workspace = operation.workspaceAfter before.workspace
  queue : after.queue = operation.queueAfter before.queue
  held : after.held = operation.heldAfter thread before.held
  sessions : after.sessions = operation.sessionsAfter before
  waiting : ∀ peer, after.waiting peer = operation.waitingAfter before peer
  traffic : after.traffic = before.traffic ++ operation.saying before
  forked : after.forked = before.forked ++ operation.starting
  answers : after.answers = before.answers

theorem World.performed {host : Host} {thread : Nat} {operation : Operation}
    {answer : operation.Answer} {before after : World}
    (performed : before.perform host thread operation = some (after, answer)) :
    World.Performed thread operation before after := by
  cases operation with
  | acquire | workspace | setWorkspace | queue | setQueue | join =>
    simp only [perform] at performed
    split at performed <;> cases performed
    constructor <;> first | rfl | exact fun _ => rfl | exact (List.append_nil _).symm
  | release | disk | extensions | registerServerCommands | registerHandlers | hoverAgain
  | floatEvent | reveal | session | isAlive | register | unregister | drain | connect
  | endProcess | fork | log =>
    cases performed
    constructor <;> first | rfl | exact fun _ => rfl | exact (List.append_nil _).symm
  | dropIfDead key =>
    simp only [perform] at performed
    split at performed <;> rename_i dead <;> cases performed <;> constructor <;>
      first
        | rfl
        | exact fun _ => rfl
        | exact (List.append_nil _).symm
        | exact (if_pos dead).symm
        | exact (if_neg dead).symm
  | spawn =>
    simp only [perform] at performed
    split at performed <;> cases performed <;> constructor <;>
      first | rfl | exact fun _ => rfl | exact (List.append_nil _).symm
  | receive peer =>
    simp only [perform, receive] at performed
    split at performed
    · rename_i message rest first
      cases performed
      constructor <;> first | rfl | exact (List.append_nil _).symm | skip
      intro other
      by_cases same : peer = other
      · subst same
        simp [Operation.waitingAfter, waiting, first]
      · simp [Operation.waitingAfter, waiting, same]
    · rename_i nothing
      split at performed <;> cases performed
      constructor <;> first | rfl | exact (List.append_nil _).symm | skip
      intro other
      by_cases same : peer = other
      · subst same
        simp [Operation.waitingAfter, waiting, nothing]
      · simp [Operation.waitingAfter, same]
  | notify peer | reply peer | call peer =>
    simp only [perform, say, Sent.peer] at performed
    by_cases alive : before.isAlive peer = true
    · simp only [alive, if_true] at performed
      cases performed
      constructor <;>
        first | rfl | exact fun _ => rfl | simp [Operation.saying, Operation.starting, alive]
    · simp only [alive] at performed
      cases performed
      constructor <;>
        first | rfl | exact fun _ => rfl | simp [Operation.saying, Operation.starting, alive]
  | await ticket =>
    simp only [perform] at performed
    cases found : before.answers.get? ticket with
    | none =>
      rw [found] at performed
      cases performed
    | some outcome =>
      rw [found] at performed
      cases performed
      constructor <;> first | rfl | exact fun _ => rfl | exact (List.append_nil _).symm

theorem World.after_held (world : World) (happening : Happening) :
    (world.after happening).held = world.held := by
  cases happening with
  | answer =>
    simp only [World.after, System.occur]
    split <;> rfl
  | _ => rfl

theorem World.after_forked (world : World) (happening : Happening) :
    (world.after happening).forked = world.forked := by
  cases happening with
  | answer =>
    simp only [World.after, System.occur]
    split <;> rfl
  | _ => rfl

/-- Answers are given once and for all. -/
theorem World.after_answers {world : World} {ticket : Nat} {outcome : Outcome Json}
    (answered : world.answers.get? ticket = some outcome) (happening : Happening) :
    (world.after happening).answers.get? ticket = some outcome := by
  cases happening with
  | answer other given =>
    simp only [World.after, System.occur]
    split
    · exact answered
    · rename_i fresh
      have apart : other ≠ ticket := by
        rintro rfl
        simp [Table.contains, answered] at fresh
      simp [apart, answered]
  | _ => exact answered

/-- Peers that are there when a script has come to its value were there all the time. -/
theorem Script.Runs.alive {host : Host} {thread : Nat} {α : Type} {script : Script α}
    {world last : World} {value : α} (runs : script.Runs host thread world value last) {peer : Peer}
    (alive : last.isAlive peer = true) : world.isAlive peer = true := by
  induction runs with
  | done => exact alive
  | step performed _ ih =>
    have before := ih alive
    rwa [World.isAlive, (World.performed performed).dead] at before
  | happen happening _ ih => exact (World.Undisturbed.happening _ happening).dead peer (ih alive)

/-- An answer that is there before a run is there after it. -/
theorem Script.Runs.answers {host : Host} {thread : Nat} {α : Type} {script : Script α}
    {world last : World} {value : α} (runs : script.Runs host thread world value last)
    {ticket : Nat} {outcome : Outcome Json} (answered : world.answers.get? ticket = some outcome) :
    last.answers.get? ticket = some outcome := by
  induction runs with
  | done => exact answered
  | step performed _ ih => exact ih (by rwa [(World.performed performed).answers])
  | happen happening _ ih => exact ih (World.after_answers answered happening)

namespace World

variable {host : Host} {thread : Nat} {operation : Operation} {answer : operation.Answer}
  {before after : World} {hold : Hold}

/-- What the surroundings do is no matter of locks, documents, queues and sessions. -/
theorem after_happening (world : World) (happening : Happening) :
    (world.after happening).held = world.held ∧
      (world.after happening).workspace = world.workspace ∧
      (world.after happening).queue = world.queue ∧
      (world.after happening).sessions = world.sessions ∧
      (world.after happening).traffic = world.traffic := by
  cases happening with
  | answer ticket outcome =>
    simp only [World.after, System.occur]
    split <;> exact ⟨rfl, rfl, rfl, rfl, rfl⟩
  | _ => exact ⟨rfl, rfl, rfl, rfl, rfl⟩

theorem waiting_after (world : World) (happening : Happening) (peer : Peer) :
    (world.after happening).waiting peer = world.waiting peer ++
      match happening with
      | .deliver other message => if other = peer then [message] else []
      | _ => [] := by
  cases happening with
  | deliver other message =>
    by_cases same : other = peer
    · subst same
      simp [World.waiting, World.after, System.occur]
    · simp [World.waiting, World.after, System.occur, same]
  | answer ticket outcome =>
    simp only [World.waiting, World.after, System.occur, List.append_nil]
    split <;> rfl
  | _ => simp [World.waiting, World.after, System.occur]

theorem waiting_of_receive {peer : Peer} {message : Message}
    (performed : before.perform host thread (.receive peer) = some (after, some message)) :
    before.waiting peer = message :: after.waiting peer := by
  simp only [World.perform, World.receive] at performed
  split at performed
  · rename_i first rest there
    cases performed
    simpa [World.waiting] using there
  · split at performed <;> cases performed

/-- Locks that are held stay held until the thread that holds them lets go of them. -/
theorem hold_stays (performed : before.perform host thread operation = some (after, answer))
    (there : hold ∈ before.held)
    (kept : hold.thread ≠ thread ∨ operation ≠ .release hold.lock) : hold ∈ after.held := by
  rw [(World.performed performed).held]
  cases operation with
  | acquire => exact List.mem_cons_of_mem _ there
  | release lock =>
    rw [Operation.heldAfter, List.mem_filter]
    refine ⟨there, ?_⟩
    rcases kept with other | another
    · simp [other]
    · have apart : hold.lock ≠ lock := fun same => another (by rw [same])
      simp [apart]
  | _ => exact there

/-- A lock that is held was held before, or the thread took it and others at most share it. -/
theorem hold_cases (performed : before.perform host thread operation = some (after, answer))
    (member : hold ∈ after.held) :
    hold ∈ before.held ∨ operation = .acquire hold.lock hold.mode ∧ hold.thread = thread ∧
      ∀ other ∈ before.held, other.lock = hold.lock →
        hold.mode = .shared ∧ other.mode = .shared := by
  rw [(World.performed performed).held] at member
  cases operation with
  | acquire lock mode =>
    simp only [World.perform] at performed
    split at performed
    · rename_i admitted
      rcases List.mem_cons.mp member with rfl | old
      · refine .inr ⟨rfl, rfl, fun other present same => ?_⟩
        have fits := List.all_eq_true.mp admitted other present
        simpa [same] using fits
      · exact .inl old
    · cases performed
  | release => exact .inl (List.mem_filter.mp member).1
  | _ => exact .inl member

end World

end LanguageBridge

/-!
Scripts among others. Between any two operations of a script, and before the first and after the
last, others may do whatever they are trusted to; what is said of the world has to stand that.
-/
namespace LanguageBridge

variable {host : Host} {thread : Nat} {others : World → World → Prop} {α β : Type}

namespace Script

/-- A script comes to its value while others do what they may, and one world becomes another. -/
inductive Amid (host : Host) (thread : Nat) (others : World → World → Prop) {α : Type} :
    Script α → World → α → World → Prop
  | done (value : α) (world : World) : Amid host thread others (.done value) world value world
  | step {operation : Operation} {next : operation.Answer → Script α} {answer : operation.Answer}
      {world later last : World} {value : α}
      (performed : world.perform host thread operation = some (later, answer))
      (rest : Amid host thread others (next answer) later value last) :
      Amid host thread others (.step operation next) world value last
  | meanwhile {script : Script α} {world later last : World} {value : α}
      (moved : others world later) (rest : Amid host thread others script later value last) :
      Amid host thread others script world value last

/-- What holds before a script has been carried out, and then of its value, among others. -/
def Assures (host : Host) (thread : Nat) (others : World → World → Prop) (script : Script α)
    (pre : World → Prop) (post : α → World → Prop) : Prop :=
  ∀ world value last, pre world → script.Amid host thread others world value last →
    post value last

/-- What others leave as it is. -/
def Stable (others : World → World → Prop) (holds : World → Prop) : Prop :=
  ∀ before after, others before after → holds before → holds after

variable {pre : World → Prop} {post : α → World → Prop}

theorem Assures.done {value : α} (stable : Stable others pre)
    (holds : ∀ world, pre world → post value world) :
    (Script.done value).Assures host thread others pre post := by
  intro world given last here runs
  generalize whole : Script.done value = script at runs
  induction runs with
  | done same world =>
    cases whole
    exact holds world here
  | step => cases whole
  | meanwhile moved _ ih => exact ih (stable _ _ moved here) whole

theorem Assures.step {operation : Operation} {next : operation.Answer → Script α}
    (mid : operation.Answer → World → Prop) (stable : Stable others pre)
    (each : ∀ before after answer, pre before →
      before.perform host thread operation = some (after, answer) → mid answer after)
    (rest : ∀ answer, (next answer).Assures host thread others (mid answer) post) :
    (Script.step operation next).Assures host thread others pre post := by
  intro world value last here runs
  generalize whole : Script.step operation next = script at runs
  induction runs with
  | done => cases whole
  | step performed onward =>
    cases whole
    exact rest _ _ _ _ (each _ _ _ here performed) onward
  | meanwhile moved _ ih => exact ih (stable _ _ moved here) whole

/-- A script followed by another: what the first assures, the second may take for granted. -/
theorem Assures.bind {script : Script α} {next : α → Script β} {mid : α → World → Prop}
    {last : β → World → Prop} (first : script.Assures host thread others pre mid)
    (second : ∀ value, (next value).Assures host thread others (mid value) last) :
    (script.bind next).Assures host thread others pre last := by
  have apart (world : World) (value : β) (after : World)
      (runs : (script.bind next).Amid host thread others world value after) :
      ∃ given here, script.Amid host thread others world given here ∧
        (next given).Amid host thread others here value after := by
    clear first second
    induction script generalizing world with
    | done given => exact ⟨given, world, .done given world, runs⟩
    | step operation onward rest =>
      change Amid host thread others (.step operation fun answer => (onward answer).bind next) world
        value after at runs
      generalize whole : Script.step operation (fun answer => (onward answer).bind next) = script
        at runs
      induction runs with
      | done => cases whole
      | step performed run =>
        cases whole
        obtain ⟨given, here, former, latter⟩ := rest _ _ run
        exact ⟨given, here, .step performed former, latter⟩
      | meanwhile moved _ ih =>
        obtain ⟨given, here, former, latter⟩ := ih rest whole
        exact ⟨given, here, .meanwhile moved former, latter⟩
  intro world value after here runs
  obtain ⟨given, between, former, latter⟩ := apart world value after runs
  exact second given _ _ _ (first _ _ _ here former) latter

/-- What does not depend on the world may be taken for granted. -/
theorem Assures.given {script : Script α} {fact : Prop}
    (assures : fact → script.Assures host thread others pre post) :
    script.Assures host thread others (fun world => pre world ∧ fact) post :=
  fun world value last ⟨here, holds⟩ runs => assures holds world value last here runs

theorem Assures.mono {script : Script α} {last : α → World → Prop}
    (assures : script.Assures host thread others pre post)
    (weaker : ∀ value world, post value world → last value world) :
    script.Assures host thread others pre last :=
  fun world value after here runs => weaker value after (assures world value after here runs)

/-- Others need not do anything. -/
theorem amid_of_run? {script : Script α} {world last : World} {value : α}
    (ran : run? host thread script world = some (value, last)) :
    script.Amid host thread others world value last := by
  induction script generalizing world with
  | done given =>
    obtain ⟨rfl, rfl⟩ := Prod.mk.inj (Option.some.inj ran)
    exact .done given world
  | step operation next ih =>
    unfold run? at ran
    split at ran
    · cases ran
    · rename_i performed
      exact .step performed (ih _ ran)

end Script

namespace Job

/-- What holds before a job has been done, and then of its outcome, among others. -/
abbrev Assures (host : Host) (thread : Nat) (others : World → World → Prop) (job : Job α)
    (pre : World → Prop) (post : Outcome α → World → Prop) : Prop :=
  job.run.Assures host thread others pre post

variable {pre : World → Prop} {post : Outcome α → World → Prop} {last : Outcome β → World → Prop}

/-- A job followed by another; when the first fails, that is all. -/
theorem Assures.bind {job : Job α} {next : α → Job β} {mid : Outcome α → World → Prop}
    (first : job.Assures host thread others pre mid)
    (stable : ∀ failure, Script.Stable others (mid (.error failure)))
    (fails : ∀ failure world, mid (.error failure) world → last (.error failure) world)
    (second : ∀ value, (next value).Assures host thread others (mid (.ok value)) last) :
    (job >>= next).Assures host thread others pre last := by
  have rest (outcome : Outcome α) :
      (ExceptT.bindCont next outcome).Assures host thread others (mid outcome) last := by
    cases outcome with
    | ok value => exact second value
    | error failure => exact Script.Assures.done (stable failure) (fails failure)
  exact Script.Assures.bind first rest

theorem Assures.ask_bind {operation : Operation} {next : operation.Answer → Job β}
    (mid : operation.Answer → World → Prop) (stable : Script.Stable others pre)
    (each : ∀ before after answer, pre before →
      before.perform host thread operation = some (after, answer) → mid answer after)
    (rest : ∀ answer, (next answer).Assures host thread others (mid answer) last) :
    (Job.ask operation >>= next).Assures host thread others pre last :=
  Script.Assures.step mid stable each rest

end Job

end LanguageBridge
