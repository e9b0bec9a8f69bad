import LanguageBridge.Proofs.Rpc.Framing
import LanguageBridge.Proofs.Rpc.Termination

/-!
What the news that the connection is gone is worth to the caller that comes back with it. Reader
and writer mark the connection dead before they tell anybody, but the writer gives up the messages
that wait for it first, and the other side may answer a request with an error of the very code that
stands for the news.
-/
namespace LanguageBridge.Conversation

variable {talk next : Conversation} {connection : Connection} {known : Nat → Prop}
  {number index : Nat} {caller : Caller} {response : Response} {outcome : Outcome Json}

/-- The writer takes no more messages but has not marked the connection dead yet, and a caller is
about to hand it a request. -/
def TurnedAway (connection : Connection) (number : Nat) (caller : Caller) : Prop :=
  connection.writer = .stopping ∧ ∃ message, caller.phase = .sending (some number) message

/-- The other side has answered a request with an error of the code that stands for a connection
that is gone. -/
def Mistaken (talk : Conversation) (number : Nat) (caller : Caller) : Prop :=
  caller.phase = .waiting number ∧ ∃ versioned id error,
    caller.mail = .given (.failure versioned id error) ∧
      talk.Came (.failure versioned id error) ∧ error.code = Response.terminationCode

/-- How a caller comes back with its next step. -/
inductive ComesBack (connection : Connection) (caller : Caller) : Outcome Json → Prop
  | unregistered {id : Nat} {message : Message} (phase : caller.phase = .registering id message)
      (closed : connection.takesRegistrations = false) :
      ComesBack connection caller (.error .terminated)
  | dead {id : Option Nat} {message : Message} (phase : caller.phase = .checking id message)
      (dead : connection.alive = false) : ComesBack connection caller (.error .terminated)
  | unsent {id : Option Nat} {message : Message} (phase : caller.phase = .sending id message)
      (deaf : connection.writer ≠ .writing) : ComesBack connection caller (.error .terminated)
  | posted {message : Message} (phase : caller.phase = .sending none message)
      (sent : connection.writer = .writing) : ComesBack connection caller (.ok .null)
  | answered {id : Nat} {response : Response} (phase : caller.phase = .waiting id)
      (mail : caller.mail = .given response) : ComesBack connection caller response.outcome
  | abandoned {id : Nat} (phase : caller.phase = .waiting id) (mail : caller.mail = .abandoned) :
      ComesBack connection caller (.error .terminated)

/-- A step that brings a caller back changes nothing that says whether the connection is alive. -/
theorem ComesBack.of_step {after : Connection} {later : Caller}
    (taken : connection.stepCaller index caller = some after)
    (found : connection.callers[index]? = some caller)
    (back : after.callers[index]? = some later) (phase : later.phase = .finished outcome) :
    ComesBack connection caller outcome ∧ after.alive = connection.alive := by
  have moved {before : Connection} {phase' : CallerPhase} (moves : before.move index phase' = after)
      (same : before.callers = connection.callers) : phase' = .finished outcome := by
    subst moves
    rw [Connection.move, getElem?_setCaller, if_pos rfl, same, found, Option.map_some,
      Option.some.injEq] at back
    rw [← back] at phase
    exact phase
  unfold Connection.stepCaller at taken
  split at taken
  · cases moved (Option.some.inj taken) rfl
  · rename_i id message here
    split at taken
    · cases moved (Option.some.inj taken) rfl
    · rename_i closed
      cases moved (Option.some.inj taken) rfl
      cases taken
      exact ⟨.unregistered here (by simpa using closed), rfl⟩
  · rename_i id message here
    split at taken
    · cases moved (Option.some.inj taken) rfl
    · rename_i dead
      cases moved (Option.some.inj taken) rfl
      cases taken
      exact ⟨.dead here (by simpa using dead), rfl⟩
  · rename_i id message here
    split at taken
    · rename_i sent
      cases id with
      | some id => cases moved (Option.some.inj taken) rfl
      | none =>
        cases moved (Option.some.inj taken) rfl
        cases taken
        exact ⟨.posted here sent, rfl⟩
    · rename_i deaf
      cases moved (Option.some.inj taken) rfl
      cases taken
      exact ⟨.unsent here deaf, rfl⟩
  · rename_i id here
    split at taken
    · cases taken
    · rename_i response mail
      cases moved (Option.some.inj taken) rfl
      cases taken
      exact ⟨.answered here mail, rfl⟩
    · rename_i mail
      cases moved (Option.some.inj taken) rfl
      cases taken
      exact ⟨.abandoned here mail, rfl⟩
  · cases taken

/-- A reader that is past its last frame and has said so. -/
def Leaving (reader : ReaderPhase) : Prop :=
  reader = .failing ∨ reader = .closing ∨ reader = .stopped

/-- Nobody leaves, and nobody is told that the connection is gone, before it is marked dead. -/
structure Marked (talk : Conversation) : Prop where
  writer : talk.connection.writer = .stopped → talk.connection.alive = false
  reader : Leaving talk.connection.reader → talk.connection.alive = false
  told : ∀ (index : Nat) (caller : Caller), talk.connection.callers[index]? = some caller →
    caller.mail = .awaited ∨ (∃ response, caller.mail = .given response ∧ talk.Came response) ∨
      talk.connection.alive = false

namespace Marked

theorem start : Marked {} := ⟨by simp, by simp [Leaving], by simp⟩

/-- The connection goes on: a dead one stays dead, and who leaves now has marked it. -/
theorem goes_on (marked : Marked talk)
    (dead : talk.connection.alive = false → next.connection.alive = false)
    (writer : next.connection.writer = .stopped →
      talk.connection.writer = .stopped ∨ next.connection.alive = false)
    (reader : Leaving next.connection.reader →
      Leaving talk.connection.reader ∨ next.connection.alive = false)
    (came : ∀ response, talk.Came response → next.Came response)
    (callers : ∀ (index : Nat) (later : Caller), next.connection.callers[index]? = some later →
      (∃ caller : Caller, talk.connection.callers[index]? = some caller ∧
        later.mail = caller.mail) ∨
      later.mail = .awaited ∨ (∃ response, later.mail = .given response ∧ next.Came response) ∨
        next.connection.alive = false) : Marked next where
  writer stopped := (writer stopped).elim (fun before => dead (marked.writer before)) id
  reader leaving := (reader leaving).elim (fun before => dead (marked.reader before)) id
  told := by
    intro index later found
    rcases callers index later found with ⟨caller, present, same⟩ | now
    · rw [same]
      refine (marked.told index caller present).imp_right fun told => told.imp ?_ dead
      rintro ⟨response, given, here⟩
      exact ⟨response, given, came response here⟩
    · exact now

theorem caller_step (marked : Marked talk)
    (found : talk.connection.callers[index]? = some caller)
    (taken : talk.connection.stepCaller index caller = some connection) :
    Marked ⟨connection, talk.history.afterStep talk.connection (.caller index)⟩ := by
  have received := talk.history.received_afterStep talk.connection (.caller index)
  obtain ⟨nextId, registrations, outgoing, phase, rfl⟩ := stepCaller_eq_move taken
  refine marked.goes_on id .inl .inl (fun response came => came.later rfl received) ?_
  intro other later present
  rw [Connection.move, getElem?_setCaller] at present
  by_cases own : index = other
  · subst own
    simp only [if_pos, found, Option.map_some, Option.some.injEq] at present
    subst present
    exact .inl ⟨caller, found, rfl⟩
  · rw [if_neg own] at present
    exact .inl ⟨later, present, rfl⟩

theorem writer_step (marked : Marked talk)
    (taken : talk.connection.stepWriter = some connection) :
    Marked ⟨connection, talk.history.afterStep talk.connection .writer⟩ := by
  have received := talk.history.received_afterStep talk.connection .writer
  obtain ⟨callers, reader, _, ended⟩ := stepWriter_spares taken
  have marks : (talk.connection.alive = false → connection.alive = false) ∧
      (connection.writer = .stopped →
        talk.connection.writer = .stopped ∨ connection.alive = false) := by
    unfold Connection.stepWriter at taken
    split at taken
    · rename_i phase
      split at taken
      · cases taken
      · split at taken <;> cases taken <;> exact ⟨id, by simp [phase]⟩
    · cases taken
      exact ⟨fun _ => rfl, fun _ => .inr rfl⟩
    · cases taken
  refine marked.goes_on marks.1 marks.2 (fun leaving => .inl (reader ▸ leaving))
    (fun response came => came.later ended received) fun index later present => ?_
  rw [callers] at present
  exact .inl ⟨later, present, rfl⟩

theorem event (marked : Marked talk) (event : Connection.Event)
    (possible : event.Possible talk.connection) :
    Marked ⟨talk.connection.occur event, talk.history.afterEvent event⟩ := by
  have came : ∀ response, talk.Came response →
      Came ⟨talk.connection.occur event, talk.history.afterEvent event⟩ response :=
    fun response came => came.event possible
  cases event with
  | call method params | post message =>
    refine marked.goes_on id .inl .inl came fun index later present => ?_
    rcases (getElem?_concat_eq_some _ _ _ _).mp present with before | ⟨_, rfl⟩
    · exact .inl ⟨later, before, rfl⟩
    · exact .inr (.inl rfl)
  | receive bytes | endInput | breakOutput | takeInbound =>
    exact marked.goes_on id .inl .inl came fun index later present => .inl ⟨later, present, rfl⟩

theorem reader_step (marked : Marked talk) (sound : Sound talk) (ending : Ending talk)
    (taken : talk.connection.stepReader = some connection) :
    Marked ⟨connection, talk.history⟩ := by
  have same : ∀ (index : Nat) (later : Caller), talk.connection.callers[index]? = some later →
      ∃ caller : Caller, talk.connection.callers[index]? = some caller ∧
        later.mail = caller.mail := fun _ later present => ⟨later, present, rfl⟩
  cases sound.reader_turn taken with
  | @read body rest phase found =>
    rcases readBody_cases { talk.connection with incoming := rest } body with
      ⟨response, _, read⟩ | ⟨inbound, read⟩
    · rw [read]
      exact marked.goes_on id .inl (by simp [Leaving]) (fun _ came => came.later rfl rfl)
        fun index later present => .inl (same index later present)
    · rw [read]
      exact marked.goes_on id .inl .inl (fun _ came => came.later rfl rfl)
        fun index later present => .inl (same index later present)
  | stop phase =>
    exact marked.goes_on id .inl (by simp [Leaving]) (fun _ came => came.later rfl rfl)
      fun index later present => .inl (same index later present)
  | take phase pending rest =>
    exact marked.goes_on id .inl .inl (fun _ came => came.later rfl rfl)
      fun index later present => .inl (same index later present)
  | @answer response phase =>
    have came := ending.answering response phase
    cases waits : talk.connection.pending.entries.get? response.id with
    | none =>
      rw [answer_unknown waits]
      exact marked.goes_on id .inl (by simp [Leaving]) (fun _ came => came.later rfl rfl)
        fun index later present => .inl (same index later present)
    | some owner =>
      rw [answer_of_waiting waits]
      refine marked.goes_on id .inl (by simp [Leaving]) (fun _ came => came.later rfl rfl) ?_
      intro index later present
      obtain ⟨before, here, _, ⟨mail, _⟩ | given⟩ :=
        @of_deliverAll _ _ _ [(owner, .given response)] present
      · exact .inl ⟨before, here, mail⟩
      · refine .inr (.inr (.inl ⟨response, ?_, came.later rfl rfl⟩))
        exact congrArg Prod.snd (List.mem_singleton.mp given)
  | die phase =>
    exact marked.goes_on (fun _ => rfl) (fun _ => .inr rfl) (fun _ => .inr rfl)
      (fun _ came => came.later rfl rfl) fun index later present => .inl (same index later present)
  | fail phase =>
    have dead := marked.reader (.inl phase)
    rw [failPending_eq, deliverAll_eq]
    exact marked.goes_on id .inl (fun _ => .inr dead) (fun _ came => came.later rfl rfl)
      fun index later present => .inr (.inr (.inr dead))
  | close phase =>
    have dead := marked.reader (.inr (.inl phase))
    rw [abandonRegistrations_eq, deliverAll_eq]
    exact marked.goes_on id .inl (fun _ => .inr dead) (fun _ came => came.later rfl rfl)
      fun index later present => .inr (.inr (.inr dead))

theorem leads (run : Leads known {} talk) : Marked talk := by
  induction run with
  | refl => exact start
  | tail before move ih =>
    have sound := Sound.start.leads before
    have ending := Ending.leads before
    cases move with
    | step thread taken =>
      cases thread with
      | caller index =>
        simp only [Connection.step] at taken
        split at taken
        · rename_i caller found
          exact ih.caller_step found taken
        · cases taken
      | reader => exact ih.reader_step sound ending taken
      | writer => exact ih.writer_step taken
    | event event possible _ => exact ih.event event possible

end Marked

/-- A response means that the connection is gone exactly if it is an error of the code for that. -/
theorem outcome_eq_terminated_iff : response.outcome = .error .terminated ↔
    ∃ versioned id error, response = .failure versioned id error ∧
      error.code = Response.terminationCode := by
  cases response with
  | success => simp [Response.outcome]
  | failure versioned id error =>
    by_cases reserved : error.code = Response.terminationCode <;>
      simp [Response.outcome, reserved]

/-- What a caller that took an id is about to hand to the writer goes under that id. -/
theorem Sound.sending_own (sound : Sound talk) (owned : talk.history.issued[number]? = some index)
    (found : talk.connection.callers[index]? = some caller) {id : Option Nat} {message : Message}
    (phase : caller.phase = .sending id message) : id = some number := by
  obtain ⟨_, present, stage, _⟩ := sound.stages number index owned
  rw [found] at present
  cases present
  cases stage with
  | fresh registering => simp [phase] at registering
  | answered asking =>
    simp only [Asking, phase, reduceCtorEq, exists_false, false_or, or_false,
      CallerPhase.sending.injEq] at asking
    obtain ⟨_, _, same, _⟩ := asking
    exact same
  | registered asking | inFlight asking | lost asking =>
    simp only [Asking, phase, reduceCtorEq, exists_false, false_or, or_false,
      CallerPhase.sending.injEq] at asking
    obtain ⟨_, _, same, _⟩ := asking
    exact same

/-- On a connection that is alive a call comes back with a response of the other side, or is turned
away by a writer that is about to mark it dead. -/
theorem Marked.verdict (marked : Marked talk) (sound : Sound talk)
    (owned : talk.history.issued[number]? = some index)
    (found : talk.connection.callers[index]? = some caller)
    (back : ComesBack talk.connection caller outcome) (alive : talk.connection.alive = true) :
    (TurnedAway talk.connection number caller ∧ outcome = .error .terminated) ∨
      ∃ response, caller.phase = .waiting number ∧ caller.mail = .given response ∧
        outcome = response.outcome := by
  have living : talk.connection.alive ≠ false := by simp [alive]
  cases back with
  | unregistered _ closed =>
    have stopped : talk.connection.reader = .stopped := by
      unfold Connection.takesRegistrations at closed
      split at closed
      · assumption
      · cases closed
    exact absurd (marked.reader (.inr (.inr stopped))) living
  | dead _ dead => exact absurd dead living
  | @unsent id message phase deaf =>
    cases sound.sending_own owned found phase
    cases writer : talk.connection.writer with
    | writing => exact absurd writer deaf
    | stopped => exact absurd (marked.writer writer) living
    | stopping => exact .inl ⟨⟨writer, message, phase⟩, rfl⟩
  | posted phase => cases sound.sending_own owned found phase
  | answered phase mail =>
    cases sound.waiting_own owned found phase
    exact .inr ⟨_, phase, mail, rfl⟩
  | abandoned _ mail =>
    rcases marked.told index caller found with awaited | ⟨_, given, _⟩ | dead
    · simp [mail] at awaited
    · simp [mail] at given
    · exact absurd dead living

/-- On every course, whatever the other side sends: a call comes back with the news that the
connection is gone although the connection has not been marked dead exactly if the writer is about
to mark it, or if the other side answered the call with an error of the code that stands for the
news. What a call was given on a connection that is alive is an answer of the other side to it, and
an error among these is what the call comes back with exactly if its code is another and the writer
did not turn the call away. -/
theorem terminated_though_alive_iff (run : Leads known {} talk)
    (owned : talk.history.issued[number]? = some index)
    (found : talk.connection.callers[index]? = some caller) {after : Connection}
    (taken : talk.connection.step (.caller index) = some after) {later : Caller}
    (back : after.callers[index]? = some later) (phase : later.phase = .finished outcome) :
    (outcome = .error .terminated ∧ after.alive = true ↔
      after.alive = true ∧
        (TurnedAway talk.connection number caller ∨ Mistaken talk number caller)) ∧
    (after.alive = true → ∀ response, caller.mail = .given response →
      talk.Came response ∧ response.id = .number number ∧
      ∀ versioned id error, response = .failure versioned id error →
        (outcome = .error (.remote error.code error.message) ↔
          error.code ≠ Response.terminationCode ∧ ¬ TurnedAway talk.connection number caller)) := by
  have sound := Sound.start.leads run
  have marked := Marked.leads run
  simp only [Connection.step, found] at taken
  obtain ⟨comes, unchanged⟩ := ComesBack.of_step taken found back phase
  rw [unchanged]
  have genuine : talk.connection.alive = true → ∀ response, caller.mail = .given response →
      talk.Came response := by
    intro alive response given
    rcases marked.told index caller found with awaited | ⟨other, mail, came⟩ | dead
    · simp [given] at awaited
    · rw [given] at mail
      cases mail
      exact came
    · simp [alive] at dead
  refine ⟨?_, fun alive response given => ⟨genuine alive response given, ?_, ?_⟩⟩
  · rw [and_comm, and_congr_right_iff]
    intro alive
    rcases marked.verdict sound owned found comes alive with
      ⟨turned, rfl⟩ | ⟨response, waiting, given, rfl⟩
    · exact iff_of_true rfl (.inl turned)
    · have unturned : ¬ TurnedAway talk.connection number caller := by
        rintro ⟨_, _, sending⟩
        simp [waiting] at sending
      rw [outcome_eq_terminated_iff, or_iff_right unturned]
      constructor
      · rintro ⟨versioned, id, error, rfl, reserved⟩
        exact ⟨waiting, versioned, id, error, given, genuine alive _ given, reserved⟩
      · rintro ⟨_, versioned, id, error, mail, _, reserved⟩
        rw [given] at mail
        cases mail
        exact ⟨versioned, id, error, rfl, reserved⟩
  · obtain ⟨other, mine, named, _⟩ := sound.of_given found given
    cases sound.owner_unique mine owned
    exact named
  · rintro versioned id error rfl
    rcases marked.verdict sound owned found comes alive with
      ⟨turned, rfl⟩ | ⟨response, waiting, mail, rfl⟩
    · exact iff_of_false (by simp) fun both => both.2 turned
    · have unturned : ¬ TurnedAway talk.connection number caller := by
        rintro ⟨_, _, sending⟩
        simp [waiting] at sending
      rw [given] at mail
      cases mail
      by_cases reserved : error.code = Response.terminationCode <;>
        simp [Response.outcome, reserved, unturned]

/-- The code and the text with which the other side refuses the first call, if a body does that. -/
def refusalOf? (body : String) : Option (Int × String) :=
  match responseOf? body with
  | some (.failure _ (.number 0) error) => some (error.code, error.message)
  | _ => none

theorem of_refusalOf? {body message : String} {code : Int}
    (refuses : refusalOf? body = some (code, message)) :
    ∃ versioned error, responseOf? body = some (.failure versioned (.number 0) error) ∧
      error.code = code ∧ error.message = message := by
  unfold refusalOf? at refuses
  split at refuses
  · rename_i versioned error found
    cases refuses
    exact ⟨versioned, error, found, rfl, rfl⟩
  · cases refuses

/-- A call whose answer has been read and waits for its caller. -/
def answered (text : String) (response : Response) : Conversation where
  connection :=
    { asked.connection with
      callers := [{ phase := .waiting 0, mail := .given response }]
      registrations := [] }
  history := { asked.history with received := Frame.encode text }

theorem leads_answered {text : String} (small : (Utf8.encode text).length < UInt64.size)
    (is : responseOf? text = some response) (named : response.id = .number 0) :
    Leads (fun _ => False) {} (answered text response) := by
  have message := responseOf?_eq_some_iff.mp is
  have frame : Frame.read false (Frame.encode text) = .body text [] := by
    simpa using Frame.read_framed (.encoded small) [] false
  have came := (leads_asked fun _ => False).tail
    (.event (.receive (Frame.encode text)) rfl fun _ _ _ _ _ _ _ _ _ known => known.elim)
  have read := came.tail (.step .reader (by
    simp only [Connection.step, Connection.stepReader, Connection.occur, asked, List.nil_append,
      frame, Connection.readBody, message]
    rfl))
  have taken := read.tail (.step .reader rfl)
  exact taken.tail (.step .reader (by cases response <;> cases named <;> rfl))

/-- A server that is up refuses a call with an error of its own. -/
def internalError : String :=
  "\x7b\"jsonrpc\":\"2.0\",\"id\":0,\"error\":\x7b\"code\":-32603,\"message\":\"boom\"\x7d\x7d"

theorem refused_call_reports_error : ∃ talk after caller later outcome,
    Leads (fun _ => False) {} talk ∧ talk.history.issued[0]? = some 0 ∧
      talk.connection.callers[0]? = some caller ∧
      talk.connection.step (.caller 0) = some after ∧ after.callers[0]? = some later ∧
      later.phase = .finished outcome ∧ after.alive = true ∧
      outcome = .error (.remote (-32603) "boom") := by
  obtain ⟨versioned, error, is, code, message⟩ :=
    of_refusalOf? (show refusalOf? internalError = some (-32603, "boom") by decide +kernel)
  have run := leads_answered (by decide +kernel) is rfl
  refine ⟨_, _, _, _, _, run, rfl, rfl, rfl, rfl, rfl, rfl, ?_⟩
  have owned : (answered internalError (.failure versioned (.number 0) error)).history.issued[0]? =
      some 0 := rfl
  obtain ⟨-, errors⟩ := terminated_though_alive_iff run owned rfl rfl rfl rfl
  obtain ⟨-, -, reported⟩ := errors rfl _ rfl
  rw [← code, ← message]
  refine (reported _ _ _ rfl).mpr ⟨by rw [code]; decide, ?_⟩
  rintro ⟨stopping, -⟩
  cases stopping

/-- A server that is up refuses a call with an error of the code that stands for a connection that
is gone. -/
def reservedError : String :=
  "\x7b\"jsonrpc\":\"2.0\",\"id\":0,\"error\":\x7b\"code\":-32099,\"message\":\"boom\"\x7d\x7d"

theorem refused_call_takes_connection_for_gone : ¬ ∀ (talk : Conversation) (number index : Nat)
    (caller later : Caller) (after : Connection),
    Leads (fun _ => False) {} talk → talk.history.issued[number]? = some index →
    talk.connection.callers[index]? = some caller →
    talk.connection.step (.caller index) = some after → after.callers[index]? = some later →
    later.phase = .finished (.error .terminated) → after.alive = false := by
  intro claimed
  obtain ⟨versioned, error, is, code, -⟩ :=
    of_refusalOf? (show refusalOf? reservedError = some (-32099, "boom") by decide +kernel)
  have run := leads_answered (by decide +kernel) is rfl
  have gone : (Response.failure versioned (.number 0) error).outcome = .error .terminated :=
    outcome_eq_terminated_iff.mpr ⟨_, _, _, rfl, code⟩
  have dead := claimed _ 0 0 _ _ _ run rfl rfl rfl rfl (congrArg _ gone)
  cases dead

end LanguageBridge.Conversation
