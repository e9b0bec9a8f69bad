import LanguageBridge.Proofs.Rpc.Account
import LanguageBridge.Proofs.Rpc.Framing

/-!
Connections that only their readers can tell apart: all else takes the same steps on both, and what
the readers do to callers is the same when the same requests wait.
-/
namespace LanguageBridge.Conversation

variable {first second connection : Connection} {index : Nat} {caller : Caller}
  {response : Response}

/-- Connections that are the same to their callers, to the writer and to the surroundings. -/
structure Agrees (first second : Connection) : Prop where
  same : ∃ registrations pending reader incoming ended,
    second = { first with registrations, pending, reader, incoming, ended }
  takes : second.takesRegistrations = first.takesRegistrations

namespace Agrees

theorem callers (agrees : Agrees first second) : second.callers = first.callers := by
  obtain ⟨⟨_, _, _, _, _, rfl⟩, _⟩ := agrees
  rfl

theorem registers? (agrees : Agrees first second) (index : Nat) :
    registers? second index = Conversation.registers? first index := by
  rw [Conversation.registers?, Conversation.registers?, agrees.callers, agrees.takes]

/-- A caller makes the same step on both. -/
theorem stepCaller (agrees : Agrees first second)
    (taken : first.stepCaller index caller = some after) :
    ∃ later, second.stepCaller index caller = some later ∧ Agrees after later := by
  obtain ⟨⟨_, _, _, _, _, rfl⟩, takes⟩ := agrees
  unfold Connection.stepCaller at taken ⊢
  split at taken
  · cases taken
    exact ⟨_, rfl, ⟨_, _, _, _, _, rfl⟩, takes⟩
  · rw [takes]
    split at taken <;> cases taken
    · rename_i open_
      rw [if_pos open_]
      exact ⟨_, rfl, ⟨_, _, _, _, _, rfl⟩, takes⟩
    · rename_i closed
      rw [if_neg closed]
      exact ⟨_, rfl, ⟨_, _, _, _, _, rfl⟩, takes⟩
  · split at taken <;> cases taken
    · rename_i living
      exact ⟨_, if_pos living, ⟨_, _, _, _, _, rfl⟩, takes⟩
    · rename_i dead
      exact ⟨_, if_neg dead, ⟨_, _, _, _, _, rfl⟩, takes⟩
  · split at taken <;> cases taken
    · rename_i writing
      exact ⟨_, if_pos writing, ⟨_, _, _, _, _, rfl⟩, takes⟩
    · rename_i deaf
      exact ⟨_, if_neg deaf, ⟨_, _, _, _, _, rfl⟩, takes⟩
  · split at taken <;> cases taken <;> exact ⟨_, rfl, ⟨_, _, _, _, _, rfl⟩, takes⟩
  · cases taken

/-- The writer makes the same step on both. -/
theorem stepWriter (agrees : Agrees first second) (taken : first.stepWriter = some after) :
    ∃ later, second.stepWriter = some later ∧ Agrees after later := by
  obtain ⟨⟨_, _, _, _, _, rfl⟩, takes⟩ := agrees
  obtain ⟨_, _, _, _, _, _, writer, outgoing, _, broken, _, _, _⟩ := first
  cases writer with
  | writing =>
    cases outgoing with
    | nil => cases taken
    | cons message rest =>
      cases broken <;> cases taken <;> exact ⟨_, rfl, ⟨_, _, _, _, _, rfl⟩, takes⟩
  | stopping =>
    cases taken
    exact ⟨_, rfl, ⟨_, _, _, _, _, rfl⟩, takes⟩
  | stopped => cases taken

theorem deliver (agrees : Agrees first second) (index : Nat) (mail : Mail) :
    Agrees (first.deliver index mail) (second.deliver index mail) := by
  obtain ⟨⟨_, _, _, _, _, rfl⟩, takes⟩ := agrees
  exact ⟨⟨_, _, _, _, _, rfl⟩, takes⟩

theorem deliverAll (agrees : Agrees first second) (mails : List (Nat × Mail)) :
    Agrees (Conversation.deliverAll first mails) (Conversation.deliverAll second mails) := by
  induction mails generalizing first second with
  | nil => exact agrees
  | cons entry rest ih => exact ih (agrees.deliver entry.1 entry.2)

theorem turn (agrees : Agrees first second) (reader : ReaderPhase) :
    Agrees { first with reader } { second with reader } := by
  obtain ⟨⟨_, _, _, _, _, rfl⟩, _⟩ := agrees
  exact ⟨⟨_, _, _, _, _, rfl⟩, rfl⟩

theorem come (agrees : Agrees first second) (messages : List Message) :
    Agrees { first with inbound := first.inbound ++ messages }
      { second with inbound := second.inbound ++ messages } := by
  obtain ⟨⟨_, _, _, _, _, rfl⟩, takes⟩ := agrees
  exact ⟨⟨_, _, _, _, _, rfl⟩, takes⟩

theorem die (agrees : Agrees first second) :
    Agrees { first with alive := false } { second with alive := false } := by
  obtain ⟨⟨_, _, _, _, _, rfl⟩, takes⟩ := agrees
  exact ⟨⟨_, _, _, _, _, rfl⟩, takes⟩

/-- A response goes to the same caller on both, if the same requests are in flight. -/
theorem answer (agrees : Agrees first second) (pending : second.pending = first.pending)
    (response : Response) : Agrees (first.answer response) (second.answer response) := by
  cases waits : first.pending.entries.get? response.id with
  | none =>
    rw [answer_unknown waits, answer_unknown (by rw [pending]; exact waits)]
    exact agrees
  | some owner =>
    rw [answer_of_waiting waits, answer_of_waiting (by rw [pending]; exact waits)]
    refine deliver ?_ owner _
    obtain ⟨⟨_, _, _, _, _, rfl⟩, takes⟩ := agrees
    exact ⟨⟨_, _, _, _, _, rfl⟩, takes⟩

theorem failPending (agrees : Agrees first second) (pending : second.pending = first.pending) :
    Agrees first.failPending second.failPending := by
  rw [failPending_eq, failPending_eq, failures, failures, pending]
  refine deliverAll ?_ _
  obtain ⟨⟨_, _, _, _, _, rfl⟩, takes⟩ := agrees
  exact ⟨⟨_, _, _, _, _, rfl⟩, takes⟩

theorem abandonRegistrations (agrees : Agrees first second)
    (registrations : second.registrations = first.registrations) :
    Agrees first.abandonRegistrations second.abandonRegistrations := by
  rw [abandonRegistrations_eq, abandonRegistrations_eq, abandonments, abandonments, registrations]
  refine deliverAll ?_ _
  obtain ⟨⟨_, _, _, _, _, rfl⟩, takes⟩ := agrees
  exact ⟨⟨_, _, _, _, _, rfl⟩, takes⟩

/-- What the surroundings do to both, what they do to the input of readers apart, is the same. -/
theorem occur (agrees : Agrees first second) (event : Connection.Event) :
    Agrees (first.occur event) (second.occur event) := by
  obtain ⟨⟨_, _, _, _, _, rfl⟩, takes⟩ := agrees
  cases event <;> exact ⟨⟨_, _, _, _, _, rfl⟩, takes⟩

/-- What readers have before them, and who waits in which place, makes no difference. -/
theorem apart (agrees : Agrees first second) (registrations : List (Nat × Nat))
    (pending : Pending Nat) (reader : ReaderPhase) (incoming : List UInt8) (ended : Bool)
    (takes : ({ first with registrations, pending, reader, incoming, ended } :
      Connection).takesRegistrations = second.takesRegistrations) :
    Agrees { first with registrations, pending, reader, incoming, ended } second := by
  obtain ⟨⟨_, _, _, _, _, rfl⟩, _⟩ := agrees
  exact ⟨⟨_, _, _, _, _, rfl⟩, takes.symm⟩

theorem besides (agrees : Agrees first second) (registrations : List (Nat × Nat))
    (pending : Pending Nat) (reader : ReaderPhase) (incoming : List UInt8) (ended : Bool)
    (takes : ({ second with registrations, pending, reader, incoming, ended } :
      Connection).takesRegistrations = first.takesRegistrations) :
    Agrees first { second with registrations, pending, reader, incoming, ended } := by
  obtain ⟨⟨_, _, _, _, _, rfl⟩, _⟩ := agrees
  exact ⟨⟨_, _, _, _, _, rfl⟩, takes⟩

end Agrees

end LanguageBridge.Conversation

/-!
A connection that follows another. It makes the same steps, but its reader is handed a body only
when the other reader is through with it and the body counts; so it never sees the others.
-/
namespace LanguageBridge.Conversation

variable {talk other : Conversation} {first second connection : Connection}
  {minutes others : Minutes} {index : Nat} {caller : Caller} {response : Response}
  {frames : List (List UInt8)}

theorem failPending_input (connection : Connection) :
    connection.failPending.incoming = connection.incoming ∧
      connection.failPending.ended = connection.ended := by
  rw [failPending_eq, deliverAll_eq]
  exact ⟨rfl, rfl⟩

theorem abandonRegistrations_input (connection : Connection) :
    connection.abandonRegistrations.incoming = connection.incoming ∧
      connection.abandonRegistrations.ended = connection.ended := by
  rw [abandonRegistrations_eq, deliverAll_eq]
  exact ⟨rfl, rfl⟩

theorem Minuted.read_on (minuted : Minuted talk minutes)
    (taken : talk.connection.stepReader = some connection)
    (noted : minutes.afterStep talk.connection .reader = others) :
    Minuted ⟨connection, talk.history⟩ others :=
  noted ▸ minuted.step .reader taken

/-- A reader that is about to answer or to fail requests takes in all that are registered first. -/
theorem Minuted.drain (minuted : Minuted talk minutes)
    (phase : (∃ response, talk.connection.reader = .answering response) ∨
      talk.connection.reader = .failing) :
    Minuted ⟨{ talk.connection with
      registrations := []
      pending := ⟨⟨inLine talk.connection⟩⟩ }, talk.history⟩ minutes := by
  generalize left : talk.connection.registrations = registrations
  induction registrations generalizing talk with
  | nil =>
    obtain ⟨⟨_, _, _, _, _, _, _, _, _, _, _, _, _⟩, _⟩ := talk
    cases left
    simpa only [inLine, List.map_nil, List.append_nil] using minuted
  | cons first rest ih =>
    obtain ⟨number, index⟩ := first
    have sound := Sound.start.leads minuted.leads
    have absent := sound.absent_of_registered (left ▸ List.mem_cons_self)
    have line := inLine_take absent left
    have stepped : Minuted ⟨talk.connection.takeRegistration number index rest, talk.history⟩
        minutes := by
      rcases phase with ⟨response, answering⟩ | failing
      · exact minuted.read_on (by simp only [Connection.stepReader, answering, left])
          (by simp [Minutes.afterStep, answering, left])
      · exact minuted.read_on (by simp only [Connection.stepReader, failing, left])
          (by simp [Minutes.afterStep, failing, left])
    rw [takeRegistration_of_absent absent] at stepped line
    have drained := ih stepped phase rfl
    rw [line] at drained
    exact drained

/-- A reader with nothing before it is handed a body. -/
theorem Minuted.hear (minuted : Minuted talk minutes)
    (reading : talk.connection.reader = .reading) (empty : talk.connection.incoming = [])
    (flowing : talk.connection.ended = false) {text : String} {frame : List UInt8}
    (framed : Frame.Framed text frame) :
    Minuted ⟨talk.connection.readBody text,
        { talk.history with received := talk.history.received ++ frame }⟩
      (if (responseOf? text).isSome then { minutes with inHand := some text }
        else minutes.note (.body text)) := by
  have read : Frame.read talk.connection.ended (talk.connection.incoming ++ frame) =
      .body text [] := by
    rw [flowing, empty]
    simpa using Frame.read_framed framed [] false
  have came := minuted.event (.receive frame) flowing
  have taken : Connection.step .reader (talk.connection.occur (.receive frame)) =
      some (talk.connection.readBody text) := by
    simp only [Connection.step, Connection.stepReader, Connection.occur, reading, read]
    obtain ⟨⟨_, _, _, _, _, _, _, _, _, _, _, _, _⟩, _⟩ := talk
    cases empty
    cases reading
    rfl
  have stepped := came.step .reader taken
  simpa only [Minutes.afterStep, Minutes.afterEvent, History.afterStep, History.afterEvent,
    Connection.occur, reading, read] using stepped

theorem Minuted.fail (minuted : Minuted talk minutes) (phase : talk.connection.reader = .failing)
    (drained : talk.connection.registrations = []) :
    Minuted ⟨{ talk.connection.failPending with reader := .closing }, talk.history⟩
      (minutes.note .failed) :=
  minuted.read_on (by simp only [Connection.stepReader, phase, drained])
    (by simp only [Minutes.afterStep, phase, drained, if_true])

/-- The follower has read all that it was handed and waits for more, while the other reader runs. -/
structure Behind (talk other : Conversation) (frames : List (List UInt8)) : Prop where
  running : Listening talk.connection
  reading : other.connection.reader = .reading
  empty : other.connection.incoming = []
  flowing : other.connection.ended = false
  received : other.history.received = frames.flatten

/-- Both readers have found that there is nothing more to read. -/
structure Abreast (talk other : Conversation) (frames : List (List UInt8)) : Prop where
  left : ¬ Listening talk.connection
  reader : other.connection.reader = talk.connection.reader
  incoming : other.connection.incoming = talk.connection.incoming
  ended : other.connection.ended = talk.connection.ended
  received : other.history.received = frames.flatten ++ talk.connection.incoming

/-- The follower is handed bytes, and perhaps told that no more will come. -/
theorem Behind.catch_up (behind : Behind talk other frames) (minuted : Minuted other others)
    (bytes : List UInt8) (ended : Bool) :
    Minuted ⟨{ other.connection with incoming := bytes, ended },
      { other.history with received := frames.flatten ++ bytes }⟩ others := by
  have came := minuted.event (.receive bytes) behind.flowing
  have same : (other.connection.occur (.receive bytes)) =
      { other.connection with incoming := bytes } := by
    simp only [Connection.occur, behind.empty, List.nil_append]
  rw [same, History.afterEvent, behind.received] at came
  cases ended with
  | false =>
    have flowing := behind.flowing
    obtain ⟨⟨_, _, _, _, _, _, _, _, _, _, _, _, _⟩, _⟩ := other
    cases flowing
    exact came
  | true => exact came.event .endInput trivial

/-- A conversation follows another: of its bodies it has read those that count, in these frames. -/
structure Follows (talk : Conversation) (minutes : Minutes) (frames : List (List UInt8))
    (other : Conversation) (others : Minutes) : Prop where
  agrees : Agrees talk.connection other.connection
  issued : other.history.issued = talk.history.issued
  written : other.history.written = talk.history.written
  entries : others.entries = counting minutes.entries
  taken : others.taken = minutes.taken
  place : Behind talk other frames ∨ Abreast talk other frames

/-- Some conversation follows. -/
def Followed (talk : Conversation) (minutes : Minutes) (frames : List (List UInt8)) : Prop :=
  ∃ other others, Minuted other others ∧ Follows talk minutes frames other others

/-- When those in flight have been failed, only those that registered since are left. -/
theorem Ending.inLine_closing (ending : Ending talk) (phase : talk.connection.reader = .closing) :
    inLine talk.connection =
      talk.connection.registrations.map fun entry => (.number entry.1, entry.2) := by
  have empty : talk.connection.pending.entries.entries = [] := by
    refine List.eq_nil_iff_forall_not_mem.mpr fun entry member => ?_
    have absent := (Table.find?_eq_none_iff _ _).mp (ending.failed phase entry.1)
    exact absent (List.mem_map_of_mem member)
  rw [inLine, empty, List.nil_append]

theorem CallerTurn.spares (turn : CallerTurn connection index after) :
    after.reader = connection.reader ∧ after.incoming = connection.incoming ∧
      after.ended = connection.ended := by
  cases turn <;> exact ⟨rfl, rfl, rfl⟩

namespace Follows

variable {next later : Conversation} {noted laters : Minutes}

theorem behind (follows : Follows talk minutes frames other others)
    (running : Listening talk.connection) : Behind talk other frames :=
  follows.place.resolve_right fun abreast => abreast.left running

theorem abreast (follows : Follows talk minutes frames other others)
    (left : ¬ Listening talk.connection) : Abreast talk other frames :=
  follows.place.resolve_left fun behind => left behind.running

/-- The same wait on both, be it in different places. -/
theorem line (follows : Follows talk minutes frames other others) (account : Account talk minutes)
    (account' : Account other others) (takes : talk.connection.takesRegistrations = true) :
    inLine other.connection = inLine talk.connection := by
  rw [account.waits takes, account'.waits (follows.agrees.takes.trans takes), follows.entries]
  exact wait_countingFrom [] minutes.entries

/-- Once its reader has taken in all registrations, those in flight wait on the other side, too. -/
theorem flight (follows : Follows talk minutes frames other others) (account : Account talk minutes)
    (account' : Account other others) (takes : talk.connection.takesRegistrations = true)
    (drained : talk.connection.registrations = []) :
    (⟨⟨inLine other.connection⟩⟩ : Pending Nat) = talk.connection.pending := by
  rw [follows.line account account' takes, inLine, drained, List.map_nil, List.append_nil]

/-! ### Steps in which neither reader takes part -/

theorem goes_on (follows : Follows talk minutes frames other others)
    (agrees : Agrees next.connection later.connection)
    (spares : next.connection.reader = talk.connection.reader ∧
      next.connection.incoming = talk.connection.incoming ∧
      next.connection.ended = talk.connection.ended)
    (spares' : later.connection.reader = other.connection.reader ∧
      later.connection.incoming = other.connection.incoming ∧
      later.connection.ended = other.connection.ended)
    (issued : later.history.issued = next.history.issued)
    (written : later.history.written = next.history.written)
    (received : later.history.received = other.history.received)
    (entries : laters.entries = counting noted.entries)
    (taken : laters.taken = noted.taken) : Follows next noted frames later laters where
  agrees := agrees
  issued := issued
  written := written
  entries := entries
  taken := taken
  place := by
    obtain ⟨reader, incoming, ended⟩ := spares
    obtain ⟨reader', incoming', ended'⟩ := spares'
    refine follows.place.imp (fun behind => ?_) fun abreast => ?_
    · exact ⟨by simpa only [Listening, reader] using behind.running,
        reader'.trans behind.reading, incoming'.trans behind.empty, ended'.trans behind.flowing,
        received.trans behind.received⟩
    · exact ⟨by simpa only [Listening, reader] using abreast.left,
        by rw [reader', reader, abreast.reader],
        by rw [incoming', incoming, abreast.incoming],
        by rw [ended', ended, abreast.ended],
        by rw [received, incoming, abreast.received]⟩

theorem caller_step (follows : Follows talk minutes frames other others)
    (minuted : Minuted other others) (found : talk.connection.callers[index]? = some caller)
    (taken : talk.connection.stepCaller index caller = some connection) :
    Followed ⟨connection, talk.history.afterStep talk.connection (.caller index)⟩
      (minutes.afterStep talk.connection (.caller index)) frames := by
  obtain ⟨after, taken', agrees⟩ := follows.agrees.stepCaller taken
  have found' : other.connection.callers[index]? = some caller := by
    rw [follows.agrees.callers, found]
  have stepped := minuted.step (.caller index) (show _ = some after by
    simp only [Connection.step, found', taken'])
  have registers := follows.agrees.registers? index
  refine ⟨_, _, stepped, follows.goes_on agrees (callerTurn found taken).spares
    (callerTurn found' taken').spares ?_ ?_ (History.received_afterStep _ _ _) ?_ ?_⟩
  · simp only [History.afterStep, found, found']
    split <;> simp [follows.issued]
  · simp only [History.afterStep, found, found']
    split <;> simp [follows.written]
  · simp only [Minutes.afterStep, registers]
    split
    · simp [Minutes.note, counting_append_singleton, Entry.counts, follows.entries]
    · exact follows.entries
  · simp only [Minutes.afterStep, registers]
    split <;> exact follows.taken

theorem writer_step (follows : Follows talk minutes frames other others)
    (minuted : Minuted other others) (taken : talk.connection.stepWriter = some connection) :
    Followed ⟨connection, talk.history.afterStep talk.connection .writer⟩ minutes frames := by
  obtain ⟨after, taken', agrees⟩ := follows.agrees.stepWriter taken
  refine ⟨_, _, minuted.step .writer taken', follows.goes_on agrees (stepWriter_spares taken).2
    (stepWriter_spares taken').2 ?_ ?_ (History.received_afterStep _ _ _) follows.entries
    follows.taken⟩
  · simp only [History.afterStep]
    split <;> split <;> exact follows.issued
  · obtain ⟨_, _, _, _, _, same⟩ := follows.agrees.same
    simp only [History.afterStep, same, follows.written]
    split
    · rfl
    · exact follows.written

/-- Something happens to one connection that its follower need not know of yet. -/
theorem unnoticed (follows : Follows talk minutes frames other others)
    (behind : Behind talk other frames) (registrations : List (Nat × Nat)) (pending : Pending Nat)
    (reader : ReaderPhase) (incoming : List UInt8) (ended : Bool) (received : List UInt8)
    (running : reader = .reading ∨ ∃ response, reader = .answering response)
    (entries : counting noted.entries = counting minutes.entries)
    (taken : noted.taken = minutes.taken) :
    Follows ⟨{ talk.connection with registrations, pending, reader, incoming, ended },
      { talk.history with received }⟩ noted frames other others where
  agrees := by
    refine follows.agrees.apart _ _ _ _ _ ?_
    rcases running with rfl | ⟨response, rfl⟩ <;>
      simp only [Connection.takesRegistrations, behind.reading]
  issued := follows.issued
  written := follows.written
  entries := follows.entries.trans entries.symm
  taken := follows.taken.trans taken.symm
  place := .inl { behind with running }

theorem event (follows : Follows talk minutes frames other others)
    (minuted : Minuted other others) (event : Connection.Event)
    (possible : event.Possible talk.connection) :
    Followed ⟨talk.connection.occur event, talk.history.afterEvent event⟩
      (minutes.afterEvent talk.connection event) frames := by
  have agrees := follows.agrees.occur event
  cases event with
  | call method params =>
    exact ⟨_, _, minuted.event (.call method params) trivial, follows.goes_on agrees
      ⟨rfl, rfl, rfl⟩ ⟨rfl, rfl, rfl⟩ follows.issued follows.written rfl follows.entries
      follows.taken⟩
  | post message =>
    have possible' : (Connection.Event.post message).Possible other.connection := by
      cases message <;> exact possible
    exact ⟨_, _, minuted.event (.post message) possible', follows.goes_on agrees
      ⟨rfl, rfl, rfl⟩ ⟨rfl, rfl, rfl⟩ follows.issued follows.written rfl follows.entries
      follows.taken⟩
  | breakOutput =>
    exact ⟨_, _, minuted.event .breakOutput trivial, follows.goes_on agrees
      ⟨rfl, rfl, rfl⟩ ⟨rfl, rfl, rfl⟩ follows.issued follows.written rfl follows.entries
      follows.taken⟩
  | takeInbound =>
    refine ⟨_, _, minuted.event .takeInbound trivial, follows.goes_on agrees ⟨rfl, rfl, rfl⟩
      ⟨rfl, rfl, rfl⟩ follows.issued follows.written rfl follows.entries ?_⟩
    obtain ⟨_, _, _, _, _, same⟩ := follows.agrees.same
    simp only [Minutes.afterEvent, follows.taken, same]
  | receive bytes =>
    rcases follows.place with behind | abreast
    · exact ⟨other, others, minuted,
        follows.unnoticed behind _ _ _ _ _ _ behind.running rfl rfl⟩
    · have flowing : other.connection.ended = false := abreast.ended.trans possible
      have received := congrArg (· ++ bytes) abreast.received
      exact ⟨_, _, minuted.event (.receive bytes) flowing, agrees, follows.issued,
        follows.written, follows.entries, follows.taken, .inr ⟨abreast.left, abreast.reader,
          congrArg (· ++ bytes) abreast.incoming, abreast.ended, by
            simpa [History.afterEvent, Connection.occur] using received⟩⟩
  | endInput =>
    rcases follows.place with behind | abreast
    · exact ⟨other, others, minuted,
        follows.unnoticed behind _ _ _ _ _ _ behind.running rfl rfl⟩
    · exact ⟨_, _, minuted.event .endInput trivial, agrees, follows.issued, follows.written,
        follows.entries, follows.taken,
        .inr ⟨abreast.left, abreast.reader, abreast.incoming, rfl, abreast.received⟩⟩

/-- The reader takes in a registration, which its follower does not until it has to. -/
theorem take_step (follows : Follows talk minutes frames other others)
    (minuted : Minuted other others) (sound : Sound talk) {number : Nat} {rest : List (Nat × Nat)}
    (first : talk.connection.registrations = (number, index) :: rest) :
    Followed ⟨talk.connection.takeRegistration number index rest, talk.history⟩ minutes frames := by
  rw [takeRegistration_of_absent (sound.absent_of_registered (first ▸ List.mem_cons_self))]
  exact ⟨other, others, minuted, { follows with
    agrees := follows.agrees.apart _ _ _ _ _ follows.agrees.takes.symm
    place := follows.place.imp (fun behind => { behind with }) fun abreast => { abreast with } }⟩

/-! ### Bodies -/

/-- A body comes in that counts and is no response; the follower is handed it as well. -/
theorem read_message (follows : Follows talk minutes frames other others)
    (minuted : Minuted other others) {text : String} {frame : List UInt8} (rest : List UInt8)
    (phase : talk.connection.reader = .reading) (framed : Frame.Framed text frame)
    (message : responseOf? text = none)
    (counted : (Entry.body text).counts (waitingAfter minutes.entries) = true) :
    Followed ⟨{ talk.connection with
      incoming := rest
      inbound := talk.connection.inbound ++ (inboundOf? text).toList }, talk.history⟩
      (minutes.note (.body text)) (frames ++ [frame]) := by
  have behind := follows.behind (.inl phase)
  have heard := minuted.hear behind.reading behind.empty behind.flowing framed
  rw [readBody_other message] at heard
  simp only [message, Option.isSome_none, Bool.false_eq_true, if_false] at heard
  refine ⟨_, _, heard, (follows.agrees.come _).apart _ _ _ _ _ ?_, follows.issued,
    follows.written, ?_, follows.taken,
    .inl ⟨.inl phase, behind.reading, behind.empty, behind.flowing, ?_⟩⟩
  · simp only [Connection.takesRegistrations, phase, behind.reading]
  · simp only [Minutes.note, counting_append_singleton, counted, follows.entries, if_true]
  · simp [behind.received]

/-- The reader looks up whom a response is for, and somebody waits for it; the follower is handed
the response, knows all requests and looks up the same. -/
theorem answer_waiting (follows : Follows talk minutes frames other others)
    (minuted : Minuted other others) (account : Account talk minutes) {text : String}
    {frame : List UInt8} (phase : talk.connection.reader = .answering response)
    (drained : talk.connection.registrations = []) (framed : Frame.Framed text frame)
    (is : responseOf? text = some response)
    (counted : (Entry.body text).counts (waitingAfter minutes.entries) = true) :
    Followed ⟨{ talk.connection.answer response with reader := .reading }, talk.history⟩
      ⟨minutes.entries ++ [.body text], none, minutes.taken⟩ (frames ++ [frame]) := by
  have takes : talk.connection.takesRegistrations = true := by
    simp [Connection.takesRegistrations, phase]
  have behind := follows.behind (.inr ⟨response, phase⟩)
  have heard := minuted.hear behind.reading behind.empty behind.flowing framed
  rw [readBody_response is] at heard
  simp only [is, Option.isSome_some, if_true] at heard
  have ready := heard.drain (.inl ⟨response, rfl⟩)
  have answered := ready.step .reader rfl
  have flight := follows.flight account minuted.account takes drained
  have asked := follows.agrees.besides [] ⟨⟨inLine other.connection⟩⟩ (.answering response)
    other.connection.incoming other.connection.ended takes.symm
  refine ⟨_, _, answered, (asked.answer flight response).turn .reading, follows.issued,
    follows.written, ?_, follows.taken, .inl ⟨.inl rfl, rfl, ?_, ?_, ?_⟩⟩
  · simp [Minutes.afterStep, counting_append_singleton, counted, follows.entries]
  · exact (answer_input _ _).2.trans behind.empty
  · exact (answer_input _ _).1.trans behind.flowing
  · simp [History.afterStep, behind.received]

/-! ### The end of input -/

/-- The reader finds that there is nothing more to read, and so does its follower. -/
theorem stop (follows : Follows talk minutes frames other others) (minuted : Minuted other others)
    (phase : talk.connection.reader = .reading) (exhausted : Exhausted talk.connection) :
    Followed ⟨{ talk.connection with reader := .stopping }, talk.history⟩ minutes frames := by
  have behind := follows.behind (.inl phase)
  have ready := behind.catch_up minuted talk.connection.incoming talk.connection.ended
  have stopped : Minuted ⟨{ other.connection with
      incoming := talk.connection.incoming
      ended := talk.connection.ended
      reader := .stopping }, { other.history with
      received := frames.flatten ++ talk.connection.incoming }⟩ others := by
    rcases exhausted with ends | ⟨cause, failed⟩
    · exact ready.read_on (by simp only [Connection.stepReader, behind.reading, ends])
        (by simp only [Minutes.afterStep, behind.reading, ends])
    · exact ready.read_on (by simp only [Connection.stepReader, behind.reading, failed])
        (by simp only [Minutes.afterStep, behind.reading, failed])
  exact ⟨_, _, stopped, (follows.agrees.turn .stopping).besides _ _ _ _ _ rfl, follows.issued,
    follows.written, follows.entries, follows.taken,
    .inr ⟨by simp [Listening], rfl, rfl, rfl, rfl⟩⟩

/-- Both readers take the same step towards their end. -/
theorem alongside (follows : Follows talk minutes frames other others)
    (abreast : Abreast talk other frames) (agrees : Agrees first second) (reader : ReaderPhase)
    (left : ¬ Listening { first with reader })
    (input : first.incoming = talk.connection.incoming ∧ first.ended = talk.connection.ended)
    (input' : second.incoming = other.connection.incoming ∧ second.ended = other.connection.ended)
    (entries : laters.entries = counting noted.entries) (taken : laters.taken = noted.taken) :
    Follows ⟨{ first with reader }, talk.history⟩ noted frames
      ⟨{ second with reader }, other.history⟩ laters where
  agrees := agrees.turn reader
  issued := follows.issued
  written := follows.written
  entries := entries
  taken := taken
  place := .inr {
    left
    reader := rfl
    incoming := by
      change second.incoming = first.incoming
      rw [input'.1, abreast.incoming, input.1]
    ended := by
      change second.ended = first.ended
      rw [input'.2, abreast.ended, input.2]
    received := by
      change other.history.received = _ ++ first.incoming
      rw [input.1, abreast.received] }

/-- The reader marks the connection dead. -/
theorem die_step (follows : Follows talk minutes frames other others)
    (minuted : Minuted other others) (phase : talk.connection.reader = .stopping) :
    Followed ⟨{ talk.connection with alive := false, reader := .failing }, talk.history⟩
      minutes frames := by
  have abreast := follows.abreast (by simp [Listening, phase])
  have phase' := abreast.reader.trans phase
  exact ⟨_, _, minuted.read_on (by simp only [Connection.stepReader, phase'])
    (by simp only [Minutes.afterStep, phase']), follows.alongside abreast
    follows.agrees.die .failing (by simp [Listening]) ⟨rfl, rfl⟩ ⟨rfl, rfl⟩ follows.entries
    follows.taken⟩

/-- The reader fails those in flight, and these are the same on both sides. -/
theorem fail_step (follows : Follows talk minutes frames other others)
    (minuted : Minuted other others) (account : Account talk minutes)
    (phase : talk.connection.reader = .failing) (drained : talk.connection.registrations = []) :
    Followed ⟨{ talk.connection.failPending with reader := .closing }, talk.history⟩
      (minutes.note .failed) frames := by
  have abreast := follows.abreast (by simp [Listening, phase])
  have phase' := abreast.reader.trans phase
  have takes : talk.connection.takesRegistrations = true := by
    simp [Connection.takesRegistrations, phase]
  have flight := follows.flight account minuted.account takes drained
  have failed := (minuted.drain (.inr phase')).fail phase' rfl
  have agrees := follows.agrees.besides [] ⟨⟨inLine other.connection⟩⟩ other.connection.reader
    other.connection.incoming other.connection.ended follows.agrees.takes
  refine ⟨_, _, failed, follows.alongside abreast (agrees.failPending flight) .closing
    (by simp [Listening]) (failPending_input _) (failPending_input _) ?_ follows.taken⟩
  simp [Minutes.note, counting_append_singleton, Entry.counts, follows.entries]

/-- The reader abandons those that registered too late, and these are the same on both sides. -/
theorem close_step (follows : Follows talk minutes frames other others)
    (minuted : Minuted other others) (account : Account talk minutes) (ending : Ending talk)
    (phase : talk.connection.reader = .closing) :
    Followed ⟨{ talk.connection.abandonRegistrations with reader := .stopped }, talk.history⟩
      minutes frames := by
  have abreast := follows.abreast (by simp [Listening, phase])
  have phase' := abreast.reader.trans phase
  have takes : talk.connection.takesRegistrations = true := by
    simp [Connection.takesRegistrations, phase]
  have registrations : other.connection.registrations = talk.connection.registrations := by
    have line := follows.line account minuted.account takes
    rw [ending.inLine_closing phase, (Ending.leads minuted.leads).inLine_closing phase'] at line
    exact List.map_injective_iff.mpr (by
      rintro ⟨number, owner⟩ ⟨number', owner'⟩ same
      simpa using same) line
  exact ⟨_, _, minuted.read_on (by simp only [Connection.stepReader, phase'])
    (by simp only [Minutes.afterStep, phase']), follows.alongside abreast
    (follows.agrees.abandonRegistrations registrations) .stopped (by simp [Listening])
    (abandonRegistrations_input _) (abandonRegistrations_input _) follows.entries follows.taken⟩

end Follows

/-! ### A whole course -/

/-- The reader reads a body; the follower is handed it if it counts, a response only when it has
been looked up. -/
theorem followed_read (followed : ∀ {frames}, List.Forall₂ Frame.Framed minutes.counted frames →
      Followed talk minutes frames) {text : String} {rest : List UInt8}
    (phase : talk.connection.reader = .reading)
    (found : Frame.read talk.connection.ended talk.connection.incoming = .body text rest)
    (framed : List.Forall₂ Frame.Framed (minutes.afterStep talk.connection .reader).counted
      frames) :
    Followed ⟨({ talk.connection with incoming := rest } : Connection).readBody text, talk.history⟩
      (minutes.afterStep talk.connection .reader) frames := by
  have noted : minutes.afterStep talk.connection .reader =
      if (responseOf? text).isSome then { minutes with inHand := some text }
      else minutes.note (.body text) := by
    simp only [Minutes.afterStep, phase, found]
  rw [noted] at framed ⊢
  cases is : responseOf? text with
  | some response =>
    simp only [is, Option.isSome_some, if_true] at framed ⊢
    obtain ⟨other, others, minuted, follows⟩ := followed framed
    rw [readBody_response is]
    exact ⟨other, others, minuted, follows.unnoticed (follows.behind (.inl phase)) _ _ _ _ _ _
      (.inr ⟨response, rfl⟩) rfl rfl⟩
  | none =>
    simp only [is, Option.isSome_none, Bool.false_eq_true, if_false] at framed ⊢
    rw [readBody_other is]
    rw [Minutes.counted_note] at framed
    cases counted : (Entry.body text).counts (waitingAfter minutes.entries) with
    | true =>
      simp only [counted, if_true] at framed
      obtain ⟨before, last, rfl, kept, _ | ⟨whole, _ | _⟩⟩ := Frame.framed_append framed
      obtain ⟨other, others, minuted, follows⟩ := followed kept
      exact follows.read_message minuted rest phase whole is counted
    | false =>
      simp only [counted, Bool.false_eq_true, if_false, List.append_nil] at framed
      obtain ⟨other, others, minuted, follows⟩ := followed framed
      have silent : inboundOf? text = none := Entry.inbound_of_idle counted
      have entries : counting (minutes.note (.body text)).entries = counting minutes.entries := by
        simp [Minutes.note, counting_append_singleton, counted]
      rw [silent, Option.toList_none, List.append_nil]
      exact ⟨other, others, minuted, follows.unnoticed (follows.behind (.inl phase)) _ _ _ _ _ _
        (.inl phase) entries rfl⟩

/-- The reader is through with a response; the follower is handed it if somebody waits for it. -/
theorem followed_answer (followed : ∀ {frames}, List.Forall₂ Frame.Framed minutes.counted frames →
      Followed talk minutes frames) (account : Account talk minutes)
    (phase : talk.connection.reader = .answering response)
    (drained : talk.connection.registrations = [])
    (framed : List.Forall₂ Frame.Framed (minutes.afterStep talk.connection .reader).counted
      frames) :
    Followed ⟨{ talk.connection.answer response with reader := .reading }, talk.history⟩
      (minutes.afterStep talk.connection .reader) frames := by
  obtain ⟨text, held, is⟩ := account.holding response phase
  have noted : minutes.afterStep talk.connection .reader =
      { minutes.note (.body text) with inHand := none } := by
    simp [Minutes.afterStep, phase, drained, held, Minutes.note]
  have bodies : (minutes.afterStep talk.connection .reader).counted =
      (minutes.note (.body text)).counted := by
    rw [noted]
    rfl
  rw [bodies, Minutes.counted_note] at framed
  rw [noted]
  cases counted : (Entry.body text).counts (waitingAfter minutes.entries) with
  | true =>
    simp only [counted, if_true] at framed
    obtain ⟨before, last, rfl, kept, _ | ⟨whole, _ | _⟩⟩ := Frame.framed_append framed
    obtain ⟨other, others, minuted, follows⟩ := followed kept
    exact follows.answer_waiting minuted account phase drained whole is counted
  | false =>
    simp only [counted, Bool.false_eq_true, if_false, List.append_nil] at framed
    obtain ⟨other, others, minuted, follows⟩ := followed framed
    have waits : talk.connection.pending.entries.entries = waitingAfter minutes.entries := by
      rw [← account.waits (by simp [Connection.takesRegistrations, phase])]
      simp [inLine, drained]
    have unknown : talk.connection.pending.entries.get? response.id = none := by
      rw [Table.get?, waits]
      exact Entry.find?_of_idle is counted
    have entries : counting (minutes.note (.body text)).entries = counting minutes.entries := by
      simp [Minutes.note, counting_append_singleton, counted]
    rw [answer_unknown unknown]
    exact ⟨other, others, minuted, follows.unnoticed (follows.behind (.inr ⟨response, phase⟩)) _ _
      .reading _ _ _ (.inl rfl) entries rfl⟩

theorem followed_reader_step
    (followed : ∀ {frames}, List.Forall₂ Frame.Framed minutes.counted frames →
      Followed talk minutes frames) (minuted : Minuted talk minutes)
    (taken : talk.connection.stepReader = some connection)
    (framed : List.Forall₂ Frame.Framed (minutes.afterStep talk.connection .reader).counted
      frames) :
    Followed ⟨connection, talk.history⟩ (minutes.afterStep talk.connection .reader) frames := by
  have sound := Sound.start.leads minuted.leads
  have silent : ∀ {next : Conversation}, minutes.afterStep talk.connection .reader = minutes →
      (∀ {other others}, Minuted other others → Follows talk minutes frames other others →
        Followed next minutes frames) →
      Followed next (minutes.afterStep talk.connection .reader) frames := by
    intro next noted step
    rw [noted] at framed ⊢
    obtain ⟨other, others, minuted, follows⟩ := followed framed
    exact step minuted follows
  unfold Connection.stepReader at taken
  split at taken
  · rename_i phase
    split at taken <;> cases taken
    · rename_i found
      exact followed_read followed phase found framed
    · rename_i ends
      exact silent (by simp only [Minutes.afterStep, phase, ends])
        fun minuted follows => follows.stop minuted phase (.inl ends)
    · rename_i cause failed
      exact silent (by simp only [Minutes.afterStep, phase, failed])
        fun minuted follows => follows.stop minuted phase (.inr ⟨cause, failed⟩)
  · rename_i response phase
    split at taken <;> cases taken
    · rename_i first
      exact silent (by simp [Minutes.afterStep, phase, first])
        fun minuted follows => follows.take_step minuted sound first
    · rename_i drained
      exact followed_answer followed minuted.account phase drained framed
  · rename_i phase
    cases taken
    exact silent (by simp only [Minutes.afterStep, phase])
      fun minuted follows => follows.die_step minuted phase
  · rename_i phase
    split at taken <;> cases taken
    · rename_i first
      exact silent (by simp [Minutes.afterStep, phase, first])
        fun minuted follows => follows.take_step minuted sound first
    · rename_i drained
      have noted : minutes.afterStep talk.connection .reader = minutes.note .failed := by
        simp only [Minutes.afterStep, phase, drained, if_true]
      rw [noted, Minutes.counted_note] at framed
      obtain ⟨other, others, minuted', follows⟩ :=
        followed (by simpa [Entry.body?, Entry.counts] using framed)
      rw [noted]
      exact follows.fail_step minuted' minuted.account phase drained
  · rename_i phase
    cases taken
    exact silent (by simp only [Minutes.afterStep, phase]) fun minuted' follows =>
      follows.close_step minuted' minuted.account (Ending.leads minuted.leads) phase
  · cases taken

/-- Every connection is followed by one that is handed just the bodies that count, however they are
framed. -/
theorem Minuted.followed (minuted : Minuted talk minutes)
    (framed : List.Forall₂ Frame.Framed minutes.counted frames) : Followed talk minutes frames := by
  induction minuted generalizing frames with
  | start =>
    cases framed
    exact ⟨_, _, .start, ⟨⟨⟨_, _, _, _, _, rfl⟩, rfl⟩, rfl, rfl, rfl, rfl,
      .inl ⟨.inl rfl, rfl, rfl, rfl, rfl⟩⟩⟩
  | step before thread taken ih =>
    cases thread with
    | caller index =>
      simp only [Connection.step] at taken
      split at taken
      · rename_i caller found
        rw [Minutes.counted_caller] at framed
        obtain ⟨other, others, minuted, follows⟩ := ih framed
        exact follows.caller_step minuted found taken
      · cases taken
    | reader => exact followed_reader_step ih before taken framed
    | writer =>
      obtain ⟨other, others, minuted, follows⟩ := ih framed
      exact follows.writer_step minuted taken
  | event _ event possible ih =>
    rw [Minutes.counted_event] at framed
    obtain ⟨other, others, minuted, follows⟩ := ih framed
    exact follows.event minuted event possible

end LanguageBridge.Conversation
