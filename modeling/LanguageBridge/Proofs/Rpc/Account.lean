import LanguageBridge.Proofs.Rpc.Minutes
import LanguageBridge.Proofs.Rpc.Termination

/-!
What the minutes say is so: the reader has read the bodies, calls and notifications among them came
in, those wait that should, and callers were given what was due to them.
-/
namespace LanguageBridge.Conversation

variable {talk next : Conversation} {connection : Connection} {minutes : Minutes}
  {index : Nat} {caller : Caller} {response : Response}

/-- A caller was given a response. -/
def Given (connection : Connection) (index : Nat) (response : Response) : Prop :=
  (connection.callers[index]?).map Caller.mail = some (.given response)

/-- Those who wait for a response, in flight or only registered. -/
def inLine (connection : Connection) : Waiting :=
  connection.pending.entries.entries ++
    connection.registrations.map fun entry => (.number entry.1, entry.2)

/-- There is nothing more to read, nor will there be. -/
def Exhausted (connection : Connection) : Prop :=
  Frame.read connection.ended connection.incoming = .ended ∨
    ∃ cause, Frame.read connection.ended connection.incoming = .failed cause

/-- What the minutes of a connection say about it. -/
structure Account (talk : Conversation) (minutes : Minutes) : Prop where
  stream : Frame.Holds talk.connection.ended talk.history.received
    (bodiesOf minutes.entries ++ minutes.inHand.toList) talk.connection.incoming
  holding : ∀ response, talk.connection.reader = .answering response →
    ∃ text, minutes.inHand = some text ∧ responseOf? text = some response
  free : (∀ response, talk.connection.reader ≠ .answering response) → minutes.inHand = none
  waits : talk.connection.takesRegistrations = true →
    inLine talk.connection = waitingAfter minutes.entries
  inbound : minutes.taken ++ talk.connection.inbound = inboundAmong (bodiesOf minutes.entries)
  given : ∀ index response,
    Given talk.connection index response ↔ (index, response) ∈ givenBy minutes.entries
  through : Listening talk.connection ∨ Exhausted talk.connection

/-- What a step of a caller is. -/
inductive CallerTurn (connection : Connection) (index : Nat) : Connection → Prop
  | moves (nextId : Nat) (outgoing : List Message) (phase : CallerPhase)
      (silent : registers? connection index = none) :
      CallerTurn connection index
        (({ connection with nextId, outgoing } : Connection).move index phase)
  | registers (number : Nat) (phase : CallerPhase)
      (registers : registers? connection index = some number) :
      CallerTurn connection index (({ connection with
        registrations := connection.registrations ++ [(number, index)] } : Connection).move index
        phase)

theorem callerTurn (found : connection.callers[index]? = some caller)
    (taken : connection.stepCaller index caller = some after) :
    CallerTurn connection index after := by
  unfold Connection.stepCaller at taken
  split at taken
  · rename_i phase
    cases taken
    exact .moves _ _ _ (by simp [registers?, found, phase])
  · rename_i phase
    split at taken <;> cases taken
    · rename_i takes
      exact .registers _ _ (by simp [registers?, found, phase, takes])
    · rename_i closed
      exact .moves _ _ _ (by simp [registers?, found, phase, closed])
  · rename_i phase
    split at taken <;> cases taken <;> exact .moves _ _ _ (by simp [registers?, found, phase])
  · rename_i phase
    split at taken <;> cases taken <;> exact .moves _ _ _ (by simp [registers?, found, phase])
  · rename_i phase
    split at taken <;> cases taken <;> exact .moves _ _ _ (by simp [registers?, found, phase])
  · cases taken

theorem Given.of_mails {after : Connection}
    (mails : (after.callers[index]?).map Caller.mail =
      (connection.callers[index]?).map Caller.mail) :
    Given after index response ↔ Given connection index response := by
  rw [Given, Given, mails]

theorem mail_move (connection : Connection) (index other : Nat) (phase : CallerPhase) :
    ((connection.move index phase).callers[other]?).map Caller.mail =
      (connection.callers[other]?).map Caller.mail := by
  rw [Connection.move, getElem?_setCaller]
  split
  · cases connection.callers[other]? <;> rfl
  · rfl

theorem stepWriter_eq (taken : connection.stepWriter = some after) :
    ∃ alive outgoing writer written,
      after = { connection with alive, outgoing, writer, written } := by
  unfold Connection.stepWriter at taken
  split at taken
  · split at taken
    · cases taken
    · split at taken <;> cases taken <;> exact ⟨_, _, _, _, rfl⟩
  · cases taken
    exact ⟨_, _, _, _, rfl⟩
  · cases taken

/-- What cannot be read does not become readable. -/
theorem Exhausted.receive (exhausted : Exhausted connection) (flowing : connection.ended = false)
    (bytes : List UInt8) (ended : Bool) :
    Exhausted { connection with incoming := connection.incoming ++ bytes, ended } := by
  unfold Exhausted at exhausted
  rw [flowing] at exhausted
  rcases exhausted with ends | ⟨cause, failed⟩
  · exact absurd ends Frame.read_false_ne_ended
  · exact .inr ⟨cause, Frame.read_failed_append failed bytes ended⟩

theorem given_concat (awaited : caller.mail = .awaited) (index : Nat) (response : Response) :
    Given { connection with callers := connection.callers ++ [caller] } index response ↔
      Given connection index response := by
  simp only [Given, List.getElem?_append]
  split
  · rfl
  · rename_i beyond
    rw [List.getElem?_eq_none (Nat.not_lt.mp beyond)]
    cases at_ : [caller][index - connection.callers.length]? with
    | none => rfl
    | some found =>
      cases List.mem_singleton.mp (List.mem_of_getElem? at_)
      simp [awaited]

/-- Taking in a registration changes nobody's place. -/
theorem inLine_take {number : Nat} {rest : List (Nat × Nat)}
    (absent : connection.pending.entries.get? (.number number) = none)
    (first : connection.registrations = (number, index) :: rest) :
    inLine (connection.takeRegistration number index rest) = inLine connection := by
  have added : (connection.pending.entries.insert (.number number) index).entries =
      connection.pending.entries.entries ++ [(.number number, index)] :=
    Table.put_of_absent ((Table.find?_eq_none_iff _ _).mp absent) _
  rw [takeRegistration_of_absent absent]
  simp [inLine, first, added]

theorem readBody_response {text : String} (is : responseOf? text = some response) :
    connection.readBody text = { connection with reader := .answering response } := by
  simp [Connection.readBody, responseOf?_eq_some_iff.mp is]

theorem readBody_other {text : String} (other : responseOf? text = none) :
    connection.readBody text =
      { connection with inbound := connection.inbound ++ (inboundOf? text).toList } := by
  cases read : Message.ofText text with
  | error failure => simp [Connection.readBody, inboundOf?, read]
  | ok message =>
    cases message with
    | response response => simp [responseOf?_eq_some_iff.mpr read] at other
    | call | notification => simp [Connection.readBody, inboundOf?, read]

/-- The reader takes back nothing. -/
theorem Sound.given_kept (sound : Sound talk) (taken : talk.connection.stepReader = some connection)
    (given : Given talk.connection index response) : Given connection index response := by
  obtain ⟨caller, here, mail⟩ := Option.map_eq_some_iff.mp given
  exact Option.map_eq_some_iff.mpr ⟨caller, sound.reader_spares taken here mail, mail⟩

/-- A response goes to the one whose request is in flight under its id. -/
theorem Sound.given_answer (sound : Sound talk) {response : Response} {owner : Nat}
    (phase : talk.connection.reader = .answering response)
    (drained : talk.connection.registrations = [])
    (waits : talk.connection.pending.entries.get? response.id = some owner) (index : Nat)
    (other : Response) : Given (talk.connection.answer response) index other ↔
      Given talk.connection index other ∨ (index, other) = (owner, response) := by
  obtain ⟨number, _, owned⟩ := sound.inFlight _ _ waits
  obtain ⟨caller, present, _⟩ := sound.stages number owner owned
  constructor
  · intro given
    rw [answer_of_waiting waits] at given
    simp only [Given, Connection.deliver, getElem?_setCaller] at given
    by_cases own : owner = index
    · subst own
      rw [if_pos rfl, present] at given
      cases given
      exact .inr rfl
    · rw [if_neg own] at given
      exact .inl given
  · rintro (before | same)
    · have step : talk.connection.stepReader =
          some { talk.connection.answer response with reader := .reading } := by
        simp only [Connection.stepReader, phase, drained]
      have kept := sound.given_kept step before
      exact kept
    · cases same
      rw [answer_of_waiting waits]
      simp [Given, Connection.deliver, getElem?_setCaller, present]

/-- When the connection goes, all requests in flight are given the news under their ids. -/
theorem Sound.given_failPending (sound : Sound talk) (phase : talk.connection.reader = .failing)
    (drained : talk.connection.registrations = []) (index : Nat) (response : Response) :
    Given talk.connection.failPending index response ↔ Given talk.connection index response ∨
      (index, response) ∈ talk.connection.pending.entries.entries.map
        fun entry => (entry.2, Response.terminated entry.1) := by
  have told : (index, response) ∈ talk.connection.pending.entries.entries.map
      (fun entry => (entry.2, Response.terminated entry.1)) ↔
      (index, .given response) ∈ failures talk.connection := by
    simp [failures]
  rw [told]
  constructor
  · intro given
    rw [failPending_eq] at given
    obtain ⟨caller, here, mail⟩ := Option.map_eq_some_iff.mp given
    obtain ⟨before, present, _, ⟨same, _⟩ | delivered⟩ := of_deliverAll here
    · exact .inl (Option.map_eq_some_iff.mpr ⟨before, present, same.symm.trans mail⟩)
    · exact .inr (mail ▸ delivered)
  · rintro (before | delivered)
    · have step : talk.connection.stepReader =
          some { talk.connection.failPending with reader := .closing } := by
        simp only [Connection.stepReader, phase, drained]
      have kept := sound.given_kept step before
      exact kept
    · obtain ⟨number, owned, _⟩ := sound.of_failures (List.mem_map_of_mem delivered)
      obtain ⟨caller, present, _⟩ := sound.stages number index owned
      rw [failPending_eq]
      exact Option.map_eq_some_iff.mpr
        ⟨_, deliverAll_present sound.failures_once delivered present, rfl⟩

theorem Sound.given_abandonRegistrations (sound : Sound talk)
    (phase : talk.connection.reader = .closing) (index : Nat) (response : Response) :
    Given talk.connection.abandonRegistrations index response ↔
      Given talk.connection index response := by
  constructor
  · intro given
    rw [abandonRegistrations_eq] at given
    obtain ⟨caller, here, mail⟩ := Option.map_eq_some_iff.mp given
    obtain ⟨before, present, _, ⟨same, _⟩ | delivered⟩ := of_deliverAll here
    · exact Option.map_eq_some_iff.mpr ⟨before, present, same.symm.trans mail⟩
    · rw [mail] at delivered
      obtain ⟨entry, _, same⟩ := List.mem_map.mp delivered
      cases same
  · intro given
    have step : talk.connection.stepReader =
        some { talk.connection.abandonRegistrations with reader := .stopped } := by
      simp only [Connection.stepReader, phase]
    have kept := sound.given_kept step given
    exact kept

namespace Account

theorem start : Account {} {} where
  stream := .nothing []
  holding := by simp
  free := fun _ => rfl
  waits := fun _ => rfl
  inbound := rfl
  given := by simp [Given, givenBy, givenFrom]
  through := .inl (.inl rfl)

/-- A step of a caller or of the writer, or an event, that leaves input and minutes alone. -/
theorem quiet (account : Account talk minutes)
    (reader : next.connection.reader = talk.connection.reader)
    (incoming : next.connection.incoming = talk.connection.incoming)
    (ended : next.connection.ended = talk.connection.ended)
    (received : next.history.received = talk.history.received)
    (inbound : next.connection.inbound = talk.connection.inbound)
    (pending : next.connection.pending = talk.connection.pending)
    (registrations : next.connection.registrations = talk.connection.registrations)
    (mails : ∀ index response, Given next.connection index response ↔
      Given talk.connection index response) : Account next minutes where
  stream := by
    rw [ended, received, incoming]
    exact account.stream
  holding := by
    rw [reader]
    exact account.holding
  free := by
    rw [reader]
    exact account.free
  waits := by
    rw [inLine, pending, registrations, Connection.takesRegistrations, reader]
    exact account.waits
  inbound := by
    rw [inbound]
    exact account.inbound
  given index response := (mails index response).trans (account.given index response)
  through := by
    simpa only [Listening, Exhausted, reader, ended, incoming] using account.through

/-- A request is registered. -/
theorem register (account : Account talk minutes) (index number : Nat) (phase : CallerPhase) :
    Account ⟨({ talk.connection with
      registrations := talk.connection.registrations ++ [(number, index)] } : Connection).move index
      phase, talk.history⟩ (minutes.note (.request number index)) where
  stream := by
    rw [Minutes.bodiesOf_note, show (Entry.request number index).body? = none from rfl,
      Option.toList_none, List.append_nil]
    exact account.stream
  holding := account.holding
  free := account.free
  waits := by
    intro takes
    rw [Minutes.waitingAfter_note, ← account.waits takes]
    simp [inLine, Entry.wait, Connection.move, Connection.setCaller]
  inbound := by
    rw [Minutes.bodiesOf_note, show (Entry.request number index).body? = none from rfl,
      Option.toList_none, List.append_nil]
    exact account.inbound
  given other response := by
    rw [Minutes.givenBy_note, Entry.gives, List.append_nil]
    exact (Given.of_mails (mail_move _ _ _ _)).trans (account.given other response)
  through := account.through

theorem caller_step (account : Account talk minutes)
    (found : talk.connection.callers[index]? = some caller)
    (taken : talk.connection.stepCaller index caller = some connection) :
    Account ⟨connection, talk.history.afterStep talk.connection (.caller index)⟩
      (minutes.afterStep talk.connection (.caller index)) := by
  have received := talk.history.received_afterStep talk.connection (.caller index)
  cases callerTurn found taken with
  | moves nextId outgoing phase silent =>
    simp only [Minutes.afterStep, silent]
    exact account.quiet rfl rfl rfl received rfl rfl rfl fun other _ =>
      Given.of_mails (mail_move _ index other phase)
  | registers number phase registers =>
    simp only [Minutes.afterStep, registers]
    have registered := account.register index number phase
    exact registered.quiet rfl rfl rfl received rfl rfl rfl fun _ _ => Iff.rfl

theorem writer_step (account : Account talk minutes)
    (taken : talk.connection.stepWriter = some connection) :
    Account ⟨connection, talk.history.afterStep talk.connection .writer⟩ minutes := by
  have received := talk.history.received_afterStep talk.connection .writer
  obtain ⟨_, _, _, _, rfl⟩ := stepWriter_eq taken
  exact account.quiet rfl rfl rfl received rfl rfl rfl fun _ _ => Iff.rfl

theorem event (account : Account talk minutes) (event : Connection.Event)
    (possible : event.Possible talk.connection) :
    Account ⟨talk.connection.occur event, talk.history.afterEvent event⟩
      (minutes.afterEvent talk.connection event) := by
  cases event with
  | call method params =>
    exact account.quiet rfl rfl rfl rfl rfl rfl rfl fun index response =>
      given_concat rfl index response
  | post message =>
    exact account.quiet rfl rfl rfl rfl rfl rfl rfl fun index response =>
      given_concat rfl index response
  | breakOutput => exact account.quiet rfl rfl rfl rfl rfl rfl rfl fun _ _ => Iff.rfl
  | receive bytes =>
    have flowing : talk.connection.ended = false := possible
    refine { account with stream := ?_, through := ?_ }
    · have stream := account.stream
      rw [flowing] at stream
      exact stream.append bytes talk.connection.ended
    · exact account.through.imp_right fun exhausted => exhausted.receive flowing bytes _
  | endInput =>
    refine { account with stream := account.stream.ends, through := ?_ }
    refine account.through.imp_right fun exhausted => ?_
    cases ended : talk.connection.ended with
    | true => simpa only [Exhausted, Connection.occur, ended] using exhausted
    | false =>
      have later := exhausted.receive ended [] true
      rwa [List.append_nil] at later
  | takeInbound =>
    refine { account with inbound := ?_ }
    have before := account.inbound
    simp only [Minutes.afterEvent, Connection.occur, ← before]
    cases talk.connection.inbound <;> simp

/-! ### The reader -/

/-- The reader takes in a registration, and is where it was. -/
theorem take (account : Account talk minutes) (sound : Sound talk) {number : Nat}
    {rest : List (Nat × Nat)} (first : talk.connection.registrations = (number, index) :: rest) :
    Account ⟨talk.connection.takeRegistration number index rest, talk.history⟩ minutes := by
  have absent := sound.absent_of_registered (first ▸ List.mem_cons_self)
  have same := takeRegistration_of_absent absent index rest
  have waits := inLine_take absent first
  rw [same] at waits ⊢
  exact { account with waits := fun takes => waits.trans (account.waits takes) }

/-- The reader reads a body that is no response. -/
theorem read_other (account : Account talk minutes) {text : String} {rest : List UInt8}
    (phase : talk.connection.reader = .reading)
    (found : Frame.read talk.connection.ended talk.connection.incoming = .body text rest)
    (other : responseOf? text = none) :
    Account ⟨({ talk.connection with incoming := rest } : Connection).readBody text, talk.history⟩
      (minutes.note (.body text)) := by
  have idle : minutes.inHand = none := account.free (by simp [phase])
  rw [readBody_other other]
  refine { account with
    stream := ?_, waits := ?_, inbound := ?_, given := ?_, through := .inl (.inl phase) }
  · have stream := account.stream.next found
    rw [idle, Option.toList_none, List.append_nil] at stream
    rw [Minutes.bodiesOf_note, Minutes.note, idle, Option.toList_none, List.append_nil]
    exact stream
  · intro takes
    rw [Minutes.waitingAfter_note, Entry.wait, other]
    exact account.waits takes
  · have before := account.inbound
    rw [Minutes.bodiesOf_note, Entry.body?, Option.toList_some, inboundAmong_append_singleton,
      ← before]
    simp [Minutes.note]
  · intro index response
    rw [Minutes.givenBy_note, Entry.gives, other, List.append_nil]
    exact account.given index response

/-- The reader reads a response and is about to look up whom it is for. -/
theorem read_response (account : Account talk minutes) {text : String} {rest : List UInt8}
    {response : Response} (phase : talk.connection.reader = .reading)
    (found : Frame.read talk.connection.ended talk.connection.incoming = .body text rest)
    (is : responseOf? text = some response) :
    Account ⟨{ talk.connection with incoming := rest, reader := .answering response },
      talk.history⟩ { minutes with inHand := some text } where
  stream := by
    have stream := account.stream.next found
    rw [account.free (by simp [phase])] at stream
    simpa using stream
  holding := by
    rintro other same
    cases same
    exact ⟨text, rfl, is⟩
  free := fun none_ => absurd rfl (none_ response)
  waits := fun _ => account.waits (by simp [Connection.takesRegistrations, phase])
  inbound := account.inbound
  given := account.given
  through := .inl (.inr ⟨response, rfl⟩)

/-- The reader goes on, and neither bodies nor mail come up. -/
theorem turn (account : Account talk minutes) (reader : ReaderPhase)
    (quiet : (∀ response, talk.connection.reader ≠ .answering response) ∧
      ∀ response, reader ≠ .answering response)
    (takes : reader ≠ .stopped → talk.connection.takesRegistrations = true)
    (through : Exhausted talk.connection) :
    Account ⟨{ talk.connection with reader }, talk.history⟩ minutes :=
  { account with
    holding := fun response same => absurd same (quiet.2 response)
    free := fun _ => account.free quiet.1
    waits := fun open_ => account.waits (takes (by rintro rfl; cases open_))
    through := .inr through }

/-- The reader knows all requests and looks up whom the response is for. -/
theorem answer (account : Account talk minutes) (sound : Sound talk) {response : Response}
    (phase : talk.connection.reader = .answering response)
    (drained : talk.connection.registrations = []) :
    Account ⟨{ talk.connection.answer response with reader := .reading }, talk.history⟩
      { minutes with
        entries := minutes.entries ++ minutes.inHand.toList.map .body
        inHand := none } := by
  obtain ⟨text, held, is⟩ := account.holding response phase
  have waits := account.waits (by simp [Connection.takesRegistrations, phase])
  have line : waitingAfter minutes.entries = talk.connection.pending.entries.entries := by
    simp [← waits, inLine, drained]
  have stream : Frame.Holds talk.connection.ended talk.history.received
      (bodiesOf (minutes.entries ++ [.body text]) ++ []) talk.connection.incoming := by
    have before := account.stream
    rw [held] at before
    simpa [bodiesOf_append_singleton, Entry.body?] using before
  have inbound : minutes.taken ++ talk.connection.inbound =
      inboundAmong (bodiesOf (minutes.entries ++ [.body text])) := by
    have before := account.inbound
    simpa [bodiesOf_append_singleton, Entry.body?, inboundAmong_append_singleton,
      Entry.inboundOf?_eq_none is] using before
  simp only [held, Option.toList_some, List.map_cons, List.map_nil]
  cases found : talk.connection.pending.entries.get? response.id with
  | none =>
    have idle : (Entry.body text).counts (waitingAfter minutes.entries) = false := by
      rw [Entry.counts_of_response is, line]
      exact Option.isSome_eq_false_iff.mpr (Option.isNone_iff_eq_none.mpr found)
    rw [answer_unknown found]
    refine ⟨stream, by simp, fun _ => rfl, fun _ => ?_, inbound, fun index other => ?_,
      .inl (.inl rfl)⟩
    · rw [waitingAfter_append_singleton, Entry.wait_of_idle idle]
      exact waits
    · rw [givenBy_append_singleton, Entry.gives_of_idle idle, List.append_nil]
      exact account.given index other
  | some owner =>
    have here : Table.find? response.id (waitingAfter minutes.entries) = some owner :=
      line ▸ found
    have given := sound.given_answer phase drained found
    rw [answer_of_waiting found] at given ⊢
    refine ⟨stream, by simp, fun _ => rfl, fun _ => ?_, inbound, fun index other => ?_,
      .inl (.inl rfl)⟩
    · rw [waitingAfter_append_singleton, line]
      simp only [inLine, Connection.deliver, Connection.setCaller, drained, List.map_nil,
        List.append_nil, Entry.wait, is, Table.erase]
    · rw [givenBy_append_singleton, List.mem_append, ← account.given]
      simp only [Entry.gives, is, here, Option.toList_some, List.map_cons, List.map_nil,
        List.mem_singleton]
      exact given index other

/-- The reader fails those in flight. -/
theorem fail (account : Account talk minutes) (sound : Sound talk)
    (phase : talk.connection.reader = .failing) (drained : talk.connection.registrations = []) :
    Account ⟨{ talk.connection.failPending with reader := .closing }, talk.history⟩
      (minutes.note .failed) := by
  have waits := account.waits (by simp [Connection.takesRegistrations, phase])
  have line : waitingAfter minutes.entries = talk.connection.pending.entries.entries := by
    simp [← waits, inLine, drained]
  have exhausted := account.through.resolve_left (by simp [Listening, phase])
  have idle := account.free (by simp [phase])
  have same : bodiesOf (minutes.note .failed).entries = bodiesOf minutes.entries := by
    simp [Minutes.bodiesOf_note, Entry.body?]
  have given := sound.given_failPending phase drained
  rw [failPending_eq, deliverAll_eq] at given ⊢
  refine ⟨?_, by simp, fun _ => idle, fun _ => ?_, ?_, fun index response => ?_, .inr exhausted⟩
  · rw [same]
    exact account.stream
  · rw [Minutes.waitingAfter_note]
    simp only [inLine, drained, List.map_nil, List.append_nil]
    rfl
  · rw [same]
    exact account.inbound
  · rw [Minutes.givenBy_note, List.mem_append, ← account.given, Entry.gives, line]
    exact given index response

/-- The reader abandons those that registered too late, and stops. -/
theorem close (account : Account talk minutes) (sound : Sound talk)
    (phase : talk.connection.reader = .closing) :
    Account ⟨{ talk.connection.abandonRegistrations with reader := .stopped }, talk.history⟩
      minutes := by
  have exhausted := account.through.resolve_left (by simp [Listening, phase])
  have idle := account.free (by simp [phase])
  have given := sound.given_abandonRegistrations phase
  rw [abandonRegistrations_eq, deliverAll_eq] at given ⊢
  exact { account with
    holding := by simp
    free := fun _ => idle
    waits := by simp [Connection.takesRegistrations]
    given := fun index response => (given index response).trans (account.given index response)
    through := .inr exhausted }

theorem reader_step (account : Account talk minutes) (sound : Sound talk)
    (taken : talk.connection.stepReader = some connection) :
    Account ⟨connection, talk.history⟩ (minutes.afterStep talk.connection .reader) := by
  unfold Connection.stepReader at taken
  split at taken
  · rename_i phase
    split at taken <;> cases taken
    · rename_i text rest found
      cases is : responseOf? text with
      | none =>
        simpa [Minutes.afterStep, phase, found, is] using account.read_other phase found is
      | some response =>
        rw [readBody_response is]
        simpa [Minutes.afterStep, phase, found, is] using account.read_response phase found is
    · rename_i ends
      simpa [Minutes.afterStep, phase, ends] using
        account.turn .stopping (by simp [phase]) (fun _ => by
          simp [Connection.takesRegistrations, phase]) (.inl ends)
    · rename_i cause failed
      simpa [Minutes.afterStep, phase, failed] using
        account.turn .stopping (by simp [phase]) (fun _ => by
          simp [Connection.takesRegistrations, phase]) (.inr ⟨cause, failed⟩)
  · rename_i response phase
    split at taken <;> cases taken
    · rename_i first
      simpa [Minutes.afterStep, phase, first] using account.take sound first
    · rename_i drained
      simpa [Minutes.afterStep, phase, drained] using account.answer sound phase drained
  · rename_i phase
    cases taken
    have exhausted := account.through.resolve_left (by simp [Listening, phase])
    have died := account.turn .failing (by simp [phase])
      (fun _ => by simp [Connection.takesRegistrations, phase]) exhausted
    simp only [Minutes.afterStep, phase]
    exact { died with }
  · rename_i phase
    split at taken <;> cases taken
    · rename_i first
      simpa [Minutes.afterStep, phase, first] using account.take sound first
    · rename_i drained
      simpa [Minutes.afterStep, phase, drained] using account.fail sound phase drained
  · rename_i phase
    cases taken
    simpa [Minutes.afterStep, phase] using account.close sound phase
  · cases taken

end Account

theorem Minuted.account (minuted : Minuted talk minutes) : Account talk minutes := by
  induction minuted with
  | start => exact .start
  | step before thread taken ih =>
    have sound := Sound.start.leads before.leads
    cases thread with
    | caller index =>
      simp only [Connection.step] at taken
      split at taken
      · rename_i caller found
        exact ih.caller_step found taken
      · cases taken
    | reader => exact ih.reader_step sound taken
    | writer => exact ih.writer_step taken
  | event _ event possible ih => exact ih.event event possible

end LanguageBridge.Conversation
