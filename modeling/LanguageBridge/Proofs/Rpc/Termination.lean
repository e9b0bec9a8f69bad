import LanguageBridge.Proofs.Rpc.Delivery

/-!
How calls end when a connection does. The reader fails the requests in flight and abandons those it
never took in, so nobody waits once it has stopped. A writer that cannot write marks the connection
dead and leaves the reader waiting for input; requests in flight then wait with it.
-/
namespace LanguageBridge.Conversation

variable {talk next : Conversation} {connection : Connection} {known : Nat → Prop}
  {number index : Nat} {caller : Caller} {response : Response}

/-- A caller that waits for a response and can take no step. -/
def Blocked (connection : Connection) (index : Nat) : Prop :=
  ∃ caller number, connection.callers[index]? = some caller ∧ caller.phase = .waiting number ∧
    connection.stepCaller index caller = none

theorem stepCaller_waiting (phase : caller.phase = .waiting number) :
    connection.stepCaller index caller = none ↔ caller.mail = .awaited := by
  unfold Connection.stepCaller
  rw [phase]
  cases caller.mail <;> simp

/-- A response that has come in. -/
def Came (talk : Conversation) (response : Response) : Prop :=
  ∃ bodies left, Frame.Holds talk.connection.ended talk.history.received bodies left ∧
    ∃ body ∈ bodies, responseOf? body = some response

/-- A caller that has registered its request and was not turned away. -/
def Pursuing (number : Nat) (phase : CallerPhase) : Prop :=
  (∃ message, phase = .checking (some number) message) ∨
    (∃ message, phase = .sending (some number) message) ∨ phase = .waiting number

/-- What a call comes to: it is over, or is with the next step of its caller, and it came back with
a response to its id that has come in or with the news that the connection is gone. -/
def Ended (talk : Conversation) (number index : Nat) : Prop :=
  ∃ caller outcome, talk.connection.callers[index]? = some caller ∧
    (caller.phase = .finished outcome ∨ caller.phase = .waiting number ∧
      talk.connection.stepCaller index caller =
        some (talk.connection.move index (.finished outcome))) ∧
    (outcome = .error .terminated ∨
      ∃ response, talk.Came response ∧ response.id = .number number ∧ outcome = response.outcome)

/-- Mail that several callers got is either what was there before or among what was delivered. -/
theorem of_deliverAll {mails : List (Nat × Mail)}
    (found : (deliverAll connection mails).callers[index]? = some caller) :
    ∃ before, connection.callers[index]? = some before ∧ caller.phase = before.phase ∧
      (caller.mail = before.mail ∧ index ∉ mails.map (·.1) ∨ (index, caller.mail) ∈ mails) := by
  induction mails generalizing connection with
  | nil => exact ⟨caller, found, rfl, .inl ⟨rfl, List.not_mem_nil⟩⟩
  | cons entry rest ih =>
    change (deliverAll (connection.deliver entry.1 entry.2) rest).callers[index]? = some caller
      at found
    obtain ⟨given, here, phase, mail⟩ := ih found
    rw [Connection.deliver, getElem?_setCaller] at here
    by_cases own : entry.1 = index
    · rw [if_pos own] at here
      obtain ⟨before, present, rfl⟩ := Option.map_eq_some_iff.mp here
      refine ⟨before, present, phase, .inr ?_⟩
      rcases mail with ⟨same, _⟩ | later
      · rw [same, ← own]
        exact List.mem_cons_self
      · exact List.mem_cons_of_mem _ later
    · rw [if_neg own] at here
      refine ⟨given, here, phase, ?_⟩
      rcases mail with ⟨same, absent⟩ | later
      · refine .inl ⟨same, ?_⟩
        rw [List.map_cons, List.mem_cons, not_or]
        exact ⟨Ne.symm own, absent⟩
      · exact .inr (List.mem_cons_of_mem _ later)

/-- What a step of the reader is, when every request is in one place. -/
inductive ReaderTurn (connection : Connection) : Connection → Prop
  | read (phase : connection.reader = .reading)
      (found : Frame.read connection.ended connection.incoming = .body body rest) :
      ReaderTurn connection (({ connection with incoming := rest } : Connection).readBody body)
  | stop (phase : connection.reader = .reading) :
      ReaderTurn connection { connection with reader := .stopping }
  | take (phase : (∃ response, connection.reader = .answering response) ∨
        connection.reader = .failing) (pending : Pending Nat) (rest : List (Nat × Nat)) :
      ReaderTurn connection { connection with registrations := rest, pending }
  | answer {response : Response} (phase : connection.reader = .answering response) :
      ReaderTurn connection { connection.answer response with reader := .reading }
  | die (phase : connection.reader = .stopping) :
      ReaderTurn connection { connection with alive := false, reader := .failing }
  | fail (phase : connection.reader = .failing) :
      ReaderTurn connection { connection.failPending with reader := .closing }
  | close (phase : connection.reader = .closing) :
      ReaderTurn connection { connection.abandonRegistrations with reader := .stopped }

theorem Sound.reader_turn (sound : Sound talk)
    (taken : talk.connection.stepReader = some connection) :
    ReaderTurn talk.connection connection := by
  unfold Connection.stepReader at taken
  split at taken
  · rename_i phase
    split at taken <;> cases taken
    · rename_i found
      exact .read phase found
    · exact .stop phase
    · exact .stop phase
  · rename_i response phase
    split at taken <;> cases taken
    · rename_i first
      rw [takeRegistration_of_absent (sound.absent_of_registered (first ▸ List.mem_cons_self))]
      exact .take (.inl ⟨response, phase⟩) _ _
    · exact .answer phase
  · rename_i phase
    cases taken
    exact .die phase
  · rename_i phase
    split at taken <;> cases taken
    · rename_i first
      rw [takeRegistration_of_absent (sound.absent_of_registered (first ▸ List.mem_cons_self))]
      exact .take (.inr phase) _ _
    · exact .fail phase
  · rename_i phase
    cases taken
    exact .close phase
  · cases taken

theorem readBody_cases (connection : Connection) (body : String) :
    (∃ response, responseOf? body = some response ∧
      connection.readBody body = { connection with reader := .answering response }) ∨
    ∃ inbound, connection.readBody body = { connection with inbound } := by
  unfold Connection.readBody
  split
  · rename_i response found
    exact .inl ⟨response, by simp [responseOf?, found], rfl⟩
  · exact .inr ⟨_, rfl⟩
  · exact .inr ⟨_, rfl⟩

namespace Came

/-- What has come in stays. -/
theorem later (came : Came talk response)
    (ended : next.connection.ended = talk.connection.ended)
    (received : next.history.received = talk.history.received) : Came next response := by
  obtain ⟨bodies, left, holds, member⟩ := came
  rw [← ended, ← received] at holds
  exact ⟨bodies, left, holds, member⟩

theorem event (came : Came talk response) {event : Connection.Event}
    (possible : event.Possible talk.connection) :
    Came ⟨talk.connection.occur event, talk.history.afterEvent event⟩ response := by
  cases event with
  | receive bytes =>
    obtain ⟨bodies, left, holds, member⟩ := came
    have flowing : talk.connection.ended = false := possible
    rw [flowing] at holds
    exact ⟨bodies, _, holds.append bytes talk.connection.ended, member⟩
  | endInput =>
    obtain ⟨bodies, left, holds, member⟩ := came
    exact ⟨bodies, left, holds.ends, member⟩
  | call | post | breakOutput | takeInbound => exact came.later rfl rfl

end Came

theorem Asking.eq_of_pursuing (asking : Asking other phase) (pursuing : Pursuing number phase) :
    other = number := by
  rcases asking with ⟨_, _, rfl⟩ | ⟨_, _, rfl⟩ | rfl | rfl <;> simp_all [Pursuing]

/-- A caller past registering that has no mail is registered or its request is in flight, unless the
reader has stopped. -/
theorem Sound.of_pursuing (sound : Sound talk)
    (found : talk.connection.callers[index]? = some caller)
    (pursuing : Pursuing number caller.phase) (awaited : caller.mail = .awaited) :
    talk.connection.takesRegistrations = false ∨
      (number, index) ∈ talk.connection.registrations ∨
      talk.connection.pending.entries.get? (.number number) = some index := by
  have member : index ∈ talk.history.issued := Classical.byContradiction fun apart => by
    have unnumbered := (sound.others index caller found apart).2
    rcases pursuing with ⟨_, phase⟩ | ⟨_, phase⟩ | phase <;> simp [phase] at unnumbered
  obtain ⟨owner, owned⟩ := List.getElem?_of_mem member
  obtain ⟨_, present, stage, _⟩ := sound.stages owner index owned
  rw [found] at present
  cases present
  cases stage with
  | fresh phase => simp [phase, Pursuing] at pursuing
  | registered phase _ here =>
    cases phase.eq_of_pursuing pursuing
    exact .inr (.inl here)
  | inFlight phase _ _ waits =>
    cases phase.eq_of_pursuing pursuing
    exact .inr (.inr waits)
  | answered _ mail =>
    rw [awaited] at mail
    cases mail
  | lost _ _ stopped => exact .inl stopped

/-- What the threads leave behind them. The reader goes from `failing` through `closing` to
`stopped`, and nobody who got past registering is without mail at its end. -/
structure Ending (talk : Conversation) : Prop where
  dead : talk.connection.alive = false → talk.connection.writer = .stopped ∨
    talk.connection.reader = .failing ∨ talk.connection.reader = .closing ∨
    talk.connection.reader = .stopped
  failed : talk.connection.reader = .closing →
    ∀ name, talk.connection.pending.entries.get? name = none
  left : talk.connection.reader = .stopped → ∀ (index : Nat) (caller : Caller) number,
    talk.connection.callers[index]? = some caller → Pursuing number caller.phase →
    caller.mail ≠ .awaited
  answering : ∀ response, talk.connection.reader = .answering response → talk.Came response
  given : ∀ (index : Nat) (caller : Caller) response,
    talk.connection.callers[index]? = some caller → caller.mail = .given response →
    talk.Came response ∨ ∃ name, response = .terminated name

namespace Ending

theorem start : Ending {} where
  dead := by simp
  failed := by simp
  left := by simp
  answering := by simp
  given := by simp

/-- A caller that goes on when the reader has stopped was past registering before. -/
theorem stepCaller_pursuing (taken : connection.stepCaller index caller = some after) :
    ∃ nextId registrations outgoing phase, after =
      ({ connection with nextId, registrations, outgoing } : Connection).move index phase ∧
      (connection.reader = .stopped →
        ∀ number, Pursuing number phase → Pursuing number caller.phase) := by
  have turned : ∀ number outcome, Pursuing number (.finished outcome) →
      Pursuing number caller.phase := by
    simp [Pursuing]
  unfold Connection.stepCaller at taken
  split at taken
  · cases taken
    exact ⟨_, _, _, _, rfl, by simp [Pursuing]⟩
  · split at taken <;> cases taken
    · rename_i open_
      refine ⟨_, _, _, _, rfl, fun stopped => ?_⟩
      simp [Connection.takesRegistrations, stopped] at open_
    · exact ⟨_, _, _, _, rfl, fun _ number => turned number _⟩
  · rename_i id message phase
    split at taken <;> cases taken
    · refine ⟨_, _, _, _, rfl, fun _ number pursuing => .inl ⟨message, ?_⟩⟩
      simpa [Pursuing, phase] using pursuing
    · exact ⟨_, _, _, _, rfl, fun _ number => turned number _⟩
  · rename_i id message phase
    split at taken <;> cases taken
    · refine ⟨_, _, _, _, rfl, fun _ number pursuing => .inr (.inl ⟨message, ?_⟩)⟩
      cases id <;> simp_all [Pursuing]
    · exact ⟨_, _, _, _, rfl, fun _ number => turned number _⟩
  · split at taken <;> cases taken
    · exact ⟨_, _, _, _, rfl, fun _ number => turned number _⟩
    · exact ⟨_, _, _, _, rfl, fun _ number => turned number _⟩
  · cases taken

/-- Everything but the reader goes on: no mail comes, and at the end of the reader nobody gets past
registering. -/
theorem quiet (ending : Ending talk)
    (reader : next.connection.reader = talk.connection.reader)
    (pending : next.connection.pending = talk.connection.pending)
    (alive : next.connection.alive = false →
      talk.connection.alive = false ∨ next.connection.writer = .stopped)
    (writer : talk.connection.writer = .stopped → next.connection.writer = .stopped)
    (came : ∀ response, talk.Came response → next.Came response)
    (callers : ∀ (index : Nat) (later : Caller), next.connection.callers[index]? = some later →
      (later.mail = .awaited ∧ ∀ number, ¬ Pursuing number later.phase) ∨
      ∃ caller : Caller, talk.connection.callers[index]? = some caller ∧
        later.mail = caller.mail ∧ (talk.connection.reader = .stopped →
          ∀ number, Pursuing number later.phase → Pursuing number caller.phase)) :
    Ending next where
  dead := by
    intro dead
    rw [reader]
    rcases alive dead with before | stopped
    · exact (ending.dead before).imp_left writer
    · exact .inl stopped
  failed := by
    rw [reader, pending]
    exact ending.failed
  left := by
    rw [reader]
    intro stopped index later number found pursuing
    rcases callers index later found with ⟨_, idle⟩ | ⟨caller, present, mail, past⟩
    · exact absurd pursuing (idle number)
    · rw [mail]
      exact ending.left stopped index caller number present (past stopped number pursuing)
  answering := by
    rw [reader]
    exact fun response answering => came response (ending.answering response answering)
  given := by
    intro index later response found given
    rcases callers index later found with ⟨awaited, _⟩ | ⟨caller, present, mail, _⟩
    · rw [awaited] at given
      cases given
    · rw [mail] at given
      exact (ending.given index caller response present given).imp_left (came response)

theorem caller_step (ending : Ending talk)
    (found : talk.connection.callers[index]? = some caller)
    (taken : talk.connection.stepCaller index caller = some connection) :
    Ending ⟨connection, talk.history.afterStep talk.connection (.caller index)⟩ := by
  have received : (talk.history.afterStep talk.connection (.caller index)).received =
      talk.history.received := by
    simp only [History.afterStep]
    split <;> rfl
  obtain ⟨nextId, registrations, outgoing, phase, rfl, past⟩ := stepCaller_pursuing taken
  refine ending.quiet rfl rfl .inl id (fun response came => came.later rfl received) ?_
  intro other later present
  rw [Connection.move, getElem?_setCaller] at present
  by_cases own : index = other
  · subst own
    simp only [if_pos, found, Option.map_some, Option.some.injEq] at present
    subst present
    exact .inr ⟨caller, found, rfl, past⟩
  · rw [if_neg own] at present
    exact .inr ⟨later, present, rfl, fun _ _ pursuing => pursuing⟩

theorem writer_step (ending : Ending talk)
    (taken : talk.connection.stepWriter = some connection) :
    Ending ⟨connection, talk.history.afterStep talk.connection .writer⟩ := by
  have received : (talk.history.afterStep talk.connection .writer).received =
      talk.history.received := by
    simp only [History.afterStep]
    split <;> rfl
  obtain ⟨callers, reader, _, ended⟩ := stepWriter_spares taken
  have others : connection.pending = talk.connection.pending ∧
      (connection.alive = false → talk.connection.alive = false ∨ connection.writer = .stopped) ∧
      talk.connection.writer ≠ .stopped := by
    unfold Connection.stepWriter at taken
    split at taken
    · rename_i phase
      split at taken
      · cases taken
      · split at taken <;> cases taken <;> exact ⟨rfl, .inl, by simp [phase]⟩
    · rename_i phase
      cases taken
      exact ⟨rfl, fun _ => .inr rfl, by simp [phase]⟩
    · cases taken
  obtain ⟨pending, alive, running⟩ := others
  refine ending.quiet reader pending alive (fun stopped => absurd stopped running)
    (fun response came => came.later ended received) ?_
  intro index later present
  rw [callers] at present
  exact .inr ⟨later, present, rfl, fun _ _ pursuing => pursuing⟩

theorem event (ending : Ending talk) (event : Connection.Event)
    (possible : event.Possible talk.connection) :
    Ending ⟨talk.connection.occur event, talk.history.afterEvent event⟩ := by
  have came : ∀ response, talk.Came response →
      Came ⟨talk.connection.occur event, talk.history.afterEvent event⟩ response :=
    fun response came => came.event possible
  have begin (caller : Caller) (later : Conversation) (awaited : caller.mail = .awaited)
      (idle : ∀ number, ¬ Pursuing number caller.phase)
      (callers : later.connection.callers = talk.connection.callers ++ [caller]) (index : Nat)
      (found : Caller) (present : later.connection.callers[index]? = some found) :
      (found.mail = .awaited ∧ ∀ number, ¬ Pursuing number found.phase) ∨
      ∃ caller : Caller, talk.connection.callers[index]? = some caller ∧
        found.mail = caller.mail ∧ (talk.connection.reader = .stopped →
          ∀ number, Pursuing number found.phase → Pursuing number caller.phase) := by
    rw [callers, getElem?_concat_eq_some] at present
    rcases present with before | ⟨_, rfl⟩
    · exact .inr ⟨found, before, rfl, fun _ _ pursuing => pursuing⟩
    · exact .inl ⟨awaited, idle⟩
  cases event with
  | call method params =>
    exact ending.quiet rfl rfl .inl id came (begin _ _ rfl (by simp [Pursuing]) rfl)
  | post message =>
    exact ending.quiet rfl rfl .inl id came (begin _ _ rfl (by simp [Pursuing]) rfl)
  | receive bytes | endInput | breakOutput | takeInbound =>
    exact ending.quiet rfl rfl .inl id came
      fun index later present => .inr ⟨later, present, rfl, fun _ _ pursuing => pursuing⟩

/-- What callers have got when the reader has delivered mail. -/
theorem given_of_deliverAll (ending : Ending talk) {mails : List (Nat × Mail)}
    (base : before.callers = talk.connection.callers)
    (callers : connection.callers = (deliverAll before mails).callers)
    (ended : connection.ended = talk.connection.ended)
    (genuine : ∀ index response, (index, .given response) ∈ mails →
      talk.Came response ∨ ∃ name, response = .terminated name) (index : Nat) (caller : Caller)
    (response : Response) (found : connection.callers[index]? = some caller)
    (given : caller.mail = .given response) :
    Came ⟨connection, talk.history⟩ response ∨ ∃ name, response = .terminated name := by
  rw [callers] at found
  have known : talk.Came response ∨ ∃ name, response = .terminated name := by
    obtain ⟨earlier, present, _, ⟨same, _⟩ | delivered⟩ := of_deliverAll found
    · rw [base] at present
      exact ending.given index earlier response present (same.symm.trans given)
    · rw [given] at delivered
      exact genuine index response delivered
  exact known.imp_left fun came => came.later ended rfl

/-- The reader goes on, and is not done yet. -/
theorem turn (ending : Ending talk) (mails : List (Nat × Mail)) (reader : ReaderPhase)
    (callers : connection.callers = (deliverAll talk.connection mails).callers)
    (genuine : ∀ index response, (index, .given response) ∈ mails →
      talk.Came response ∨ ∃ name, response = .terminated name)
    (same : connection.reader = reader) (running : reader ≠ .closing ∧ reader ≠ .stopped)
    (dead : connection.alive = false → connection.writer = .stopped ∨ reader = .failing)
    (ended : connection.ended = talk.connection.ended)
    (answering : ∀ response, reader = .answering response → talk.Came response) :
    Ending ⟨connection, talk.history⟩ where
  dead := by
    rw [same]
    exact fun gone => (dead gone).imp_right .inl
  failed := by
    rw [same]
    exact fun closing => absurd closing running.1
  left := by
    rw [same]
    exact fun stopped => absurd stopped running.2
  answering := by
    rw [same]
    exact fun response found => (answering response found).later ended rfl
  given := ending.given_of_deliverAll rfl callers ended genuine

/-- A reader that is not done has not marked the connection dead. -/
theorem writer_of_dead (ending : Ending talk) (dead : talk.connection.alive = false)
    (running : talk.connection.reader ≠ .failing ∧ talk.connection.reader ≠ .closing ∧
      talk.connection.reader ≠ .stopped) : talk.connection.writer = .stopped := by
  rcases ending.dead dead with stopped | failing | closing | stopped
  · exact stopped
  · exact absurd failing running.1
  · exact absurd closing running.2.1
  · exact absurd stopped running.2.2

/-- The response that is read is one of the bodies the peer has sent. -/
theorem read (ending : Ending talk) (heard : Heard known talk) {body : String} {rest : List UInt8}
    (phase : talk.connection.reader = .reading)
    (found : Frame.read talk.connection.ended talk.connection.incoming = .body body rest) :
    Ending ⟨({ talk.connection with incoming := rest } : Connection).readBody body,
      talk.history⟩ := by
  have writer := fun dead => ending.writer_of_dead dead (by simp [phase])
  rcases readBody_cases { talk.connection with incoming := rest } body with
    ⟨response, is, same⟩ | ⟨inbound, same⟩
  · have came : talk.Came response := by
      obtain ⟨bodies, ⟨_, holds⟩ | ⟨_, _, answering, _⟩, _⟩ := heard.answered (.inl phase)
      · exact ⟨_, _, holds.next found, body, by simp, is⟩
      · simp [phase] at answering
    rw [same]
    refine ending.turn [] (.answering response) rfl (by simp) rfl (by simp)
      (fun dead => .inl (writer dead)) rfl ?_
    intro other answering
    cases answering
    exact came
  · rw [same]
    exact ending.turn [] .reading rfl (by simp) phase (by simp) (fun dead => .inl (writer dead))
      rfl (by simp)

theorem answer (ending : Ending talk) (phase : talk.connection.reader = .answering response) :
    Ending ⟨{ talk.connection.answer response with reader := .reading }, talk.history⟩ := by
  have came := ending.answering response phase
  have writer := fun dead => ending.writer_of_dead dead (by simp [phase])
  cases waits : talk.connection.pending.entries.get? response.id with
  | none =>
    rw [answer_unknown waits]
    exact ending.turn [] .reading rfl (by simp) rfl (by simp) (fun dead => .inl (writer dead)) rfl
      (by simp)
  | some owner =>
    rw [answer_of_waiting waits]
    refine ending.turn [(owner, .given response)] .reading rfl ?_ rfl (by simp)
      (fun dead => .inl (writer dead)) rfl (by simp)
    intro index other member
    obtain ⟨_, same⟩ := Prod.mk.inj (List.mem_singleton.mp member)
    cases same
    exact .inl came

theorem fail (ending : Ending talk) :
    Ending ⟨{ talk.connection.failPending with reader := .closing }, talk.history⟩ := by
  rw [failPending_eq, deliverAll_eq]
  refine ⟨fun _ => .inr (.inr (.inl rfl)), fun _ _ => rfl, by simp, by simp, ?_⟩
  let before : Connection := { talk.connection with pending := .empty }
  have base : before.callers = talk.connection.callers := rfl
  refine ending.given_of_deliverAll base rfl rfl ?_
  intro index response member
  obtain ⟨entry, _, same⟩ := List.mem_map.mp member
  cases same
  exact .inr ⟨_, rfl⟩

/-- Nobody is in the table any more, so whoever pursues a request has it among the registrations,
which are abandoned. -/
theorem close (ending : Ending talk) (sound : Sound talk)
    (closing : talk.connection.reader = .closing) :
    Ending ⟨{ talk.connection.abandonRegistrations with reader := .stopped }, talk.history⟩ := by
  rw [abandonRegistrations_eq, deliverAll_eq]
  refine ⟨fun _ => .inr (.inr (.inr rfl)), by simp, fun _ => ?_, by simp, ?_⟩
  · intro index caller number found pursuing awaited
    obtain ⟨earlier, present, phase, ⟨same, absent⟩ | abandoned⟩ := of_deliverAll found
    · rw [phase] at pursuing
      rw [same] at awaited
      rcases sound.of_pursuing present pursuing awaited with lost | registered | waits
      · simp [Connection.takesRegistrations, closing] at lost
      · exact absent (List.mem_map.mpr ⟨_, List.mem_map.mpr ⟨_, registered, rfl⟩, rfl⟩)
      · rw [ending.failed closing] at waits
        cases waits
    · rw [awaited] at abandoned
      obtain ⟨entry, _, same⟩ := List.mem_map.mp abandoned
      cases same
  · let before : Connection := { talk.connection with registrations := [] }
    have base : before.callers = talk.connection.callers := rfl
    refine ending.given_of_deliverAll base rfl rfl ?_
    intro index response member
    obtain ⟨entry, _, same⟩ := List.mem_map.mp member
    cases same

theorem reader_step (ending : Ending talk) (sound : Sound talk) (heard : Heard known talk)
    (taken : talk.connection.stepReader = some connection) :
    Ending ⟨connection, talk.history⟩ := by
  cases sound.reader_turn taken with
  | read phase found => exact ending.read heard phase found
  | stop phase =>
    have writer := fun dead => ending.writer_of_dead dead (by simp [phase])
    exact ending.turn [] .stopping rfl (by simp) rfl (by simp) (fun dead => .inl (writer dead)) rfl
      (by simp)
  | take phase pending rest =>
    refine ending.turn [] talk.connection.reader rfl (by simp) rfl ?_ ?_ rfl ending.answering
    · rcases phase with ⟨response, answering⟩ | failing
      · simp [answering]
      · simp [failing]
    · intro dead
      rcases phase with ⟨response, answering⟩ | failing
      · exact .inl (ending.writer_of_dead dead (by simp [answering]))
      · exact .inr failing
  | answer phase => exact ending.answer phase
  | die phase =>
    exact ending.turn [] .failing rfl (by simp) rfl (by simp) (fun _ => .inr rfl) rfl (by simp)
  | fail => exact ending.fail
  | close closing => exact ending.close sound closing

theorem leads (run : Leads known {} talk) : Ending talk := by
  induction run with
  | refl => exact start
  | tail before move ih =>
    have sound := Sound.start.leads before
    have heard := (Heard.start known).leads Sound.start before
    cases move with
    | step thread taken =>
      cases thread with
      | caller index =>
        simp only [Connection.step] at taken
        split at taken
        · rename_i caller found
          exact ih.caller_step found taken
        · cases taken
      | reader => exact ih.reader_step sound heard taken
      | writer => exact ih.writer_step taken
    | event event possible _ => exact ih.event event possible

end Ending

theorem blocked_iff : Blocked connection index ↔ ∃ (caller : Caller) (number : Nat),
    connection.callers[index]? = some caller ∧ caller.phase = .waiting number ∧
      caller.mail = .awaited := by
  constructor
  · rintro ⟨caller, number, found, phase, stuck⟩
    exact ⟨caller, number, found, phase, (stepCaller_waiting phase).mp stuck⟩
  · rintro ⟨caller, number, found, phase, awaited⟩
    exact ⟨caller, number, found, phase, (stepCaller_waiting phase).mpr awaited⟩

/-- A reader without a step has stopped, or lacks input. -/
theorem reader_idle (idle : connection.stepReader = none) :
    connection.reader = .stopped ∨ connection.reader = .reading ∧
      ∀ text rest, Frame.read connection.ended connection.incoming ≠ .body text rest := by
  unfold Connection.stepReader at idle
  split at idle
  · rename_i phase
    refine .inr ⟨phase, fun text rest found => ?_⟩
    rw [found] at idle
    cases idle
  · split at idle <;> cases idle
  · cases idle
  · split at idle <;> cases idle
  · cases idle
  · rename_i phase
    exact .inl phase

namespace Sound

/-- The id under which a caller waits is the one that it took. -/
theorem waiting_own (sound : Sound talk) (owned : talk.history.issued[number]? = some index)
    (found : talk.connection.callers[index]? = some caller)
    (phase : caller.phase = .waiting other) : other = number := by
  obtain ⟨_, present, stage, _⟩ := sound.stages number index owned
  rw [found] at present
  cases present
  have asking : Asking number caller.phase := by
    cases stage with
    | fresh registering => simp [phase] at registering
    | answered asking => simpa [phase] using asking
    | registered asking | inFlight asking | lost asking => exact asking
  exact (asking.eq_of_pursuing (.inr (.inr phase))).symm

end Sound

/-- What a caller was given means that its request has come to its end. -/
theorem Ending.outcome (ending : Ending talk) (sound : Sound talk)
    (owned : talk.history.issued[number]? = some index)
    (found : talk.connection.callers[index]? = some caller)
    (given : caller.mail = .given response) : response.outcome = .error .terminated ∨
      ∃ other, talk.Came other ∧ other.id = .number number ∧ response.outcome = other.outcome := by
  rcases ending.given index caller response found given with came | ⟨name, rfl⟩
  · obtain ⟨own, mine, named, _⟩ := sound.of_given found given
    cases sound.owner_unique mine owned
    exact .inr ⟨response, came, named, rfl⟩
  · exact .inl rfl

/-- While the reader lacks input, a caller that waits has got no mail exactly when no response to
its id has come in. -/
theorem Heard.awaited_iff (heard : Heard known talk) (is : known number)
    (reader : talk.connection.reader = .reading)
    (starved : ∀ text rest, Frame.read talk.connection.ended talk.connection.incoming ≠
      .body text rest)
    (owned : talk.history.issued[number]? = some index)
    (found : talk.connection.callers[index]? = some caller) :
    caller.mail = .awaited ↔ ∀ response, talk.Came response → response.id ≠ .number number := by
  obtain ⟨bodies, ⟨_, holds⟩ | ⟨_, _, answering, _⟩, answered⟩ := heard.answered (.inl reader)
  · obtain ⟨_, present, mail⟩ := answered number index is owned
    rw [found] at present
    cases present
    rw [mail]
    cases first : firstAnswer? number bodies with
    | none =>
      refine iff_of_true rfl ?_
      rintro response ⟨others, left, read, body, member, found⟩ named
      have before := (holds.isPrefix read starved).subset member
      simp only [firstAnswer?, List.find?_eq_none, List.mem_filterMap] at first
      exact first response ⟨body, before, found⟩ (decide_eq_true named)
    | some response =>
      obtain ⟨named, body, member, found⟩ := firstAnswer?_mem first
      refine iff_of_false (by simp) fun unanswered => ?_
      exact unanswered response ⟨bodies, _, holds, body, member, found⟩ named
  · simp [reader] at answering

/-- A connection that is dead, with nothing left to do for its reader. Nobody waits
unless the writer has failed and the reader has not; then those wait to whose ids no response has
come in. All others have come to the outcome of a response to their id that has come in, or to the
news that the connection is gone, or do so with their next step. -/
theorem calls_of_dead_connection (run : Leads known {} talk)
    (dead : talk.connection.alive = false) (reader : talk.connection.stepReader = none) :
    (∀ index, Blocked talk.connection index →
      talk.connection.reader = .reading ∧ talk.connection.writer = .stopped) ∧
    (∀ (number index : Nat), known number → talk.history.issued[number]? = some index →
      (Blocked talk.connection index ↔ talk.connection.reader ≠ .stopped ∧
        (∃ caller : Caller, talk.connection.callers[index]? = some caller ∧
          caller.phase = .waiting number) ∧
        ∀ response, talk.Came response → response.id ≠ .number number)) ∧
    ∀ (number index : Nat) (caller : Caller), talk.history.issued[number]? = some index →
      talk.connection.callers[index]? = some caller →
      (caller.phase = .waiting number ∨ ∃ outcome, caller.phase = .finished outcome) →
      ¬ Blocked talk.connection index → Ended talk number index := by
  have sound := Sound.start.leads run
  have heard := (Heard.start known).leads Sound.start run
  have ending := Ending.leads run
  have running : ∀ index, Blocked talk.connection index →
      talk.connection.reader = .reading ∧ ∀ text rest,
        Frame.read talk.connection.ended talk.connection.incoming ≠ .body text rest := by
    intro index blocked
    obtain ⟨caller, number, found, phase, awaited⟩ := blocked_iff.mp blocked
    rcases reader_idle reader with stopped | running
    · exact absurd awaited (ending.left stopped index caller number found (.inr (.inr phase)))
    · exact running
  refine ⟨?_, ?_, ?_⟩
  · intro index blocked
    have reading := (running index blocked).1
    exact ⟨reading, ending.writer_of_dead dead (by simp [reading])⟩
  · intro number index is owned
    constructor
    · intro blocked
      obtain ⟨reading, starved⟩ := running index blocked
      obtain ⟨caller, other, found, phase, awaited⟩ := blocked_iff.mp blocked
      cases sound.waiting_own owned found phase
      refine ⟨by simp [reading], ⟨caller, found, phase⟩, ?_⟩
      exact (heard.awaited_iff is reading starved owned found).mp awaited
    · rintro ⟨active, ⟨caller, found, phase⟩, unanswered⟩
      obtain ⟨reading, starved⟩ := (reader_idle reader).resolve_left active
      have awaited := (heard.awaited_iff is reading starved owned found).mpr unanswered
      exact blocked_iff.mpr ⟨caller, number, found, phase, awaited⟩
  · rintro number index caller owned found (phase | ⟨outcome, phase⟩) unblocked
    · cases mail : caller.mail with
      | awaited => exact absurd (blocked_iff.mpr ⟨caller, number, found, phase, mail⟩) unblocked
      | abandoned =>
        refine ⟨caller, .error .terminated, found, .inr ⟨phase, ?_⟩, .inl rfl⟩
        simp only [Connection.stepCaller, phase, mail]
      | given response =>
        refine ⟨caller, response.outcome, found, .inr ⟨phase, ?_⟩,
          ending.outcome sound owned found mail⟩
        simp only [Connection.stepCaller, phase, mail]
    · refine ⟨caller, outcome, found, .inl phase, ?_⟩
      rcases sound.of_finished owned found phase with gone | ⟨response, given, rfl⟩
      · exact .inl gone
      · exact ending.outcome sound owned found given

/-- Nobody is dishonest as long as nothing has come in. -/
theorem honest_of_silence (silent : talk.history.received = []) : Honest known talk := by
  intro bodies left holds body member
  rw [silent] at holds
  cases holds with
  | nothing => cases member
  | frame read _ => exact absurd read Frame.read_nil_ne_body

/-- A call that was written, and whose response has not come. -/
def asked : Conversation where
  connection :=
    { nextId := 1
      callers := [{ phase := .waiting 0 }]
      registrations := [(0, 0)]
      written := [Message.text (.call true (.number 0) "ping" .none)] }
  history := { issued := [0], written := [.call true (.number 0) "ping" .none] }

theorem leads_asked (known : Nat → Prop) : Leads known {} asked := by
  have called : Leads known {} _ :=
    .single (.event (.call "ping" .none) trivial (honest_of_silence rfl))
  have numbered := called.tail (.step (.caller 0) rfl)
  have registered := numbered.tail (.step (.caller 0) rfl)
  have checked := registered.tail (.step (.caller 0) rfl)
  have sent := checked.tail (.step (.caller 0) rfl)
  exact sent.tail (.step .writer rfl)

/-- Input ends while a call waits: the reader fails it and stops. -/
theorem waiting_call_fails : ∃ talk, Leads (fun _ => True) {} talk ∧ Ended talk 0 0 := by
  have drained : Frame.read true [] = .ended := by decide +kernel
  have cut := (leads_asked fun _ => True).tail
    (.event .endInput trivial (honest_of_silence rfl))
  have noticed : Leads (fun _ => True) {}
      ⟨{ asked.connection with ended := true, reader := .stopping }, asked.history⟩ :=
    cut.tail (.step .reader (by
      simp [Connection.step, Connection.stepReader, Connection.occur, asked, drained]))
  have dead := noticed.tail (.step .reader rfl)
  have taken := dead.tail (.step .reader rfl)
  have failed := taken.tail (.step .reader rfl)
  have stopped := failed.tail (.step .reader rfl)
  refine ⟨_, stopped, ?_⟩
  have settled := (calls_of_dead_connection stopped rfl rfl).2.2
  refine settled 0 0 _ rfl rfl (.inl rfl) ?_
  rintro ⟨caller, number, found, phase, stuck⟩
  cases found
  cases stuck

/-- The writer fails while a call waits: the connection is dead, reader and writer have nothing left
to do, and the call waits on. -/
theorem waiting_call_is_left_behind : ¬ ∀ (known : Nat → Prop) (talk : Conversation),
    Leads known {} talk → talk.connection.alive = false → talk.connection.stepReader = none →
    talk.connection.stepWriter = none → ∀ index, ¬ Blocked talk.connection index := by
  intro claimed
  have starved : Frame.read false [] = .starved := by decide +kernel
  have deaf := (leads_asked fun _ => True).tail
    (.event .breakOutput trivial (honest_of_silence rfl))
  have posted := deaf.tail
    (.event (.post (.notification true "tick" .none)) trivial (honest_of_silence rfl))
  have checked := posted.tail (.step (.caller 1) rfl)
  have sent := checked.tail (.step (.caller 1) rfl)
  have failed := sent.tail (.step .writer rfl)
  have dead : Leads (fun _ => True) {} ⟨{ asked.connection with
      alive := false
      callers := [{ phase := .waiting 0 }, { phase := .finished (.ok .null) }]
      writer := .stopped
      broken := true }, asked.history⟩ := failed.tail (.step .writer rfl)
  refine claimed _ _ dead rfl ?_ rfl 0 ⟨_, 0, rfl, rfl, rfl⟩
  simp [Connection.stepReader, asked, starved]

end LanguageBridge.Conversation
