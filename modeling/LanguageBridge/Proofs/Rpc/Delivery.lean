import LanguageBridge.Proofs.Rpc.ReaderSteps

/-!
Over a whole run the first response to a request goes to the caller that took its id, nothing else
goes to that caller, and nothing that was given is taken back.
-/
namespace LanguageBridge.Conversation

variable {talk next : Conversation} {connection : Connection} {known : Nat → Prop}
  {number index : Nat} {caller : Caller} {response : Response}

namespace Sound

theorem start : Sound {} where
  counted := rfl
  once := List.nodup_nil
  stages := by simp
  others := by simp
  registered := by simp
  inFlight := by
    intro name index waits
    cases waits
  distinct := List.nodup_nil
  keys := List.nodup_nil
  calls := by simp [handedOver]
  texts := rfl

/-- A caller begins. -/
theorem begin (sound : Sound talk) (unnumbered : Unnumbered caller) :
    Sound ⟨{ talk.connection with callers := talk.connection.callers ++ [caller] },
      talk.history⟩ where
  counted := sound.counted
  once := sound.once
  stages := by
    intro number index owned
    obtain ⟨owner, found, stage, sent⟩ := sound.stages number index owned
    refine ⟨owner, ?_, stage.spared ⟨fun _ => Iff.rfl, rfl, fun h => h⟩, sent⟩
    rw [List.getElem?_append_left (List.getElem?_eq_some_iff.mp found).1]
    exact found
  others := by
    intro index other found apart
    rcases Nat.lt_trichotomy index talk.connection.callers.length with before | last | after
    · rw [List.getElem?_append_left before] at found
      exact sound.others index other found apart
    · subst last
      simp only [List.getElem?_concat_length, Option.some.injEq] at found
      subst found
      exact unnumbered
    · rw [List.getElem?_eq_none (by simp; omega)] at found
      cases found
  registered := sound.registered
  inFlight := sound.inFlight
  distinct := sound.distinct
  keys := sound.keys
  calls := sound.calls
  texts := sound.texts

theorem event (sound : Sound talk) (event : Connection.Event)
    (possible : event.Possible talk.connection) :
    Sound ⟨talk.connection.occur event, talk.history.afterEvent event⟩ := by
  cases event with
  | call method params => exact sound.begin ⟨rfl, .inl ⟨method, params, rfl⟩⟩
  | post message =>
    refine sound.begin ⟨rfl, .inr (.inl ⟨message, .inl rfl, ?_⟩)⟩
    rintro versioned number method params rfl
    exact possible
  | receive bytes | endInput | breakOutput | takeInbound =>
    exact sound.unmoved rfl rfl rfl rfl rfl (fun _ handed => handed) sound.texts (fun h => h)

theorem moves (sound : Sound talk) (move : Moves known talk next) : Sound next := by
  cases move with
  | step thread taken =>
    cases thread with
    | caller index =>
      simp only [Connection.step] at taken
      split at taken
      · rename_i caller found
        exact sound.caller_step found taken
      · cases taken
    | reader => exact sound.reader_step taken
    | writer => exact sound.writer_step taken
  | event event possible _ => exact sound.event event possible

theorem leads (sound : Sound talk) (leads : Leads known talk next) : Sound next := by
  induction leads with
  | refl => exact sound
  | tail _ move ih => exact ih.moves move

end Sound

/-- The bodies that the reader, while it runs, is through with. -/
def Through (talk : Conversation) (bodies : List String) : Prop :=
  (talk.connection.reader = .reading ∧ Frame.Holds talk.connection.ended talk.history.received
    bodies talk.connection.incoming) ∨
  ∃ body response, talk.connection.reader = .answering response ∧
    responseOf? body = some response ∧ Frame.Holds talk.connection.ended talk.history.received
      (bodies ++ [body]) talk.connection.incoming

/-- The caller of every known id has got its first answer among the bodies, or still waits. -/
def Answered (known : Nat → Prop) (talk : Conversation) (bodies : List String) : Prop :=
  ∀ number index, known number → talk.history.issued[number]? = some index →
    ∃ caller, talk.connection.callers[index]? = some caller ∧
      caller.mail = (firstAnswer? number bodies).elim .awaited .given

/-- The reader takes in responses. -/
def Listening (connection : Connection) : Prop :=
  connection.reader = .reading ∨ ∃ response, connection.reader = .answering response

/-- The other side is honest, and while the reader runs nobody waits whose answer was read. -/
structure Heard (known : Nat → Prop) (talk : Conversation) : Prop where
  honest : Honest known talk
  answered : Listening talk.connection →
    ∃ bodies, talk.Through bodies ∧ talk.Answered known bodies

theorem firstAnswer?_of_response (found : responseOf? body = some response) (number : Nat)
    (bodies : List String) : firstAnswer? number (bodies ++ [body]) =
      (firstAnswer? number bodies).or
        (if response.id = .number number then some response else none) := by
  simp [firstAnswer?, List.filterMap_append, List.find?_append, found, List.find?_cons]
  split <;> rename_i same <;> simp_all

theorem firstAnswer?_of_other (found : responseOf? body = none) (number : Nat)
    (bodies : List String) :
    firstAnswer? number (bodies ++ [body]) = firstAnswer? number bodies := by
  simp [firstAnswer?, List.filterMap_append, found]

theorem firstAnswer?_mem (first : firstAnswer? number bodies = some response) :
    response.id = .number number ∧ ∃ body ∈ bodies, responseOf? body = some response := by
  have member := List.mem_of_find?_eq_some first
  have named := List.find?_some first
  exact ⟨of_decide_eq_true named, List.mem_filterMap.mp member⟩

/-- A later answer does not become the first. -/
theorem firstAnswer?_mono (before : bodies <+: others)
    (first : firstAnswer? number bodies = some response) :
    firstAnswer? number others = some response := by
  obtain ⟨rest, rfl⟩ := before
  simp only [firstAnswer?, List.filterMap_append, List.find?_append] at first ⊢
  rw [first]
  rfl

theorem Through.holds (through : talk.Through bodies) : ∃ read left,
    Frame.Holds talk.connection.ended talk.history.received read left ∧ bodies <+: read := by
  rcases through with ⟨_, holds⟩ | ⟨body, response, _, _, holds⟩
  · exact ⟨bodies, _, holds, List.prefix_refl _⟩
  · exact ⟨_, _, holds, List.prefix_append _ _⟩

/-- A step of a caller gives it another phase, and touches what callers write besides. -/
theorem stepCaller_eq_move (taken : connection.stepCaller index caller = some after) :
    ∃ nextId registrations outgoing phase, after =
      ({ connection with nextId, registrations, outgoing } : Connection).move index phase := by
  unfold Connection.stepCaller at taken
  split at taken
  · cases taken
    exact ⟨_, _, _, _, rfl⟩
  · split at taken <;> cases taken <;> exact ⟨_, _, _, _, rfl⟩
  · split at taken <;> cases taken <;> exact ⟨_, _, _, _, rfl⟩
  · split at taken <;> cases taken <;> exact ⟨_, _, _, _, rfl⟩
  · split at taken <;> cases taken <;> exact ⟨_, _, _, _, rfl⟩
  · cases taken

theorem stepWriter_spares (taken : connection.stepWriter = some after) :
    after.callers = connection.callers ∧ after.reader = connection.reader ∧
      after.incoming = connection.incoming ∧ after.ended = connection.ended := by
  unfold Connection.stepWriter at taken
  split at taken
  · split at taken
    · cases taken
    · split at taken <;> cases taken <;> exact ⟨rfl, rfl, rfl, rfl⟩
  · cases taken
    exact ⟨rfl, rfl, rfl, rfl⟩
  · cases taken

namespace Heard

/-- Nobody was answered whose request is not on its way. -/
theorem got (heard : Heard known talk) (through : talk.Through bodies) (is : known number)
    (first : firstAnswer? number bodies = some response) : talk.Got number := by
  obtain ⟨read, left, holds, before⟩ := through.holds
  obtain ⟨named, body, member, found⟩ := firstAnswer?_mem first
  exact heard.honest read left holds body (before.subset member) response found number named is

theorem start (known : Nat → Prop) : Heard known {} where
  honest := by
    intro bodies left holds body member response found number named is
    cases holds with
    | nothing => cases member
    | frame read _ => exact absurd read Frame.read_nil_ne_body
  answered := fun _ => ⟨[], .inl ⟨rfl, .nothing _⟩, by simp [Answered]⟩

/-- Nothing is read and nobody is given anything. -/
theorem quiet (heard : Heard known talk) (sound : Sound talk)
    (reader : next.connection.reader = talk.connection.reader)
    (incoming : next.connection.incoming = talk.connection.incoming)
    (ended : next.connection.ended = talk.connection.ended)
    (received : next.history.received = talk.history.received)
    (written : ∀ message, message ∈ talk.history.written → message ∈ next.history.written)
    (mails : ∀ (index : Nat) (caller : Caller), talk.connection.callers[index]? = some caller →
      ∃ later : Caller, next.connection.callers[index]? = some later ∧ later.mail = caller.mail)
    (issued : ∀ number index : Nat, next.history.issued[number]? = some index →
      talk.history.issued[number]? = some index ∨ number = talk.history.issued.length ∧
        ∃ caller : Caller, talk.connection.callers[index]? = some caller ∧ caller.mail = .awaited) :
    Heard known next where
  honest := by
    intro bodies left holds body member response found number named is
    rw [ended, received] at holds
    obtain ⟨method, params, told⟩ :=
      heard.honest bodies left holds body member response found number named is
    exact ⟨method, params, written _ told⟩
  answered := by
    intro listening
    simp only [Listening, reader] at listening
    obtain ⟨bodies, through, answered⟩ := heard.answered listening
    refine ⟨bodies, by simpa only [Through, reader, incoming, ended, received] using through, ?_⟩
    intro number index is owned
    rcases issued number index owned with before | ⟨rfl, caller, found, mail⟩
    · obtain ⟨caller, found, mail⟩ := answered number index is before
      obtain ⟨later, present, same⟩ := mails index caller found
      exact ⟨later, present, same.trans mail⟩
    · obtain ⟨later, present, same⟩ := mails index caller found
      refine ⟨later, present, ?_⟩
      rw [same, mail]
      -- An id that was not given out yet has no answer.
      cases first : firstAnswer? talk.history.issued.length bodies with
      | none => rfl
      | some response =>
        obtain ⟨method, params, told⟩ := heard.got through is first
        obtain ⟨other, equal, small⟩ := sound.calls _ _ _ _ (List.mem_append_left _ told)
        cases equal
        exact absurd small (Nat.lt_irrefl _)

theorem caller_step (heard : Heard known talk) (sound : Sound talk)
    (found : talk.connection.callers[index]? = some caller)
    (taken : talk.connection.stepCaller index caller = some connection) :
    Heard known ⟨connection, talk.history.afterStep talk.connection (.caller index)⟩ := by
  have received : (talk.history.afterStep talk.connection (.caller index)).received =
      talk.history.received := by
    simp only [History.afterStep]
    split <;> rfl
  have written : (talk.history.afterStep talk.connection (.caller index)).written =
      talk.history.written := by
    simp only [History.afterStep]
    split <;> rfl
  have issued : ∀ number other, (talk.history.afterStep talk.connection
      (.caller index)).issued[number]? = some other → talk.history.issued[number]? = some other ∨
        number = talk.history.issued.length ∧
          ∃ caller, talk.connection.callers[other]? = some caller ∧ caller.mail = .awaited := by
    intro number other owned
    simp only [History.afterStep, found, Option.map_some] at owned
    split at owned
    · rename_i method params phase
      rcases (getElem?_concat_eq_some _ _ _ _).mp owned with before | ⟨rfl, rfl⟩
      · exact .inl before
      · have fresh := sound.unissued_of_numbering found (Option.some.inj phase)
        exact .inr ⟨rfl, caller, found, (sound.others _ _ found fresh).1⟩
    · exact .inl owned
  have told : ∀ message, message ∈ talk.history.written →
      message ∈ (talk.history.afterStep talk.connection (.caller index)).written := by
    intro message member
    rw [written]
    exact member
  obtain ⟨nextId, registrations, outgoing, phase, rfl⟩ := stepCaller_eq_move taken
  refine heard.quiet sound rfl rfl rfl received told ?_ issued
  intro other same present
  rw [Connection.move, getElem?_setCaller]
  by_cases own : index = other
  · rw [if_pos own]
    exact ⟨{ same with phase }, by simp [present], rfl⟩
  · rw [if_neg own]
    exact ⟨same, present, rfl⟩

theorem writer_step (heard : Heard known talk) (sound : Sound talk)
    (taken : talk.connection.stepWriter = some connection) :
    Heard known ⟨connection, talk.history.afterStep talk.connection .writer⟩ := by
  have issued : (talk.history.afterStep talk.connection .writer).issued =
      talk.history.issued := by
    simp only [History.afterStep]
    split <;> rfl
  have received : (talk.history.afterStep talk.connection .writer).received =
      talk.history.received := by
    simp only [History.afterStep]
    split <;> rfl
  have told : ∀ message, message ∈ talk.history.written →
      message ∈ (talk.history.afterStep talk.connection .writer).written := by
    intro message member
    simp only [History.afterStep]
    split
    · exact List.mem_append_left _ member
    · exact member
  obtain ⟨callers, reader, incoming, ended⟩ := stepWriter_spares taken
  refine heard.quiet sound reader incoming ended received told ?_ ?_
  · intro index caller found
    exact ⟨caller, by rw [callers]; exact found, rfl⟩
  · intro number index owned
    rw [issued] at owned
    exact .inl owned

/-- The reader has taken all registrations in and now gives a response to whom it is for. -/
theorem answer_known (heard : Heard known talk) (sound : Sound talk)
    (drained : talk.connection.registrations = [])
    (reader : talk.connection.reader = .answering response)
    (found : responseOf? body = some response)
    (holds : Frame.Holds talk.connection.ended talk.history.received (bodies ++ [body])
      talk.connection.incoming)
    (answered : talk.Answered known bodies) :
    Answered known ⟨talk.connection.answer response, talk.history⟩ (bodies ++ [body]) := by
  intro number index is owned
  obtain ⟨caller, here, mail⟩ := answered number index is owned
  obtain ⟨_, present, stage, sent⟩ := sound.stages number index owned
  rw [here] at present
  cases present
  rw [firstAnswer?_of_response found]
  by_cases named : response.id = .number number
  · rw [if_pos named]
    obtain ⟨method, params, written⟩ :=
      heard.honest _ _ holds body (by simp) response found number named is
    have told := sent method params (List.mem_append_left _ written)
    cases stage with
    | fresh phase mail => simp [Sent, phase, mail] at told
    | registered _ _ present => simp [drained] at present
    | inFlight phase waiting absent waits =>
      have first : firstAnswer? number bodies = none := by
        cases first : firstAnswer? number bodies with
        | none => rfl
        | some other => simp [first, waiting] at mail
      refine ⟨{ caller with mail := .given response }, ?_, by simp [first]⟩
      rw [answer_of_waiting (by rw [named]; exact waits), Connection.deliver, getElem?_setCaller,
        if_pos rfl]
      simp [here]
    | answered phase given same apart =>
      rw [answer_unknown (by rw [named]; exact apart.2)]
      refine ⟨caller, here, ?_⟩
      cases first : firstAnswer? number bodies with
      | none => simp [first, given] at mail
      | some other => simpa [first] using mail
    | lost _ _ stopped => simp [Connection.takesRegistrations, reader] at stopped
  · rw [if_neg named, Option.or_none]
    refine ⟨caller, ?_, mail⟩
    cases waits : talk.connection.pending.entries.get? response.id with
    | none =>
      rw [answer_unknown waits]
      exact here
    | some other =>
      obtain ⟨second, name, mine⟩ := sound.inFlight _ _ waits
      have different : other ≠ index := by
        rintro rfl
        rw [sound.owner_unique mine owned] at name
        exact named name
      rw [answer_of_waiting waits, Connection.deliver, getElem?_setCaller, if_neg different]
      exact here

/-- The reader reads a body. -/
theorem read_body (heard : Heard known talk) (reader : talk.connection.reader = .reading)
    (read : Frame.read talk.connection.ended talk.connection.incoming = .body body rest)
    (holds : Frame.Holds talk.connection.ended talk.history.received bodies
      talk.connection.incoming)
    (answered : talk.Answered known bodies) :
    Heard known ⟨({ talk.connection with incoming := rest } : Connection).readBody body,
      talk.history⟩ := by
  have further := holds.next read
  have passed : responseOf? body = none → talk.Answered known (bodies ++ [body]) := by
    intro other number index is owned
    rw [firstAnswer?_of_other other]
    exact answered number index is owned
  unfold Connection.readBody
  split
  · rename_i response found
    have is : responseOf? body = some response := by simp [responseOf?, found]
    exact ⟨heard.honest, fun _ =>
      ⟨bodies, .inr ⟨body, response, rfl, is, further⟩, answered⟩⟩
  · rename_i message other found
    have is : responseOf? body = none := by
      unfold responseOf?
      split
      · rename_i response same
        rw [found] at same
        cases same
        exact False.elim (other response rfl)
      · rfl
    exact ⟨heard.honest, fun _ => ⟨bodies ++ [body], .inl ⟨reader, further⟩, passed is⟩⟩
  · rename_i failure found
    have is : responseOf? body = none := by simp [responseOf?, found]
    exact ⟨heard.honest, fun _ => ⟨bodies ++ [body], .inl ⟨reader, further⟩, passed is⟩⟩

theorem reader_step (heard : Heard known talk) (sound : Sound talk)
    (taken : talk.connection.stepReader = some connection) :
    Heard known ⟨connection, talk.history⟩ := by
  have honest : ∀ connection : Connection, connection.ended = talk.connection.ended →
      Honest known ⟨connection, talk.history⟩ := by
    intro connection same
    have := heard.honest
    simp only [Honest, Got, same] at this ⊢
    exact this
  have stop : ∀ connection : Connection, connection.ended = talk.connection.ended →
      ¬ Listening connection → Heard known ⟨connection, talk.history⟩ :=
    fun connection same silent => ⟨honest connection same, fun listening => absurd listening silent⟩
  unfold Connection.stepReader at taken
  split at taken
  · rename_i phase
    split at taken
    · rename_i body rest read
      cases taken
      obtain ⟨bodies, ⟨_, holds⟩ | ⟨_, _, answering, _⟩, answered⟩ := heard.answered (.inl phase)
      · exact heard.read_body phase read holds answered
      · simp [phase] at answering
    · cases taken
      exact stop _ rfl (by simp [Listening])
    · cases taken
      exact stop _ rfl (by simp [Listening])
    · cases taken
  · rename_i response phase
    obtain ⟨bodies, ⟨reading, _⟩ | ⟨body, same, answering, found, holds⟩, answered⟩ :=
      heard.answered (.inr ⟨response, phase⟩)
    · simp [phase] at reading
    rw [phase] at answering
    cases answering
    split at taken <;> cases taken
    · rename_i number index rest first
      have member : (number, index) ∈ talk.connection.registrations := by simp [first]
      rw [takeRegistration_of_absent (sound.absent_of_registered member)]
      exact ⟨honest _ rfl, fun _ =>
        ⟨bodies, .inr ⟨body, response, phase, found, holds⟩, answered⟩⟩
    · rename_i drained
      have after := heard.answer_known sound drained phase found holds answered
      obtain ⟨ended, incoming⟩ := answer_input talk.connection response
      refine ⟨honest _ ended, fun _ => ⟨bodies ++ [body], .inl ⟨rfl, ?_⟩, after⟩⟩
      simp only [ended, incoming]
      exact holds
  · cases taken
    exact stop _ rfl (by simp [Listening])
  · rename_i phase
    split at taken <;> cases taken
    · rename_i number index rest first
      have member : (number, index) ∈ talk.connection.registrations := by simp [first]
      rw [takeRegistration_of_absent (sound.absent_of_registered member)]
      exact stop _ rfl (by simp [Listening, phase])
    · rw [failPending_eq, deliverAll_eq]
      exact stop _ rfl (by simp [Listening])
  · cases taken
    rw [abandonRegistrations_eq, deliverAll_eq]
    exact stop _ rfl (by simp [Listening])
  · cases taken

theorem event (heard : Heard known talk) (sound : Sound talk) (event : Connection.Event)
    (possible : event.Possible talk.connection)
    (honest : Honest known ⟨talk.connection.occur event, talk.history.afterEvent event⟩) :
    Heard known ⟨talk.connection.occur event, talk.history.afterEvent event⟩ := by
  have begin : ∀ caller : Caller, Heard known
      ⟨{ talk.connection with callers := talk.connection.callers ++ [caller] }, talk.history⟩ := by
    intro caller
    refine heard.quiet sound rfl rfl rfl rfl (fun _ member => member) ?_ (fun _ _ => .inl)
    intro index other found
    exact ⟨other, by rw [List.getElem?_append_left (List.getElem?_eq_some_iff.mp found).1, found],
      rfl⟩
  cases event with
  | call method params => exact begin _
  | post message => exact begin _
  | receive bytes =>
    refine ⟨honest, fun listening => ?_⟩
    obtain ⟨bodies, through, answered⟩ := heard.answered listening
    refine ⟨bodies, ?_, answered⟩
    have flowing : talk.connection.ended = false := possible
    simp only [Through, flowing] at through
    simp only [Through, Connection.occur, History.afterEvent, flowing]
    rcases through with ⟨reader, holds⟩ | ⟨body, response, reader, found, holds⟩
    · exact .inl ⟨reader, holds.append bytes false⟩
    · exact .inr ⟨body, response, reader, found, holds.append bytes false⟩
  | endInput =>
    refine ⟨honest, fun listening => ?_⟩
    obtain ⟨bodies, through, answered⟩ := heard.answered listening
    refine ⟨bodies, ?_, answered⟩
    rcases through with ⟨reader, holds⟩ | ⟨body, response, reader, found, holds⟩
    · exact .inl ⟨reader, holds.ends⟩
    · exact .inr ⟨body, response, reader, found, holds.ends⟩
  | breakOutput | takeInbound =>
    exact heard.quiet sound rfl rfl rfl rfl (fun _ member => member)
      (fun index caller found => ⟨caller, found, rfl⟩) (fun _ _ => .inl)

theorem moves (heard : Heard known talk) (sound : Sound talk) (move : Moves known talk next) :
    Heard known next := by
  cases move with
  | step thread taken =>
    cases thread with
    | caller index =>
      simp only [Connection.step] at taken
      split at taken
      · rename_i caller found
        exact heard.caller_step sound found taken
      · cases taken
    | reader => exact heard.reader_step sound taken
    | writer => exact heard.writer_step sound taken
  | event event possible honest => exact heard.event sound event possible honest

theorem leads (heard : Heard known talk) (sound : Sound talk) (leads : Leads known talk next) :
    Heard known next := by
  induction leads with
  | refl => exact heard
  | tail before move ih => exact ih.moves (sound.leads before) move

end Heard

namespace Sound

/-- What a caller was given is the response to its own id, and it waits for nothing else. -/
theorem of_given (sound : Sound talk) (found : talk.connection.callers[index]? = some caller)
    (given : caller.mail = .given response) : ∃ number,
      talk.history.issued[number]? = some index ∧ response.id = .number number ∧
        Apart talk.connection number := by
  have member : index ∈ talk.history.issued := Classical.byContradiction fun apart => by
    have idle := (sound.others index caller found apart).1
    simp [given] at idle
  obtain ⟨number, owned⟩ := List.getElem?_of_mem member
  obtain ⟨_, present, stage, _⟩ := sound.stages number index owned
  rw [found] at present
  cases present
  cases stage with
  | answered phase mail same apart =>
    rw [given] at mail
    cases mail
    exact ⟨number, owned, same, apart⟩
  | fresh _ mail | registered _ mail | inFlight _ mail => simp [given] at mail
  | lost _ mail => exact absurd given (mail response)

/-- What a call comes back with is what its caller was given, if it comes back with anything. -/
theorem of_finished (sound : Sound talk) (owned : talk.history.issued[number]? = some index)
    (found : talk.connection.callers[index]? = some caller)
    (phase : caller.phase = .finished outcome) :
    outcome = .error .terminated ∨
      ∃ response, caller.mail = .given response ∧ outcome = response.outcome := by
  obtain ⟨_, present, stage, _⟩ := sound.stages number index owned
  rw [found] at present
  cases present
  cases stage with
  | fresh registering => simp [phase] at registering
  | answered asking mail =>
    simp only [Asking, phase, reduceCtorEq, exists_false, false_or, CallerPhase.finished.injEq]
      at asking
    exact asking.imp id fun same => ⟨_, mail, same⟩
  | registered asking | inFlight asking | lost asking =>
    simp only [Asking, phase, reduceCtorEq, exists_false, false_or, CallerPhase.finished.injEq]
      at asking
    exact .inl asking

/-- The reader gives nothing to a caller that was given a response. -/
theorem reader_spares (sound : Sound talk) (taken : talk.connection.stepReader = some connection)
    (found : talk.connection.callers[index]? = some caller)
    (given : caller.mail = .given response) : connection.callers[index]? = some caller := by
  obtain ⟨number, owned, named, absent, idle⟩ := sound.of_given found given
  unfold Connection.stepReader at taken
  split at taken
  · split at taken <;> cases taken
    · unfold Connection.readBody
      split <;> exact found
    · exact found
    · exact found
  · rename_i other phase
    split at taken <;> cases taken
    · rename_i first
      rw [takeRegistration_of_absent (sound.absent_of_registered (first ▸ List.mem_cons_self))]
      exact found
    · cases waits : talk.connection.pending.entries.get? other.id with
      | none =>
        rw [answer_unknown waits]
        exact found
      | some owner =>
        obtain ⟨second, name, mine⟩ := sound.inFlight _ _ waits
        have different : owner ≠ index := by
          rintro rfl
          rw [name, sound.owner_unique mine owned, idle] at waits
          cases waits
        rw [answer_of_waiting waits, Connection.deliver]
        exact (getElem?_setCaller ..).trans (by rw [if_neg different]; exact found)
  · cases taken
    exact found
  · split at taken <;> cases taken
    · rename_i first
      rw [takeRegistration_of_absent (sound.absent_of_registered (first ▸ List.mem_cons_self))]
      exact found
    · rw [failPending_eq]
      refine (deliverAll_absent fun member => ?_).trans found
      obtain ⟨second, mine, waits⟩ := sound.of_failures member
      rw [sound.owner_unique mine owned, idle] at waits
      cases waits
  · cases taken
    rw [abandonRegistrations_eq]
    refine (deliverAll_absent fun member => ?_).trans found
    obtain ⟨second, mine, present⟩ := sound.of_abandonments member
    rw [sound.owner_unique mine owned] at present
    exact absent index present
  · cases taken

/-- A response that was given stays what its caller was given. -/
theorem keeps_given (sound : Sound talk) (leads : Leads known talk next)
    (found : talk.connection.callers[index]? = some caller)
    (given : caller.mail = .given response) :
    ∃ later, next.connection.callers[index]? = some later ∧ later.mail = .given response := by
  induction leads with
  | refl => exact ⟨caller, found, given⟩
  | @tail middle last before move ih =>
    obtain ⟨same, present, kept⟩ := ih
    cases move with
    | step thread taken =>
      cases thread with
      | caller other =>
        simp only [Connection.step] at taken
        split at taken
        · obtain ⟨_, _, _, phase, rfl⟩ := stepCaller_eq_move taken
          rw [Connection.move, getElem?_setCaller]
          split
          · exact ⟨{ same with phase }, by simp [present], kept⟩
          · exact ⟨same, present, kept⟩
        · cases taken
      | reader =>
        exact ⟨same, (sound.leads before).reader_spares taken present kept, kept⟩
      | writer =>
        refine ⟨same, ?_, kept⟩
        rw [(stepWriter_spares taken).1]
        exact present
    | event event possible honest =>
      refine ⟨same, ?_, kept⟩
      have small := (List.getElem?_eq_some_iff.mp present).1
      cases event with
      | call method params => exact (List.getElem?_append_left small).trans present
      | post message => exact (List.getElem?_append_left small).trans present
      | receive bytes | endInput | breakOutput | takeInbound => exact present

end Sound

namespace Heard

/-- Once the reader is through with bodies, the first answer among them is with its caller. -/
theorem handed (heard : Heard known talk) (sound : Sound talk)
    (reader : talk.connection.reader = .reading)
    (holds : Frame.Holds talk.connection.ended talk.history.received bodies
      talk.connection.incoming)
    (is : known number) (owned : talk.history.issued[number]? = some index)
    (first : firstAnswer? number bodies = some response) :
    talk.Handed number index response := by
  obtain ⟨others, through, answered⟩ := heard.answered (.inl reader)
  have same : bodies = others := by
    rcases through with ⟨_, behind⟩ | ⟨_, _, answering, _⟩
    · exact holds.unique behind
    · simp [reader] at answering
  subst same
  obtain ⟨caller, here, mail⟩ := answered number index is owned
  obtain ⟨_, present, _, sent⟩ := sound.stages number index owned
  rw [here] at present
  cases present
  have given : caller.mail = .given response := by simpa [first] using mail
  obtain ⟨method, params, written⟩ := heard.got through is first
  refine ⟨caller, here, given, ?_⟩
  rcases sent method params (List.mem_append_left _ written) with
    waiting | ⟨other, same, finished⟩ | abandoned
  · exact .inl waiting
  · rw [given] at same
    cases same
    exact .inr finished
  · simp [given] at abandoned

/-- When the reader looks up whom a response is for, it finds the caller that took the id, unless
that caller was given an earlier one. -/
theorem resolves (heard : Heard known talk) (sound : Sound talk)
    (reader : talk.connection.reader = .answering response)
    (drained : talk.connection.registrations = []) (is : known number)
    (named : response.id = .number number) :
    ∃ index, talk.history.issued[number]? = some index ∧
      ((∃ pending, talk.connection.pending.resolve response = .ok (pending, index)) ∨
        ∃ caller earlier, talk.connection.callers[index]? = some caller ∧
          caller.mail = .given earlier) := by
  obtain ⟨bodies, ⟨reading, _⟩ | ⟨body, other, answering, found, holds⟩, _⟩ :=
    heard.answered (.inr ⟨response, reader⟩)
  · simp [reader] at reading
  rw [reader] at answering
  cases answering
  obtain ⟨method, params, written⟩ :=
    heard.honest _ _ holds body (by simp) response found number named is
  obtain ⟨same, equal, small⟩ := sound.calls _ _ _ _ (List.mem_append_left _ written)
  cases equal
  have owned := List.getElem?_eq_getElem small
  refine ⟨_, owned, ?_⟩
  obtain ⟨caller, here, stage, sent⟩ := sound.stages _ _ owned
  have told := sent method params (List.mem_append_left _ written)
  cases stage with
  | fresh phase mail => simp [Sent, phase, mail] at told
  | registered _ _ present => simp [drained] at present
  | inFlight _ _ _ waits =>
    refine .inl ⟨⟨talk.connection.pending.entries.erase response.id⟩, ?_⟩
    simp [Pending.resolve, named, waits]
  | answered _ mail => exact .inr ⟨caller, _, here, mail⟩
  | lost _ _ stopped => simp [Connection.takesRegistrations, reader] at stopped

end Heard

/-- However callers, reader and writer take turns, and whatever else the other side sends: while the
reader runs, the first response to a known id is with the one caller that took the id as soon as the
reader is through with it or has nothing left to read, and it was not taken for one that nobody
waits for. A caller is given responses to its own id only, comes back with what it was given if
with anything, and keeps that. -/
theorem first_response_reaches_its_caller (run : Leads known {} talk) :
    (∀ bodies left (number index : Nat) response, talk.connection.reader = .reading →
      Frame.Holds talk.connection.ended talk.history.received bodies left →
      left = talk.connection.incoming ∨ talk.connection.stepReader = none →
      known number → talk.history.issued[number]? = some index →
      firstAnswer? number bodies = some response → talk.Handed number index response) ∧
    (∀ (response : Response) (number : Nat), talk.connection.reader = .answering response →
      talk.connection.registrations = [] → known number → response.id = .number number →
      ∃ index : Nat, talk.history.issued[number]? = some index ∧
        ((∃ pending, talk.connection.pending.resolve response = .ok (pending, index)) ∨
          ∃ (caller : Caller) (earlier : Response), talk.connection.callers[index]? = some caller ∧
            caller.mail = .given earlier)) ∧
    (∀ (index : Nat) (caller : Caller) (response : Response),
      talk.connection.callers[index]? = some caller → caller.mail = .given response →
      ∃ number : Nat, talk.history.issued[number]? = some index ∧ response.id = .number number) ∧
    (∀ (number index : Nat) (caller : Caller) outcome, talk.history.issued[number]? = some index →
      talk.connection.callers[index]? = some caller → caller.phase = .finished outcome →
      outcome = .error .terminated ∨
        ∃ response, caller.mail = .given response ∧ outcome = response.outcome) ∧
    talk.history.issued.Nodup ∧
    ∀ (next : Conversation) (index : Nat) (caller : Caller) (response : Response),
      Leads known talk next → talk.connection.callers[index]? = some caller →
      caller.mail = .given response →
      ∃ later : Caller, next.connection.callers[index]? = some later ∧ later.mail = .given response := by
  have sound := Sound.start.leads run
  have heard := (Heard.start known).leads Sound.start run
  refine ⟨?_, ?_, ?_, ?_, sound.once, ?_⟩
  · intro bodies left number index response reader holds place is owned first
    rcases place with rfl | starved
    · exact heard.handed sound reader holds is owned first
    · -- The reader has read all that can be read, so what it read goes on from these bodies.
      obtain ⟨others, through, _⟩ := heard.answered (.inl reader)
      obtain ⟨_, behind⟩ | ⟨_, _, answering, _⟩ := through
      · have last : ∀ text rest, Frame.read talk.connection.ended talk.connection.incoming ≠
            .body text rest := by
          intro text rest found
          simp [Connection.stepReader, reader, found] at starved
        have before := behind.isPrefix holds last
        exact heard.handed sound reader behind is owned (firstAnswer?_mono before first)
      · simp [reader] at answering
  · intro response number reader drained is named
    exact heard.resolves sound reader drained is named
  · intro index caller response found given
    obtain ⟨number, owned, named, _⟩ := sound.of_given found given
    exact ⟨number, owned, named⟩
  · intro number index caller outcome owned found phase
    exact sound.of_finished owned found phase
  · intro next index caller response leads found given
    exact sound.keeps_given leads found given

/-- A response to the first call. -/
def pong : String := "\x7b\"jsonrpc\":\"2.0\",\"result\":7,\"id\":0\x7d"

theorem read_pong : Frame.read false (Frame.encode pong) = .body pong [] := by
  decide +kernel

/-- A call that waits for its response, which has come but was not read. -/
def pinged : Conversation where
  connection :=
    { nextId := 1
      callers := [{ phase := .waiting 0 }]
      registrations := [(0, 0)]
      written := [Message.text (.call true (.number 0) "ping" .none)]
      incoming := Frame.encode pong }
  history :=
    { received := Frame.encode pong
      issued := [0]
      written := [.call true (.number 0) "ping" .none] }

theorem leads_pinged : Leads (fun _ => True) {} pinged := by
  have silent : ∀ connection issued written,
      Honest (fun _ => True) ⟨connection, { received := [], issued, written }⟩ := by
    intro connection issued written bodies left holds body member
    cases holds with
    | nothing => cases member
    | frame read _ => exact absurd read Frame.read_nil_ne_body
  have called : Leads (fun _ => True) {} _ :=
    .single (.event (.call "ping" .none) trivial (silent _ _ _))
  have numbered := called.tail (.step (.caller 0) rfl)
  have registered := numbered.tail (.step (.caller 0) rfl)
  have checked := registered.tail (.step (.caller 0) rfl)
  have sent := checked.tail (.step (.caller 0) rfl)
  have written := sent.tail (.step .writer rfl)
  refine written.tail (.event (.receive (Frame.encode pong)) rfl ?_)
  intro bodies left holds body member response found number named _
  have before : bodies <+: [pong] :=
    (Frame.Holds.frame read_pong (.nothing [])).isPrefix holds fun _ _ => Frame.read_nil_ne_body
  have same : body = pong := List.mem_singleton.mp (before.subset member)
  have first : (responseOf? pong).map Response.id = some (.number 0) := by decide +kernel
  rw [← same, found, Option.map_some, Option.some.injEq, named] at first
  cases first
  exact ⟨"ping", .none, List.mem_singleton.mpr rfl⟩

theorem pong_reaches_ping : ∃ talk response, Leads (fun _ => True) {} talk ∧
    responseOf? pong = some response ∧ talk.Handed 0 0 response := by
  have answers : (responseOf? pong).map Response.id = some (.number 0) := by decide +kernel
  obtain ⟨response, found, named⟩ := Option.map_eq_some_iff.mp answers
  have text : Message.ofText pong = .ok (.response response) := by
    unfold responseOf? at found
    split at found
    · rename_i same
      rw [same, Option.some.inj found]
    · cases found
  have read := leads_pinged.tail (.step .reader (by
    simp only [Connection.step, Connection.stepReader, pinged, read_pong, Connection.readBody,
      text]
    rfl))
  have taken := read.tail (.step .reader rfl)
  have answered : Leads (fun _ => True) {} ⟨{ pinged.connection with
      callers := [{ phase := .waiting 0, mail := .given response }]
      registrations := []
      incoming := [] }, pinged.history⟩ :=
    taken.tail (.step .reader (by cases response <;> cases named <;> rfl))
  have first : firstAnswer? 0 [pong] = some response := by simp [firstAnswer?, found, named]
  exact ⟨_, response, answered, found, (first_response_reaches_its_caller answered).1 [pong] [] 0 0
    response rfl (.frame read_pong (.nothing _)) (.inl rfl) trivial rfl first⟩

end LanguageBridge.Conversation
