import LanguageBridge.Proofs.Rpc.RequestSteps

/-!
What the reader does with requests: it takes registrations in, answers requests in flight, and when
it stops it fails those and abandons the others.
-/
namespace LanguageBridge.Conversation

variable {talk : Conversation} {connection : Connection} {history : History}

/-- Puts mail for several callers in its place. -/
def deliverAll (connection : Connection) (mails : List (Nat × Mail)) : Connection :=
  mails.foldl (fun connection entry => connection.deliver entry.1 entry.2) connection

theorem deliverAll_eq (connection : Connection) (mails : List (Nat × Mail)) :
    deliverAll connection mails =
      { connection with callers := (deliverAll connection mails).callers } := by
  induction mails generalizing connection with
  | nil => rfl
  | cons entry rest ih => exact ih (connection.deliver entry.1 entry.2)

theorem deliverAll_absent {mails : List (Nat × Mail)} (absent : index ∉ mails.map (·.1)) :
    (deliverAll connection mails).callers[index]? = connection.callers[index]? := by
  induction mails generalizing connection with
  | nil => rfl
  | cons entry rest ih =>
    rw [List.map_cons, List.mem_cons, not_or] at absent
    have first : (connection.deliver entry.1 entry.2).callers[index]? =
        connection.callers[index]? := by
      rw [Connection.deliver, getElem?_setCaller, if_neg (Ne.symm absent.1)]
    exact (ih absent.2).trans first

theorem deliverAll_present {mails : List (Nat × Mail)} (once : (mails.map (·.1)).Nodup)
    (member : (index, mail) ∈ mails) (found : connection.callers[index]? = some caller) :
    (deliverAll connection mails).callers[index]? = some { caller with mail } := by
  induction mails generalizing connection with
  | nil => cases member
  | cons entry rest ih =>
    rw [List.map_cons, List.nodup_cons] at once
    rcases List.mem_cons.mp member with same | later
    · subst same
      have placed : (connection.deliver index mail).callers[index]? =
          some { caller with mail } := by
        rw [Connection.deliver, getElem?_setCaller, if_pos rfl, found]
        rfl
      exact (deliverAll_absent once.1).trans placed
    · have different : entry.1 ≠ index := by
        rintro same
        exact once.1 (List.mem_map.mpr ⟨_, later, same.symm⟩)
      have kept : (connection.deliver entry.1 entry.2).callers[index]? = some caller := by
        rw [Connection.deliver, getElem?_setCaller, if_neg different]
        exact found
      exact ih once.2 later kept

/-- The mail that requests in flight get when the connection is gone. -/
def failures (connection : Connection) : List (Nat × Mail) :=
  connection.pending.entries.entries.map fun entry => (entry.2, .given (.terminated entry.1))

theorem failPending_eq (connection : Connection) :
    connection.failPending =
      deliverAll { connection with pending := .empty } (failures connection) := by
  simp [Connection.failPending, Pending.failAll, deliverAll, failures, List.foldl_map]

/-- The news that callers get whose registrations were not taken in. -/
def abandonments (connection : Connection) : List (Nat × Mail) :=
  connection.registrations.map fun entry => (entry.2, .abandoned)

theorem abandonRegistrations_eq (connection : Connection) :
    connection.abandonRegistrations =
      deliverAll { connection with registrations := [] } (abandonments connection) := by
  simp [Connection.abandonRegistrations, deliverAll, abandonments, List.foldl_map]

private theorem nodup_owners {pairs : List (α × Nat)} (keys : (pairs.map (·.1)).Nodup)
    (alone : ∀ first second index, (first, index) ∈ pairs → (second, index) ∈ pairs →
      first = second) : (pairs.map (·.2)).Nodup := by
  refine (List.Nodup.of_map _ keys).map_on ?_
  rintro ⟨first, index⟩ present ⟨second, _⟩ member rfl
  rw [alone first second index present member]

/-- A response that nobody waits for changes nothing. -/
theorem answer_unknown (absent : connection.pending.entries.get? response.id = none) :
    connection.answer response = connection := by
  simp [Connection.answer, Pending.resolve, absent]

theorem answer_of_waiting (waits : connection.pending.entries.get? response.id = some index) :
    connection.answer response =
      ({ connection with
        pending := ⟨connection.pending.entries.erase response.id⟩ } : Connection).deliver
        index (.given response) := by
  simp [Connection.answer, Pending.resolve, waits]

theorem takeRegistration_of_absent
    (absent : connection.pending.entries.get? (.number number) = none) (index : Nat)
    (rest : List (Nat × Nat)) : connection.takeRegistration number index rest =
      { connection with
        registrations := rest
        pending := ⟨connection.pending.entries.insert (.number number) index⟩ } := by
  simp [Connection.takeRegistration, Pending.insert_of_absent absent]

theorem answer_reader (connection : Connection) (response : Response) :
    (connection.answer response).reader = connection.reader := by
  unfold Connection.answer
  split <;> rfl

theorem answer_input (connection : Connection) (response : Response) :
    (connection.answer response).ended = connection.ended ∧
      (connection.answer response).incoming = connection.incoming := by
  unfold Connection.answer
  split <;> exact ⟨rfl, rfl⟩

theorem failPending_reader (connection : Connection) :
    connection.failPending.reader = connection.reader := by
  rw [failPending_eq, deliverAll_eq]

namespace Sound

/-- Requests change place, and callers that had no mail may get some. -/
theorem resettle (sound : Sound talk) (nextId : connection.nextId = talk.connection.nextId)
    (outgoing : connection.outgoing = talk.connection.outgoing)
    (written : connection.written = talk.connection.written)
    (stages : ∀ number index caller, talk.history.issued[number]? = some index →
      talk.connection.callers[index]? = some caller →
      Stage talk.connection number index caller →
      ∃ mail, connection.callers[index]? = some { caller with mail } ∧
        Stage connection number index { caller with mail } ∧
        (caller.mail ≠ .awaited → mail = caller.mail))
    (others : ∀ index, index ∉ talk.history.issued →
      connection.callers[index]? = talk.connection.callers[index]?)
    (registered : connection.registrations.Sublist talk.connection.registrations)
    (inFlight : ∀ name index, connection.pending.entries.get? name = some index →
      ∃ number, name = .number number ∧ talk.history.issued[number]? = some index)
    (keys : (connection.pending.entries.entries.map (·.1)).Nodup) :
    Sound ⟨connection, talk.history⟩ where
  counted := by rw [nextId]; exact sound.counted
  once := sound.once
  stages := by
    intro number index owned
    obtain ⟨caller, found, stage, sent⟩ := sound.stages number index owned
    obtain ⟨mail, present, moved, kept⟩ := stages number index caller owned found stage
    refine ⟨_, present, moved, ?_⟩
    intro method params member
    have told : Sent number caller := sent method params (by
      simpa [handedOver, outgoing] using member)
    rcases told with waiting | ⟨response, given, finished⟩ | abandoned
    · exact .inl waiting
    · exact .inr (.inl ⟨response, by rw [← given]; exact kept (by simp [given]), finished⟩)
    · exact .inr (.inr (by rw [← abandoned]; exact kept (by simp [abandoned])))
  others := by
    intro index caller found apart
    rw [others index apart] at found
    exact sound.others index caller found apart
  registered := fun number index member => sound.registered number index (registered.subset member)
  inFlight := inFlight
  distinct := sound.distinct.sublist (registered.map _)
  keys := keys
  calls := by
    intro versioned name method params member
    exact sound.calls _ _ _ _ (by simpa [handedOver, outgoing] using member)
  texts := by rw [written]; exact sound.texts

/-- The request of the oldest registration is not in flight. -/
theorem absent_of_registered (sound : Sound talk)
    (member : (number, index) ∈ talk.connection.registrations) :
    talk.connection.pending.entries.get? (.number number) = none := by
  obtain ⟨caller, _, stage, _⟩ := sound.stages number index (sound.registered number index member)
  cases stage with
  | registered _ _ _ absent => exact absent
  | inFlight _ _ absent _ => exact False.elim (absent index member)
  | fresh _ _ apart | answered _ _ _ apart | lost _ _ _ apart =>
    exact False.elim (apart.1 index member)

/-- The reader takes the oldest registration in. -/
theorem take_registration (sound : Sound talk)
    (first : talk.connection.registrations = (number, index) :: rest) :
    Sound ⟨talk.connection.takeRegistration number index rest, talk.history⟩ := by
  have member : (number, index) ∈ talk.connection.registrations := by simp [first]
  have absent := sound.absent_of_registered member
  have owned := sound.registered number index member
  have unique := sound.distinct
  rw [first, List.map_cons, List.nodup_cons] at unique
  have gone : ∀ other, (number, other) ∉ rest := fun other present =>
    unique.1 (List.mem_map.mpr ⟨_, present, rfl⟩)
  rw [takeRegistration_of_absent absent]
  refine sound.resettle rfl rfl rfl ?_ (fun _ _ => rfl) ?_ ?_ ?_
  · intro other owner caller mine found stage
    refine ⟨caller.mail, found, ?_, fun _ => rfl⟩
    by_cases own : other = number
    · subst own
      rw [owned] at mine
      cases mine
      cases stage with
      | registered phase mail present absent =>
        exact .inFlight phase mail gone (by simp)
      | inFlight _ _ absent _ => exact False.elim (absent index member)
      | fresh _ _ apart | answered _ _ _ apart | lost _ _ _ apart =>
        exact False.elim (apart.1 index member)
    · refine stage.spared ⟨?_, ?_, fun h => h⟩
      · intro place
        simp [first, own]
      · simp [Ne.symm own]
  · rw [first]
    exact List.sublist_cons_self _ _
  · intro name owner waits
    by_cases own : RequestId.number number = name
    · subst own
      simp only [Table.get?_insert, if_pos, Option.some.injEq] at waits
      subst waits
      exact ⟨number, rfl, owned⟩
    · simp only [Table.get?_insert, if_neg own] at waits
      exact sound.inFlight name owner waits
  · rw [Table.keys_insert absent]
    refine List.nodup_append.mpr ⟨sound.keys, by simp, ?_⟩
    intro name present other same
    rw [List.mem_singleton] at same
    rintro rfl
    exact (Table.find?_eq_none_iff _ _).mp absent (same ▸ present)

/-- A response for a request in flight goes to its caller. -/
theorem answer_inFlight (sound : Sound talk)
    (waits : talk.connection.pending.entries.get? response.id = some index) :
    ∃ number, response.id = .number number ∧ talk.history.issued[number]? = some index ∧
      Sound ⟨talk.connection.answer response, talk.history⟩ := by
  obtain ⟨number, name, owned⟩ := sound.inFlight _ _ waits
  refine ⟨number, name, owned, ?_⟩
  rw [answer_of_waiting waits]
  refine sound.resettle rfl rfl rfl ?_ ?_ (List.Sublist.refl _) ?_ ?_
  · intro other owner caller mine found stage
    by_cases own : other = number
    · subst own
      rw [owned] at mine
      cases mine
      refine ⟨.given response, ?_, ?_⟩
      · rw [Connection.deliver, getElem?_setCaller, if_pos rfl]
        simp [found]
      rw [name] at waits
      cases stage with
      | inFlight phase mail absent present =>
        refine ⟨.answered (.inl phase) rfl name ⟨absent, ?_⟩, fun mailed => absurd mail mailed⟩
        simp [Connection.deliver, Connection.setCaller, name]
      | registered _ _ _ absent => simp [waits] at absent
      | fresh _ _ apart | answered _ _ _ apart | lost _ _ _ apart =>
        exact absurd apart.2 (by simp [waits])
    · have different : index ≠ owner := by
        rintro rfl
        exact own (sound.owner_unique mine owned)
      refine ⟨caller.mail, ?_, stage.spared ⟨fun _ => Iff.rfl, ?_, fun h => h⟩, fun _ => rfl⟩
      · rw [Connection.deliver, getElem?_setCaller, if_neg different]
        exact found
      · simp [Connection.deliver, Connection.setCaller, name, Ne.symm own]
  · intro other apart
    have different : index ≠ other := by
      rintro rfl
      exact apart (List.mem_of_getElem? owned)
    rw [Connection.deliver, getElem?_setCaller, if_neg different]
  · intro other owner present
    simp only [Connection.deliver, Connection.setCaller, Table.get?_erase] at present
    split at present
    · cases present
    · exact sound.inFlight other owner present
  · simp only [Connection.deliver, Connection.setCaller, Table.keys_erase]
    exact sound.keys.filter _

/-- Whose request fails with the connection is in flight. -/
theorem of_failures (sound : Sound talk)
    (member : index ∈ (failures talk.connection).map (·.1)) : ∃ number,
      talk.history.issued[number]? = some index ∧
        talk.connection.pending.entries.get? (.number number) = some index := by
  simp only [failures, List.map_map, List.mem_map, Function.comp_apply] at member
  obtain ⟨⟨name, owner⟩, here, rfl⟩ := member
  have waits : talk.connection.pending.entries.get? name = some owner :=
    (Table.find?_eq_some_iff sound.keys name owner).mpr here
  obtain ⟨number, rfl, owned⟩ := sound.inFlight _ _ waits
  exact ⟨number, owned, waits⟩

/-- Whose registration is abandoned has one. -/
theorem of_abandonments (sound : Sound talk)
    (member : index ∈ (abandonments talk.connection).map (·.1)) : ∃ number,
      talk.history.issued[number]? = some index ∧
        (number, index) ∈ talk.connection.registrations := by
  simp only [abandonments, List.map_map, List.mem_map, Function.comp_apply] at member
  obtain ⟨⟨number, owner⟩, here, rfl⟩ := member
  exact ⟨number, sound.registered _ _ here, here⟩

/-- Nobody has two requests in flight. -/
theorem failures_once (sound : Sound talk) : ((failures talk.connection).map (·.1)).Nodup := by
  have owners : (failures talk.connection).map (·.1) =
      talk.connection.pending.entries.entries.map (·.2) := by
    simp [failures, Function.comp_def]
  rw [owners]
  refine nodup_owners sound.keys ?_
  intro first second index here there
  obtain ⟨number, rfl, owned⟩ :=
    sound.inFlight _ _ ((Table.find?_eq_some_iff sound.keys first index).mpr here)
  obtain ⟨other, rfl, mine⟩ :=
    sound.inFlight _ _ ((Table.find?_eq_some_iff sound.keys second index).mpr there)
  rw [sound.owner_unique owned mine]

/-- Requests in flight get the news that the connection is gone as their answer. -/
theorem fail_pending (sound : Sound talk) (drained : talk.connection.registrations = []) :
    Sound ⟨talk.connection.failPending, talk.history⟩ := by
  let mails := failures talk.connection
  have waiting : ∀ name index, (name, index) ∈ talk.connection.pending.entries.entries ↔
      talk.connection.pending.entries.get? name = some index := fun name index =>
    (Table.find?_eq_some_iff sound.keys name index).symm
  have once : (mails.map (·.1)).Nodup := sound.failures_once
  rw [failPending_eq, deliverAll_eq]
  refine sound.resettle rfl rfl rfl ?_ ?_ (List.Sublist.refl _) ?_ List.nodup_nil
  · intro number index caller mine found stage
    have idle : Apart talk.connection number → index ∉ mails.map (·.1) := by
      rintro ⟨_, absent⟩ member
      obtain ⟨other, own, waits⟩ := sound.of_failures member
      rw [sound.owner_unique own mine, absent] at waits
      cases waits
    cases stage with
    | registered _ _ present => simp [drained] at present
    | inFlight phase mail absent waits =>
      have member : (index, Mail.given (.terminated (.number number))) ∈ mails :=
        List.mem_map.mpr ⟨_, (waiting _ _).mpr waits, rfl⟩
      exact ⟨_, deliverAll_present once member found,
        .answered (.inl phase) rfl rfl ⟨absent, rfl⟩, fun mailed => absurd mail mailed⟩
    | fresh phase mail apart =>
      exact ⟨_, (deliverAll_absent (idle apart)).trans found,
        .fresh phase mail ⟨apart.1, rfl⟩, fun _ => rfl⟩
    | answered phase mail same apart =>
      exact ⟨_, (deliverAll_absent (idle apart)).trans found,
        .answered phase mail same ⟨apart.1, rfl⟩, fun _ => rfl⟩
    | lost phase mail stopped apart =>
      exact ⟨_, (deliverAll_absent (idle apart)).trans found,
        .lost phase mail stopped ⟨apart.1, rfl⟩, fun _ => rfl⟩
  · intro index apart
    refine deliverAll_absent fun member => ?_
    obtain ⟨number, own, _⟩ := sound.of_failures member
    exact apart (List.mem_of_getElem? own)
  · intro name index waits
    cases waits

/-- Callers whose registrations the reader did not take in before it stopped are told so. -/
theorem abandon_registrations (sound : Sound talk) :
    Sound ⟨{ talk.connection.abandonRegistrations with reader := .stopped }, talk.history⟩ := by
  let mails := abandonments talk.connection
  have owners : mails.map (·.1) = talk.connection.registrations.map (·.2) := by
    simp [mails, abandonments, Function.comp_def]
  have once : (mails.map (·.1)).Nodup := by
    rw [owners]
    refine nodup_owners sound.distinct ?_
    intro first second index here there
    exact sound.owner_unique (sound.registered _ _ here) (sound.registered _ _ there)
  rw [abandonRegistrations_eq, deliverAll_eq]
  refine sound.resettle rfl rfl rfl ?_ ?_ (List.nil_sublist _) sound.inFlight sound.keys
  · intro number index caller mine found stage
    have idle : (∀ index, (number, index) ∉ talk.connection.registrations) →
        index ∉ mails.map (·.1) := by
      rintro absent member
      obtain ⟨other, own, here⟩ := sound.of_abandonments member
      rw [sound.owner_unique own mine] at here
      exact absent index here
    have none : ∀ index, (number, index) ∉ ([] : List (Nat × Nat)) := by simp
    cases stage with
    | registered phase mail present absent =>
      have member : (index, Mail.abandoned) ∈ mails := List.mem_map.mpr ⟨_, present, rfl⟩
      exact ⟨_, deliverAll_present once member found,
        .lost phase (by simp) rfl ⟨none, absent⟩, fun mailed => absurd mail mailed⟩
    | inFlight phase mail absent waits =>
      exact ⟨_, (deliverAll_absent (idle absent)).trans found,
        .inFlight phase mail none waits, fun _ => rfl⟩
    | fresh phase mail apart =>
      exact ⟨_, (deliverAll_absent (idle apart.1)).trans found,
        .fresh phase mail ⟨none, apart.2⟩, fun _ => rfl⟩
    | answered phase mail same apart =>
      exact ⟨_, (deliverAll_absent (idle apart.1)).trans found,
        .answered phase mail same ⟨none, apart.2⟩, fun _ => rfl⟩
    | lost phase mail stopped apart =>
      exact ⟨_, (deliverAll_absent (idle apart.1)).trans found,
        .lost phase mail rfl ⟨none, apart.2⟩, fun _ => rfl⟩
  · intro index apart
    refine deliverAll_absent fun member => ?_
    obtain ⟨number, own, _⟩ := sound.of_abandonments member
    exact apart (List.mem_of_getElem? own)

/-- The reader goes on, and the requests stay where they are. -/
theorem turn (sound : Sound ⟨connection, history⟩) (reader : ReaderPhase)
    (running : connection.takesRegistrations = true) :
    Sound ⟨{ connection with reader }, history⟩ :=
  sound.unmoved rfl rfl rfl rfl rfl (fun _ handed => handed) sound.texts
    (fun stopped => by simp [running] at stopped)

theorem answer (sound : Sound talk) (response : Response) :
    Sound ⟨talk.connection.answer response, talk.history⟩ := by
  cases waits : talk.connection.pending.entries.get? response.id with
  | none =>
    rw [answer_unknown waits]
    exact sound
  | some index =>
    obtain ⟨_, _, _, answered⟩ := sound.answer_inFlight waits
    exact answered

theorem reader_step (sound : Sound talk)
    (taken : talk.connection.stepReader = some connection) :
    Sound ⟨connection, talk.history⟩ := by
  unfold Connection.stepReader at taken
  split at taken
  · rename_i phase
    have running : talk.connection.takesRegistrations = true := by
      simp [Connection.takesRegistrations, phase]
    split at taken
    · cases taken
      refine sound.unmoved ?_ ?_ ?_ ?_ rfl ?_ ?_ (fun stopped => by simp [running] at stopped)
      all_goals
        simp only [Connection.readBody]
        split
      all_goals first | rfl | exact fun _ handed => handed | exact sound.texts
    · cases taken
      exact sound.turn _ running
    · cases taken
      exact sound.turn _ running
    · cases taken
  · rename_i response phase
    split at taken <;> cases taken
    · rename_i number index rest first
      exact sound.take_registration first
    · refine (sound.answer response).turn _ ?_
      simp [Connection.takesRegistrations, answer_reader, phase]
  · rename_i phase
    cases taken
    refine sound.unmoved rfl rfl rfl rfl rfl (fun _ handed => handed) sound.texts ?_
    simp [Connection.takesRegistrations, phase]
  · rename_i phase
    split at taken <;> cases taken
    · rename_i number index rest first
      exact sound.take_registration first
    · rename_i drained
      refine (sound.fail_pending drained).turn _ ?_
      simp [Connection.takesRegistrations, failPending_reader, phase]
  · cases taken
    exact sound.abandon_registrations
  · cases taken

theorem writer_step (sound : Sound talk)
    (taken : talk.connection.stepWriter = some connection) :
    Sound ⟨connection, talk.history.afterStep talk.connection .writer⟩ := by
  unfold Connection.stepWriter at taken
  split at taken
  · rename_i phase
    split at taken
    · cases taken
    · rename_i message rest queued
      split at taken <;> cases taken
      · rename_i broken
        have same : talk.history.afterStep talk.connection .writer = talk.history := by
          simp [History.afterStep, broken]
        rw [same]
        refine sound.unmoved rfl rfl rfl rfl rfl ?_ sound.texts (fun stopped => stopped)
        intro message member
        simp only [handedOver, List.append_nil] at member
        exact List.mem_append_left _ member
      · rename_i intact
        have same : talk.history.afterStep talk.connection .writer =
            { talk.history with written := talk.history.written ++ [message] } := by
          simp [History.afterStep, phase, intact, queued]
        rw [same]
        refine sound.unmoved rfl rfl rfl rfl rfl ?_ ?_ (fun stopped => stopped)
        · simp [handedOver, queued]
        · simp [sound.texts]
  · rename_i phase
    cases taken
    have same : talk.history.afterStep talk.connection .writer = talk.history := by
      simp [History.afterStep, phase]
    rw [same]
    exact sound.unmoved rfl rfl rfl rfl rfl (fun _ handed => handed) sound.texts
      (fun stopped => stopped)
  · cases taken

end Sound

end LanguageBridge.Conversation
