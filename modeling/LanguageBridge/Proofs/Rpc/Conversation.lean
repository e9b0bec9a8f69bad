import Mathlib.Logic.Relation
import LanguageBridge.Proofs.Rpc.Stream
import LanguageBridge.Rpc.Connection

/-!
A connection together with what has passed over it. Any thread that can take a step may take it, and
the surroundings may act at any moment; the other side answers no request before it has got it, but
may answer in any order, more than once, and under ids that nobody gave out.
-/
namespace LanguageBridge

/-- What has passed over a connection: the bytes that came in, the caller of every id in the order
of the ids, and the messages that the other side has got. -/
structure History where
  received : List UInt8 := []
  issued : List Nat := []
  written : List Message := []

namespace History

/-- What a step of a thread adds. -/
def afterStep (history : History) (connection : Connection) : Connection.Thread → History
  | .caller index =>
    match connection.callers[index]?.map Caller.phase with
    | some (.numbering ..) => { history with issued := history.issued ++ [index] }
    | _ => history
  | .writer =>
    if connection.writer = .writing ∧ connection.broken = false then
      { history with written := history.written ++ connection.outgoing.take 1 }
    else history
  | .reader => history

/-- What the surroundings add. -/
def afterEvent (history : History) : Connection.Event → History
  | .receive bytes => { history with received := history.received ++ bytes }
  | _ => history

/-- No thread takes part in what comes in. -/
theorem received_afterStep (history : History) (connection : Connection)
    (thread : Connection.Thread) :
    (history.afterStep connection thread).received = history.received := by
  cases thread with
  | caller index =>
    simp only [afterStep]
    split <;> rfl
  | writer =>
    simp only [afterStep]
    split <;> rfl
  | reader => rfl

end History

/-- A connection and its history. -/
structure Conversation where
  connection : Connection := {}
  history : History := {}

/-- The response that a body is. -/
def responseOf? (body : String) : Option Response :=
  match Message.ofText body with
  | .ok (.response response) => some response
  | _ => none

theorem responseOf?_eq_some_iff {body : String} {response : Response} :
    responseOf? body = some response ↔ Message.ofText body = .ok (.response response) := by
  unfold responseOf?
  split
  · rename_i other found
    simp [found]
  · rename_i other
    exact iff_of_false (by simp) (other response)

/-- The first response to a request among bodies. -/
def firstAnswer? (number : Nat) (bodies : List String) : Option Response :=
  (bodies.filterMap responseOf?).find? fun response => response.id = .number number

/-- Whether the surroundings can act so: nothing comes in after the end of input, and what is posted
without waiting for an answer is no call. -/
def Connection.Event.Possible (connection : Connection) : Connection.Event → Prop
  | .receive _ => connection.ended = false
  | .post (.call ..) => False
  | _ => True

namespace Conversation

/-- A request that the other side has got. -/
def Got (talk : Conversation) (number : Nat) : Prop :=
  ∃ method params, Message.call true (.number number) method params ∈ talk.history.written

/-- The other side has answered none of these ids before it got the request. -/
def Honest (known : Nat → Prop) (talk : Conversation) : Prop :=
  ∀ bodies left, Frame.Holds talk.connection.ended talk.history.received bodies left →
    ∀ body ∈ bodies, ∀ response, responseOf? body = some response →
      ∀ number, response.id = .number number → known number → talk.Got number

/-- One step of a thread, or one act of surroundings that are honest about the known ids. -/
inductive Moves (known : Nat → Prop) : Conversation → Conversation → Prop
  | step (thread : Connection.Thread) (taken : talk.connection.step thread = some next) :
      Moves known talk ⟨next, talk.history.afterStep talk.connection thread⟩
  | event (event : Connection.Event) (possible : event.Possible talk.connection)
      (honest : Honest known ⟨talk.connection.occur event, talk.history.afterEvent event⟩) :
      Moves known talk ⟨talk.connection.occur event, talk.history.afterEvent event⟩

/-- Any number of moves, of all threads in any order. -/
abbrev Leads (known : Nat → Prop) : Conversation → Conversation → Prop :=
  Relation.ReflTransGen (Moves known)

/-- A request has its response: the caller that took its id was given the response, and waits no
longer for anything but its own next step. -/
def Handed (talk : Conversation) (number index : Nat) (response : Response) : Prop :=
  ∃ caller, talk.connection.callers[index]? = some caller ∧ caller.mail = .given response ∧
    (caller.phase = .waiting number ∨ caller.phase = .finished response.outcome)

end Conversation

end LanguageBridge

/-!
Where a request is. Its caller registers it before sending it, the reader takes the registration in
before it looks at a response, and a response takes the request out again; so a request waits in one
place at most, and every response goes to the caller of its own id.
-/
namespace LanguageBridge.Conversation

variable {connection : Connection}

/-- Nobody waits under an id. -/
def Apart (connection : Connection) (number : Nat) : Prop :=
  (∀ index, (number, index) ∉ connection.registrations) ∧
    connection.pending.entries.get? (.number number) = none

/-- A caller that has registered its id: on its way to sending the request, waiting, or turned away
because the connection is dead. -/
def Asking (number : Nat) (phase : CallerPhase) : Prop :=
  (∃ method params, phase = .checking (some number) (.call true (.number number) method params)) ∨
    (∃ method params, phase = .sending (some number) (.call true (.number number) method params)) ∨
    phase = .waiting number ∨ phase = .finished (.error .terminated)

/-- Where the request of an id is: not registered yet, registered, in flight, answered, or lost
because the reader has stopped. -/
inductive Stage (connection : Connection) (number index : Nat) (caller : Caller) : Prop
  | fresh (phase : caller.phase = .registering number (.call true (.number number) method params))
      (mail : caller.mail = .awaited) (apart : Apart connection number)
  | registered (phase : Asking number caller.phase) (mail : caller.mail = .awaited)
      (present : (number, index) ∈ connection.registrations)
      (absent : connection.pending.entries.get? (.number number) = none)
  | inFlight (phase : Asking number caller.phase) (mail : caller.mail = .awaited)
      (absent : ∀ index, (number, index) ∉ connection.registrations)
      (present : connection.pending.entries.get? (.number number) = some index)
  | answered (phase : Asking number caller.phase ∨ caller.phase = .finished response.outcome)
      (mail : caller.mail = .given response) (same : response.id = .number number)
      (apart : Apart connection number)
  | lost (phase : Asking number caller.phase) (mail : ∀ response, caller.mail ≠ .given response)
      (stopped : connection.takesRegistrations = false) (apart : Apart connection number)

/-- A caller whose request has gone to the writer. -/
def Sent (number : Nat) (caller : Caller) : Prop :=
  caller.phase = .waiting number ∨
    (∃ response, caller.mail = .given response ∧ caller.phase = .finished response.outcome) ∨
    caller.mail = .abandoned

/-- A caller without an id: it has not taken one yet, or it sends something that is no call. -/
def Unnumbered (caller : Caller) : Prop :=
  caller.mail = .awaited ∧
    ((∃ method params, caller.phase = .numbering method params) ∨
      (∃ message, (caller.phase = .checking none message ∨ caller.phase = .sending none message) ∧
        ∀ versioned number method params, message ≠ .call versioned number method params) ∨
      ∃ outcome, caller.phase = .finished outcome)

/-- The messages that callers have handed to the writer. -/
def handedOver (talk : Conversation) : List Message :=
  talk.history.written ++ talk.connection.outgoing

/-- Every request is in one place, and every caller has one request at most. -/
structure Sound (talk : Conversation) : Prop where
  counted : talk.history.issued.length = talk.connection.nextId
  once : talk.history.issued.Nodup
  stages : ∀ number index, talk.history.issued[number]? = some index →
    ∃ caller, talk.connection.callers[index]? = some caller ∧
      Stage talk.connection number index caller ∧
      ∀ method params, .call true (.number number) method params ∈ talk.handedOver → Sent number caller
  others : ∀ index caller, talk.connection.callers[index]? = some caller →
    index ∉ talk.history.issued → Unnumbered caller
  registered : ∀ number index, (number, index) ∈ talk.connection.registrations →
    talk.history.issued[number]? = some index
  inFlight : ∀ name index, talk.connection.pending.entries.get? name = some index →
    ∃ number, name = .number number ∧ talk.history.issued[number]? = some index
  distinct : (talk.connection.registrations.map (·.1)).Nodup
  keys : (talk.connection.pending.entries.entries.map (·.1)).Nodup
  calls : ∀ versioned name method params,
    .call versioned name method params ∈ talk.handedOver →
      ∃ number, name = .number number ∧ number < talk.history.issued.length
  texts : talk.connection.written = talk.history.written.map Message.text

/-- A change that leaves alone where an id is. -/
structure Spares (before after : Connection) (number : Nat) : Prop where
  registrations : ∀ index, (number, index) ∈ after.registrations ↔ (number, index) ∈ before.registrations
  pending : after.pending.entries.get? (.number number) = before.pending.entries.get? (.number number)
  stopped : before.takesRegistrations = false → after.takesRegistrations = false

theorem Spares.apart (spares : Spares before after number) (apart : Apart before number) :
    Apart after number := by
  refine ⟨fun index member => apart.1 index ((spares.registrations index).mp member), ?_⟩
  rw [spares.pending]
  exact apart.2

theorem Stage.spared (stage : Stage before number index caller) (spares : Spares before after number) :
    Stage after number index caller := by
  cases stage with
  | fresh phase mail apart => exact .fresh phase mail (spares.apart apart)
  | registered phase mail present absent =>
    exact .registered phase mail ((spares.registrations index).mpr present)
      (by rw [spares.pending]; exact absent)
  | inFlight phase mail absent present =>
    exact .inFlight phase mail
      (fun other member => absent other ((spares.registrations other).mp member))
      (by rw [spares.pending]; exact present)
  | answered phase mail same apart => exact .answered phase mail same (spares.apart apart)
  | lost phase mail stopped apart =>
    exact .lost phase mail (spares.stopped stopped) (spares.apart apart)

theorem getElem?_setCaller (connection : Connection) (index other : Nat)
    (change : Caller → Caller) : (connection.setCaller index change).callers[other]? =
      if index = other then connection.callers[other]?.map change
      else connection.callers[other]? := by
  rw [Connection.setCaller, List.getElem?_modify]
  by_cases same : index = other <;> simp [same]

theorem Stage.phase_ne_numbering (stage : Stage connection number index caller) :
    caller.phase ≠ .numbering method params := by
  intro same
  cases stage with
  | fresh phase => simp [phase] at same
  | answered phase => simp [Asking, same] at phase
  | registered phase | inFlight phase | lost phase => simp [Asking, same] at phase

/-- A caller that has an id but has not registered it is where it seems to be. -/
theorem Stage.of_registering (stage : Stage connection number index caller)
    (phase : caller.phase = .registering other message) :
    other = number ∧ (∃ method params, message = .call true (.number number) method params) ∧
      caller.mail = .awaited ∧ Apart connection number := by
  cases stage with
  | fresh found mail apart =>
    rw [phase] at found
    cases found
    exact ⟨rfl, ⟨_, _, rfl⟩, mail, apart⟩
  | answered found => simp [Asking, phase] at found
  | registered found | inFlight found | lost found => simp [Asking, phase] at found

/-- Once a request is registered, its caller may go on without changing where the request is. -/
theorem Stage.rephased (stage : Stage connection number index caller)
    (registered : ∀ message, caller.phase ≠ .registering number message)
    (asking : Asking number phase) : Stage connection number index { caller with phase } := by
  cases stage with
  | fresh found => exact False.elim (registered _ found)
  | registered _ mail present absent => exact .registered asking mail present absent
  | inFlight _ mail absent present => exact .inFlight asking mail absent present
  | answered _ mail same apart => exact .answered (.inl asking) mail same apart
  | lost _ mail stopped apart => exact .lost asking mail stopped apart

namespace Sound

variable {talk : Conversation}

/-- Nothing but the phase of one caller changes, and what it hands to the writer is added. -/
theorem rephase (sound : Sound talk) (found : talk.connection.callers[index]? = some caller)
    (phase : CallerPhase) (messages : List Message)
    (stages : ∀ number, talk.history.issued[number]? = some index →
      Stage talk.connection number index caller →
      (∀ method params, .call true (.number number) method params ∈ talk.handedOver →
        Sent number caller) →
      Stage talk.connection number index { caller with phase } ∧
        ∀ method params, .call true (.number number) method params ∈ talk.handedOver ++ messages →
          Sent number { caller with phase })
    (others : index ∉ talk.history.issued → Unnumbered caller → Unnumbered { caller with phase })
    (calls : ∀ versioned name method params, .call versioned name method params ∈ messages →
      ∃ number, name = .number number ∧ talk.history.issued[number]? = some index) :
    Sound ⟨({ talk.connection with
      outgoing := talk.connection.outgoing ++ messages } : Connection).move index phase,
      talk.history⟩ where
  counted := sound.counted
  once := sound.once
  stages := by
    intro number other owned
    obtain ⟨same, present, stage, sent⟩ := sound.stages number other owned
    by_cases own : index = other
    · subst other
      rw [found] at present
      cases present
      obtain ⟨moved, told⟩ := stages number owned stage sent
      refine ⟨{ caller with phase }, ?_, moved.spared ⟨fun _ => Iff.rfl, rfl, fun h => h⟩, ?_⟩
      · rw [Connection.move, getElem?_setCaller, if_pos rfl]
        simp [found]
      · simpa [handedOver, Connection.move, Connection.setCaller] using told
    · refine ⟨same, ?_, stage.spared ⟨fun _ => Iff.rfl, rfl, fun h => h⟩, ?_⟩
      · rw [Connection.move, getElem?_setCaller, if_neg own]
        exact present
      · intro method params member
        have : Message.call true (.number number) method params ∈ talk.handedOver ∨
            Message.call true (.number number) method params ∈ messages := by
          simpa [handedOver, Connection.move, Connection.setCaller, or_assoc] using member
        rcases this with before | added
        · exact sent method params before
        · obtain ⟨second, same, mine⟩ := calls _ _ _ _ added
          cases same
          rw [mine] at owned
          exact absurd (Option.some.inj owned) own
  others := by
    intro other same present apart
    rw [Connection.move, getElem?_setCaller] at present
    by_cases own : index = other
    · subst other
      rw [if_pos rfl] at present
      simp only [found, Option.map_some, Option.some.injEq] at present
      subst present
      exact others apart (sound.others index caller found apart)
    · rw [if_neg own] at present
      exact sound.others other same present apart
  registered := sound.registered
  inFlight := sound.inFlight
  distinct := sound.distinct
  keys := sound.keys
  calls := by
    intro versioned name method params member
    have : Message.call versioned name method params ∈ talk.handedOver ∨
        Message.call versioned name method params ∈ messages := by
      simpa [handedOver, Connection.move, Connection.setCaller, or_assoc] using member
    rcases this with before | added
    · exact sound.calls _ _ _ _ before
    · obtain ⟨number, same, owned⟩ := calls _ _ _ _ added
      exact ⟨number, same, (List.getElem?_eq_some_iff.mp owned).1⟩
  texts := sound.texts

end Sound

end LanguageBridge.Conversation
