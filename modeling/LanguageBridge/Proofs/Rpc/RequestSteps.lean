import LanguageBridge.Proofs.Rpc.Conversation
import Mathlib.Data.List.Nodup

/-!
Every step of every thread, and everything the surroundings do, leaves each request in one place.
-/
namespace LanguageBridge.Conversation

theorem getElem?_concat_eq_some (items : List α) (item : α) (number : Nat) (other : α) :
    (items ++ [item])[number]? = some other ↔
      items[number]? = some other ∨ number = items.length ∧ other = item := by
  rw [List.getElem?_append]
  split
  · rename_i small
    constructor
    · exact .inl
    · rintro (found | ⟨rfl, _⟩)
      · exact found
      · exact absurd small (Nat.lt_irrefl _)
  · rename_i large
    have outside : items[number]? = none := List.getElem?_eq_none (Nat.le_of_not_lt large)
    have place : number - items.length = 0 ↔ number = items.length := by omega
    simp [List.getElem?_singleton, outside, place, eq_comm]

namespace Sound

variable {talk : Conversation} {connection : Connection} {history : History}

/-- Nothing changes for the requests. -/
theorem unmoved (sound : Sound talk) (nextId : connection.nextId = talk.connection.nextId)
    (callers : connection.callers = talk.connection.callers)
    (registrations : connection.registrations = talk.connection.registrations)
    (pending : connection.pending = talk.connection.pending)
    (issued : history.issued = talk.history.issued)
    (handed : ∀ message, message ∈ handedOver ⟨connection, history⟩ → message ∈ talk.handedOver)
    (texts : connection.written = history.written.map Message.text)
    (stopped : talk.connection.takesRegistrations = false →
      connection.takesRegistrations = false) : Sound ⟨connection, history⟩ where
  counted := by rw [issued, nextId]; exact sound.counted
  once := by rw [issued]; exact sound.once
  stages := by
    intro number index owned
    rw [issued] at owned
    obtain ⟨caller, found, stage, sent⟩ := sound.stages number index owned
    refine ⟨caller, by rw [callers]; exact found, stage.spared ⟨?_, ?_, stopped⟩, ?_⟩
    · intro index
      rw [registrations]
    · rw [pending]
    · intro method params member
      exact sent method params (handed _ member)
  others := by
    intro index caller found apart
    rw [callers] at found
    rw [issued] at apart
    exact sound.others index caller found apart
  registered := by rw [registrations, issued]; exact sound.registered
  inFlight := by rw [pending, issued]; exact sound.inFlight
  distinct := by rw [registrations]; exact sound.distinct
  keys := by rw [pending]; exact sound.keys
  calls := by
    intro versioned name method params member
    rw [issued]
    exact sound.calls _ _ _ _ (handed _ member)
  texts := texts

theorem lt_of_registered (sound : Sound talk)
    (member : (number, index) ∈ talk.connection.registrations) :
    number < talk.connection.nextId := by
  rw [← sound.counted]
  exact (List.getElem?_eq_some_iff.mp (sound.registered number index member)).1

theorem lt_of_inFlight (sound : Sound talk)
    (waits : talk.connection.pending.entries.get? (.number number) = some index) :
    number < talk.connection.nextId := by
  obtain ⟨same, equal, owned⟩ := sound.inFlight _ _ waits
  cases equal
  rw [← sound.counted]
  exact (List.getElem?_eq_some_iff.mp owned).1

theorem unissued_of_numbering (sound : Sound talk)
    (found : talk.connection.callers[index]? = some caller)
    (phase : caller.phase = .numbering method params) : index ∉ talk.history.issued := by
  intro member
  obtain ⟨number, owned⟩ := List.getElem?_of_mem member
  obtain ⟨same, present, stage, _⟩ := sound.stages number index owned
  rw [found] at present
  cases present
  exact stage.phase_ne_numbering phase

/-- A caller without an id takes the next one. -/
theorem take_number (sound : Sound talk)
    (found : talk.connection.callers[index]? = some caller)
    (phase : caller.phase = .numbering method params) :
    Sound ⟨({ talk.connection with nextId := talk.connection.nextId + 1 } : Connection).move index
      (.registering talk.connection.nextId
        (.call true (.number talk.connection.nextId) method params)),
      { talk.history with issued := talk.history.issued ++ [index] }⟩ := by
  have fresh := sound.unissued_of_numbering found phase
  have waiting : caller.mail = .awaited := (sound.others index caller found fresh).1
  have earlier : ∀ number other, (talk.history.issued ++ [index])[number]? = some other →
      talk.history.issued[number]? = some other ∧ index ≠ other ∨
        number = talk.connection.nextId ∧ other = index := by
    intro number other owned
    rw [← sound.counted]
    rcases (getElem?_concat_eq_some _ _ _ _).mp owned with before | last
    · refine .inl ⟨before, ?_⟩
      rintro rfl
      exact fresh (List.mem_of_getElem? before)
    · exact .inr last
  constructor
  · simp [Connection.move, Connection.setCaller, sound.counted]
  · rw [List.nodup_append]
    refine ⟨sound.once, by simp, ?_⟩
    intro member present other same
    rw [List.mem_singleton] at same
    rintro rfl
    exact fresh (same ▸ present)
  · intro number other owned
    rcases earlier number other owned with ⟨before, different⟩ | ⟨rfl, rfl⟩
    · obtain ⟨same, present, stage, sent⟩ := sound.stages number other before
      refine ⟨same, ?_, stage.spared ⟨fun _ => Iff.rfl, rfl, fun h => h⟩, sent⟩
      rw [Connection.move, getElem?_setCaller, if_neg different]
      exact present
    · let phase : CallerPhase := .registering talk.connection.nextId
        (.call true (.number talk.connection.nextId) method params)
      refine ⟨{ caller with phase }, ?_, .fresh rfl waiting ⟨?_, ?_⟩, ?_⟩
      · rw [Connection.move, getElem?_setCaller, if_pos rfl]
        simp [found, phase]
      · intro other member
        exact absurd (sound.lt_of_registered member) (Nat.lt_irrefl _)
      · cases waits : talk.connection.pending.entries.get?
            (.number talk.connection.nextId) with
        | none => exact waits
        | some other => exact absurd (sound.lt_of_inFlight waits) (Nat.lt_irrefl _)
      · intro method params member
        obtain ⟨number, same, small⟩ := sound.calls _ _ _ _ member
        cases same
        rw [sound.counted] at small
        exact absurd small (Nat.lt_irrefl _)
  · intro other same present apart
    rw [List.mem_append, List.mem_singleton, not_or] at apart
    rw [Connection.move, getElem?_setCaller, if_neg (Ne.symm apart.2)] at present
    exact sound.others other same present apart.1
  · intro number other member
    exact (getElem?_concat_eq_some _ _ _ _).mpr (.inl (sound.registered number other member))
  · intro name other waits
    obtain ⟨number, same, owned⟩ := sound.inFlight name other waits
    exact ⟨number, same, (getElem?_concat_eq_some _ _ _ _).mpr (.inl owned)⟩
  · exact sound.distinct
  · exact sound.keys
  · intro versioned name method params member
    obtain ⟨number, same, small⟩ := sound.calls _ _ _ _ member
    exact ⟨number, same, by simp; omega⟩
  · exact sound.texts

/-- The owner of the number under which a caller registers. -/
theorem of_registering (sound : Sound talk)
    (found : talk.connection.callers[index]? = some caller)
    (phase : caller.phase = .registering number message) :
    talk.history.issued[number]? = some index ∧
      (∃ method params, message = .call true (.number number) method params) ∧
      caller.mail = .awaited ∧ Apart talk.connection number := by
  have member : index ∈ talk.history.issued := Classical.byContradiction fun apart => by
    have unnumbered := sound.others index caller found apart
    simp [Unnumbered, phase] at unnumbered
  obtain ⟨owner, owned⟩ := List.getElem?_of_mem member
  obtain ⟨same, present, stage, _⟩ := sound.stages owner index owned
  rw [found] at present
  cases present
  obtain ⟨rfl, shape, mail, apart⟩ := stage.of_registering phase
  exact ⟨owned, shape, mail, apart⟩

/-- Two numbers are of different callers. -/
theorem owner_unique {number other index : Nat} (sound : Sound talk)
    (first : talk.history.issued[number]? = some index)
    (second : talk.history.issued[other]? = some index) : number = other := by
  obtain ⟨small, first⟩ := List.getElem?_eq_some_iff.mp first
  obtain ⟨bound, second⟩ := List.getElem?_eq_some_iff.mp second
  exact (List.Nodup.getElem_inj_iff sound.once).mp (first.trans second.symm)

/-- A caller registers its number with the reader. -/
theorem register (sound : Sound talk)
    (found : talk.connection.callers[index]? = some caller)
    (phase : caller.phase = .registering number message) :
    Sound ⟨({ talk.connection with
        registrations := talk.connection.registrations ++ [(number, index)] } : Connection).move
      index (.checking (some number) message), talk.history⟩ := by
  obtain ⟨owned, ⟨method, params, rfl⟩, mail, apart⟩ := sound.of_registering found phase
  constructor
  · exact sound.counted
  · exact sound.once
  · intro second other mine
    by_cases own : index = other
    · subst other
      have same := sound.owner_unique owned mine
      subst second
      obtain ⟨present, here, stage, sent⟩ := sound.stages number index owned
      rw [found] at here
      cases here
      let phase : CallerPhase := .checking (some number)
        (.call true (.number number) method params)
      refine ⟨{ caller with phase }, ?_, .registered (.inl ⟨method, params, rfl⟩) mail
        (by simp [Connection.move, Connection.setCaller]) apart.2, ?_⟩
      · rw [Connection.move, getElem?_setCaller, if_pos rfl]
        simp [found, phase]
      · intro method params member
        have before := sent method params member
        simp [Sent, mail, ‹caller.phase = _›] at before
    · obtain ⟨same, present, stage, sent⟩ := sound.stages second other mine
      have different : second ≠ number := by
        rintro rfl
        rw [owned] at mine
        exact own (Option.some.inj mine)
      refine ⟨same, ?_, stage.spared ⟨?_, rfl, fun h => h⟩, sent⟩
      · rw [Connection.move, getElem?_setCaller, if_neg own]
        exact present
      · intro index
        simp [Connection.move, Connection.setCaller, different]
  · intro other same present outside
    have different : index ≠ other := by
      rintro rfl
      exact outside (List.mem_of_getElem? owned)
    rw [Connection.move, getElem?_setCaller, if_neg different] at present
    exact sound.others other same present outside
  · intro second other member
    rcases List.mem_append.mp member with before | added
    · exact sound.registered second other before
    · simp only [List.mem_singleton, Prod.mk.injEq] at added
      obtain ⟨rfl, rfl⟩ := added
      exact owned
  · exact sound.inFlight
  · have outside : number ∉ talk.connection.registrations.map (·.1) := by
      intro member
      obtain ⟨⟨_, other⟩, present, rfl⟩ := List.mem_map.mp member
      exact apart.1 other present
    simp only [Connection.move, Connection.setCaller, List.map_append, List.map_cons,
      List.map_nil]
    refine List.nodup_append.mpr ⟨sound.distinct, by simp, ?_⟩
    intro name present other same
    rw [List.mem_singleton] at same
    rintro rfl
    exact outside (same ▸ present)
  · exact sound.keys
  · exact sound.calls
  · exact sound.texts

/-- A caller goes on without handing anything to the writer. -/
theorem rephase_only (sound : Sound talk)
    (found : talk.connection.callers[index]? = some caller) (phase : CallerPhase)
    (stages : ∀ number, talk.history.issued[number]? = some index →
      Stage talk.connection number index caller →
      Stage talk.connection number index { caller with phase } ∧
        (Sent number caller → Sent number { caller with phase }))
    (others : Unnumbered caller → Unnumbered { caller with phase }) :
    Sound ⟨talk.connection.move index phase, talk.history⟩ := by
  have moved := sound.rephase found phase []
    (fun number owned stage sent => by
      obtain ⟨after, told⟩ := stages number owned stage
      exact ⟨after, fun method params member => told (sent method params (by simpa using member))⟩)
    (fun _ => others) (by simp)
  simpa using moved

/-- A caller whose connection is dead, or whose request was not taken, is told so. -/
theorem turn_away (sound : Sound talk)
    (found : talk.connection.callers[index]? = some caller)
    (asking : ∀ message number, caller.phase ≠ .registering number message)
    (unanswered : ∀ outcome, caller.phase ≠ .finished outcome)
    (idle : ∀ number, caller.phase ≠ .waiting number) :
    Sound ⟨talk.connection.move index (.finished (.error .terminated)), talk.history⟩ := by
  refine sound.rephase_only found _ ?_ ?_
  · intro number owned stage
    refine ⟨stage.rephased (fun message => asking message number) (.inr (.inr (.inr rfl))), ?_⟩
    rintro (waiting | ⟨response, mail, finished⟩ | abandoned)
    · exact absurd waiting (idle number)
    · exact absurd finished (unanswered _)
    · exact .inr (.inr abandoned)
  · rintro ⟨mail, _⟩
    exact ⟨mail, .inr (.inr ⟨_, rfl⟩)⟩

/-- A caller that finds the reader stopped is lost. -/
theorem refuse (sound : Sound talk) (found : talk.connection.callers[index]? = some caller)
    (phase : caller.phase = .registering number message)
    (stopped : talk.connection.takesRegistrations = false) :
    Sound ⟨talk.connection.move index (.finished (.error .terminated)), talk.history⟩ := by
  obtain ⟨owned, _, mail, apart⟩ := sound.of_registering found phase
  refine sound.rephase_only found _ ?_ ?_
  · intro other mine stage
    have same := sound.owner_unique owned mine
    subst other
    refine ⟨.lost (.inr (.inr (.inr rfl))) (by simp [mail]) stopped apart, ?_⟩
    intro sent
    simp [Sent, mail, phase] at sent
  · rintro ⟨mail, _⟩
    exact ⟨mail, .inr (.inr ⟨_, rfl⟩)⟩

/-- A caller that found the connection alive goes on to send. -/
theorem pass_check (sound : Sound talk) (found : talk.connection.callers[index]? = some caller)
    (phase : caller.phase = .checking name message) :
    Sound ⟨talk.connection.move index (.sending name message), talk.history⟩ := by
  refine sound.rephase_only found _ ?_ ?_
  · intro number owned stage
    refine ⟨stage.rephased (by simp [phase]) ?_, ?_⟩
    · cases stage with
      | fresh found => simp [phase] at found
      | answered found => simpa [Asking, phase] using found
      | registered found | inFlight found | lost found => simpa [Asking, phase] using found
    · rintro (waiting | ⟨response, mail, finished⟩ | abandoned)
      · simp [phase] at waiting
      · simp [phase] at finished
      · exact .inr (.inr abandoned)
  · rintro ⟨mail, shape⟩
    simp only [phase, CallerPhase.checking.injEq, reduceCtorEq, or_false, exists_false,
      false_or] at shape
    obtain ⟨posted, ⟨rfl, rfl⟩, calls⟩ := shape
    exact ⟨mail, .inr (.inl ⟨message, .inr rfl, calls⟩)⟩

/-- A caller hands its message to the writer. -/
theorem send (sound : Sound talk) (found : talk.connection.callers[index]? = some caller)
    (phase : caller.phase = .sending name message) :
    Sound ⟨({ talk.connection with
        outgoing := talk.connection.outgoing ++ [message] } : Connection).move index
      (name.elim (.finished (.ok .null)) .waiting), talk.history⟩ := by
  have shape : ∀ number, Stage talk.connection number index caller → name = some number ∧
      ∃ method params, message = .call true (.number number) method params := by
    intro number stage
    cases stage with
    | fresh found => simp [phase] at found
    | answered found => simpa [Asking, phase] using found
    | registered found | inFlight found | lost found => simpa [Asking, phase] using found
  refine sound.rephase found _ [message] ?_ ?_ ?_
  · intro number owned stage sent
    obtain ⟨rfl, _⟩ := shape number stage
    exact ⟨stage.rephased (by simp [phase]) (.inr (.inr (.inl rfl))), fun _ _ _ => .inl rfl⟩
  · rintro apart ⟨mail, posted⟩
    simp only [phase, CallerPhase.sending.injEq, reduceCtorEq, false_or, exists_false,
      or_false] at posted
    obtain ⟨other, ⟨rfl, rfl⟩, _⟩ := posted
    exact ⟨mail, .inr (.inr ⟨_, rfl⟩)⟩
  · intro versioned given method params member
    rw [List.mem_singleton] at member
    by_cases owned : index ∈ talk.history.issued
    · obtain ⟨number, owned⟩ := List.getElem?_of_mem owned
      obtain ⟨same, present, stage, _⟩ := sound.stages number index owned
      rw [found] at present
      cases present
      obtain ⟨_, _, _, call⟩ := shape number stage
      rw [← member] at call
      cases call
      exact ⟨number, rfl, owned⟩
    · obtain ⟨_, posted⟩ := sound.others index caller found owned
      simp only [phase, CallerPhase.sending.injEq, reduceCtorEq, false_or, exists_false,
        or_false] at posted
      obtain ⟨other, ⟨_, rfl⟩, calls⟩ := posted
      exact absurd member.symm (calls _ _ _ _)

/-- A caller that waits takes what it was given. -/
theorem take_mail (sound : Sound talk) (found : talk.connection.callers[index]? = some caller)
    (phase : caller.phase = .waiting number)
    (mail : (∃ response, caller.mail = .given response ∧ outcome = response.outcome) ∨
      caller.mail = .abandoned ∧ outcome = .error .terminated) :
    Sound ⟨talk.connection.move index (.finished outcome), talk.history⟩ := by
  refine sound.rephase_only found _ ?_ ?_
  · intro other owned stage
    rcases mail with ⟨response, given, rfl⟩ | ⟨abandoned, rfl⟩
    · refine ⟨?_, fun _ => .inr (.inl ⟨response, given, rfl⟩)⟩
      cases stage with
      | fresh _ mail | registered _ mail | inFlight _ mail => simp [given] at mail
      | lost _ mail => exact absurd given (mail _)
      | answered _ mail same apart =>
        rw [given] at mail
        cases mail
        exact .answered (.inr rfl) given same apart
    · exact ⟨stage.rephased (by simp [phase]) (.inr (.inr (.inr rfl))),
        fun _ => .inr (.inr abandoned)⟩
  · rintro ⟨mail, _⟩
    exact ⟨mail, .inr (.inr ⟨_, rfl⟩)⟩

theorem caller_step (sound : Sound talk)
    (found : talk.connection.callers[index]? = some caller)
    (taken : talk.connection.stepCaller index caller = some connection) :
    Sound ⟨connection, talk.history.afterStep talk.connection (.caller index)⟩ := by
  have unissued : (∀ method params, caller.phase ≠ .numbering method params) →
      talk.history.afterStep talk.connection (.caller index) = talk.history := by
    intro numbered
    simp only [History.afterStep, found, Option.map_some]
    split
    · rename_i same
      exact absurd (Option.some.inj same) (numbered _ _)
    · rfl
  unfold Connection.stepCaller at taken
  split at taken
  · rename_i method params phase
    cases taken
    have issued : talk.history.afterStep talk.connection (.caller index) =
        { talk.history with issued := talk.history.issued ++ [index] } := by
      simp [History.afterStep, found, phase]
    rw [issued]
    exact sound.take_number found phase
  · rename_i number message phase
    rw [unissued (by simp [phase])]
    split at taken <;> cases taken
    · exact sound.register found phase
    · rename_i stopped
      exact sound.refuse found phase (Bool.eq_false_iff.mpr stopped)
  · rename_i name message phase
    rw [unissued (by simp [phase])]
    split at taken <;> cases taken
    · exact sound.pass_check found phase
    · exact sound.turn_away found (by simp [phase]) (by simp [phase]) (by simp [phase])
  · rename_i name message phase
    rw [unissued (by simp [phase])]
    split at taken <;> cases taken
    · cases name <;> exact sound.send found phase
    · exact sound.turn_away found (by simp [phase]) (by simp [phase]) (by simp [phase])
  · rename_i number phase
    rw [unissued (by simp [phase])]
    split at taken <;> cases taken
    · rename_i response mail
      exact sound.take_mail found phase (.inl ⟨response, mail, rfl⟩)
    · rename_i mail
      exact sound.take_mail found phase (.inr ⟨mail, rfl⟩)
  · cases taken

end Sound

end LanguageBridge.Conversation
