import LanguageBridge.Proofs.Rpc.Shadow

/-!
What the reader drops makes no difference. Bodies that are no messages, responses under unknown ids
and repeated responses can be taken out of a stream: calls and notifications come in as before,
callers are given the same, and the reader reads on as long.
-/
namespace LanguageBridge.Conversation

variable {talk other : Conversation} {minutes others : Minutes} {frames : List (List UInt8)}
  {bodies : List String}

/-- A connection that was handed only the bodies that count, in these frames, and then what the
other has not read. Only what the readers have before them differs, and only while one of them looks
up a response. -/
structure Purified (talk : Conversation) (minutes : Minutes) (frames : List (List UInt8))
    (other : Conversation) (others : Minutes) : Prop where
  minuted : Minuted other others
  received : other.history.received = frames.flatten ++ talk.connection.incoming
  ended : other.connection.ended = talk.connection.ended
  entries : others.entries = counting minutes.entries
  taken : others.taken = minutes.taken
  agrees : Agrees talk.connection other.connection
  waits : talk.connection.takesRegistrations = true →
    inLine other.connection = inLine talk.connection
  listens : Listening other.connection ↔ Listening talk.connection
  place : minutes.inHand = none → other.connection.reader = talk.connection.reader ∧
    other.connection.incoming = talk.connection.incoming

/-- The follower that has read all it was handed is handed what the other has still before it. -/
theorem Follows.purified_behind (follows : Follows talk minutes frames other others)
    (minuted : Minuted other others) (account : Account talk minutes)
    (behind : Behind talk other frames) {last : List (List UInt8)}
    (framed : List.Forall₂ Frame.Framed minutes.inHand.toList last) :
    Purified talk minutes (frames ++ last) ⟨{ other.connection with
        incoming := last.flatten ++ talk.connection.incoming
        ended := talk.connection.ended }, { other.history with
        received := frames.flatten ++ (last.flatten ++ talk.connection.incoming) }⟩ others where
  minuted := behind.catch_up minuted _ _
  received := by simp
  ended := rfl
  entries := follows.entries
  taken := follows.taken
  agrees := follows.agrees.besides _ _ _ _ _ follows.agrees.takes
  waits := follows.line account minuted.account
  listens := iff_of_true (.inl behind.reading) behind.running
  place := by
    intro idle
    rw [idle] at framed
    cases framed
    refine ⟨?_, rfl⟩
    rcases behind.running with reading | ⟨response, answering⟩
    · exact behind.reading.trans reading.symm
    · obtain ⟨text, held, _⟩ := account.holding response answering
      rw [idle] at held
      cases held

theorem Follows.purified_abreast (follows : Follows talk minutes frames other others)
    (minuted : Minuted other others) (account : Account talk minutes)
    (abreast : Abreast talk other frames) : Purified talk minutes frames other others where
  minuted := minuted
  received := abreast.received
  ended := abreast.ended
  entries := follows.entries
  taken := follows.taken
  agrees := follows.agrees
  waits := follows.line account minuted.account
  listens := by simp only [Listening, abreast.reader]
  place := fun _ => ⟨abreast.reader, abreast.incoming⟩

theorem Minuted.purified (minuted : Minuted talk minutes)
    (framed : List.Forall₂ Frame.Framed (minutes.counted ++ minutes.inHand.toList) frames) :
    ∃ other others, Purified talk minutes frames other others := by
  obtain ⟨before, last, rfl, framed, held⟩ := Frame.framed_append framed
  obtain ⟨other, others, minuted', follows⟩ := minuted.followed framed
  rcases follows.place with behind | abreast
  · exact ⟨_, _, follows.purified_behind minuted' minuted.account behind held⟩
  · have idle : minutes.inHand = none := minuted.account.free fun response answering =>
      abreast.left (.inr ⟨response, answering⟩)
    rw [idle] at held
    cases held
    rw [List.append_nil]
    exact ⟨_, _, follows.purified_abreast minuted' minuted.account abreast⟩

/-- The bodies that count can be framed again, as they were read from frames. -/
theorem Minuted.exists_framed (minuted : Minuted talk minutes) :
    ∃ frames, List.Forall₂ Frame.Framed (minutes.counted ++ minutes.inHand.toList) frames := by
  have counted : minutes.counted.Sublist (bodiesOf minutes.entries) :=
    (countingFrom_sublist [] minutes.entries).filterMap _
  have sublist := counted.append (.refl minutes.inHand.toList)
  refine ⟨(minutes.counted ++ minutes.inHand.toList).map Frame.encode, ?_⟩
  rw [List.forall₂_map_right_iff, List.forall₂_same]
  exact fun body member => minuted.account.stream.framed (sublist.subset member)

/-- Connections with the same entries that count let in the same and give callers the same. -/
theorem Minuted.same_outcome (minuted : Minuted talk minutes) (minuted' : Minuted other others)
    (same : counting others.entries = counting minutes.entries) :
    others.taken ++ other.connection.inbound = minutes.taken ++ talk.connection.inbound ∧
      ∀ index response, Given other.connection index response ↔
        Given talk.connection index response := by
  have inbound : ∀ {talk minutes}, Minuted talk minutes → minutes.taken ++ talk.connection.inbound =
      inboundAmong (bodiesOf (counting minutes.entries)) := fun minuted =>
    minuted.account.inbound.trans (inbound_countingFrom [] _).symm
  have given : ∀ {talk minutes}, Minuted talk minutes → ∀ index response,
      Given talk.connection index response ↔
        (index, response) ∈ givenBy (counting minutes.entries) := by
    intro talk minutes minuted index response
    rw [givenBy, counting, givenFrom_countingFrom]
    exact minuted.account.given index response
  constructor
  · rw [inbound minuted, inbound minuted', same]
  · intro index response
    rw [given minuted, given minuted', same]

/-- The reader of a well-framed stream gets through with its bodies in order; when it has come to
rest it is through with all of them, and it has stopped if the input has ended. -/
theorem Minuted.well_framed (minuted : Minuted talk minutes)
    (framed : List.Forall₂ Frame.Framed bodies frames)
    (received : talk.history.received = frames.flatten) :
    bodiesOf minutes.entries ++ minutes.inHand.toList <+: bodies ∧
      (talk.connection.stepReader = none → bodiesOf minutes.entries = bodies ∧
        minutes.inHand = none ∧ talk.connection.incoming = [] ∧
        (talk.connection.reader = .stopped ↔ talk.connection.ended = true)) := by
  have account := minuted.account
  have whole : Frame.Holds talk.connection.ended talk.history.received bodies [] := by
    have all := (Frame.framed_bodies_read_back framed [] talk.connection.ended).1
    rwa [List.append_nil, ← received] at all
  have before := whole.isPrefix account.stream fun _ _ => Frame.read_nil_ne_body
  refine ⟨before, fun idle => ?_⟩
  have rest := reader_idle idle
  have last : ∀ text rest,
      Frame.read talk.connection.ended talk.connection.incoming ≠ .body text rest := by
    rcases rest with stopped | ⟨_, last⟩
    · rcases account.through.resolve_left (by simp [Listening, stopped]) with ends | ⟨_, failed⟩
      · simp [ends]
      · simp [failed]
    · exact last
  have held : minutes.inHand = none := by
    refine account.free fun response => ?_
    rcases rest with stopped | ⟨reading, _⟩
    · simp [stopped]
    · simp [reading]
  have stream := account.stream
  rw [held, Option.toList_none, List.append_nil] at stream before
  have same : bodiesOf minutes.entries = bodies :=
    before.eq_of_length_le (stream.isPrefix whole last).length_le
  have nothing : talk.connection.incoming = [] := by
    rw [same] at stream
    exact stream.left_unique whole
  refine ⟨same, held, nothing, ?_⟩
  have ends : Frame.read true [] = .ended := by decide +kernel
  have starved : Frame.read false [] = .starved := by decide +kernel
  rcases rest with stopped | ⟨reading, _⟩
  · refine iff_of_true stopped ?_
    have exhausted := account.through.resolve_left (by simp [Listening, stopped])
    cases ended : talk.connection.ended with
    | true => rfl
    | false => simp [Exhausted, nothing, ended, starved] at exhausted
  · refine iff_of_false (by simp [reading]) fun ended => ?_
    simp [Connection.stepReader, reading, nothing, ended, ends] at idle

/-- Bodies that are no messages, responses under unknown ids and repeated responses make no
difference, wherever they stand in a stream and whatever the threads do meanwhile. -/
theorem dropped_bodies_change_nothing (minuted : Minuted talk minutes) :
    (∃ frames, List.Forall₂ Frame.Framed (minutes.counted ++ minutes.inHand.toList) frames) ∧
    (∀ frames, List.Forall₂ Frame.Framed (minutes.counted ++ minutes.inHand.toList) frames →
      ∃ other others, Purified talk minutes frames other others) ∧
    (∀ other others, Minuted other others →
      counting others.entries = counting minutes.entries →
      others.taken ++ other.connection.inbound = minutes.taken ++ talk.connection.inbound ∧
        ∀ index response, Given other.connection index response ↔
          Given talk.connection index response) ∧
    minutes.taken ++ talk.connection.inbound = inboundAmong (bodiesOf minutes.entries) ∧
    ∀ bodies frames, List.Forall₂ Frame.Framed bodies frames →
      talk.history.received = frames.flatten →
      bodiesOf minutes.entries ++ minutes.inHand.toList <+: bodies ∧
        (talk.connection.stepReader = none → bodiesOf minutes.entries = bodies ∧
          minutes.inHand = none ∧ talk.connection.incoming = [] ∧
          (talk.connection.reader = .stopped ↔ talk.connection.ended = true)) :=
  ⟨minuted.exists_framed, fun _ framed => minuted.purified framed,
    fun _ _ minuted' same => minuted.same_outcome minuted' same, minuted.account.inbound,
    fun _ _ framed received => minuted.well_framed framed received⟩

/-- A notification. -/
def notice : String := "\x7b\"jsonrpc\":\"2.0\",\"method\":\"ready\"\x7d"

/-- A connection that has read a body that is no message, a response to nobody and a
notification. -/
def noised : Conversation where
  connection := { inbound := (inboundOf? notice).toList }
  history :=
    { received := Frame.encode "noise" ++ (Frame.encode pong ++ Frame.encode notice) }

theorem minuted_noised :
    Minuted noised ⟨[.body "noise", .body pong, .body notice], none, []⟩ := by
  have framed : Frame.Framed "noise" (Frame.encode "noise") := .encoded (by decide +kernel)
  have framed' : Frame.Framed pong (Frame.encode pong) := .encoded (by decide +kernel)
  have read : Frame.read false (Frame.encode notice) = .body notice [] := by decide +kernel
  have noise : responseOf? "noise" = none := Option.isNone_iff_eq_none.mp (by decide +kernel)
  have silent : inboundOf? "noise" = none := Option.isNone_iff_eq_none.mp (by decide +kernel)
  have other : responseOf? notice = none := Option.isNone_iff_eq_none.mp (by decide +kernel)
  obtain ⟨response, is⟩ := Option.isSome_iff_exists.mp
    (show (responseOf? pong).isSome = true by decide +kernel)
  have came : Minuted ⟨{ incoming := noised.history.received }, noised.history⟩ {} :=
    Minuted.start.event (.receive noised.history.received) rfl
  have dropped : Minuted ⟨{ incoming := Frame.encode pong ++ Frame.encode notice },
      noised.history⟩ ⟨[.body "noise"], none, []⟩ := by
    refine came.read_on ?_ ?_
    · simp only [Connection.stepReader, noised, Frame.read_framed framed, readBody_other noise,
        silent, Option.toList_none, List.append_nil]
    · simp only [Minutes.afterStep, Minutes.note, noised, Frame.read_framed framed, noise,
        Option.isSome_none, Bool.false_eq_true, if_false, List.nil_append]
  have looked : Minuted ⟨{ reader := .answering response, incoming := Frame.encode notice },
      noised.history⟩ ⟨[.body "noise"], some pong, []⟩ := by
    refine dropped.read_on ?_ ?_
    · simp only [Connection.stepReader, Frame.read_framed framed', readBody_response is]
    · simp only [Minutes.afterStep, Frame.read_framed framed', is, Option.isSome_some, if_true]
  have unknown : Minuted ⟨{ incoming := Frame.encode notice }, noised.history⟩
      ⟨[.body "noise", .body pong], none, []⟩ := by
    refine looked.read_on ?_ rfl
    simp only [Connection.stepReader]
    rw [answer_unknown rfl]
  -- The notification is named, not evaluated: unfolding what it is read as takes too long.
  change Minuted ⟨{ inbound := (inboundOf? notice).toList }, noised.history⟩ _
  refine unknown.read_on ?_ ?_
  · simp only [Connection.stepReader, read, readBody_other other, List.nil_append]
  · simp only [Minutes.afterStep, Minutes.note, read, other, Option.isSome_none,
      Bool.false_eq_true, if_false, List.cons_append, List.nil_append]

/-- A notification comes in, and callers wait, as if there had been no noise. -/
theorem notice_comes_through_noise : ∃ minutes, Minuted noised minutes ∧
    bodiesOf minutes.entries = ["noise", pong, notice] ∧
    ∃ other others, Purified noised minutes [Frame.encode notice] other others := by
  have counted : (⟨[.body "noise", .body pong, .body notice], none, []⟩ : Minutes).counted =
      [notice] := by
    decide +kernel
  refine ⟨_, minuted_noised, rfl,
    (dropped_bodies_change_nothing minuted_noised).2.1 [Frame.encode notice] ?_⟩
  rw [counted]
  exact .cons (.encoded (by decide +kernel)) .nil

end LanguageBridge.Conversation
