import LanguageBridge.Proofs.Edit.Application
import LanguageBridge.Proofs.Edit.Overlap
import LanguageBridge.Proofs.Text.Columns

/-!
Places of a text and the lines it is cut into. The place behind a front of the text is a line and a
column of its lines, in either count, and leads back to the same offset.
-/
namespace LanguageBridge.Text

theorem pieces_append_of_clean {line : Text} (clean : '\n' ∉ line) (text : Text) :
    ∃ piece others, pieces text = piece :: others ∧
      pieces (line ++ text) = (line ++ piece) :: others := by
  induction line with
  | nil =>
    obtain ⟨piece, others, cut⟩ := List.exists_cons_of_ne_nil (pieces_ne_nil text)
    exact ⟨piece, others, cut, cut⟩
  | cons c line ih =>
    rw [List.mem_cons, not_or] at clean
    obtain ⟨piece, others, cut, longer⟩ := ih clean.2
    refine ⟨piece, others, cut, ?_⟩
    simp [pieces, Ne.symm clean.1, longer]

end LanguageBridge.Text

namespace LanguageBridge

open Text TextEdit

/-- The place behind a text that starts at a place. -/
def EditorPosition.advance (start : EditorPosition) (text : Text) : EditorPosition :=
  if '\n' ∈ text then ⟨start.line + text.count '\n', (lastLine [] text).byteLength + 1⟩
  else ⟨start.line, start.column + text.byteLength⟩

/-- An editor's place in some lines as the protocol counts, with numbers of any size. -/
def EditorPosition.inLines (position : EditorPosition) (lines : List Text) : ProtocolPosition where
  line := position.line - 1
  character :=
    match lines[position.line - 1]? with
    | some line => line.unitsBefore (position.column - 1)
    | none => position.column - 1

/-- The protocol's place behind a text. -/
def ProtocolPosition.behind (text : Text) : ProtocolPosition :=
  ⟨text.count '\n', (lastLine [] text).unitLength⟩

/-- Where 32 bits are enough, places are converted so. -/
theorem EditorPosition.inLines_eq_toProtocol {position : EditorPosition} {lines : List Text}
    {line : Text} (found : lines[position.line - 1]? = some line)
    (above : position.line ≤ 4294967296) (short : line.unitLength < 4294967296) :
    position.inLines lines = position.toProtocol (some line) := by
  have units := line.unitsBefore_le_unitLength (position.column - 1)
  simp only [inLines, toProtocol, found, narrow_of_lt (Nat.lt_of_le_of_lt units short)]
  rw [narrow_of_lt (by omega)]

namespace TextEdit

theorem lastLine_append (line front back : Text) :
    lastLine line (front ++ back) = lastLine (lastLine line front) back := by
  induction front generalizing line with
  | nil => rfl
  | cons c rest ih =>
    simp only [List.cons_append, lastLine]
    split <;> exact ih _

theorem lastLine_of_clean {text : Text} (clean : '\n' ∉ text) (line : Text) :
    lastLine line text = line ++ text := by
  induction text generalizing line with
  | nil => simp [lastLine]
  | cons c rest ih =>
    rw [List.mem_cons, not_or] at clean
    rw [lastLine, if_neg (Ne.symm clean.1), ih clean.2, List.append_assoc]
    rfl

theorem lastLine_of_feed {text : Text} (feed : '\n' ∈ text) (line : Text) :
    lastLine line text = lastLine [] text := by
  induction text generalizing line with
  | nil => cases feed
  | cons c rest ih =>
    by_cases here : c = '\n'
    · simp [lastLine, here]
    · have later : '\n' ∈ rest := (List.mem_cons.mp feed).resolve_left (Ne.symm here)
      rw [lastLine, lastLine, if_neg here, if_neg here, ih later, ← ih later]

/-- The place behind a part of a text is as far from its start as the part goes. -/
theorem placeAt_advance (before new after : Text) :
    placeAt (before ++ (new ++ after)) (before ++ new).byteLength =
      (placeAt (before ++ (new ++ after)) before.byteLength).advance new := by
  rw [placeAt_append, ← List.append_assoc, placeAt_append, EditorPosition.advance, lastLine_append,
    List.count_append]
  by_cases feed : '\n' ∈ new
  · rw [if_pos feed, lastLine_of_feed feed, Nat.add_right_comm]
  · rw [if_neg feed, lastLine_of_clean feed, List.count_eq_zero_of_not_mem feed, byteLength_append]
    simp only [EditorPosition.mk.injEq, Nat.add_zero, true_and]
    omega

/-- The line that a front of a text stops on, and how many bytes are before it. -/
theorem pieces_at {line : Text} (clean : '\n' ∉ line) (before after : Text) :
    ∃ rest, (pieces (line ++ (before ++ after)))[before.count '\n']? =
        some (lastLine line before ++ rest) ∧
      bytesBefore (pieces (line ++ (before ++ after))) (before.count '\n') +
        (lastLine line before).byteLength = line.byteLength + before.byteLength := by
  induction before generalizing line with
  | nil =>
    obtain ⟨piece, others, _, cut⟩ := pieces_append_of_clean clean after
    exact ⟨piece, by simp [cut, lastLine], by simp [cut, lastLine, bytesBefore]⟩
  | cons c before ih =>
    by_cases feed : c = '\n'
    · subst feed
      obtain ⟨rest, found, bytes⟩ := ih (List.not_mem_nil (a := '\n'))
      have one : '\n'.utf8Size = 1 := rfl
      refine ⟨rest, ?_, ?_⟩
      · rw [List.cons_append, pieces_append_feed_cons clean, List.count_cons_self,
          List.getElem?_cons_succ]
        simpa [lastLine] using found
      · rw [List.cons_append, pieces_append_feed_cons clean, List.count_cons_self, bytesBefore]
        simp only [lastLine, if_true, byteLength_cons, one, List.nil_append, byteLength_nil]
          at bytes ⊢
        omega
    · have longer : '\n' ∉ line ++ [c] := by simp [clean, Ne.symm feed]
      obtain ⟨rest, found, bytes⟩ := ih longer
      have whole : line ++ [c] ++ (before ++ after) = line ++ (c :: before ++ after) := by simp
      rw [whole] at found bytes
      rw [List.count_cons_of_ne feed, lastLine, if_neg feed]
      refine ⟨rest, found, bytes.trans ?_⟩
      simp [Nat.add_assoc]

variable (before after : Text)

/-- The place behind a front of a text is converted to the protocol's. -/
theorem inLines_placeAt : (placeAt (before ++ after) before.byteLength).inLines
    (pieces (before ++ after)) = .behind before := by
  obtain ⟨rest, found, _⟩ := pieces_at (List.not_mem_nil (a := '\n')) before after
  rw [List.nil_append] at found
  rw [placeAt_append, EditorPosition.inLines, ProtocolPosition.behind]
  simp only [Nat.add_sub_cancel, found, unitsBefore_append]

/-- The protocol's place behind a front of a text falls there. -/
theorem offsetOf_behind :
    offsetOf (pieces (before ++ after)) (.behind before) = before.byteLength := by
  obtain ⟨rest, found, bytes⟩ := pieces_at (List.not_mem_nil (a := '\n')) before after
  rw [List.nil_append] at found bytes
  have line : (pieces (before ++ after))[(ProtocolPosition.behind before).line]? =
      some (lastLine [] before ++ rest) := found
  rw [offsetOf_of_line line]
  simp only [ProtocolPosition.behind, byteAt_append, bytes, byteLength_nil, Nat.zero_add]

/-- Further behind is not before. -/
theorem behind_notAfter_append :
    (ProtocolPosition.behind before).notAfter (.behind (before ++ after)) = true := by
  rw [ProtocolPosition.notAfter_iff]
  simp only [ProtocolPosition.behind, List.count_append, lastLine_append]
  by_cases feed : '\n' ∈ after
  · have some := List.count_pos_iff.mpr feed
    exact .inl (by omega)
  · rw [lastLine_of_clean feed, List.count_eq_zero_of_not_mem feed, unitLength_append]
    exact .inr ⟨rfl, by omega⟩

end TextEdit

end LanguageBridge

/-!
Taking edits back. What was replaced is put back in the place of what replaced it, told by where new
texts start and how far they go in the edited lines.
-/
namespace LanguageBridge.TextEdit

open Text

/-- The text that an edit takes away. -/
def covered (lines : List Text) (edit : TextEdit) : Text :=
  (((joinLines lines).splitAtByte (place lines edit).stop).1.splitAtByte
    (place lines edit).start).2

/-- What takes an edit of some lines back in the lines that were made of them, where its new text
starts at a place. -/
def inverse (lines made : List Text) (edit : TextEdit) (start : EditorPosition) : TextEdit where
  span := ⟨start.inLines made, (start.advance edit.newText).inLines made⟩
  newText := covered lines edit

/-- What takes edits back that were applied to some lines, one for each in order. -/
def inverses (lines : List Text) (edits : List TextEdit) (applied : Applied) : List TextEdit :=
  List.zipWith (fun edit entry => inverse lines applied.lines edit entry.2) (sorted edits)
    applied.starts

variable {lines : List Text} {edits : List TextEdit} {edit : TextEdit}
  {front kept gone rest made text result whole : Text} {position : ProtocolPosition}

theorem covered_eq (original : joinLines lines = front ++ (kept ++ (gone ++ rest)))
    (start : (place lines edit).start = (front ++ kept).byteLength)
    (stop : (place lines edit).stop = (place lines edit).start + gone.byteLength) :
    covered lines edit = gone := by
  have cut : joinLines lines = (front ++ kept ++ gone) ++ rest := by simp [original]
  have reach : (place lines edit).stop = (front ++ kept ++ gone).byteLength := by
    rw [stop, start, ← byteLength_append]
  rw [covered, cut, reach, splitAtByte_append, start, splitAtByte_append]

/-- The span of an inverse is that of the new text, -/
theorem span_inverse (lines : List Text) (split : whole = made ++ (edit.newText ++ rest)) :
    (inverse lines (pieces whole) edit (placeAt whole made.byteLength)).span =
      ⟨.behind made, .behind (made ++ edit.newText)⟩ := by
  have later : whole = (made ++ edit.newText) ++ rest := by rw [split, List.append_assoc]
  simp only [inverse, Span.mk.injEq]
  constructor
  · rw [split, inLines_placeAt]
  · rw [split, ← placeAt_advance, ← split, later, inLines_placeAt]

/-- and it falls there. -/
theorem place_inverse (lines : List Text) (split : whole = made ++ (edit.newText ++ rest)) :
    place (pieces whole) (inverse lines (pieces whole) edit (placeAt whole made.byteLength)) =
      ⟨made.byteLength, (made ++ edit.newText).byteLength, covered lines edit⟩ := by
  have later : whole = (made ++ edit.newText) ++ rest := by rw [split, List.append_assoc]
  have start : offsetOf (pieces whole) (.behind made) = made.byteLength := by
    rw [split, offsetOf_behind]
  have stop : offsetOf (pieces whole) (.behind (made ++ edit.newText)) =
      (made ++ edit.newText).byteLength := by
    rw [later, offsetOf_behind]
  rw [place, span_inverse lines split, start, stop, Nat.max_eq_left (by simp)]
  rfl

/-- Edits that each start no earlier than the one before stops and stop no earlier than they start,
the first from a place on. -/
def Consecutive : ProtocolPosition → List TextEdit → Prop
  | _, [] => True
  | position, edit :: rest => position.notAfter edit.span.start = true ∧
    edit.span.start.notAfter edit.span.stop = true ∧ Consecutive edit.span.stop rest

theorem Consecutive.notAfter (consecutive : Consecutive position edits) :
    ∀ edit ∈ edits, position.notAfter edit.span.start = true ∧
      position.notAfter edit.span.stop = true := by
  induction edits generalizing position with
  | nil => simp
  | cons first rest ih =>
    obtain ⟨before, forward, behind⟩ := consecutive
    have reached := ProtocolPosition.notAfter_trans before forward
    intro edit member
    rcases List.mem_cons.mp member with rfl | later
    · exact ⟨before, reached⟩
    · obtain ⟨start, stop⟩ := ih behind edit later
      exact ⟨ProtocolPosition.notAfter_trans reached start,
        ProtocolPosition.notAfter_trans reached stop⟩

/-- Such edits are in order already. -/
theorem Consecutive.sorted_eq (consecutive : Consecutive position edits) :
    sorted edits = edits := by
  refine List.mergeSort_of_pairwise ?_
  induction edits generalizing position with
  | nil => exact .nil
  | cons first rest ih =>
    obtain ⟨_, forward, behind⟩ := consecutive
    refine .cons (fun edit later => ?_) (ih behind)
    obtain ⟨start, stop⟩ := behind.notAfter edit later
    have starts := ProtocolPosition.notAfter_trans forward start
    rw [Span.notAfter_iff]
    cases back : edit.span.start.notAfter first.span.start with
    | false => exact .inl rfl
    | true => exact .inr ⟨ProtocolPosition.notAfter_antisymm starts back, stop⟩

theorem Consecutive.accepted (consecutive : Consecutive position edits) :
    overlap? edits = none := by
  rw [overlap?_eq_none_iff]
  induction edits generalizing position with
  | nil => exact .nil
  | cons first rest ih =>
    obtain ⟨_, _, behind⟩ := consecutive
    refine List.isChain_cons.mpr ⟨?_, ih behind⟩
    exact fun edit head => (behind.notAfter edit (List.mem_of_mem_head? head)).1

/-- The inverses of some edits, whose new texts start at some offsets of the edited text. -/
def inversesAt (lines : List Text) (whole : Text) (edits : List TextEdit) (starts : List Nat) :
    List TextEdit :=
  List.zipWith (fun edit start => inverse lines (pieces whole) edit (placeAt whole start)) edits
    starts

/-- Edits of what was made that come one after the other behind some of it and turn the rest of it
back. -/
structure TurnsBack (whole made : Text) (edits : List TextEdit) (result text : Text) : Prop where
  consecutive : Consecutive (.behind made) edits
  replaced : Replaced made.byteLength (edits.map (place (pieces whole))) result text

/-- One more inverse, of an edit in front of those whose inverses follow. -/
theorem TurnsBack.cons {others : List TextEdit} {after : Text}
    (behind : TurnsBack whole (made ++ kept ++ edit.newText) others after rest)
    (split : whole = (made ++ kept) ++ (edit.newText ++ after))
    (taken : covered lines edit = gone) :
    TurnsBack whole made
      (inverse lines (pieces whole) edit (placeAt whole (made ++ kept).byteLength) :: others)
      (kept ++ (edit.newText ++ after)) (kept ++ (gone ++ rest)) := by
  have span := span_inverse lines split
  have placed := place_inverse lines split
  rw [taken] at placed
  refine ⟨⟨?_, ?_, ?_⟩, ?_⟩
  · rw [span]
    exact behind_notAfter_append made kept
  · rw [span]
    exact behind_notAfter_append (made ++ kept) edit.newText
  · rw [span]
    exact behind.consecutive
  · rw [List.map_cons, placed]
    refine .stretch kept edit.newText ?_ ?_ behind.replaced
    · exact byteLength_append made kept
    · exact byteLength_append (made ++ kept) edit.newText

/-- Going on behind some text, and the text that was made of it, the inverses turn what was made
back. -/
theorem Replaced.inverted {added removed : Nat}
    (replaced : Replaced front.byteLength (edits.map (place lines)) text result)
    (original : joinLines lines = front ++ text) (split : whole = made ++ result)
    (grown : made.byteLength + removed = front.byteLength + added) :
    TurnsBack whole made
      (inversesAt lines whole edits (newStarts added removed (edits.map (place lines))))
      result text := by
  induction edits generalizing front made text result added removed with
  | nil =>
    cases replaced
    exact ⟨trivial, .nothing _ _⟩
  | cons edit others ih =>
    obtain _ | @⟨_, _, _, rest, after, kept, gone, start, stop, behind⟩ := replaced
    have begun : (place lines edit).start = (front ++ kept).byteLength := by
      rw [start, byteLength_append]
    have newStart : (place lines edit).start + added - removed = (made ++ kept).byteLength := by
      rw [begun, byteLength_append, byteLength_append]
      omega
    have reach : (place lines edit).stop = (front ++ kept ++ gone).byteLength := by
      rw [stop, begun, ← byteLength_append]
    rw [reach] at behind
    have here : whole = (made ++ kept) ++ (edit.newText ++ after) := by rw [split]; simp
    have counted : (made ++ kept ++ edit.newText).byteLength +
        (removed + ((place lines edit).stop - (place lines edit).start)) =
          (front ++ kept ++ gone).byteLength + (added + edit.newText.byteLength) := by
      rw [stop]
      simp only [byteLength_append]
      omega
    have back := ih behind (by rw [original]; simp) (by rw [here]; simp) counted
    simp only [List.map_cons, newStarts, inversesAt, List.zipWith_cons_cons, place_newText,
      newStart]
    exact back.cons here (covered_eq original begun stop)

/-- The inverses of applied edits start where the new texts of the edits are said to start. -/
theorem inverses_eq (file : String) (accepted : overlap? (sorted edits) = none)
    (made : replaceAll ((sorted edits).map (place lines)) (joinLines lines) = whole)
    (pure : '\r' ∉ whole) {applied : Applied} (done : apply file lines edits = .ok applied) :
    applied.lines = pieces whole ∧ inverses lines edits applied =
      inversesAt lines whole (sorted edits) (newStarts 0 0 ((sorted edits).map (place lines))) := by
  rw [apply, accepted] at done
  cases done
  simp only [made, inverses, inversesAt, splitLines_of_clean pure, true_and]
  have starts := length_newStarts 0 0 ((sorted edits).map (place lines))
  refine List.ext_getElem (by simp [starts]) fun index low high => ?_
  simp

/-- Edits of lines without carriage returns are taken back: the inverses of all that were applied,
which reach from where each new text is said to start to where it ends and bring what its edit took
away, are carried out on the lines that were made and give the old ones. Their places are converted
as all are, where the protocol's numbers are large enough. -/
theorem edits_taken_back (file : String) {applied : Applied} (some : lines ≠ [])
    (feeds : ∀ line ∈ lines, '\n' ∉ line) (returns : ∀ line ∈ lines, '\r' ∉ line)
    (pure : ∀ edit ∈ edits, '\r' ∉ edit.newText) (done : apply file lines edits = .ok applied) :
    (inverses lines edits applied).length = edits.length ∧
      (∃ back, apply file applied.lines (inverses lines edits applied) = .ok back ∧
        back.lines = lines) ∧
      ∀ (position : EditorPosition) (line : Text),
        applied.lines[position.line - 1]? = .some line → position.line ≤ 4294967296 →
          line.unitLength < 4294967296 →
            position.inLines applied.lines = position.toProtocol (.some line) := by
  have accepted := (apply_ok_iff file lines).mp ⟨applied, done⟩
  obtain ⟨whole, replaced⟩ := exists_replaced_place lines accepted
  have made : replaceAll ((sorted edits).map (place lines)) (joinLines lines) = whole :=
    replaced.replaceAll [] rfl
  have clean : '\r' ∉ whole := by
    intro member
    rcases replaced.mem member with inside | ⟨placed, present, inside⟩
    · exact not_mem_joinLines (by decide) returns inside
    · obtain ⟨edit, here, rfl⟩ := List.mem_map.mp present
      exact pure edit ((sorted_perm _).mem_iff.mp here) inside
  obtain ⟨cut, inverse⟩ := inverses_eq file accepted made clean done
  have fromStart : Replaced (byteLength []) ((sorted edits).map (place lines)) (joinLines lines)
      whole := replaced
  have back := fromStart.inverted (List.nil_append _).symm (List.nil_append whole).symm
    (rfl : byteLength [] + 0 = byteLength [] + 0)
  rw [← inverse] at back
  have text : joinLines applied.lines = whole := by rw [cut, joinLines_pieces]
  refine ⟨?_, ?_, fun _ _ => EditorPosition.inLines_eq_toProtocol⟩
  · rw [inverse, inversesAt, List.length_zipWith, length_newStarts, List.length_map, Nat.min_self]
    exact (sorted_perm edits).length_eq
  · have restored := back.replaced.replaceAll [] rfl
    rw [← cut, List.nil_append, List.nil_append] at restored
    refine ⟨_, by simp only [apply, back.consecutive.sorted_eq, back.consecutive.accepted]; rfl, ?_⟩
    simp only [text, restored]
    rw [splitLines_of_clean (not_mem_joinLines (by decide) returns), pieces_joinLines some feeds]

/-- Edits that touch each other: one takes away, one replaces a line end, one inserts. -/
def touching : List TextEdit :=
  [⟨⟨⟨0, 0⟩, ⟨0, 1⟩⟩, []⟩, ⟨⟨⟨0, 1⟩, ⟨1, 0⟩⟩, ['é', '\n', 'y']⟩, ⟨⟨⟨1, 0⟩, ⟨1, 0⟩⟩, ['\n']⟩]

theorem touching_taken_back :
    (∀ line ∈ [['a', '😀'], ['b']], '\n' ∉ line ∧ '\r' ∉ line) ∧
      (∀ edit ∈ touching, '\r' ∉ edit.newText) ∧
      ∃ applied back, apply "a" [['a', '😀'], ['b']] touching = .ok applied ∧
        applied.lines = [['é'], ['y'], ['b']] ∧
        apply "a" applied.lines (inverses [['a', '😀'], ['b']] touching applied) = .ok back ∧
        back.lines = [['a', '😀'], ['b']] := by
  have inOrder : Consecutive ⟨0, 0⟩ touching := ⟨rfl, rfl, rfl, rfl, rfl, rfl, trivial⟩
  obtain ⟨applied, done, made⟩ : ∃ applied, apply "a" [['a', '😀'], ['b']] touching = .ok applied ∧
      applied.lines = [['é'], ['y'], ['b']] := by
    refine ⟨_, by rw [apply, inOrder.sorted_eq]; rfl, ?_⟩
    decide
  obtain ⟨_, ⟨back, again, same⟩, _⟩ :=
    edits_taken_back "a" (by decide) (by decide) (by decide) (by decide) done
  exact ⟨by decide, by decide, applied, back, done, made, again, same⟩

end LanguageBridge.TextEdit
