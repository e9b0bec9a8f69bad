import LanguageBridge.Proofs.Edit.Order
import LanguageBridge.Proofs.Text.Lines

/-!
What applying edits comes to. The spans are replaced all at once, however far beyond their lines
they reach, and every new text starts where it is said to. Edits are put in order by what they ask
for and not by where that falls in the text, so insertions that fall on one place may change their
order.
-/
namespace LanguageBridge.TextEdit

open Text

variable {lines : List Text} {text result : Text} {offset : Nat} {edits : List TextEdit}

/-- Where a place falls in a text: at the end when the text has no such line; else in its line,
behind the fewest characters that take the units, or behind the whole line when it is shorter. -/
inductive Falls (text : Text) (position : ProtocolPosition) : Nat → Prop
  | behind (short : text.count '\n' < position.line) : Falls text position text.byteLength
  | inside (above head tail below : Text) (whole : text = above ++ (head ++ (tail ++ below)))
      (number : above.count '\n' = position.line) (begins : ∀ c ∈ above.getLast?, c = '\n')
      (ends : ∀ c ∈ below.head?, c = '\n') (line : '\n' ∉ head ++ tail)
      (reached : position.character ≤ head.unitLength ∨ tail = [])
      (fewest : ∀ (front : Text) c, head = front ++ [c] →
        front.unitLength < position.character) :
      Falls text position (above ++ head).byteLength

/-- The fewest characters of a line that take some units, or all of them. -/
theorem exists_byteAt (line : Text) (units : Nat) :
    ∃ head tail : Text, line = head ++ tail ∧ head.byteLength = line.byteAt units ∧
      (units ≤ head.unitLength ∨ tail = []) ∧
      ∀ (front : Text) c, head = front ++ [c] → front.unitLength < units := by
  induction line generalizing units with
  | nil => exact ⟨[], [], rfl, rfl, .inr rfl, by simp⟩
  | cons c rest ih =>
    by_cases none : units = 0
    · exact ⟨[], c :: rest, rfl, by simp [byteAt, none], .inl (by simp [none]), by simp⟩
    · obtain ⟨head, tail, same, length, reached, fewest⟩ := ih (units - unitsOf c)
      refine ⟨c :: head, tail, by simp [same], by simp [byteAt, none, length], ?_, ?_⟩
      · refine reached.imp_left fun enough => ?_
        simp only [unitLength]
        omega
      · intro front last cut
        cases front with
        | nil => exact Nat.pos_of_ne_zero none
        | cons first front =>
          obtain ⟨rfl, behind⟩ := List.cons.inj cut
          have less := fewest front last behind
          simp only [unitLength]
          omega

/-- Lines, each with its line feed behind it. -/
def fed (lines : List Text) : Text := lines.flatMap (· ++ ['\n'])

theorem fed_cons (line : Text) (rest : List Text) :
    fed (line :: rest) = line ++ '\n' :: fed rest := by
  simp [fed]

/-- A line stands behind the lines before it. -/
theorem joinLines_append_cons (front : List Text) (line : Text) (rest : List Text) :
    ∃ below, joinLines (front ++ line :: rest) = fed front ++ (line ++ below) ∧
      (∀ c ∈ below.head?, c = '\n') ∧
      bytesBefore (front ++ line :: rest) front.length = (fed front).byteLength := by
  induction front with
  | nil =>
    cases rest with
    | nil => exact ⟨[], by simp [joinLines, fed], by simp, rfl⟩
    | cons second rest => exact ⟨'\n' :: joinLines (second :: rest), rfl, by simp, rfl⟩
  | cons first front ih =>
    obtain ⟨below, whole, ends, length⟩ := ih
    refine ⟨below, ?_, ends, ?_⟩
    · rw [List.cons_append, joinLines_cons (by simp), whole, fed_cons]
      simp
    · have feed : '\n'.utf8Size = 1 := rfl
      simp only [List.cons_append, List.length_cons, bytesBefore, length, fed_cons,
        byteLength_append, byteLength_cons, feed]
      omega

theorem count_fed (clean : ∀ line ∈ lines, '\n' ∉ line) :
    (fed lines).count '\n' = lines.length := by
  induction lines with
  | nil => rfl
  | cons line rest ih =>
    obtain ⟨here, there⟩ := List.forall_mem_cons.mp clean
    rw [fed_cons, List.count_append, List.count_cons_self, ih there,
      List.count_eq_zero_of_not_mem here, List.length_cons]
    omega

theorem getLast?_fed (lines : List Text) : ∀ c ∈ (fed lines).getLast?, c = '\n' := by
  rcases List.eq_nil_or_concat lines with rfl | ⟨front, last, rfl⟩
  · simp [fed]
  · simp [fed]

/-- A place of the protocol falls in the text of the lines as it should. -/
theorem falls_offsetOf (some : lines ≠ []) (clean : ∀ line ∈ lines, '\n' ∉ line)
    (position : ProtocolPosition) : Falls (joinLines lines) position (offsetOf lines position) := by
  cases found : lines[position.line]? with
  | none =>
    have last : offsetOf lines position = (joinLines lines).byteLength := by
      simp [offsetOf, found]
    have many := length_pieces (joinLines lines)
    rw [pieces_joinLines some clean] at many
    rw [last]
    exact .behind (by rw [List.getElem?_eq_none_iff] at found; omega)
  | some line =>
    obtain ⟨bound, here⟩ := List.getElem?_eq_some_iff.mp found
    have cut := List.take_append_drop position.line lines
    rw [List.drop_eq_getElem_cons bound, here] at cut
    have number : (lines.take position.line).length = position.line := by
      rw [List.length_take]
      omega
    obtain ⟨below, whole, ends, length⟩ :=
      joinLines_append_cons (lines.take position.line) line (lines.drop (position.line + 1))
    rw [cut] at whole length
    rw [number] at length
    obtain ⟨head, tail, parts, units, reached, fewest⟩ := exists_byteAt line position.character
    have reach : offsetOf lines position = (fed (lines.take position.line) ++ head).byteLength := by
      rw [offsetOf_of_line found, length, byteLength_append, units]
    have before : ∀ other ∈ lines.take position.line, '\n' ∉ other :=
      fun other member => clean other (List.mem_of_mem_take member)
    rw [reach]
    refine .inside _ head tail below ?_ ?_ (getLast?_fed _) ends ?_ reached fewest
    · rw [whole, parts, List.append_assoc head]
    · rw [count_fed before, number]
    · rw [← parts]
      exact clean line (List.mem_of_getElem? found)

end LanguageBridge.TextEdit

/-!
Where new texts start.
-/
namespace LanguageBridge.TextEdit

open Text

variable {front rest stretches : List Placed} {placed : Placed} {text result : Text} {offset : Nat}

/-- One stretch among others: what is before it is replaced on its own, and so is what is behind. -/
theorem Replaced.split (replaced : Replaced offset (front ++ placed :: rest) text result) :
    ∃ head gone tail before behind : Text, text = head ++ (gone ++ tail) ∧
      offset + head.byteLength = placed.start ∧ placed.start + gone.byteLength = placed.stop ∧
      Replaced offset front head before ∧ Replaced placed.stop rest tail behind ∧
      result = before ++ (placed.newText ++ behind) := by
  induction front generalizing offset text result with
  | nil =>
    cases replaced with
    | stretch kept gone start stop later =>
      exact ⟨kept, gone, _, kept, _, rfl, start.symm, stop.symm, .nothing _ _, later, rfl⟩
  | cons first front ih =>
    cases replaced with
    | stretch kept lost start stop later =>
      obtain ⟨head, gone, tail, before, behind, rfl, reach, ends, earlier, follows, rfl⟩ := ih later
      refine ⟨kept ++ (lost ++ head), gone, tail, kept ++ (first.newText ++ before), behind,
        by simp, ?_, ends, .stretch kept lost start stop earlier, follows, by simp⟩
      simp only [byteLength_append]
      omega

/-- How many bytes replacements bring. -/
def brought : List Placed → Nat
  | [] => 0
  | placed :: rest => placed.newText.byteLength + brought rest

/-- How many bytes replacements take away. -/
def taken : List Placed → Nat
  | [] => 0
  | placed :: rest => placed.stop - placed.start + taken rest

theorem Replaced.length (replaced : Replaced offset stretches text result) :
    result.byteLength + taken stretches = text.byteLength + brought stretches := by
  induction replaced with
  | nothing => rfl
  | stretch kept gone start stop behind ih =>
    simp only [taken, brought, byteLength_append] at ih ⊢
    omega

/-- A new text stands behind what the replacements in front made of the text before its stretch, and
as far on as they brought more than they took. -/
theorem Replaced.behind_front (replaced : Replaced 0 (front ++ placed :: rest) text result) :
    ∃ head tail before behind : Text, text = head ++ tail ∧ head.byteLength = placed.start ∧
      Replaced 0 front head before ∧ result = before ++ (placed.newText ++ behind) ∧
      taken front ≤ placed.start + brought front ∧
      before.byteLength = placed.start + brought front - taken front := by
  obtain ⟨head, gone, tail, before, behind, whole, reach, -, earlier, -, made⟩ := replaced.split
  have grown := earlier.length
  exact ⟨head, gone ++ tail, before, behind, whole, by omega, earlier, made, by omega, by omega⟩

theorem newStarts_append_cons (added removed : Nat) (front : List Placed) (placed : Placed)
    (rest : List Placed) : (newStarts added removed (front ++ placed :: rest))[front.length]? =
      some (placed.start + (added + brought front) - (removed + taken front)) := by
  induction front generalizing added removed with
  | nil => simp [newStarts, brought, taken]
  | cons first front ih =>
    rw [List.cons_append, newStarts, List.length_cons, List.getElem?_cons_succ, ih]
    simp only [brought, taken, Nat.add_assoc]

theorem length_newStarts (added removed : Nat) (stretches : List Placed) :
    (newStarts added removed stretches).length = stretches.length := by
  induction stretches generalizing added removed with
  | nil => rfl
  | cons placed rest ih => rw [newStarts, List.length_cons, List.length_cons, ih]

/-- The place behind a text: as far down as it has line feeds and as far right as its last line
has bytes, both counted from one. -/
def PlaceBehind (before : Text) (place : EditorPosition) : Prop :=
  ∃ above line : Text, before = above ++ line ∧ (∀ c ∈ above.getLast?, c = '\n') ∧ '\n' ∉ line ∧
    place = ⟨before.count '\n' + 1, line.byteLength + 1⟩

theorem exists_lastLine {line : Text} (whole : '\n' ∉ line) (text : Text) :
    ∃ above, line ++ text = above ++ lastLine line text ∧ (∀ c ∈ above.getLast?, c = '\n') ∧
      '\n' ∉ lastLine line text := by
  induction text generalizing line with
  | nil => exact ⟨[], by simp [lastLine], by simp, whole⟩
  | cons c rest ih =>
    by_cases feed : c = '\n'
    · obtain ⟨above, cut, ends, clean⟩ := ih (List.not_mem_nil (a := '\n'))
      simp only [lastLine, feed, if_true]
      refine ⟨line ++ '\n' :: above, by simpa using cut, ?_, clean⟩
      rcases List.eq_nil_or_concat above with rfl | ⟨others, last, rfl⟩
      · simp
      · simpa [List.getLast?_cons] using ends
    · have longer : '\n' ∉ line ++ [c] := by
        simp [whole, Ne.symm feed]
      obtain ⟨above, cut, ends, clean⟩ := ih longer
      simp only [lastLine, feed, if_false]
      exact ⟨above, by simpa using cut, ends, clean⟩

theorem placeAt_append (before after : Text) :
    placeAt (before ++ after) before.byteLength =
      ⟨before.count '\n' + 1, (lastLine [] before).byteLength + 1⟩ := by
  rw [placeAt, splitAtByte_append]

theorem placeBehind_placeAt (before after : Text) :
    PlaceBehind before (placeAt (before ++ after) before.byteLength) := by
  obtain ⟨above, cut, ends, clean⟩ := exists_lastLine (List.not_mem_nil (a := '\n')) before
  refine ⟨above, lastLine [] before, by simpa using cut, ends, clean, ?_⟩
  rw [placeAt_append]

/-- In turn, last first, each stretch is still where it was when its turn comes. -/
theorem Replaced.in_turn (replaced : Replaced 0 (front ++ placed :: rest) text result) :
    placed.start ≤ placed.stop ∧ Boundary (TextEdit.replaceAll rest text) placed.start ∧
      Boundary (TextEdit.replaceAll rest text) placed.stop := by
  obtain ⟨head, gone, tail, before, behind, rfl, reach, ends, -, follows, -⟩ := replaced.split
  have reached : (head ++ gone).byteLength = placed.stop := by
    rw [byteLength_append]
    omega
  have later := follows.replaceAll (head ++ gone) reached
  rw [List.append_assoc] at later
  rw [later, List.append_assoc]
  exact ⟨by omega, ⟨head, gone ++ behind, rfl, by omega⟩, ⟨head ++ gone, behind, by simp, reached⟩⟩

end LanguageBridge.TextEdit

/-!
Edits applied.
-/
namespace LanguageBridge.TextEdit

open Text

variable {lines : List Text} {edits : List TextEdit}

/-- Whether an edit only inserts, at an offset. -/
def insertsAt (lines : List Text) (offset : Nat) (edit : TextEdit) : Bool :=
  (place lines edit).start = offset && (place lines edit).stop = offset

/-- What became of an edit that stands between others in order. -/
structure Put (lines : List Text) (front : List TextEdit) (edit : TextEdit) (rest : List TextEdit)
    (text : Text) (entry : Span × EditorPosition) : Prop where
  span : entry.1 = edit.span
  /-- The span starts where its start falls, -/
  start : Falls (joinLines lines) edit.span.start (place lines edit).start
  /-- and stops where its end falls, or where it starts when that is later. -/
  stop : ∃ offset, Falls (joinLines lines) edit.span.stop offset ∧
    (place lines edit).stop = max offset (place lines edit).start
  /-- When its turn comes the text is long enough and can be cut at both ends of the span. -/
  forward : (place lines edit).start ≤ (place lines edit).stop
  startCut : Boundary (replaceAll (rest.map (place lines)) (joinLines lines))
    (place lines edit).start
  stopCut : Boundary (replaceAll (rest.map (place lines)) (joinLines lines))
    (place lines edit).stop
  /-- The offset of its new text is counted without going below zero and can be cut at, -/
  counted : taken (front.map (place lines)) ≤
    (place lines edit).start + brought (front.map (place lines))
  newCut : Boundary text
    ((place lines edit).start + brought (front.map (place lines)) - taken (front.map (place lines)))
  /-- and its new text stands behind what the edits in front made of the text before it, at the
  place that is told. -/
  stands : ∃ head before behind : Text, (∃ tail, joinLines lines = head ++ tail) ∧
    head.byteLength = (place lines edit).start ∧ Replaced 0 (front.map (place lines)) head before ∧
    text = before ++ (edit.newText ++ behind) ∧ PlaceBehind before entry.2

/-- Edits in order, carried out at once. -/
structure AtOnce (lines : List Text) (edits : List TextEdit) (applied : Applied) (text : Text) :
    Prop where
  apart : (edits.map (place lines)).Pairwise fun first second => first.stop ≤ second.start
  replaced : Replaced 0 (edits.map (place lines)) (joinLines lines) text
  splits : applied.lines = text.splitLines
  starts : applied.starts.length = edits.length
  put : ∀ front edit rest, edits = front ++ edit :: rest →
    ∃ entry, applied.starts[front.length]? = some entry ∧ Put lines front edit rest text entry

theorem Ascending.apart {offset : Nat} {stretches : List Placed}
    (ascending : Ascending offset stretches) :
    stretches.Pairwise (fun first second => first.stop ≤ second.start) ∧
      ∀ placed ∈ stretches, offset ≤ placed.start := by
  induction stretches generalizing offset with
  | nil => simp
  | cons placed rest ih =>
    obtain ⟨reached, forward, later⟩ := ascending
    obtain ⟨apart, behind⟩ := ih later
    refine ⟨List.pairwise_cons.mpr ⟨behind, apart⟩, fun other member => ?_⟩
    rcases List.mem_cons.mp member with rfl | inside
    · exact reached
    · have := behind other inside
      omega

theorem put_of_replaced (some : lines ≠ []) (clean : ∀ line ∈ lines, '\n' ∉ line)
    {front : List TextEdit} {edit : TextEdit} {rest : List TextEdit} {text : Text}
    (replaced : Replaced 0 ((front ++ edit :: rest).map (place lines)) (joinLines lines) text) :
    Put lines front edit rest text (edit.span, placeAt text ((place lines edit).start +
      brought (front.map (place lines)) - taken (front.map (place lines)))) := by
  rw [List.map_append, List.map_cons] at replaced
  obtain ⟨forward, startCut, stopCut⟩ := replaced.in_turn
  obtain ⟨head, tail, before, behind, whole, reach, earlier, rfl, counted, length⟩ :=
    replaced.behind_front
  refine ⟨rfl, falls_offsetOf some clean _, ⟨_, falls_offsetOf some clean _, rfl⟩, forward,
    startCut, stopCut, counted, ⟨before, _, rfl, length⟩,
    ⟨head, before, behind, ⟨_, whole⟩, reach, earlier, rfl, ?_⟩⟩
  rw [← length]
  exact placeBehind_placeAt before _

/-- Every edit in order is told with the place that its new text starts at. -/
theorem getElem?_starts (lines : List Text) (text : Text) (front : List TextEdit) (edit : TextEdit)
    (rest : List TextEdit) :
    (((front ++ edit :: rest).map (·.span)).zip ((newStarts 0 0
      ((front ++ edit :: rest).map (place lines))).map (placeAt text)))[front.length]? =
      Option.some (edit.span, placeAt text ((place lines edit).start +
        brought (front.map (place lines)) - taken (front.map (place lines)))) := by
  have start := newStarts_append_cons 0 0 (front.map (place lines)) (place lines edit)
    (rest.map (place lines))
  rw [List.length_map, Nat.zero_add, Nat.zero_add] at start
  rw [List.getElem?_zip_eq_some]
  simp [start]

/-- Accepted edits are carried out at once. -/
theorem exists_atOnce (file : String) (some : lines ≠ []) (clean : ∀ line ∈ lines, '\n' ∉ line)
    (accepted : overlap? (sorted edits) = none) :
    ∃ applied text, apply file lines edits = .ok applied ∧
      AtOnce lines (sorted edits) applied text := by
  obtain ⟨text, replaced⟩ := exists_replaced_place lines accepted
  have made : replaceAll ((sorted edits).map (place lines)) (joinLines lines) = text :=
    replaced.replaceAll [] rfl
  refine ⟨_, text, by simp only [apply, accepted, made]; rfl, ?_, replaced, rfl, ?_, ?_⟩
  · exact (ascending_place lines (sorted_pairwise edits) accepted fun _ _ => Nat.zero_le _).apart.1
  · simp [length_newStarts]
  · intro front edit rest cut
    rw [cut] at replaced ⊢
    exact ⟨_, getElem?_starts lines text front edit rest, put_of_replaced some clean replaced⟩

/-- Insertions on one place keep their order exactly if they ask for places in that order. -/
theorem kept_order_iff (offset : Nat) :
    (sorted edits).filter (insertsAt lines offset) = edits.filter (insertsAt lines offset) ↔
      (edits.filter (insertsAt lines offset)).Pairwise fun first second =>
        first.span.notAfter second.span = true := by
  constructor
  · intro kept
    rw [← kept]
    exact (sorted_pairwise edits).filter _
  · exact filter_sorted _

/-- Edits that do not overlap are carried out at once, and insertions on one place keep the order
they are given in exactly if the places they ask for are in that order. -/
theorem applied_at_once_iff (file : String) (some : lines ≠ [])
    (clean : ∀ line ∈ lines, '\n' ∉ line) (accepted : overlap? (sorted edits) = none) :
    ∃ applied text, apply file lines edits = .ok applied ∧ (sorted edits).Perm edits ∧
      AtOnce lines (sorted edits) applied text ∧
      ((∀ offset, (sorted edits).filter (insertsAt lines offset) =
          edits.filter (insertsAt lines offset)) ↔
        ∀ offset, (edits.filter (insertsAt lines offset)).Pairwise fun first second =>
          first.span.notAfter second.span = true) := by
  obtain ⟨applied, text, done, atOnce⟩ := exists_atOnce file some clean accepted
  exact ⟨applied, text, done, sorted_perm edits, atOnce, forall_congr' fun _ => kept_order_iff _⟩

/-- One edit behind the last line, and one that ends before it starts, inside a character of two
units. -/
def scattered : List TextEdit :=
  [⟨⟨⟨7, 0⟩, ⟨7, 0⟩⟩, ['c']⟩, ⟨⟨⟨0, 2⟩, ⟨0, 1⟩⟩, ['\n', 'x']⟩]

theorem accepted_scattered : overlap? (sorted scattered) = none := by
  simp [sorted, List.mergeSort, List.MergeSort.Internal.splitInTwo, scattered, Span.notAfter,
    ProtocolPosition.before, ProtocolPosition.notAfter, overlap?]

theorem scattered_applied_at_once :
    [['a', '😀'], ['b']] ≠ [] ∧ (∀ line ∈ [['a', '😀'], ['b']], '\n' ∉ line) ∧
      overlap? (sorted scattered) = none ∧
      ∃ applied text, apply "a" [['a', '😀'], ['b']] scattered = .ok applied ∧
        (sorted scattered).Perm scattered ∧
        AtOnce [['a', '😀'], ['b']] (sorted scattered) applied text ∧
        ((∀ offset, (sorted scattered).filter (insertsAt [['a', '😀'], ['b']] offset) =
            scattered.filter (insertsAt [['a', '😀'], ['b']] offset)) ↔
          ∀ offset, (scattered.filter (insertsAt [['a', '😀'], ['b']] offset)).Pairwise
            fun first second => first.span.notAfter second.span = true) :=
  ⟨by decide, by decide, accepted_scattered,
    applied_at_once_iff "a" (by decide) (by decide) accepted_scattered⟩

/-- Two insertions behind the end of a line, the one that is further behind given first. -/
def crossed : List TextEdit := [⟨⟨⟨0, 9⟩, ⟨0, 9⟩⟩, ['1']⟩, ⟨⟨⟨0, 5⟩, ⟨0, 5⟩⟩, ['2']⟩]

theorem sorted_crossed : sorted crossed = crossed.reverse := by
  simp [sorted, List.mergeSort, List.MergeSort.Internal.splitInTwo, crossed, Span.notAfter,
    ProtocolPosition.before, ProtocolPosition.notAfter]

/-- Both insert at the end of the line, and the one that is given last goes first. -/
theorem crossed_insertions_swapped :
    (∀ edit ∈ crossed, insertsAt [['a', 'b']] 2 edit = true) ∧
      (∃ applied, apply "a" [['a', 'b']] crossed = .ok applied ∧
        applied.lines = [['a', 'b', '2', '1']]) ∧
      (sorted crossed).filter (insertsAt [['a', 'b']] 2) ≠
        crossed.filter (insertsAt [['a', 'b']] 2) := by
  refine ⟨by decide, ⟨_, by rw [apply, sorted_crossed]; rfl, rfl⟩, ?_⟩
  rw [sorted_crossed]
  decide

end LanguageBridge.TextEdit
