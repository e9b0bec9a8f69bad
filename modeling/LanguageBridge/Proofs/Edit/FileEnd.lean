import LanguageBridge.Editor.WorkspaceEdits
import LanguageBridge.Proofs.Edit.Order
import LanguageBridge.Proofs.Text.Lines

/-!
Edits of a file on disk. Servers count the empty line behind the last line feed of a file, the lines
that are edited here end before that line feed; so edits that reach the end of the file fall short
of it.
-/
namespace LanguageBridge.TextEdit

open Text

variable {text rest result : Text} {position : ProtocolPosition} {edits : List TextEdit}

/-- A place in a text as servers count: on a line of it, behind the last line feed included, and no
further right than the line goes. -/
def Inside (text : Text) (position : ProtocolPosition) : Prop :=
  ∃ line, text.splitLines[position.line]? = some line ∧ position.character ≤ line.unitLength

/-- The place behind the last line feed of a text that ends with one. -/
def fileEnd (text : Text) : ProtocolPosition := ⟨text.count '\n', 0⟩

/-- The new texts of edits behind the last line feed. -/
def appended (text : Text) (edits : List TextEdit) : Text :=
  (edits.filter fun edit => edit.span.start = fileEnd text).flatMap (·.newText)

/-- An edit that starts before the end of the file and stops there. -/
def Reaches (text : Text) (edit : TextEdit) : Prop :=
  edit.span.start ≠ fileEnd text ∧ edit.span.stop = fileEnd text

/-- A text without carriage returns that ends with a line feed. -/
structure Ended (text : Text) (lines : List Text) : Prop where
  whole : text = joinLines lines ++ ['\n']
  numbered : text.splitLines = lines ++ [[]]
  nonempty : lines ≠ []
  count : text.count '\n' = lines.length

theorem ended_fileLines (clean : '\r' ∉ text) (last : text.getLast? = some '\n') :
    Ended text (fileLines text) := by
  obtain ⟨front, rfl⟩ := List.getLast?_eq_some_iff.mp last
  have pure : '\r' ∉ front := fun member => clean (List.mem_append_left _ member)
  have lines : fileLines (front ++ ['\n']) = pieces front := by
    rw [fileLines, dropFeed_append_feed, splitLines_of_clean pure]
  rw [lines]
  refine ⟨by rw [joinLines_pieces], ?_, pieces_ne_nil front, ?_⟩
  · rw [splitLines_of_clean clean, pieces_append_feed]
  · rw [length_pieces]
    simp

theorem bytesBefore_append (lines others : List Text) {index : Nat} (le : index ≤ lines.length) :
    bytesBefore (lines ++ others) index = bytesBefore lines index := by
  induction lines generalizing index with
  | nil =>
    obtain rfl : index = 0 := Nat.le_zero.mp le
    cases others <;> rfl
  | cons line rest ih =>
    cases index with
    | zero => rfl
    | succ index => exact congrArg _ (ih (Nat.le_of_succ_le_succ le))

theorem inside_notAfter (ended : Ended text lines) (inside : Inside text position) :
    position.notAfter (fileEnd text) = true ∧
      (position ≠ fileEnd text → position.line < lines.length) := by
  obtain ⟨line, found, short⟩ := inside
  rw [ended.numbered] at found
  rw [ProtocolPosition.notAfter_iff, fileEnd, ended.count]
  rcases Nat.lt_trichotomy position.line lines.length with above | same | below
  · exact ⟨.inl above, fun _ => above⟩
  · rw [same, List.getElem?_concat_length, Option.some.injEq] at found
    subst found
    have start : position.character = 0 := Nat.le_zero.mp short
    refine ⟨.inr ⟨same, Nat.le_of_eq start⟩, fun other => absurd ?_ other⟩
    rw [← same, ← start]
  · rw [List.getElem?_eq_none (by simp; omega)] at found
    cases found

theorem bytesBefore_length {lines : List Text} (some : lines ≠ []) :
    bytesBefore lines lines.length = (joinLines lines).byteLength + 1 := by
  induction lines with
  | nil => exact absurd rfl some
  | cons line rest ih =>
    cases rest with
    | nil => simp [bytesBefore, joinLines]
    | cons second rest =>
      have feed : '\n'.utf8Size = 1 := rfl
      rw [joinLines_cons (by simp), List.length_cons, bytesBefore, ih (by simp)]
      simp only [byteLength_append, byteLength_cons, feed]
      omega

/-- Places before the end of the file fall alike in both texts. -/
theorem offsetOf_inside (ended : Ended text lines) (inside : Inside text position)
    (before : position ≠ fileEnd text) :
    offsetOf text.splitLines position = offsetOf lines position ∧
      offsetOf lines position ≤ (joinLines lines).byteLength := by
  have above := (inside_notAfter ended inside).2 before
  refine ⟨?_, offsetOf_le lines position⟩
  have found := List.getElem?_eq_getElem above
  have same : text.splitLines[position.line]? = some lines[position.line] := by
    rw [ended.numbered, List.getElem?_append_left above, found]
  rw [offsetOf_of_line found, offsetOf_of_line same, ended.numbered,
    bytesBefore_append _ _ (Nat.le_of_lt above)]

/-- The end of the file is one byte further in the text that has it. -/
theorem offsetOf_fileEnd (ended : Ended text lines) :
    offsetOf lines (fileEnd text) = (joinLines lines).byteLength ∧
      offsetOf text.splitLines (fileEnd text) = (joinLines lines).byteLength + 1 := by
  have line : (fileEnd text).line = lines.length := ended.count
  have beyond : lines[(fileEnd text).line]? = none := List.getElem?_eq_none (by omega)
  have last : text.splitLines[(fileEnd text).line]? = some [] := by
    rw [ended.numbered, line, List.getElem?_concat_length]
  refine ⟨by simp [offsetOf, beyond], ?_⟩
  rw [offsetOf_of_line last, ended.numbered, line, bytesBefore_append _ _ (Nat.le_refl _),
    bytesBefore_length ended.nonempty]
  rfl

/-- An edit between two places of a text, the first not after the second. -/
structure Proper (text : Text) (edit : TextEdit) : Prop where
  start : Inside text edit.span.start
  stop : Inside text edit.span.stop
  forward : edit.span.start.notAfter edit.span.stop = true

theorem Proper.place_stop (proper : Proper text edit) (lines : List Text) :
    (place lines edit).stop = offsetOf lines edit.span.stop :=
  Nat.max_eq_left (offsetOf_mono lines proper.forward)

/-- Behind an edit that stops at the end of the file there are only insertions at the end. -/
theorem at_fileEnd (ended : Ended text lines) (proper : Proper text edit)
    (reached : position.notAfter edit.span.start = true) (last : position = fileEnd text) :
    edit.span.start = fileEnd text ∧ edit.span.stop = fileEnd text := by
  subst last
  have start := ProtocolPosition.notAfter_antisymm (inside_notAfter ended proper.start).1 reached
  refine ⟨start, ProtocolPosition.notAfter_antisymm (inside_notAfter ended proper.stop).1 ?_⟩
  rw [← start]
  exact proper.forward

/-- Insertions at one place behind a text follow it in their order. -/
theorem replaced_insertions (lines : List Text) (front : Text) (here : ∀ edit ∈ edits,
    edit.span.start = position ∧ edit.span.stop = position)
    (reach : offset + front.byteLength = offsetOf lines position) :
    Replaced offset (edits.map (place lines)) front (front ++ edits.flatMap (·.newText)) := by
  induction edits generalizing offset front with
  | nil => simpa using Replaced.nothing offset front
  | cons edit rest ih =>
    obtain ⟨start, stop⟩ := here edit List.mem_cons_self
    have placed : (place lines edit).start = offsetOf lines position ∧
        (place lines edit).stop = offsetOf lines position := by
      simp [place, start, stop]
    have behind := ih [] (fun other member => here other (List.mem_cons_of_mem _ member))
      (Nat.add_zero (offsetOf lines position))
    rw [← placed.2] at behind
    have step := Replaced.stretch front [] (placed.1.trans reach.symm)
      (placed.2.trans placed.1.symm) behind
    simpa using step

theorem appended_of_insertions (here : ∀ edit ∈ edits, edit.span.start = fileEnd text) :
    appended text edits = edits.flatMap (·.newText) := by
  rw [appended, List.filter_eq_self.mpr]
  intro edit member
  exact decide_eq_true (here edit member)

/-- What editing the lines of a file comes to, beside what editing the file comes to: the same when
an edit reaches over the last line feed, and else the same without that line feed. -/
def Shortened (text : Text) (edits : List TextEdit) (edited planned : Text) : Prop :=
  ((∃ edit ∈ edits, Reaches text edit) ∧ planned = edited) ∨
    (∀ edit ∈ edits, ¬ Reaches text edit) ∧ ∃ front,
      edited = front ++ '\n' :: appended text edits ∧ planned = front ++ appended text edits

theorem Shortened.cons (shortened : Shortened text edits edited planned)
    (before : edit.span.stop ≠ fileEnd text) (notEnd : edit.span.start ≠ fileEnd text)
    (front : Text) : Shortened text (edit :: edits) (front ++ edited) (front ++ planned) := by
  have same : appended text (edit :: edits) = appended text edits := by
    simp [appended, notEnd]
  rcases shortened with ⟨⟨other, member, reaches⟩, rfl⟩ | ⟨none, kept, rfl, rfl⟩
  · exact .inl ⟨⟨other, List.mem_cons_of_mem _ member, reaches⟩, rfl⟩
  · refine .inr ⟨?_, front ++ kept, by rw [same, List.append_assoc],
      by rw [same, List.append_assoc]⟩
    intro other member
    rcases List.mem_cons.mp member with rfl | later
    · exact fun reaches => before reaches.2
    · exact none other later

/-- Insertions at the end of the file come without the last line feed. -/
theorem shortened_of_insertions (ended : Ended text lines)
    (here : ∀ edit ∈ edits, edit.span.start = fileEnd text ∧ edit.span.stop = fileEnd text)
    (reach : offset + rest.byteLength = (joinLines lines).byteLength)
    (replaced : Replaced offset (edits.map (place text.splitLines)) (rest ++ ['\n']) result) :
    ∃ planned, Replaced offset (edits.map (place lines)) rest planned ∧
      Shortened text edits result planned := by
  obtain ⟨short, long⟩ := offsetOf_fileEnd ended
  have longer : offset + (rest ++ ['\n']).byteLength =
      offsetOf text.splitLines (fileEnd text) := by
    have feed : '\n'.utf8Size = 1 := rfl
    simp only [byteLength_append, byteLength_cons, byteLength_nil, feed]
    omega
  have whole := replaced_insertions text.splitLines (rest ++ ['\n']) here longer
  refine ⟨_, replaced_insertions lines rest here (by omega), .inr ⟨?_, rest, ?_, ?_⟩⟩
  · intro edit member reaches
    exact reaches.1 (here edit member).1
  · rw [replaced.unique whole, appended_of_insertions fun edit member => (here edit member).1]
    simp
  · rw [appended_of_insertions fun edit member => (here edit member).1]

/-- An edit over the last line feed, with insertions behind it, comes out whole. -/
theorem shortened_of_reaches (ended : Ended text lines) (proper : Proper text edit)
    (reaches : Reaches text edit)
    (here : ∀ edit ∈ edits, edit.span.start = fileEnd text ∧ edit.span.stop = fileEnd text)
    (reach : offset + rest.byteLength = (joinLines lines).byteLength)
    (replaced : Replaced offset ((edit :: edits).map (place text.splitLines)) (rest ++ ['\n'])
      result) :
    ∃ planned, Replaced offset ((edit :: edits).map (place lines)) rest planned ∧
      Shortened text (edit :: edits) result planned := by
  obtain ⟨fromBefore, atEnd⟩ := reaches
  obtain ⟨short, long⟩ := offsetOf_fileEnd ended
  obtain ⟨sameStart, bounded⟩ := offsetOf_inside ended proper.start fromBefore
  have feed : '\n'.utf8Size = 1 := rfl
  refine ⟨result, ?_, .inl ⟨⟨edit, List.mem_cons_self, fromBefore, atEnd⟩, rfl⟩⟩
  generalize whole : rest ++ ['\n'] = total at replaced
  obtain _ | @⟨_, _, _, last, after, kept, gone, start, stop, replaced⟩ := replaced
  have started : (place text.splitLines edit).start = offsetOf text.splitLines edit.span.start :=
    rfl
  rw [proper.place_stop, atEnd] at stop replaced
  have sizes := congrArg byteLength whole
  simp only [byteLength_append, byteLength_cons, byteLength_nil, feed] at sizes
  obtain rfl : last = [] := eq_nil_of_byteLength (by omega)
  obtain ⟨between, rfl, _⟩ := append_eq_append_of_le whole.symm (by omega)
  rw [replaced.unique (replaced_insertions text.splitLines [] here (Nat.add_zero _))]
  have behind := replaced_insertions lines [] here (Nat.add_zero _)
  have stopped := proper.place_stop lines
  rw [atEnd] at stopped
  rw [← stopped] at behind
  rw [byteLength_append] at reach
  have begun : (place lines edit).start = offset + kept.byteLength := by
    rw [← start]
    exact sameStart.symm
  have done := Replaced.stretch kept between begun (by omega) behind
  simpa using done

/-- Editing the lines of a file goes on beside editing the file. -/
theorem exists_shortened (ended : Ended text lines) (proper : ∀ edit ∈ edits, Proper text edit)
    (apart : edits.Pairwise fun first second =>
      first.span.stop.notAfter second.span.start = true)
    (reach : offset + rest.byteLength = (joinLines lines).byteLength)
    (replaced : Replaced offset (edits.map (place text.splitLines)) (rest ++ ['\n']) result) :
    ∃ planned, Replaced offset (edits.map (place lines)) rest planned ∧
      Shortened text edits result planned := by
  induction edits generalizing offset rest result with
  | nil =>
    cases replaced
    exact ⟨rest, .nothing _ _, .inr ⟨by simp, rest, rfl, by simp [appended]⟩⟩
  | cons edit edits ih =>
    have own := proper edit List.mem_cons_self
    have others := fun other member => proper other (List.mem_cons_of_mem _ member)
    by_cases atEnd : edit.span.stop = fileEnd text
    · have later : ∀ other ∈ edits, other.span.start = fileEnd text ∧
          other.span.stop = fileEnd text := fun other member =>
        at_fileEnd ended (others other member) (List.rel_of_pairwise_cons apart member) atEnd
      by_cases fromEnd : edit.span.start = fileEnd text
      · refine shortened_of_insertions ended ?_ reach replaced
        intro other member
        rcases List.mem_cons.mp member with rfl | behind
        · exact ⟨fromEnd, atEnd⟩
        · exact later other behind
      · exact shortened_of_reaches ended own ⟨fromEnd, atEnd⟩ later reach replaced
    · generalize whole : rest ++ ['\n'] = total at replaced
      obtain _ | @⟨_, _, _, last, after, kept, gone, start, stop, replaced⟩ := replaced
      rw [own.place_stop] at stop
      have fromBefore : edit.span.start ≠ fileEnd text := by
        intro same
        have back := own.forward
        rw [same] at back
        exact atEnd
          (ProtocolPosition.notAfter_antisymm (inside_notAfter ended own.stop).1 back)
      obtain ⟨sameStart, _⟩ := offsetOf_inside ended own.start fromBefore
      obtain ⟨sameStop, bounded⟩ := offsetOf_inside ended own.stop atEnd
      have cut : (kept ++ gone) ++ last = rest ++ ['\n'] := by rw [whole, List.append_assoc]
      have started : (place text.splitLines edit).start = offsetOf text.splitLines edit.span.start :=
        rfl
      obtain ⟨between, rfl, rfl⟩ := append_eq_append_of_le cut (by
        rw [byteLength_append]
        omega)
      rw [own.place_stop, sameStop, ← own.place_stop] at replaced
      obtain ⟨planned, done, shortened⟩ := ih others apart.of_cons (by
        rw [own.place_stop]
        simp only [byteLength_append] at reach
        omega) replaced
      refine ⟨kept ++ (edit.newText ++ planned), ?_, ?_⟩
      · rw [List.append_assoc]
        refine .stretch kept gone ?_ ?_ done
        · rw [← start]
          exact sameStart.symm
        · rw [own.place_stop, ← sameStop, stop]
          exact congrArg (· + gone.byteLength) sameStart
      · have := shortened.cons atEnd fromBefore (kept ++ edit.newText)
        simpa using this

/-- Whether the lines come out as those of the edited file. -/
def Agreeing (text : Text) (edits : List TextEdit) (edited : Text) : Prop :=
  ((∃ edit ∈ edits, Reaches text edit) ∧ edited.getLast? ≠ some '\n') ∨
    (∀ edit ∈ edits, ¬ Reaches text edit) ∧
      ∀ edit ∈ edits, edit.span.start = fileEnd text → ∀ c ∈ edit.newText, c = '\n'

theorem Shortened.lines_iff (shortened : Shortened text edits edited planned)
    (clean : '\r' ∉ edited) :
    planned.splitLines = fileLines edited ↔ Agreeing text edits edited := by
  have pure : '\r' ∉ planned := by
    rcases shortened with ⟨_, rfl⟩ | ⟨_, front, rfl, rfl⟩
    · exact clean
    · simp only [List.mem_append, List.mem_cons, not_or] at clean ⊢
      exact ⟨clean.1, clean.2.2⟩
  rw [fileLines, splitLines_inj pure fun member => clean (mem_of_mem_dropFeed member)]
  rcases shortened with ⟨reached, rfl⟩ | ⟨unreached, front, rfl, rfl⟩
  · rw [eq_comm, dropFeed_eq_self_iff]
    constructor
    · exact fun open_ => .inl ⟨reached, open_⟩
    · rintro (⟨_, open_⟩ | ⟨unreached, _⟩)
      · exact open_
      · obtain ⟨edit, member, reaches⟩ := reached
        exact absurd reaches (unreached edit member)
  · rw [dropFeed_append_cons_iff]
    have feeds : (∀ c ∈ appended text edits, c = '\n') ↔
        ∀ edit ∈ edits, edit.span.start = fileEnd text → ∀ c ∈ edit.newText, c = '\n' := by
      simp only [appended, List.mem_flatMap, List.mem_filter, decide_eq_true_eq]
      constructor
      · exact fun all edit member atEnd c inside => all c ⟨edit, ⟨member, atEnd⟩, inside⟩
      · rintro all c ⟨edit, ⟨member, atEnd⟩, inside⟩
        exact all edit member atEnd c inside
    rw [feeds]
    constructor
    · exact fun all => .inr ⟨unreached, all⟩
    · rintro (⟨⟨edit, member, reaches⟩, _⟩ | ⟨_, all⟩)
      · exact absurd reaches (unreached edit member)
      · exact all

theorem agreeing_perm {others : List TextEdit} (same : edits.Perm others) (edited : Text) :
    Agreeing text edits edited ↔ Agreeing text others edited := by
  simp only [Agreeing, same.mem_iff]

end LanguageBridge.TextEdit

namespace LanguageBridge.Editor

open Text TextEdit

theorem planFile_eq {workspace : Workspace} {tree : FileTree} {edits : FileEdits}
    (known : workspace.lines tree edits.file = .ok lines)
    (accepted : overlap? (sorted edits.edits) = none) :
    ∃ planned, planFile workspace tree edits = .ok planned ∧ planned.file = edits.file ∧
      planned.applied.lines =
        (replaceAll ((sorted edits.edits).map (place lines)) (joinLines lines)).splitLines := by
  simp only [planFile, known, TextEdit.apply, accepted]
  exact ⟨_, rfl, rfl, rfl⟩

/-- A file on disk that ends with a line feed, and disjoint edits of it where its server can see
them, none of them with carriage returns: the edit is planned, and its lines are those of the edited
file unless an edit that reaches over the last line feed leaves one at the end, or, with no such
edit, something other than line feeds is put behind the last one. -/
theorem planned_lines_iff {workspace : Workspace} {tree : FileTree} {edits : FileEdits}
    {text : Text} (untracked : workspace.documents.get? edits.file = none)
    (content : tree.readText edits.file = .ok (String.ofList text)) (clean : '\r' ∉ text)
    (last : text.getLast? = some '\n') (proper : ∀ edit ∈ edits.edits, Proper text edit)
    (disjoint : Disjoint edits.edits) (pure : ∀ edit ∈ edits.edits, '\r' ∉ edit.newText) :
    ∃ planned edited, planFile workspace tree edits = .ok planned ∧ planned.file = edits.file ∧
      Replaced 0 ((sorted edits.edits).map (place text.splitLines)) text edited ∧
      (planned.applied.lines = fileLines edited ↔ Agreeing text edits.edits edited) := by
  have ended := ended_fileLines clean last
  have forward : ∀ edit ∈ edits.edits, edit.span.start.notAfter edit.span.stop = true :=
    fun edit member => (proper edit member).forward
  have accepted := overlap?_sorted_of_disjoint disjoint forward
  have known : workspace.lines tree edits.file = .ok (fileLines text) := by
    simp [Workspace.lines, untracked, FileTree.readLines, content, Except.map]
  obtain ⟨planned, done, name, lines⟩ := planFile_eq known accepted
  obtain ⟨edited, replaced⟩ := exists_replaced_place text.splitLines accepted
  rw [joinLines_splitLines clean] at replaced
  have within : ∀ edit ∈ sorted edits.edits, Proper text edit :=
    fun edit member => proper edit ((sorted_perm _).mem_iff.mp member)
  have whole : Replaced 0 ((sorted edits.edits).map (place text.splitLines))
      (joinLines (fileLines text) ++ ['\n']) edited := by
    rw [← ended.whole]
    exact replaced
  obtain ⟨short, carried, shortened⟩ := exists_shortened ended within
    (sorted_apart disjoint forward) (Nat.zero_add _) whole
  refine ⟨planned, edited, done, name, replaced, ?_⟩
  have free : '\r' ∉ edited := by
    intro member
    rcases replaced.mem member with inside | ⟨placed, present, inside⟩
    · exact clean inside
    · obtain ⟨edit, here, rfl⟩ := List.mem_map.mp present
      exact pure edit ((sorted_perm _).mem_iff.mp here) inside
  have result := carried.replaceAll [] rfl
  rw [List.nil_append, List.nil_append] at result
  rw [lines, result, shortened.lines_iff free, agreeing_perm (sorted_perm _)]

/-- A file `/a` of one line. -/
def shortTree : FileTree where
  workingDirectory := []
  nodes := [(["a"], .file [97, 10])]

/-- A line put at a place of a file. -/
def lineAt (position : ProtocolPosition) : FileEdits :=
  ⟨"/a", [⟨⟨position, position⟩, ['b', '\n']⟩]⟩

theorem proper_lineAt (inside : Inside ['a', '\n'] position) :
    ∀ edit ∈ (lineAt position).edits, Proper ['a', '\n'] edit := by
  intro edit member
  obtain rfl := List.mem_singleton.mp member
  exact ⟨inside, inside, ProtocolPosition.notAfter_refl _⟩

theorem planned_lines_before : ∃ planned edited,
    planFile {} shortTree (lineAt ⟨0, 0⟩) = .ok planned ∧ planned.file = "/a" ∧
      Replaced 0 ((sorted (lineAt ⟨0, 0⟩).edits).map (place [['a'], []])) ['a', '\n'] edited ∧
      (planned.applied.lines = fileLines edited ↔
        Agreeing ['a', '\n'] (lineAt ⟨0, 0⟩).edits edited) :=
  planned_lines_iff rfl rfl (by decide) rfl (proper_lineAt ⟨['a'], rfl, by decide⟩)
    (List.pairwise_singleton _ _) (by decide)

/-- A line put behind the last line feed joins the line before it and leaves an empty one. -/
theorem planned_lines_behind :
    (shortTree.readText "/a" = .ok "a\n" ∧
      (∀ edit ∈ (lineAt ⟨1, 0⟩).edits, Proper ['a', '\n'] edit) ∧ Disjoint (lineAt ⟨1, 0⟩).edits) ∧
    ∃ planned edited, planFile {} shortTree (lineAt ⟨1, 0⟩) = .ok planned ∧
      Replaced 0 ((sorted (lineAt ⟨1, 0⟩).edits).map (place [['a'], []])) ['a', '\n'] edited ∧
      planned.applied.lines = [['a', 'b'], []] ∧ fileLines edited = [['a'], ['b']] := by
  refine ⟨⟨rfl, proper_lineAt ⟨[], rfl, by decide⟩, List.pairwise_singleton _ _⟩, ?_⟩
  have inOrder : sorted (lineAt ⟨1, 0⟩).edits = (lineAt ⟨1, 0⟩).edits := List.mergeSort_singleton _
  have accepted : overlap? (sorted (lineAt ⟨1, 0⟩).edits) = none := by rw [inOrder]; rfl
  have known : Workspace.lines {} shortTree (lineAt ⟨1, 0⟩).file = .ok [['a']] := rfl
  obtain ⟨planned, done, _, lines⟩ := planFile_eq known accepted
  refine ⟨planned, ['a', '\n', 'b', '\n'], done, ?_, ?_, by decide⟩
  · rw [inOrder]
    exact .stretch ['a', '\n'] [] rfl rfl (.nothing _ _)
  · rw [lines, inOrder]
    decide

end LanguageBridge.Editor
