import LanguageBridge.Preview
import LanguageBridge.Proofs.Text.Lines
import LanguageBridge.Proofs.Text.Trim

/-!
White space at the ends of lines. Trimming each line of a text takes away what stands between the
last other character of a line and its end, and nothing else. A trimmed text begins and ends with
lines that are not blank.
-/
namespace LanguageBridge.Text

variable {text line : Text} {texts : List Text} {c : Char}

/-- A text without the white space at the ends of its lines: what goes is white space, line feeds
apart, behind which its line has nothing else. -/
def trimLineEnds : Text → Text
  | [] => []
  | c :: rest =>
    if isBlank c ∧ c ≠ '\n' ∧ Blank (rest.takeWhile (· ≠ '\n')) then trimLineEnds rest
    else c :: trimLineEnds rest

theorem trimEnd_eq_nil_iff : trimEnd text = [] ↔ Blank text := List.rdropWhile_eq_nil_iff

theorem trimEnd_cons (c : Char) (rest : Text) :
    trimEnd (c :: rest) = if isBlank c ∧ Blank rest then [] else c :: trimEnd rest := by
  by_cases blank : Blank rest
  · have turned : (rest.reverse.dropWhile isBlank) = [] :=
      dropWhile_blank fun d member => blank d (List.mem_reverse.mp member)
    cases here : isBlank c <;>
      simp [trimEnd, List.dropWhile_append, turned, blank, here]
  · have stays : rest.reverse.dropWhile isBlank ≠ [] := fun gone =>
      blank fun d member => List.dropWhile_eq_nil_iff.mp gone d (List.mem_reverse.mpr member)
    simp [trimEnd, List.dropWhile_append, stays, blank]

/-- No white space is left at the end. -/
theorem getLast?_trimEnd (text : Text) : ∀ c ∈ (trimEnd text).getLast?, isBlank c = false := by
  intro c last
  obtain ⟨some, rfl⟩ := List.mem_getLast?_eq_getLast last
  exact Bool.eq_false_iff.mpr (List.rdropWhile_last_not isBlank text some)

theorem mem_of_mem_trimEnd (member : c ∈ trimEnd text) : c ∈ text :=
  (List.rdropWhile_prefix isBlank text).subset member

theorem tight_trim (text : Text) : Tight (trim text) where
  front := by
    intro c first
    rw [trim] at first
    cases found : trimStart text with
    | nil =>
      rw [found] at first
      cases first
    | cons d rest =>
      have visible : isBlank d = false := by
        have stopped := List.head?_dropWhile_not isBlank text
        rwa [← trimStart, found] at stopped
      rw [found, trimEnd_cons, if_neg (by simp [visible])] at first
      rwa [← Option.some.inj first]
  back := getLast?_trimEnd _

/-- The first piece of a text is what stands in front of its first line feed. -/
theorem takeWhile_of_pieces {others : List Text} (cut : pieces text = line :: others) :
    text.takeWhile (· ≠ '\n') = line := by
  induction text generalizing line others with
  | nil =>
    rw [pieces, List.cons.injEq] at cut
    exact cut.1
  | cons c rest ih =>
    by_cases feed : c = '\n'
    · rw [pieces, if_pos feed, List.cons.injEq] at cut
      rw [List.takeWhile_cons_of_neg (by simp [feed]), cut.1]
    · obtain ⟨piece, later, behind, whole⟩ := pieces_cons_of_ne feed rest
      rw [whole, List.cons.injEq] at cut
      rw [List.takeWhile_cons_of_pos (by simp [feed]), ih behind, cut.1]

theorem joinLines_cons_cons (c : Char) (line : Text) (others : List Text) :
    joinLines ((c :: line) :: others) = c :: joinLines (line :: others) := by
  cases others <;> rfl

/-- Trimming every line takes away the white space at the ends of lines and nothing else. -/
theorem joinLines_map_trimEnd (text : Text) :
    joinLines ((pieces text).map trimEnd) = trimLineEnds text := by
  induction text with
  | nil => rfl
  | cons c rest ih =>
    by_cases feed : c = '\n'
    · subst feed
      have more : (pieces rest).map trimEnd ≠ [] := by simp [pieces_ne_nil]
      rw [pieces, if_pos rfl, List.map_cons, joinLines_cons more, ih, trimLineEnds,
        if_neg (by simp)]
      rfl
    · obtain ⟨piece, others, cut, whole⟩ := pieces_cons_of_ne feed rest
      rw [cut, List.map_cons] at ih
      rw [whole, List.map_cons, trimEnd_cons, trimLineEnds, takeWhile_of_pieces cut]
      by_cases gone : isBlank c = true ∧ Blank piece
      · rw [if_pos gone, if_pos ⟨gone.1, feed, gone.2⟩, ← ih, trimEnd_eq_nil_iff.mpr gone.2]
      · rw [if_neg gone, if_neg fun all => gone ⟨all.1, all.2.2⟩, joinLines_cons_cons, ih]

/-- A text that does not begin with white space has a first line that is not blank. -/
theorem head?_map_trimEnd (filled : text ≠ []) (front : ∀ c ∈ text.head?, isBlank c = false) :
    ∃ first, ((pieces text).map trimEnd).head? = some first ∧ first ≠ [] := by
  cases text with
  | nil => exact absurd rfl filled
  | cons c rest =>
    have visible := front c rfl
    have other : c ≠ '\n' := by
      rintro rfl
      cases visible
    obtain ⟨piece, others, -, whole⟩ := pieces_cons_of_ne other rest
    rw [whole]
    exact ⟨trimEnd (c :: piece), rfl, by simp [trimEnd_cons, visible]⟩

/-- The last piece of a text ends it, behind a line feed if there is another. -/
theorem eq_or_eq_append_of_pieces {front : List Text} (cut : pieces text = front ++ [line]) :
    text = line ∨ ∃ above : Text, text = above ++ '\n' :: line := by
  have whole := joinLines_pieces text
  rw [cut] at whole
  by_cases alone : front = []
  · subst alone
    exact .inl whole.symm
  · rw [joinLines_append alone (by simp)] at whole
    exact .inr ⟨joinLines front, whole.symm⟩

/-- A text that does not end with white space has a last line that is not blank. -/
theorem getLast?_map_trimEnd (filled : text ≠ []) (back : ∀ c ∈ text.getLast?, isBlank c = false) :
    ∃ last, ((pieces text).map trimEnd).getLast? = some last ∧ last ≠ [] := by
  obtain ⟨front, line, cut⟩ : ∃ front line, pieces text = front ++ [line] := by
    rcases List.eq_nil_or_concat (pieces text) with none | ⟨front, line, cut⟩
    · exact absurd none (pieces_ne_nil text)
    · exact ⟨front, line, by rw [cut, List.concat_eq_append]⟩
  refine ⟨trimEnd line, by simp [cut], fun gone => ?_⟩
  have blank : Blank ('\n' :: line) :=
    List.forall_mem_cons.mpr ⟨rfl, trimEnd_eq_nil_iff.mp gone⟩
  have last := List.getLast?_eq_some_getLast filled
  generalize text.getLast filled = c at last
  have inside : c ∈ '\n' :: line := by
    rcases eq_or_eq_append_of_pieces cut with rfl | ⟨above, rfl⟩
    · exact List.mem_cons_of_mem _ (List.mem_of_getLast? last)
    · rw [List.getLast?_append_of_ne_nil _ (List.cons_ne_nil _ _)] at last
      exact List.mem_of_getLast? last
  have visible := back c last
  rw [blank c inside] at visible
  cases visible

end LanguageBridge.Text

/-!
The lines of a hover answer.
-/
namespace LanguageBridge.Hover

open Text

variable {texts : List Text}

/-- Texts are joined with an empty line between any two of them. -/
theorem joined_eq_intercalate (texts : List Text) :
    joined texts = List.intercalate ['\n', '\n'] texts := by
  induction texts with
  | nil => rfl
  | cons text rest ih =>
    cases rest with
    | nil => exact List.intercalate_singleton.symm
    | cons second others =>
      rw [joined, ih, List.intercalate_cons_cons]
      · simp
      · simp

/-- Texts joined by empty lines are blank exactly if each of them is. -/
theorem blank_joined_iff : Blank (joined texts) ↔ ∀ text ∈ texts, Blank text := by
  induction texts with
  | nil => simp [joined, Blank]
  | cons text rest ih =>
    cases rest with
    | nil => simp [joined]
    | cons second others =>
      rw [List.forall_mem_cons, ← ih, joined]
      · simp [Blank, or_imp, forall_and, isBlank]
      · simp

theorem preview?_eq_none_iff (hover : Hover) :
    hover.preview? = none ↔ ∀ text ∈ hover.texts, Blank text := by
  rw [← blank_joined_iff, ← trim_eq_nil_iff, preview?]
  simp

/-- A hover answer has nothing to show exactly if all its texts are blank. What is shown else is its
texts with empty lines between them, without the white space around them and at the ends of lines;
no line has a line feed or ends with white space, and the first and the last have something in
them. -/
theorem hover_lines_shown (hover : Hover) :
    (hover.preview? = none ↔ ∀ text ∈ hover.texts, Blank text) ∧
    ∀ preview, hover.preview? = some preview →
      (∀ line ∈ preview.lines, '\n' ∉ line ∧ ∀ c ∈ line.getLast?, isBlank c = false) ∧
      (∃ first, preview.lines.head? = some first ∧ first ≠ []) ∧
      (∃ last, preview.lines.getLast? = some last ∧ last ≠ []) ∧
      ∃ before text after : Text,
        List.intercalate ['\n', '\n'] hover.texts = before ++ text ++ after ∧
        Blank before ∧ Blank after ∧ Tight text ∧ joinLines preview.lines = trimLineEnds text := by
  refine ⟨preview?_eq_none_iff hover, ?_⟩
  intro preview shown
  obtain ⟨before, after, whole, left, right⟩ := exists_trim (joined hover.texts)
  have tight := tight_trim (joined hover.texts)
  rw [preview?] at shown
  generalize trim (joined hover.texts) = text at whole tight shown
  split at shown
  · cases shown
  · rename_i filled
    rw [List.isEmpty_iff] at filled
    obtain rfl := Option.some.inj shown
    refine ⟨?_, head?_map_trimEnd filled tight.front, getLast?_map_trimEnd filled tight.back,
      before, text, after, ?_, left, right, tight, joinLines_map_trimEnd text⟩
    · intro line member
      obtain ⟨piece, inside, rfl⟩ := List.mem_map.mp member
      exact ⟨fun feed => feed_not_mem_pieces inside (mem_of_mem_trimEnd feed),
        getLast?_trimEnd piece⟩
    · rw [← joined_eq_intercalate, whole]

/-- Code with white space around it and at the end of a line, between blank texts. -/
def paddedHover : Hover :=
  .many [.markdown [' '], .code "go" ['f', ' ', '\n', 'g', '\t'], .markdown ['\n']]

/-- Two lines are left, the first without the blank behind it. -/
theorem padded_lines_shown :
    paddedHover.preview? = some ⟨bufferName, "markdown", [['f'], ['g']]⟩ ∧
      ('\n' ∉ ['f'] ∧ ∀ c ∈ ['f'].getLast?, isBlank c = false) ∧
      (∃ first, [['f'], ['g']].head? = some first ∧ first ≠ []) ∧
      (∃ last, [['f'], ['g']].getLast? = some last ∧ last ≠ []) ∧
      ∃ before text after : Text,
        List.intercalate ['\n', '\n'] paddedHover.texts = before ++ text ++ after ∧
        Blank before ∧ Blank after ∧ Tight text ∧
        joinLines [['f'], ['g']] = trimLineEnds text := by
  have shown : paddedHover.preview? = some ⟨bufferName, "markdown", [['f'], ['g']]⟩ := by decide
  obtain ⟨clean, first, last, whole⟩ := (hover_lines_shown paddedHover).2 _ shown
  exact ⟨shown, clean ['f'] (by decide), first, last, whole⟩

end LanguageBridge.Hover
