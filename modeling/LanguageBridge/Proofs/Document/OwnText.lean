import LanguageBridge.Document
import LanguageBridge.Proofs.Text.Lines
import LanguageBridge.TextEdit

/-!
Documents that are given their own text. Joining lines and cutting them again takes a carriage
return from the end of each, so they come back as they were only if none ends in one, that is, if no
line of the text they were cut from ended in two.
-/
namespace LanguageBridge

namespace Text

/-- Whether some line of a text ends in two carriage returns. -/
def HasDoubleReturns (text : Text) : Prop := ∃ line ∈ pieces text, ['\r', '\r'] <:+ line

/-- A line that lost a carriage return still ends in one exactly if it ended in two. -/
theorem getLast?_dropReturn_iff (line : Text) :
    (dropReturn line).getLast? = some '\r' ↔ ['\r', '\r'] <:+ line := by
  rcases List.eq_nil_or_concat line with rfl | ⟨front, last, rfl⟩
  · simp [dropReturn]
  rw [List.concat_eq_append, dropReturn_append_singleton]
  by_cases feed : last = '\r'
  · subst feed
    rw [if_pos rfl, ← List.singleton_suffix_iff_getLast?_eq_some]
    constructor
    · rintro ⟨before, rfl⟩
      exact ⟨before, by simp⟩
    · rintro ⟨before, whole⟩
      have cut : (before ++ ['\r']) ++ ['\r'] = front ++ ['\r'] := by simpa using whole
      exact ⟨before, List.append_cancel_right cut⟩
  · rw [if_neg feed]
    refine iff_of_false (by simpa using feed) ?_
    rintro ⟨before, whole⟩
    have ends := congrArg List.getLast? whole
    simp only [List.getLast?_append, List.getLast?_cons_cons, List.getLast?_singleton,
      Option.some_or, Option.some.injEq] at ends
    exact feed ends.symm

/-- Lines that are joined and cut again lose a carriage return each. -/
theorem splitLines_joinLines_splitLines (text : Text) :
    splitLines (joinLines (splitLines text)) = (splitLines text).map dropReturn := by
  rw [splitLines, pieces_joinLines_splitLines]

theorem map_dropReturn_splitLines_iff (text : Text) :
    (splitLines text).map dropReturn = splitLines text ↔ ¬ text.HasDoubleReturns := by
  have each : (splitLines text).map dropReturn = (splitLines text).map id ↔
      ∀ line ∈ splitLines text, dropReturn line = line := List.map_inj_left
  rw [List.map_id] at each
  rw [each, splitLines, List.forall_mem_map, HasDoubleReturns, not_exists]
  refine forall_congr' fun line => ?_
  rw [not_and, dropReturn_eq_self_iff, ne_eq, getLast?_dropReturn_iff]

end Text

/-- Without edits the lines of a file are joined and cut again. -/
theorem TextEdit.apply_nil (file : String) (lines : List Text) :
    apply file lines [] = .ok ⟨(Text.joinLines lines).splitLines, []⟩ := by
  simp [apply, sorted, overlap?, replaceAll]

namespace Document

/-- A document that took over one text after the other. -/
def ofTexts (session : SessionKey) (first : Text) (updates : List Text) : Document :=
  updates.foldl (fun document text => (document.update text).1) (ofText session first)

/-- The lines of a document are those of the last text it took over. -/
theorem lines_ofTexts (session : SessionKey) (first : Text) (updates : List Text) :
    (ofTexts session first updates).lines = (updates.getLastD first).splitLines := by
  rcases List.eq_nil_or_concat updates with rfl | ⟨front, last, rfl⟩
  · rfl
  · simp [ofTexts, lines_update]

/-- A document takes its own text for what it is, and so do edits that change nothing, exactly if no
line of the last text it took over ended in two carriage returns. Otherwise each such line loses
one, which counts as a change. -/
theorem own_text_kept_iff (session : SessionKey) (first : Text) (updates : List Text)
    (file : String) :
    let document := ofTexts session first updates
    let kept := ¬ (updates.getLastD first).HasDoubleReturns
    let thinned := document.lines.map Text.dropReturn
    (document.text.splitLines = document.lines ↔ kept) ∧
      (document.update document.text = (document, none) ↔ kept) ∧
      (TextEdit.apply file document.lines [] = .ok ⟨document.lines, []⟩ ↔ kept) ∧
      (¬ kept → document.text.splitLines = thinned ∧
        document.update document.text =
          ({ document with lines := thinned, version := document.version + 1, dirty := true },
            some (document.version + 1)) ∧
        TextEdit.apply file document.lines [] = .ok ⟨thinned, []⟩) := by
  intro document kept thinned
  have lines : document.lines = (updates.getLastD first).splitLines := lines_ofTexts ..
  have again : document.text.splitLines = thinned := by
    change (Text.joinLines document.lines).splitLines = document.lines.map Text.dropReturn
    rw [lines]
    exact Text.splitLines_joinLines_splitLines _
  have same : thinned = document.lines ↔ kept := by
    change document.lines.map Text.dropReturn = document.lines ↔ kept
    rw [lines]
    exact Text.map_dropReturn_splitLines_iff _
  have edited : TextEdit.apply file document.lines [] = .ok ⟨thinned, []⟩ := by
    rw [TextEdit.apply_nil, ← again]
    rfl
  refine ⟨by rw [again, same], by rw [update_eq_self_iff, again, same], ?_, fun lost => ?_⟩
  · simp [edited, same]
  · have differs : document.text.splitLines ≠ document.lines := fun equal =>
      lost (same.mp (again.symm.trans equal))
    refine ⟨again, ?_, edited⟩
    rw [update, if_neg differs, again]

/-- A line that ended in two carriage returns is changed by the document's own text. -/
theorem own_text_changes_document :
    let document := ofTexts ⟨"go", "/"⟩ "a\r\r\nb".toList []
    document.text.splitLines ≠ document.lines ∧
      (document.update document.text).2 = some 1 ∧
      (document.update document.text).1.dirty = true ∧
      TextEdit.apply "/a.go" document.lines [] ≠ .ok ⟨document.lines, []⟩ := by
  decide +kernel

end Document

end LanguageBridge
