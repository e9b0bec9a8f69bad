import Mathlib.Data.List.DropRight
import LanguageBridge.Text.Lines

/-!
Cutting a text into lines and joining lines again. A text without carriage returns is given back by
its lines, so its lines say all of it.
-/
namespace LanguageBridge.Text

theorem pieces_ne_nil (text : Text) : pieces text ≠ [] := by
  cases text with
  | nil => simp [pieces]
  | cons c rest =>
    simp only [pieces]
    split
    · simp
    · split <;> simp

theorem splitLines_ne_nil (text : Text) : splitLines text ≠ [] := by
  simpa [splitLines] using pieces_ne_nil text

theorem pieces_cons_of_ne {c : Char} (other : c ≠ '\n') (rest : Text) :
    ∃ piece others, pieces rest = piece :: others ∧ pieces (c :: rest) = (c :: piece) :: others := by
  cases cut : pieces rest with
  | nil => exact absurd cut (pieces_ne_nil rest)
  | cons piece others => exact ⟨piece, others, rfl, by simp [pieces, other, cut]⟩

theorem joinLines_cons {lines : List Text} (more : lines ≠ []) (line : Text) :
    joinLines (line :: lines) = line ++ '\n' :: joinLines lines := by
  cases lines with
  | nil => exact absurd rfl more
  | cons second rest => rfl

theorem not_mem_joinLines {lines : List Text} {c : Char} (other : c ≠ '\n')
    (clean : ∀ line ∈ lines, c ∉ line) : c ∉ joinLines lines := by
  induction lines with
  | nil => simp [joinLines]
  | cons line rest ih =>
    obtain ⟨here, there⟩ := List.forall_mem_cons.mp clean
    cases rest with
    | nil => exact here
    | cons second rest =>
      rw [joinLines_cons (by simp)]
      simp [here, other, ih there]

theorem joinLines_pieces (text : Text) : joinLines (pieces text) = text := by
  induction text with
  | nil => rfl
  | cons c rest ih =>
    by_cases feed : c = '\n'
    · subst feed
      simp only [pieces, if_true]
      rw [joinLines_cons (pieces_ne_nil rest), ih]
      rfl
    · obtain ⟨piece, others, cut, whole⟩ := pieces_cons_of_ne feed rest
      rw [whole]
      rw [cut] at ih
      cases others with
      | nil => simpa [joinLines] using ih
      | cons second others =>
        rw [joinLines_cons (by simp)] at ih ⊢
        simp [ih]

theorem joinLines_append {first second : List Text} (some : first ≠ []) (more : second ≠ []) :
    joinLines (first ++ second) = joinLines first ++ '\n' :: joinLines second := by
  induction first with
  | nil => exact absurd rfl some
  | cons line rest ih =>
    by_cases alone : rest = []
    · subst alone
      exact joinLines_cons more line
    · rw [List.cons_append, joinLines_cons (by simp [alone]), joinLines_cons alone, ih alone,
        List.append_assoc]
      rfl

/-- A text stands as a whole among the lines of several. -/
theorem infix_joinLines_pieces {texts : List Text} {text : Text} (member : text ∈ texts) :
    text <:+: joinLines (texts.flatMap pieces) := by
  induction texts with
  | nil => cases member
  | cons first rest ih =>
    rw [List.flatMap_cons]
    by_cases alone : rest = []
    · subst alone
      simp [List.mem_singleton.mp member, joinLines_pieces]
    · have more : rest.flatMap pieces ≠ [] := by
        obtain ⟨second, others, rfl⟩ := List.exists_cons_of_ne_nil alone
        simp [pieces_ne_nil]
      rw [joinLines_append (pieces_ne_nil first) more, joinLines_pieces]
      rcases List.mem_cons.mp member with rfl | later
      · exact (List.prefix_append ..).isInfix
      · have behind := (List.suffix_cons '\n' (joinLines (rest.flatMap pieces))).trans
          (List.suffix_append first _)
        exact (ih later).trans behind.isInfix

theorem mem_of_mem_pieces {text piece : Text} (member : piece ∈ pieces text) (c : Char)
    (here : c ∈ piece) : c ∈ text := by
  induction text generalizing piece with
  | nil =>
    simp only [pieces, List.mem_singleton] at member
    simp [member] at here
  | cons first rest ih =>
    by_cases feed : first = '\n'
    · simp only [pieces, feed, if_true, List.mem_cons] at member
      rcases member with rfl | later
      · cases here
      · exact List.mem_cons_of_mem _ (ih later here)
    · obtain ⟨head, others, cut, whole⟩ := pieces_cons_of_ne feed rest
      rw [whole, List.mem_cons] at member
      rw [cut] at ih
      rcases member with rfl | later
      · rcases List.mem_cons.mp here with rfl | inside
        · exact List.mem_cons_self
        · exact List.mem_cons_of_mem _ (ih List.mem_cons_self inside)
      · exact List.mem_cons_of_mem _ (ih (List.mem_cons_of_mem _ later) here)

theorem dropReturn_of_clean {line : Text} (clean : '\r' ∉ line) : dropReturn line = line := by
  induction line with
  | nil => rfl
  | cons c rest ih =>
    rw [List.mem_cons, not_or] at clean
    cases rest with
    | nil => simp [dropReturn, Ne.symm clean.1]
    | cons second rest => simp [dropReturn, ih clean.2]

theorem splitLines_of_clean {text : Text} (clean : '\r' ∉ text) : splitLines text = pieces text := by
  unfold splitLines
  have same : (pieces text).map dropReturn = (pieces text).map id :=
    List.map_congr_left fun piece member =>
      dropReturn_of_clean fun here => clean (mem_of_mem_pieces member _ here)
  rw [same, List.map_id]

/-- The lines of a text without carriage returns give it back. -/
theorem joinLines_splitLines {text : Text} (clean : '\r' ∉ text) :
    joinLines (splitLines text) = text := by
  rw [splitLines_of_clean clean, joinLines_pieces]

theorem splitLines_inj {first second : Text} (clean : '\r' ∉ first) (pure : '\r' ∉ second) :
    splitLines first = splitLines second ↔ first = second := by
  constructor
  · intro same
    rw [← joinLines_splitLines clean, same, joinLines_splitLines pure]
  · rintro rfl
    rfl

theorem length_pieces (text : Text) : (pieces text).length = text.count '\n' + 1 := by
  induction text with
  | nil => rfl
  | cons c rest ih =>
    by_cases feed : c = '\n'
    · simp [pieces, feed, ih]
    · obtain ⟨piece, others, cut, whole⟩ := pieces_cons_of_ne feed rest
      rw [cut] at ih
      rw [whole, List.count_cons_of_ne feed, ← ih]
      rfl

theorem pieces_append_feed (text : Text) : pieces (text ++ ['\n']) = pieces text ++ [[]] := by
  induction text with
  | nil => simp [pieces]
  | cons c rest ih =>
    by_cases feed : c = '\n'
    · simp [pieces, feed, ih]
    · obtain ⟨piece, others, cut, whole⟩ := pieces_cons_of_ne feed rest
      rw [whole, List.cons_append, pieces, if_neg feed, ih, cut]
      rfl

@[simp] theorem dropFeed_append_feed (text : Text) : dropFeed (text ++ ['\n']) = text := by
  induction text with
  | nil => rfl
  | cons c rest ih =>
    cases rest with
    | nil => simp [dropFeed]
    | cons second rest => simpa [dropFeed] using ih

theorem dropFeed_append {text : Text} (some : text ≠ []) (front : Text) :
    dropFeed (front ++ text) = front ++ dropFeed text := by
  induction front with
  | nil => rfl
  | cons c rest ih =>
    cases whole : rest ++ text with
    | nil => simp [some] at whole
    | cons second others =>
      rw [List.cons_append, whole, dropFeed, ← whole, ih]
      · rfl
      · simp

theorem dropFeed_eq_self_iff (text : Text) : dropFeed text = text ↔ text.getLast? ≠ some '\n' := by
  induction text with
  | nil => simp [dropFeed]
  | cons c rest ih =>
    cases rest with
    | nil => by_cases feed : c = '\n' <;> simp [dropFeed, feed]
    | cons second rest => simpa [dropFeed] using ih

/-- A text starts with a line feed and goes on like itself without its last one only if it holds
nothing but line feeds. -/
theorem eq_feed_cons_dropFeed_iff {text : Text} (some : text ≠ []) :
    text = '\n' :: dropFeed text ↔ ∀ c ∈ text, c = '\n' := by
  induction text with
  | nil => exact absurd rfl some
  | cons c rest ih =>
    cases rest with
    | nil => by_cases feed : c = '\n' <;> simp [dropFeed, feed]
    | cons second rest =>
      have step := ih (by simp)
      rw [dropFeed]
      · constructor
        · intro same
          obtain ⟨rfl, behind⟩ := List.cons.inj same
          intro d member
          rcases List.mem_cons.mp member with rfl | later
          · rfl
          · exact step.mp behind d later
        · intro feeds
          obtain rfl : c = '\n' := feeds c List.mem_cons_self
          rw [List.cons.injEq]
          exact ⟨rfl, step.mpr fun d later => feeds d (List.mem_cons_of_mem _ later)⟩
      · simp

/-- Dropping the last line feed drops an earlier one only when nothing but line feeds follows. -/
theorem dropFeed_append_cons_iff (front behind : Text) :
    front ++ behind = dropFeed (front ++ '\n' :: behind) ↔ ∀ c ∈ behind, c = '\n' := by
  cases behind with
  | nil => simp
  | cons c rest =>
    have moved : dropFeed (front ++ '\n' :: c :: rest) = front ++ '\n' :: dropFeed (c :: rest) := by
      rw [dropFeed_append (by simp)]
      rfl
    rw [moved, List.append_cancel_left_eq]
    exact eq_feed_cons_dropFeed_iff (by simp)

theorem mem_of_mem_dropFeed {text : Text} {c : Char} (member : c ∈ dropFeed text) : c ∈ text := by
  rcases List.eq_nil_or_concat text with rfl | ⟨front, last, rfl⟩
  · exact member
  · rw [List.concat_eq_append] at member ⊢
    rw [dropFeed_append (by simp)] at member
    rcases List.mem_append.mp member with inside | there
    · exact List.mem_append_left _ inside
    · by_cases feed : last = '\n'
      · simp [dropFeed, feed] at there
      · simp only [dropFeed, feed, if_false] at there
        exact List.mem_append_right _ there

end LanguageBridge.Text

/-!
Texts that say the same up to carriage returns at the ends of their lines. Cutting a text into lines
and joining them again loses nothing else.
-/
namespace LanguageBridge.Text

/-- A line without the carriage returns at its end. -/
def dropReturns (line : Text) : Text := line.rdropWhile (· = '\r')

/-- Two texts differ at most in carriage returns at the ends of their lines. -/
def Alike (first second : Text) : Prop :=
  (pieces first).map dropReturns = (pieces second).map dropReturns

theorem Alike.refl (text : Text) : Alike text text := rfl

theorem Alike.symm {first second : Text} (alike : Alike first second) : Alike second first :=
  Eq.symm alike

theorem dropReturn_append_singleton (line : Text) (c : Char) :
    dropReturn (line ++ [c]) = if c = '\r' then line else line ++ [c] := by
  induction line with
  | nil => rfl
  | cons first rest ih =>
    have more : rest ++ [c] ≠ [] := by simp
    rw [List.cons_append, dropReturn, ih]
    · split <;> rfl
    · exact more

theorem dropReturns_dropReturn (line : Text) : dropReturns (dropReturn line) = dropReturns line := by
  rcases List.eq_nil_or_concat line with rfl | ⟨front, last, rfl⟩
  · rfl
  · rw [List.concat_eq_append, dropReturn_append_singleton]
    by_cases feed : last = '\r'
    · rw [if_pos feed, dropReturns, dropReturns, List.rdropWhile_concat_pos]
      simpa using feed
    · rw [if_neg feed]

theorem feed_not_mem_pieces {text piece : Text} (member : piece ∈ pieces text) : '\n' ∉ piece := by
  induction text generalizing piece with
  | nil =>
    rw [pieces, List.mem_singleton] at member
    simp [member]
  | cons c rest ih =>
    by_cases feed : c = '\n'
    · simp only [pieces, feed, if_true, List.mem_cons] at member
      rcases member with rfl | later
      · simp
      · exact ih later
    · obtain ⟨head, others, cut, whole⟩ := pieces_cons_of_ne feed rest
      rw [whole, List.mem_cons] at member
      rw [cut] at ih
      rcases member with rfl | later
      · rw [List.mem_cons, not_or]
        exact ⟨Ne.symm feed, ih List.mem_cons_self⟩
      · exact ih (List.mem_cons_of_mem _ later)

theorem feed_not_mem_dropReturn {line : Text} (clean : '\n' ∉ line) : '\n' ∉ dropReturn line := by
  rcases List.eq_nil_or_concat line with rfl | ⟨front, last, rfl⟩
  · exact clean
  · rw [List.concat_eq_append] at clean ⊢
    rw [dropReturn_append_singleton]
    split
    · exact fun here => clean (List.mem_append_left _ here)
    · exact clean

theorem pieces_append_feed_cons {line : Text} (clean : '\n' ∉ line) (rest : Text) :
    pieces (line ++ '\n' :: rest) = line :: pieces rest := by
  induction line with
  | nil => simp [pieces]
  | cons c line ih =>
    rw [List.mem_cons, not_or] at clean
    simp [pieces, Ne.symm clean.1, ih clean.2]

theorem pieces_of_clean {line : Text} (clean : '\n' ∉ line) : pieces line = [line] := by
  induction line with
  | nil => rfl
  | cons c line ih =>
    rw [List.mem_cons, not_or] at clean
    simp [pieces, Ne.symm clean.1, ih clean.2]

/-- Lines without line feeds come back from their text. -/
theorem pieces_joinLines {lines : List Text} (some : lines ≠ [])
    (clean : ∀ line ∈ lines, '\n' ∉ line) : pieces (joinLines lines) = lines := by
  induction lines with
  | nil => exact absurd rfl some
  | cons line rest ih =>
    have here := clean line List.mem_cons_self
    cases rest with
    | nil => exact pieces_of_clean here
    | cons second others =>
      rw [joinLines_cons (by simp), pieces_append_feed_cons here,
        ih (by simp) fun line member => clean line (List.mem_cons_of_mem _ member)]

/-- The lines of a text come back from it once they are joined. -/
theorem pieces_joinLines_splitLines (text : Text) :
    pieces (joinLines (splitLines text)) = splitLines text := by
  refine pieces_joinLines (splitLines_ne_nil text) fun line member => ?_
  obtain ⟨piece, there, rfl⟩ := List.mem_map.mp member
  exact feed_not_mem_dropReturn (feed_not_mem_pieces there)

theorem alike_joinLines_splitLines (text : Text) : Alike (joinLines (splitLines text)) text := by
  rw [Alike, pieces_joinLines_splitLines, splitLines, List.map_map]
  exact List.map_congr_left fun piece _ => dropReturns_dropReturn piece

theorem dropReturn_eq_self_iff (line : Text) :
    dropReturn line = line ↔ line.getLast? ≠ some '\r' := by
  induction line with
  | nil => simp [dropReturn]
  | cons c rest ih =>
    cases rest with
    | nil => by_cases feed : c = '\r' <;> simp [dropReturn, feed]
    | cons second rest => simpa [dropReturn] using ih

/-- Whether a line of a text ends in a carriage return. -/
def hasReturns (text : Text) : Bool :=
  (pieces text).any fun line => line.getLast? = some '\r'

/-- Cutting a text into lines and joining them again gives the text back exactly if no line ends in a
carriage return. -/
theorem joinLines_splitLines_eq_iff (text : Text) :
    joinLines (splitLines text) = text ↔ text.hasReturns = false := by
  have kept : text.hasReturns = false ↔ splitLines text = pieces text := by
    have each : splitLines text = pieces text ↔ ∀ line ∈ pieces text, dropReturn line = line := by
      rw [splitLines]
      nth_rewrite 2 [← List.map_id (pieces text)]
      exact List.map_inj_left
    rw [each, hasReturns, List.any_eq_false]
    refine forall₂_congr fun line _ => ?_
    rw [dropReturn_eq_self_iff, decide_eq_true_eq]
  rw [kept]
  constructor
  · intro same
    rw [← pieces_joinLines_splitLines, same]
  · intro same
    rw [same, joinLines_pieces]

end LanguageBridge.Text
