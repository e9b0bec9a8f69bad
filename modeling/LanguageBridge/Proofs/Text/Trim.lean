import LanguageBridge.Text.Blank
import Mathlib.Data.List.TakeWhile

/-!
Trimming. Every text is what is left of it with white space around, and of a text with white space
around that neither begins nor ends with any just the white space goes.
-/
namespace LanguageBridge.Text

/-- A text of white space only. -/
def Blank (text : Text) : Prop := ∀ c ∈ text, isBlank c = true

instance (text : Text) : Decidable (Blank text) :=
  decidable_of_iff (text.all isBlank = true) List.all_eq_true

/-- A text that neither begins nor ends with white space. -/
structure Tight (text : Text) : Prop where
  front : ∀ c ∈ text.head?, isBlank c = false
  back : ∀ c ∈ text.getLast?, isBlank c = false

theorem blank_nil : Blank [] := fun _ member => absurd member List.not_mem_nil

/-- White space is a blank, a control character, or beyond ASCII. -/
theorem blank_bounds {c : Char} (blank : isBlank c = true) : c.toNat ≤ 32 ∨ 133 ≤ c.toNat := by
  rw [isBlank] at blank
  simp only [Bool.or_eq_true, Bool.and_eq_true, decide_eq_true_iff] at blank
  rcases blank with (((((((((rfl | h) | h) | h) | h) | h) | h) | h) | h) | h) | h
  · exact .inl (by decide)
  all_goals omega

theorem Blank.append (first : Blank before) (second : Blank after) : Blank (before ++ after) := by
  intro c member
  rcases List.mem_append.mp member with here | there
  · exact first c here
  · exact second c there

theorem dropWhile_blank (blank : Blank text) : text.dropWhile isBlank = [] :=
  List.dropWhile_eq_nil_iff.mpr blank

theorem trimStart_append (blank : Blank left) (text : Text) :
    trimStart (left ++ text) = trimStart text := by
  rw [trimStart, List.dropWhile_append, dropWhile_blank blank]
  rfl

theorem trimEnd_append (blank : Blank right) (text : Text) :
    trimEnd (text ++ right) = trimEnd text := by
  have turned : Blank right.reverse := fun c member => blank c (List.mem_reverse.mp member)
  rw [trimEnd, List.reverse_append, List.dropWhile_append, dropWhile_blank turned]
  rfl

theorem trimStart_of_front {text : Text} (front : ∀ c ∈ text.head?, isBlank c = false) :
    trimStart text = text := by
  cases text with
  | nil => rfl
  | cons c rest => simp [trimStart, front c rfl]

theorem trimEnd_of_back {text : Text} (back : ∀ c ∈ text.getLast?, isBlank c = false) :
    trimEnd text = text := by
  have turned : ∀ c ∈ text.reverse.head?, isBlank c = false := by
    simpa only [List.head?_reverse] using back
  rw [trimEnd]
  exact (congrArg List.reverse (trimStart_of_front turned)).trans (List.reverse_reverse text)

theorem trim_blank (blank : Blank text) : trim text = [] := by
  rw [trim, trimStart, dropWhile_blank blank]
  rfl

/-- White space around a text goes. -/
theorem trim_surrounded (left : Blank before) (tight : Tight text) (right : Blank after) :
    trim (before ++ text ++ after) = text := by
  rw [trim, List.append_assoc, trimStart_append left]
  cases text with
  | nil =>
    rw [List.nil_append, trimStart, dropWhile_blank right]
    rfl
  | cons c rest =>
    rw [trimStart_of_front (by simpa using tight.front), trimEnd_append right,
      trimEnd_of_back tight.back]

theorem trim_append_blank (text : Text) (right : Blank after) :
    trim (text ++ after) = trim text := by
  by_cases blank : Blank text
  · rw [trim_blank blank, trim_blank (blank.append right)]
  · have stays : text.dropWhile isBlank ≠ [] := fun gone =>
      blank (List.dropWhile_eq_nil_iff.mp gone)
    rw [trim, trim, trimStart, List.dropWhile_append, if_neg (by simpa using stays),
      trimEnd_append right]
    rfl

/-- What trimming takes away is white space at the ends. -/
theorem exists_trim (text : Text) :
    ∃ before after, text = before ++ trim text ++ after ∧ Blank before ∧ Blank after := by
  let inner := trimStart text
  have front : text = text.takeWhile isBlank ++ inner := (List.takeWhile_append_dropWhile).symm
  have back : inner = trimEnd inner ++ (inner.reverse.takeWhile isBlank).reverse := by
    rw [trimEnd, ← List.reverse_append, List.takeWhile_append_dropWhile, List.reverse_reverse]
  refine ⟨text.takeWhile isBlank, (inner.reverse.takeWhile isBlank).reverse, ?_, ?_, ?_⟩
  · rw [List.append_assoc]
    exact front.trans (congrArg (text.takeWhile isBlank ++ ·) back)
  · exact fun c member => List.mem_takeWhile_imp member
  · exact fun c member => List.mem_takeWhile_imp (List.mem_reverse.mp member)

theorem trim_eq_nil_iff : trim text = [] ↔ Blank text := by
  refine ⟨fun gone => ?_, trim_blank⟩
  obtain ⟨before, after, same, left, right⟩ := exists_trim text
  rw [gone, List.append_nil] at same
  rw [same]
  exact left.append right

end LanguageBridge.Text

/-!
Words. A text spells words when they stand in it one after the other with white space between them,
and perhaps around them; the words that are read are exactly those.
-/
namespace LanguageBridge.Text

/-- A text spells words: each is behind white space, perhaps none, has none in it, and is followed by
the end or by more. -/
inductive Spells : Text → List Text → Prop
  | blank {text : Text} (blank : Blank text) : Spells text []
  | word {before word rest : Text} {words : List Text} (left : Blank before) (some : word ≠ [])
      (whole : ∀ c ∈ word, isBlank c = false) (cut : ∀ c ∈ rest.head?, isBlank c = true)
      (others : Spells rest words) : Spells (before ++ (word ++ rest)) (word :: words)

theorem wordsFrom_blank (left : Blank before) (text : Text) :
    wordsFrom [] (before ++ text) = wordsFrom [] text := by
  induction before with
  | nil => rfl
  | cons c before ih =>
    obtain ⟨here, there⟩ := List.forall_mem_cons.mp left
    rw [List.cons_append, wordsFrom, if_pos here]
    exact ih there

theorem wordsFrom_whole {word : Text} (whole : ∀ c ∈ word, isBlank c = false)
    (front rest : Text) : wordsFrom front (word ++ rest) = wordsFrom (front ++ word) rest := by
  induction word generalizing front with
  | nil => rw [List.nil_append, List.append_nil]
  | cons c word ih =>
    obtain ⟨here, there⟩ := List.forall_mem_cons.mp whole
    rw [List.cons_append, wordsFrom, if_neg (by rw [here]; decide), ih there, List.append_assoc]
    rfl

theorem wordsFrom_cut {word rest : Text} (some : word ≠ [])
    (cut : ∀ c ∈ rest.head?, isBlank c = true) :
    wordsFrom word rest = word :: wordsFrom [] rest := by
  have filled : word.isEmpty = false := by simpa using some
  cases rest with
  | nil => rw [wordsFrom, filled]; rfl
  | cons c rest =>
    have here := cut c rfl
    rw [wordsFrom, if_pos here, filled, wordsFrom, if_pos here]
    rfl

theorem words_of_spells {text : Text} {found : List Text} (spells : Spells text found) :
    words text = found := by
  induction spells with
  | @blank text blank =>
    have gone := wordsFrom_blank blank []
    rwa [List.append_nil] at gone
  | @word before word rest words left some whole cut _ ih =>
    rw [Text.words, wordsFrom_blank left, wordsFrom_whole whole, List.nil_append,
      wordsFrom_cut some cut, ← ih]
    rfl

theorem Spells.cons {c : Char} {text : Text} {words : List Text} (blank : isBlank c = true)
    (spells : Spells text words) : Spells (c :: text) words := by
  cases spells with
  | blank rest => exact .blank (List.forall_mem_cons.mpr ⟨blank, rest⟩)
  | word left some whole cut others =>
    exact .word (List.forall_mem_cons.mpr ⟨blank, left⟩) some whole cut others

theorem whole_nil : ∀ c ∈ ([] : Text), isBlank c = false :=
  fun _ member => absurd member List.not_mem_nil

/-- What has been read of a word and what follows spell the words that come of them. -/
theorem spells_wordsFrom {word : Text} (whole : ∀ c ∈ word, isBlank c = false) (text : Text) :
    Spells (word ++ text) (wordsFrom word text) := by
  induction text generalizing word with
  | nil =>
    by_cases none : word = []
    · subst none
      exact .blank blank_nil
    · have cut : ∀ c ∈ ([] : Text).head?, isBlank c = true := fun _ empty => nomatch empty
      rw [wordsFrom_cut none cut]
      exact .word blank_nil none whole cut (.blank blank_nil)
  | cons c rest ih =>
    by_cases blank : isBlank c = true
    · have behind : Spells (c :: rest) (wordsFrom [] rest) := .cons blank (ih whole_nil)
      by_cases none : word = []
      · subst none
        rw [wordsFrom, if_pos blank]
        exact behind
      · have cut : ∀ d ∈ (c :: rest).head?, isBlank d = true := by
          rintro d ⟨⟩
          exact blank
        rw [wordsFrom_cut none cut, wordsFrom, if_pos blank]
        exact .word blank_nil none whole cut behind
    · have longer : ∀ d ∈ word ++ [c], isBlank d = false := by
        intro d member
        rcases List.mem_append.mp member with here | there
        · exact whole d here
        · rw [List.mem_singleton.mp there]
          exact Bool.eq_false_iff.mpr blank
      rw [wordsFrom, if_neg blank]
      have onward := ih longer
      rwa [List.append_assoc] at onward

/-- A text spells exactly the words that are read. -/
theorem spells_iff {text : Text} {found : List Text} : Spells text found ↔ words text = found :=
  ⟨words_of_spells, fun same => same ▸ spells_wordsFrom whole_nil text⟩

theorem Spells.ne_nil {text : Text} {found : List Text} (spells : Spells text found) :
    ∀ word ∈ found, word ≠ [] := by
  induction spells with
  | blank => exact nofun
  | word _ some _ _ _ ih => exact List.forall_mem_cons.mpr ⟨some, ih⟩

theorem words_eq_nil_iff {text : Text} : words text = [] ↔ Blank text := by
  refine ⟨fun none => ?_, fun blank => words_of_spells (.blank blank)⟩
  cases spells_iff.mpr none with
  | blank blank => exact blank

end LanguageBridge.Text
