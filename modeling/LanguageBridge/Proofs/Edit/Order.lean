import LanguageBridge.Proofs.Text.Utf8
import LanguageBridge.TextEdit
import Mathlib.Data.List.Chain

/-!
Where places of the protocol fall in a text. Every place falls between two characters, and places
keep their order.
-/
namespace LanguageBridge.TextEdit

open Text

variable {lines : List Text} {line : Text} {index : Nat}

theorem bytesBefore_succ (found : lines[index]? = some line) :
    bytesBefore lines (index + 1) = bytesBefore lines index + (line.byteLength + 1) := by
  induction lines generalizing index with
  | nil => simp at found
  | cons first rest ih =>
    cases index with
    | zero =>
      simp only [List.getElem?_cons_zero, Option.some.injEq] at found
      subst found
      cases rest <;> simp [bytesBefore]
    | succ index =>
      rw [List.getElem?_cons_succ] at found
      rw [bytesBefore, ih found, bytesBefore]
      omega

theorem bytesBefore_mono (lines : List Text) {first second : Nat} (le : first ≤ second) :
    bytesBefore lines first ≤ bytesBefore lines second := by
  induction lines generalizing first second with
  | nil => exact Nat.le_refl _
  | cons line rest ih =>
    cases first with
    | zero => exact Nat.zero_le _
    | succ first =>
      cases second with
      | zero => omega
      | succ second => exact Nat.add_le_add_left (ih (by omega)) _

/-- A line stands in the text behind the bytes before it. -/
theorem joinLines_at (found : lines[index]? = some line) :
    ∃ before after, joinLines lines = before ++ (line ++ after) ∧
      before.byteLength = bytesBefore lines index := by
  induction lines generalizing index with
  | nil => simp at found
  | cons first rest ih =>
    cases index with
    | zero =>
      simp only [List.getElem?_cons_zero, Option.some.injEq] at found
      subst found
      cases rest with
      | nil => exact ⟨[], [], by simp [joinLines], rfl⟩
      | cons second rest => exact ⟨[], '\n' :: joinLines (second :: rest), rfl, rfl⟩
    | succ index =>
      rw [List.getElem?_cons_succ] at found
      obtain ⟨before, after, whole, length⟩ := ih found
      cases rest with
      | nil => simp at found
      | cons second rest =>
        refine ⟨first ++ '\n' :: before, after, ?_, ?_⟩
        · rw [joinLines, whole]
          · simp
          · simp
        · have feed : '\n'.utf8Size = 1 := rfl
          simp only [byteLength_append, byteLength_cons, length, feed, bytesBefore]
          omega

@[simp] theorem place_newText (lines : List Text) (edit : TextEdit) :
    (place lines edit).newText = edit.newText := rfl

theorem offsetOf_of_line {position : ProtocolPosition} (found : lines[position.line]? = some line) :
    offsetOf lines position = bytesBefore lines position.line + line.byteAt position.character := by
  simp [offsetOf, found]

theorem offsetOf_boundary (lines : List Text) (position : ProtocolPosition) :
    Boundary (joinLines lines) (offsetOf lines position) := by
  cases found : lines[position.line]? with
  | none => exact ⟨joinLines lines, [], by simp, by simp [offsetOf, found]⟩
  | some line =>
    obtain ⟨before, after, whole, length⟩ := joinLines_at found
    obtain ⟨first, last, cut, units⟩ := byteAt_boundary line position.character
    refine ⟨before ++ first, last ++ after, ?_, ?_⟩
    · rw [whole, cut]
      simp
    · rw [offsetOf_of_line found, byteLength_append, length, units]

theorem offsetOf_le (lines : List Text) (position : ProtocolPosition) :
    offsetOf lines position ≤ (joinLines lines).byteLength :=
  (offsetOf_boundary lines position).le

/-- Places keep their order. -/
theorem offsetOf_mono (lines : List Text) {first second : ProtocolPosition}
    (le : first.notAfter second) : offsetOf lines first ≤ offsetOf lines second := by
  cases later : lines[second.line]? with
  | none =>
    have last : offsetOf lines second = (joinLines lines).byteLength := by simp [offsetOf, later]
    rw [last]
    exact offsetOf_le lines first
  | some line =>
    have inside := (List.getElem?_eq_some_iff.mp later).1
    simp only [ProtocolPosition.notAfter, Bool.or_eq_true, decide_eq_true_eq, Bool.and_eq_true]
      at le
    rw [offsetOf_of_line later]
    rcases le with above | ⟨same, units⟩
    · obtain ⟨other, earlier⟩ : ∃ other, lines[first.line]? = some other :=
        ⟨_, List.getElem?_eq_getElem (by omega)⟩
      rw [offsetOf_of_line earlier]
      have short := (byteAt_boundary other first.character).le
      have next := bytesBefore_succ earlier
      have onward := bytesBefore_mono lines (Nat.succ_le_of_lt above)
      rw [Nat.succ_eq_add_one] at onward
      omega
    · rw [← same] at later ⊢
      rw [offsetOf_of_line later]
      exact Nat.add_le_add_left (byteAt_mono line units) _

end LanguageBridge.TextEdit

/-!
What replacing comes to. New texts take the places of their stretches all at once, and what stands
between the stretches is kept; carrying replacements out from the last to the first does the same.
-/
namespace LanguageBridge.TextEdit

/-- A text that starts at an offset, with every stretch replaced by its new text. -/
inductive Replaced : Nat → List Placed → Text → Text → Prop
  | nothing (offset : Nat) (text : Text) : Replaced offset [] text text
  | stretch {placed : Placed} {rest : List Placed} {text result : Text} (kept gone : Text)
      (start : placed.start = offset + kept.byteLength)
      (stop : placed.stop = placed.start + gone.byteLength)
      (behind : Replaced placed.stop rest text result) :
      Replaced offset (placed :: rest) (kept ++ (gone ++ text))
        (kept ++ (placed.newText ++ result))

variable {stretches : List Placed} {text result other : Text} {offset : Nat}

/-- Carrying out replacements from the last to the first puts every new text in its place. -/
theorem Replaced.replaceAll (replaced : Replaced offset stretches text result) (front : Text)
    (before : front.byteLength = offset) :
    replaceAll stretches (front ++ text) = front ++ result := by
  induction replaced generalizing front with
  | nothing => rfl
  | @stretch offset placed rest text result kept gone start stop behind ih =>
    have whole : front ++ (kept ++ (gone ++ text)) = (front ++ kept ++ gone) ++ text := by simp
    have reached : (front ++ kept ++ gone).byteLength = placed.stop := by
      simp only [Text.byteLength_append]
      omega
    have begun : (front ++ kept).byteLength = placed.start := by
      rw [Text.byteLength_append]
      omega
    have later := ih (front ++ kept ++ gone) reached
    rw [TextEdit.replaceAll, List.foldr_cons, ← TextEdit.replaceAll, whole, later, Placed.replace,
      ← reached, Text.splitAtByte_append, List.append_assoc (front ++ kept), ← begun,
      Text.splitAtByte_append]
    simp

/-- Nothing comes in that is not in the text or a new text. -/
theorem Replaced.mem (replaced : Replaced offset stretches text result) {c : Char}
    (member : c ∈ result) : c ∈ text ∨ ∃ placed ∈ stretches, c ∈ placed.newText := by
  induction replaced with
  | nothing => exact .inl member
  | stretch kept gone start stop behind ih =>
    simp only [List.mem_append] at member ⊢
    rcases member with here | new | later
    · exact .inl (.inl here)
    · exact .inr ⟨_, List.mem_cons_self, new⟩
    · rcases ih later with inside | ⟨placed, present, new⟩
      · exact .inl (.inr (.inr inside))
      · exact .inr ⟨placed, List.mem_cons_of_mem _ present, new⟩

/-- There is one outcome of replacing. -/
theorem Replaced.unique (first : Replaced offset stretches text result)
    (second : Replaced offset stretches text other) : result = other := by
  obtain ⟨front, before⟩ := Text.exists_byteLength offset
  have same := (first.replaceAll front before).symm.trans (second.replaceAll front before)
  exact List.append_cancel_left same

/-- Stretches that come one after the other, the first not before an offset. -/
def Ascending : Nat → List Placed → Prop
  | _, [] => True
  | offset, placed :: rest =>
    offset ≤ placed.start ∧ placed.start ≤ placed.stop ∧ Ascending placed.stop rest

/-- Stretches that come one after the other and start and stop between characters can be
replaced. -/
theorem exists_replaced (front : Text) (ascending : Ascending front.byteLength stretches)
    (cut : ∀ placed ∈ stretches, Text.Boundary (front ++ text) placed.start ∧
      Text.Boundary (front ++ text) placed.stop) :
    ∃ result, Replaced front.byteLength stretches text result := by
  induction stretches generalizing front text with
  | nil => exact ⟨text, .nothing _ _⟩
  | cons placed rest ih =>
    obtain ⟨reached, forward, later⟩ := ascending
    obtain ⟨⟨before, after, here, start⟩, first, last, there, stop⟩ := cut placed List.mem_cons_self
    obtain ⟨kept, rfl, rfl⟩ := Text.append_eq_append_of_le here (by omega)
    rw [here] at there
    obtain ⟨gone, rfl, rfl⟩ := Text.append_eq_append_of_le there (by omega)
    have whole : front ++ (kept ++ (gone ++ last)) = (front ++ kept ++ gone) ++ last := by simp
    rw [← stop] at later
    obtain ⟨result, behind⟩ := ih (front ++ kept ++ gone) later fun other member => by
      rw [← whole]
      exact cut other (List.mem_cons_of_mem _ member)
    rw [stop] at behind
    simp only [Text.byteLength_append] at start stop
    exact ⟨_, .stretch kept gone (by omega) (by omega) behind⟩

end LanguageBridge.TextEdit

/-!
The order of edits. Sorting orders them by span, the check of neighbours finds an overlap exactly
when some two edits overlap, and edits that pass it fall one behind the other.
-/
namespace LanguageBridge

namespace ProtocolPosition

variable {first second third : ProtocolPosition}

theorem notAfter_iff : first.notAfter second = true ↔
    first.line < second.line ∨ first.line = second.line ∧ first.character ≤ second.character := by
  simp [notAfter]

theorem notAfter_refl (position : ProtocolPosition) : position.notAfter position = true := by
  simp [notAfter]

theorem notAfter_trans (one : first.notAfter second = true) (two : second.notAfter third = true) :
    first.notAfter third = true := by
  rw [notAfter_iff] at *
  omega

theorem notAfter_total (first second : ProtocolPosition) :
    first.notAfter second = true ∨ second.notAfter first = true := by
  rw [notAfter_iff, notAfter_iff]
  omega

theorem notAfter_antisymm (one : first.notAfter second = true)
    (two : second.notAfter first = true) : first = second := by
  rw [notAfter_iff] at one two
  rcases first with ⟨line, character⟩
  rcases second with ⟨otherLine, otherCharacter⟩
  simp only [mk.injEq] at *
  omega

theorem before_iff : first.before second = true ↔ second.notAfter first = false := by
  simp [before]

end ProtocolPosition

namespace Span

open ProtocolPosition

variable {first second third : Span}

theorem notAfter_iff : first.notAfter second = true ↔ second.start.notAfter first.start = false ∨
    first.start = second.start ∧ first.stop.notAfter second.stop = true := by
  simp [notAfter, before_iff]

theorem start_notAfter (ordered : first.notAfter second = true) :
    first.start.notAfter second.start = true := by
  rcases notAfter_iff.mp ordered with before | ⟨same, _⟩
  · rcases notAfter_total first.start second.start with here | there
    · exact here
    · rw [there] at before
      cases before
  · rw [same]
    exact notAfter_refl _

theorem notAfter_trans (one : first.notAfter second = true) (two : second.notAfter third = true) :
    first.notAfter third = true := by
  have reached := ProtocolPosition.notAfter_trans (start_notAfter one) (start_notAfter two)
  rw [notAfter_iff]
  by_cases back : third.start.notAfter first.start = true
  · have here := ProtocolPosition.notAfter_antisymm reached back
    have middle : second.start = first.start := by
      apply ProtocolPosition.notAfter_antisymm _ (start_notAfter one)
      rw [here]
      exact start_notAfter two
    refine .inr ⟨here, ?_⟩
    rcases notAfter_iff.mp one with before | ⟨_, first⟩
    · rw [middle, notAfter_refl] at before
      cases before
    rcases notAfter_iff.mp two with before | ⟨_, last⟩
    · rw [middle, ← here, notAfter_refl] at before
      cases before
    exact ProtocolPosition.notAfter_trans first last
  · exact .inl (Bool.eq_false_iff.mpr back)

theorem notAfter_total (first second : Span) :
    (first.notAfter second || second.notAfter first) = true := by
  rw [Bool.or_eq_true, notAfter_iff, notAfter_iff]
  cases one : second.start.notAfter first.start with
  | false => exact .inl (.inl rfl)
  | true =>
    cases two : first.start.notAfter second.start with
    | false => exact .inr (.inl rfl)
    | true =>
      have same := ProtocolPosition.notAfter_antisymm two one
      rcases ProtocolPosition.notAfter_total first.stop second.stop with here | there
      · exact .inl (.inr ⟨same, here⟩)
      · exact .inr (.inr ⟨same.symm, there⟩)

theorem notAfter_refl (span : Span) : span.notAfter span = true :=
  notAfter_iff.mpr (.inr ⟨rfl, ProtocolPosition.notAfter_refl _⟩)

theorem notAfter_antisymm (one : first.notAfter second = true)
    (two : second.notAfter first = true) : first = second := by
  have start := ProtocolPosition.notAfter_antisymm (start_notAfter one) (start_notAfter two)
  rcases notAfter_iff.mp one with before | ⟨_, stops⟩
  · rw [start, ProtocolPosition.notAfter_refl] at before
    cases before
  rcases notAfter_iff.mp two with before | ⟨_, stopped⟩
  · rw [start, ProtocolPosition.notAfter_refl] at before
    cases before
  have stop := ProtocolPosition.notAfter_antisymm stops stopped
  cases first
  cases second
  exact congrArg₂ Span.mk start stop

end Span

namespace TextEdit

theorem sorted_perm (edits : List TextEdit) : (sorted edits).Perm edits :=
  List.mergeSort_perm edits _

theorem sorted_pairwise (edits : List TextEdit) :
    (sorted edits).Pairwise fun first second => first.span.notAfter second.span = true := by
  unfold sorted
  apply List.pairwise_mergeSort
  · intro first second third one two
    exact Span.notAfter_trans one two
  · intro first second
    exact Span.notAfter_total first.span second.span

/-- Edits that are chosen keep their order, if that is the order of their spans. -/
theorem filter_sorted {edits : List TextEdit} (chosen : TextEdit → Bool)
    (ordered : (edits.filter chosen).Pairwise fun first second =>
      first.span.notAfter second.span = true) :
    (sorted edits).filter chosen = edits.filter chosen := by
  have trans : ∀ first second third : TextEdit, first.span.notAfter second.span = true →
      second.span.notAfter third.span = true → first.span.notAfter third.span = true :=
    fun _ _ _ => Span.notAfter_trans
  have stable : (edits.filter chosen).Sublist (sorted edits) :=
    List.sublist_mergeSort trans (fun _ _ => Span.notAfter_total _ _) ordered List.filter_sublist
  have inside := stable.filter chosen
  rw [List.filter_filter] at inside
  simp only [Bool.and_self] at inside
  exact (inside.eq_of_length ((sorted_perm edits).filter _).length_eq.symm).symm

theorem overlap?_eq_none_iff (edits : List TextEdit) : overlap? edits = none ↔
    edits.IsChain fun first second => first.span.stop.notAfter second.span.start = true := by
  induction edits with
  | nil => simp [overlap?]
  | cons first rest ih =>
    cases rest with
    | nil => simp [overlap?]
    | cons second rest =>
      rw [List.isChain_cons_cons, ← ih, overlap?, ProtocolPosition.before]
      cases first.span.stop.notAfter second.span.start <;> simp

/-- Of any two edits one ends before the other starts, or where it starts. -/
def Disjoint (edits : List TextEdit) : Prop :=
  edits.Pairwise fun first second => first.span.stop.notAfter second.span.start = true ∨
    second.span.stop.notAfter first.span.start = true

theorem Disjoint.perm {edits others : List TextEdit} (disjoint : Disjoint edits)
    (same : edits.Perm others) : Disjoint others :=
  (same.pairwise_iff fun either => either.symm).mp disjoint

/-- Disjoint edits in order: each ends before all later ones start, or where they start. -/
theorem sorted_apart {edits : List TextEdit} (disjoint : Disjoint edits)
    (forward : ∀ edit ∈ edits, edit.span.start.notAfter edit.span.stop = true) :
    (sorted edits).Pairwise fun first second =>
      first.span.stop.notAfter second.span.start = true := by
  have apart : Disjoint (sorted edits) := disjoint.perm (sorted_perm edits).symm
  have onward : ∀ edit ∈ sorted edits, edit.span.start.notAfter edit.span.stop = true :=
    fun edit member => forward edit ((sorted_perm edits).mem_iff.mp member)
  refine List.Pairwise.imp_of_mem ?_ ((sorted_pairwise edits).and apart)
  rintro first second here there ⟨ordered, before | after⟩
  · exact before
  · have begins := Span.start_notAfter ordered
    have inside := ProtocolPosition.notAfter_trans (onward second there) after
    have same := ProtocolPosition.notAfter_antisymm begins inside
    rcases Span.notAfter_iff.mp ordered with strict | ⟨_, stops⟩
    · rw [inside] at strict
      cases strict
    · rw [← same]
      exact ProtocolPosition.notAfter_trans stops after

/-- Disjoint edits pass the check of neighbours. -/
theorem overlap?_sorted_of_disjoint {edits : List TextEdit} (disjoint : Disjoint edits)
    (forward : ∀ edit ∈ edits, edit.span.start.notAfter edit.span.stop = true) :
    overlap? (sorted edits) = none :=
  (overlap?_eq_none_iff _).mpr (sorted_apart disjoint forward).isChain

/-- Edits in order that pass the check of neighbours fall one behind the other. -/
theorem ascending_place (lines : List Text) {edits : List TextEdit} {offset : Nat}
    (ordered : edits.Pairwise fun first second => first.span.notAfter second.span = true)
    (accepted : overlap? edits = none)
    (first : ∀ edit ∈ edits.head?, offset ≤ offsetOf lines edit.span.start) :
    Ascending offset (edits.map (place lines)) := by
  rw [overlap?_eq_none_iff] at accepted
  induction edits generalizing offset with
  | nil => trivial
  | cons edit rest ih =>
    refine ⟨first edit rfl, Nat.le_max_right _ _, ih ordered.of_cons accepted.tail ?_⟩
    intro next head
    cases rest with
    | nil => cases head
    | cons second rest =>
      obtain rfl : second = next := Option.some.inj head
      have starts := Span.start_notAfter (List.rel_of_pairwise_cons ordered List.mem_cons_self)
      have stops := (List.isChain_cons_cons.mp accepted).1
      exact Nat.max_le.mpr ⟨offsetOf_mono lines stops, offsetOf_mono lines starts⟩

/-- Edits that the check of neighbours accepts have an outcome. -/
theorem exists_replaced_place (lines : List Text) {edits : List TextEdit}
    (accepted : overlap? (sorted edits) = none) :
    ∃ result, Replaced 0 ((sorted edits).map (place lines)) (Text.joinLines lines) result := by
  refine exists_replaced []
    (ascending_place lines (sorted_pairwise edits) accepted fun _ _ => Nat.zero_le _) ?_
  intro placed member
  obtain ⟨edit, _, rfl⟩ := List.mem_map.mp member
  refine ⟨offsetOf_boundary lines _, ?_⟩
  simp only [place]
  rcases Nat.le_total (offsetOf lines edit.span.start) (offsetOf lines edit.span.stop) with le | le
  · rw [Nat.max_eq_left le]
    exact offsetOf_boundary lines _
  · rw [Nat.max_eq_right le]
    exact offsetOf_boundary lines _

end TextEdit

end LanguageBridge
