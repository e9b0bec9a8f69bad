import LanguageBridge.Proofs.Edit.Order

/-!
Overlaps. Only neighbours in order are compared, but that finds an overlap exactly when some two
edits of the list overlap; and edits with different spans may change places without any difference.
-/
namespace LanguageBridge.TextEdit

open ProtocolPosition

variable {edits others : List TextEdit} {first second : TextEdit} {position : ProtocolPosition}

/-- Edits in order that pass the check of neighbours: each stops before all later ones start, or
where they start. -/
theorem apart_of_accepted
    (ordered : edits.Pairwise fun first second => first.span.notAfter second.span = true)
    (accepted : overlap? edits = none) :
    edits.Pairwise fun first second => first.span.stop.notAfter second.span.start = true := by
  rw [overlap?_eq_none_iff] at accepted
  induction edits with
  | nil => exact .nil
  | cons first rest ih =>
    refine .cons ?_ (ih ordered.of_cons accepted.tail)
    cases rest with
    | nil => simp
    | cons second rest =>
      have next := (List.isChain_cons_cons.mp accepted).1
      intro later member
      rcases List.mem_cons.mp member with rfl | behind
      · exact next
      · have begins := Span.start_notAfter (List.rel_of_pairwise_cons ordered.of_cons behind)
        exact notAfter_trans next begins

/-- Edits that pass the check of neighbours, once they are in order, are disjoint. -/
theorem disjoint_of_accepted (accepted : overlap? (sorted edits) = none) : Disjoint edits :=
  Disjoint.perm ((apart_of_accepted (sorted_pairwise edits) accepted).imp Or.inl)
    (sorted_perm edits)

/-- The overlap that is found is one of two edits of the list: the second starts before the first
stops. -/
theorem overlap?_eq_some (found : overlap? edits = some (first, second)) :
    first ∈ edits ∧ second ∈ edits ∧ second.span.start.before first.span.stop = true := by
  induction edits with
  | nil => cases found
  | cons edit rest ih =>
    cases rest with
    | nil => cases found
    | cons next rest =>
      unfold overlap? at found
      split at found
      · rename_i crossing
        obtain ⟨rfl, rfl⟩ := Prod.mk.inj (Option.some.inj found)
        exact ⟨List.mem_cons_self, List.mem_cons_of_mem _ List.mem_cons_self, crossing⟩
      · obtain ⟨here, there, crossing⟩ := ih found
        exact ⟨List.mem_cons_of_mem _ here, List.mem_cons_of_mem _ there, crossing⟩

theorem exists_overlap (crossing : ¬ Disjoint edits) :
    ∃ first second, overlap? (sorted edits) = some (first, second) := by
  cases found : overlap? (sorted edits) with
  | none => exact absurd (disjoint_of_accepted found) crossing
  | some pair => exact ⟨pair.1, pair.2, rfl⟩

/-- Two edits overlap when each starts before the other stops. -/
def Overlaps (first second : TextEdit) : Prop :=
  first.span.start.before second.span.stop = true ∧
    second.span.start.before first.span.stop = true

/-- An edit that takes some text away: it starts before it stops. -/
def Replaces (edit : TextEdit) : Prop := edit.span.start.before edit.span.stop = true

theorem not_overlaps_iff : ¬ first.Overlaps second ↔
    first.span.stop.notAfter second.span.start = true ∨
      second.span.stop.notAfter first.span.start = true := by
  rw [Overlaps, before_iff, before_iff, not_and_or, Bool.not_eq_false, Bool.not_eq_false, or_comm]

theorem Overlaps.symm (overlaps : first.Overlaps second) : second.Overlaps first :=
  And.symm overlaps

theorem disjoint_iff_not_overlaps : Disjoint edits ↔
    edits.Pairwise fun first second => ¬ first.Overlaps second := by
  simp only [Disjoint, not_overlaps_iff]

/-- Some two edits of a list overlap exactly if the list is not disjoint. -/
theorem exists_overlaps_iff : (∃ (i j : Nat) (first second : TextEdit), i ≠ j ∧
    edits[i]? = some first ∧ edits[j]? = some second ∧ first.Overlaps second) ↔
      ¬ Disjoint edits := by
  rw [disjoint_iff_not_overlaps, List.pairwise_iff_getElem]
  constructor
  · rintro ⟨i, j, first, second, apart, here, there, overlaps⟩ none
    obtain ⟨low, rfl⟩ := List.getElem?_eq_some_iff.mp here
    obtain ⟨high, rfl⟩ := List.getElem?_eq_some_iff.mp there
    rcases Nat.lt_or_gt_of_ne apart with before | behind
    · exact none i j low high before overlaps
    · exact none j i high low behind overlaps.symm
  · intro some
    push Not at some
    obtain ⟨i, j, low, high, before, overlaps⟩ := some
    exact ⟨i, j, _, _, Nat.ne_of_lt before, List.getElem?_eq_getElem low,
      List.getElem?_eq_getElem high, overlaps⟩

/-- Edits that do not stop before they start pass the check of neighbours, once they are in order,
exactly if they are disjoint. -/
theorem accepted_iff_disjoint
    (forward : ∀ edit ∈ edits, edit.span.start.notAfter edit.span.stop = true) :
    overlap? (sorted edits) = none ↔ Disjoint edits :=
  ⟨disjoint_of_accepted, fun disjoint => overlap?_sorted_of_disjoint disjoint forward⟩

/-- Two insertions at one place do not overlap. -/
theorem not_overlaps_of_insertions (one : first.span = ⟨position, position⟩)
    (other : second.span = ⟨position, position⟩) : ¬ first.Overlaps second := by
  rw [not_overlaps_iff, one, other]
  exact .inl (notAfter_refl position)

/-- An insertion overlaps with a replacement exactly if it is strictly inside of it. -/
theorem overlaps_insertion_iff (insertion : first.span = ⟨position, position⟩) :
    first.Overlaps second ↔ second.span.start.before position = true ∧
      position.before second.span.stop = true := by
  rw [Overlaps, insertion, and_comm]

/-- Two replacements with a common start overlap. -/
theorem overlaps_of_start (one : first.Replaces) (other : second.Replaces)
    (same : first.span.start = second.span.start) : first.Overlaps second := by
  refine ⟨?_, ?_⟩
  · rw [same]
    exact other
  · rw [← same]
    exact one

theorem apply_ok_iff (file : String) (lines : List Text) :
    (∃ applied, apply file lines edits = .ok applied) ↔ overlap? (sorted edits) = none := by
  cases found : overlap? (sorted edits) <;> simp [apply, found]

theorem apply_conflict_iff (file : String) (lines : List Text) :
    (∃ one other, apply file lines edits = .error (.conflict file one other)) ↔
      overlap? (sorted edits) ≠ none := by
  cases found : overlap? (sorted edits) <;> simp [apply, found]

/-- Edits that do not stop before they start are refused exactly if some two of them overlap, near
each other in the list or not, and carried out otherwise. Insertions at one place do not overlap; an
insertion overlaps with another edit exactly if it is strictly inside of it, so not at its edges;
and two replacements with a common start do. -/
theorem refused_iff_overlaps (file : String) (lines : List Text)
    (forward : ∀ edit ∈ edits, edit.span.start.notAfter edit.span.stop = true) :
    ((∃ one other, apply file lines edits = .error (.conflict file one other)) ↔
      ∃ (i j : Nat) (first second : TextEdit), i ≠ j ∧ edits[i]? = some first ∧
        edits[j]? = some second ∧ first.Overlaps second) ∧
    ((∃ applied, apply file lines edits = .ok applied) ↔
      edits.Pairwise fun first second => ¬ first.Overlaps second) ∧
    (∀ (first second : TextEdit) (position : ProtocolPosition),
      first.span = ⟨position, position⟩ →
        (second.span = ⟨position, position⟩ → ¬ first.Overlaps second) ∧
        (first.Overlaps second ↔ second.span.start.before position = true ∧
          position.before second.span.stop = true)) ∧
    ∀ first second : TextEdit, first.Replaces → second.Replaces →
      first.span.start = second.span.start → first.Overlaps second := by
  have accepted := accepted_iff_disjoint forward
  refine ⟨?_, ?_, ?_, fun _ _ => overlaps_of_start⟩
  · rw [apply_conflict_iff, exists_overlaps_iff, ne_eq, accepted]
  · rw [apply_ok_iff, accepted, disjoint_iff_not_overlaps]
  · exact fun _ _ _ insertion =>
      ⟨not_overlaps_of_insertions insertion, overlaps_insertion_iff insertion⟩

instance (first second : TextEdit) : Decidable (first.Overlaps second) :=
  inferInstanceAs (Decidable (_ ∧ _))

/-- A replacement between insertions at its edges, two of them at one place, the last one first. -/
def crowded : List TextEdit :=
  [⟨⟨⟨0, 3⟩, ⟨0, 3⟩⟩, ['3']⟩, ⟨⟨⟨0, 1⟩, ⟨0, 1⟩⟩, ['1']⟩, ⟨⟨⟨0, 1⟩, ⟨0, 3⟩⟩, ['x']⟩,
    ⟨⟨⟨0, 1⟩, ⟨0, 1⟩⟩, ['2']⟩]

/-- Edges may be crowded; one more insertion inside of the replacement is refused. -/
theorem inside_refused :
    (∀ edit ∈ ⟨⟨⟨0, 2⟩, ⟨0, 2⟩⟩, ['i']⟩ :: crowded,
      edit.span.start.notAfter edit.span.stop = true) ∧
    (∃ applied, apply "a" [['a', 'b', 'c', 'd']] crowded = .ok applied) ∧
    ∃ one other, apply "a" [['a', 'b', 'c', 'd']] (⟨⟨⟨0, 2⟩, ⟨0, 2⟩⟩, ['i']⟩ :: crowded) =
      .error (.conflict "a" one other) := by
  refine ⟨by decide, ?_, ?_⟩
  · exact (refused_iff_overlaps "a" _ (by decide)).2.1.mpr (by decide)
  · exact (refused_iff_overlaps "a" _ (by decide)).1.mpr
      ⟨0, 3, _, _, by decide, rfl, rfl, by decide⟩

end LanguageBridge.TextEdit

/-!
The order in which edits are listed. Sorting tells edits with different spans apart, so only the
order of those with one span can make a difference.
-/
namespace LanguageBridge.TextEdit

variable {edits others rest : List TextEdit} {first second : TextEdit}

/-- The same edits listed in another order, those with one span in the same. -/
structure Rearranged (edits others : List TextEdit) : Prop where
  perm : edits.Perm others
  kept : ∀ span, (edits.filter fun edit => edit.span = span) =
    others.filter fun edit => edit.span = span

/-- Edits with one span keep their order. -/
theorem filter_span_sorted (edits : List TextEdit) (span : Span) :
    ((sorted edits).filter fun edit => edit.span = span) =
      edits.filter fun edit => edit.span = span := by
  refine filter_sorted _ (List.pairwise_iff_forall_sublist.mpr fun {first second} pair => ?_)
  have among (edit : TextEdit) (member : edit ∈ [first, second]) : edit.span = span := by
    simpa using (List.mem_filter.mp (pair.subset member)).2
  rw [among first (by simp), among second (by simp)]
  exact Span.notAfter_refl span

/-- The first of edits in order is not after any of them. -/
theorem head_notAfter
    (ordered : (second :: others).Pairwise fun first second =>
      first.span.notAfter second.span = true)
    (member : first ∈ second :: others) : second.span.notAfter first.span = true := by
  rcases List.mem_cons.mp member with rfl | behind
  · exact Span.notAfter_refl _
  · exact List.rel_of_pairwise_cons ordered behind

/-- Edits in order are known by those with each span. -/
theorem eq_of_filter_span
    (ordered : edits.Pairwise fun first second => first.span.notAfter second.span = true)
    (inOrder : others.Pairwise fun first second => first.span.notAfter second.span = true)
    (same : ∀ span, (edits.filter fun edit => edit.span = span) =
      others.filter fun edit => edit.span = span) : edits = others := by
  induction edits generalizing others with
  | nil =>
    cases others with
    | nil => rfl
    | cons other behind => simpa using same other.span
  | cons edit rest ih =>
    cases others with
    | nil => simpa using same edit.span
    | cons other behind =>
      have here : edit ∈ other :: behind := by
        have member : edit ∈ (edit :: rest).filter fun given => given.span = edit.span := by simp
        rw [same] at member
        exact (List.mem_filter.mp member).1
      have there : other ∈ edit :: rest := by
        have member : other ∈ (other :: behind).filter fun given => given.span = other.span := by
          simp
        rw [← same] at member
        exact (List.mem_filter.mp member).1
      have span : edit.span = other.span :=
        Span.notAfter_antisymm (head_notAfter ordered there) (head_notAfter inOrder here)
      have heads := same edit.span
      rw [List.filter_cons_of_pos (by simp), List.filter_cons_of_pos (by simp [span])] at heads
      obtain rfl := (List.cons.inj heads).1
      refine congrArg (edit :: ·) (ih ordered.of_cons inOrder.of_cons fun given => ?_)
      have whole := same given
      rw [List.filter_cons, List.filter_cons] at whole
      split at whole
      · exact (List.cons.inj whole).2
      · exact whole

/-- Lists of edits come to the same order exactly if one is the other rearranged. -/
theorem rearranged_iff_sorted_eq : Rearranged edits others ↔ sorted edits = sorted others := by
  constructor
  · intro rearranged
    refine eq_of_filter_span (sorted_pairwise _) (sorted_pairwise _) fun span => ?_
    rw [filter_span_sorted, filter_span_sorted, rearranged.kept]
  · intro same
    refine ⟨(sorted_perm edits).symm.trans (same ▸ sorted_perm others), fun span => ?_⟩
    rw [← filter_span_sorted, same, filter_span_sorted]

/-- Edits that are listed in another order, those with one span in the same, have the same outcome:
the same lines and starts, or the same conflict. -/
theorem apply_rearranged (file : String) (lines : List Text)
    (rearranged : Rearranged edits others) : apply file lines edits = apply file lines others := by
  rw [apply, apply, rearranged_iff_sorted_eq.mp rearranged]

/-- Two edits in front that have different spans may change places. -/
theorem Rearranged.swap (apart : first.span ≠ second.span) (rest : List TextEdit) :
    Rearranged (first :: second :: rest) (second :: first :: rest) := by
  refine ⟨.swap .., fun span => ?_⟩
  by_cases own : first.span = span
  · have other : second.span ≠ span := fun same => apart (own.trans same.symm)
    simp [own, other]
  · simp [List.filter_cons, own]

/-- A replacement may be listed between the insertions at its start or in front of them. -/
theorem crowded_rearranged :
    Rearranged (crowded.drop 1) (crowded[2] :: crowded[1] :: crowded.drop 3) ∧
      apply "a" [['a', 'b', 'c', 'd']] (crowded.drop 1) =
        apply "a" [['a', 'b', 'c', 'd']] (crowded[2] :: crowded[1] :: crowded.drop 3) :=
  have rearranged := Rearranged.swap (by decide) (crowded.drop 3)
  ⟨rearranged, apply_rearranged "a" _ rearranged⟩

end LanguageBridge.TextEdit
