import LanguageBridge.Proofs.Edit.Undo
import Mathlib.Data.Nat.Dist

/-!
Choosing the nearest of some starts. The one that is chosen is nearer than all in front of it and
not further than any behind it.
-/
namespace LanguageBridge.TextEdit

variable {position : ProtocolPosition} {first second third : Nat × Nat}

theorem nearer_iff : nearer first second = true ↔
    first.1 < second.1 ∨ first.1 = second.1 ∧ first.2 < second.2 := by
  simp [nearer]

theorem nearer_eq_false_iff : nearer first second = false ↔
    second.1 < first.1 ∨ second.1 = first.1 ∧ second.2 ≤ first.2 := by
  rw [← Bool.not_eq_true, nearer_iff]
  omega

theorem nearer_trans (one : nearer first second = true) (two : nearer second third = true) :
    nearer first third = true := by
  rw [nearer_iff] at *
  omega

theorem nearer_of_nearer_of_not (one : nearer first second = true)
    (two : nearer third second = false) : nearer first third = true := by
  rw [nearer_eq_false_iff] at two
  rw [nearer_iff] at *
  omega

/-- A span that stands nearest to a place among others: nearer than those in front of it and not
further than those behind it. -/
structure Nearest (position : ProtocolPosition) (front : List Span) (span : Span)
    (behind : List Span) : Prop where
  earlier : ∀ other ∈ front, nearer (distance span position) (distance other position) = true
  later : ∀ other ∈ behind, nearer (distance other position) (distance span position) = false

theorem exists_nearestStart (position : ProtocolPosition) (best : Span × EditorPosition)
    (rest : List (Span × EditorPosition)) :
    ∃ front entry behind, best :: rest = front ++ entry :: behind ∧
      nearestStart position best rest = entry.2 ∧
      Nearest position (front.map (·.1)) entry.1 (behind.map (·.1)) := by
  induction rest generalizing best with
  | nil => exact ⟨[], best, [], rfl, rfl, ⟨by simp, by simp⟩⟩
  | cons candidate rest ih =>
    rw [nearestStart]
    split
    · rename_i closer
      obtain ⟨front, entry, behind, cut, chosen, earlier, later⟩ := ih candidate
      refine ⟨best :: front, entry, behind, by rw [cut]; rfl, chosen, ?_, later⟩
      refine List.forall_mem_cons.mpr ⟨?_, earlier⟩
      cases front with
      | nil =>
        obtain ⟨rfl, -⟩ := List.cons.inj cut
        exact closer
      | cons other front =>
        obtain ⟨rfl, -⟩ := List.cons.inj cut
        exact nearer_trans (earlier _ List.mem_cons_self) closer
    · rename_i further
      rw [Bool.not_eq_true] at further
      obtain ⟨front, entry, behind, cut, chosen, earlier, later⟩ := ih best
      cases front with
      | nil =>
        obtain ⟨rfl, rfl⟩ := List.cons.inj cut
        refine ⟨[], best, candidate :: rest, rfl, chosen, by simp, ?_⟩
        exact List.forall_mem_cons.mpr ⟨further, later⟩
      | cons other front =>
        obtain ⟨rfl, rfl⟩ := List.cons.inj cut
        obtain ⟨here, there⟩ := List.forall_mem_cons.mp earlier
        refine ⟨best :: candidate :: front, entry, behind, rfl, chosen, ?_, later⟩
        exact List.forall_mem_cons.mpr ⟨here,
          List.forall_mem_cons.mpr ⟨nearer_of_nearer_of_not here further, there⟩⟩

/-- Where some start is told, one of them is chosen. -/
theorem exists_nearest? {applied : Applied} (filled : applied.starts ≠ [])
    (position : ProtocolPosition) :
    ∃ front entry behind, applied.starts = front ++ entry :: behind ∧
      applied.nearest? position = some entry.2 ∧
      Nearest position (front.map (·.1)) entry.1 (behind.map (·.1)) := by
  unfold Applied.nearest?
  cases found : applied.starts with
  | nil => exact absurd found filled
  | cons best rest =>
    obtain ⟨front, entry, behind, cut, chosen, nearest⟩ := exists_nearestStart position best rest
    exact ⟨front, entry, behind, cut, congrArg some chosen, nearest⟩

theorem nearest?_eq_none_iff {applied : Applied} :
    applied.nearest? position = none ↔ applied.starts = [] := by
  unfold Applied.nearest?
  cases applied.starts <;> simp

theorem distance_of_contains {span : Span} (touches : span.contains position = true) :
    distance span position = (0, 0) :=
  if_pos touches

theorem distance_of_not_contains {span : Span} (apart : span.contains position = false) :
    distance span position = (Nat.dist span.start.line position.line + 1,
      Nat.dist span.start.character position.character) := by
  rw [distance, if_neg (by rw [apart]; decide)]
  rfl

variable {front behind : List Span} {span other : Span}

/-- If any span touches the place, the one that is chosen is the first that does. -/
theorem Nearest.touches (nearest : Nearest position front span behind)
    (member : other ∈ front ++ span :: behind) (touches : other.contains position = true) :
    span.contains position = true ∧ ∀ given ∈ front, given.contains position = false := by
  have near := distance_of_contains touches
  have here : span.contains position = true := by
    by_contra apart
    have far := distance_of_not_contains (Bool.not_eq_true _ ▸ apart)
    rcases List.mem_append.mp member with earlier | later
    · have order := nearest.earlier other earlier
      rw [near, far, nearer_iff] at order
      dsimp only at order
      omega
    · rcases List.mem_cons.mp later with rfl | later
      · exact apart touches
      · have order := nearest.later other later
        rw [near, far, nearer_eq_false_iff] at order
        dsimp only at order
        omega
  refine ⟨here, fun given earlier => ?_⟩
  by_contra also
  have order := nearest.earlier given earlier
  rw [distance_of_contains here, distance_of_contains (Bool.not_eq_false _ ▸ also),
    nearer_iff] at order
  dsimp only at order
  omega

/-- If no span touches the place, the one that is chosen starts on a line at the least distance and
among those at the least distance in its line. -/
theorem Nearest.least (nearest : Nearest position front span behind)
    (apart : ∀ given ∈ front ++ span :: behind, given.contains position = false)
    (member : other ∈ front ++ span :: behind) :
    Nat.dist span.start.line position.line ≤ Nat.dist other.start.line position.line ∧
      (Nat.dist span.start.line position.line = Nat.dist other.start.line position.line →
        Nat.dist span.start.character position.character ≤
          Nat.dist other.start.character position.character) := by
  have own := distance_of_not_contains (apart span (by simp))
  have given := distance_of_not_contains (apart other member)
  have order : nearer (distance other position) (distance span position) = false := by
    rcases List.mem_append.mp member with earlier | later
    · have order := nearest.earlier other earlier
      rw [nearer_iff] at order
      rw [nearer_eq_false_iff]
      omega
    · rcases List.mem_cons.mp later with rfl | later
      · rw [nearer_eq_false_iff]
        omega
      · exact nearest.later other later
  rw [own, given, nearer_eq_false_iff] at order
  dsimp only at order
  omega

end LanguageBridge.TextEdit

/-!
Where the new texts of adjoining edits start. Between the start of one edit and that of another that
it reaches stands nothing but new text.
-/
namespace LanguageBridge

open Text

/-- Only with no text behind it a place stays where it is. -/
theorem EditorPosition.advance_eq_self_iff (start : EditorPosition) (text : Text) :
    start.advance text = start ↔ text = [] := by
  constructor
  · intro same
    rw [advance] at same
    split at same
    · rename_i feed
      have line := congrArg EditorPosition.line same
      have some := List.count_pos_iff.mpr feed
      dsimp only at line
      omega
    · have column := congrArg EditorPosition.column same
      exact eq_nil_of_byteLength (by dsimp only at column; omega)
  · rintro rfl
    rfl

namespace TextEdit

variable {lines : List Text} {text result : Text} {offset : Nat} {stretches : List Placed}
variable {front between rest : List TextEdit} {first edit : TextEdit}

/-- Where there is no text only new texts are left. -/
theorem Replaced.of_nil (replaced : Replaced offset stretches [] result) :
    result = stretches.flatMap (·.newText) := by
  generalize empty : ([] : Text) = text at replaced
  induction replaced with
  | nothing => exact empty.symm
  | stretch kept gone start stop behind ih =>
    obtain ⟨rfl, rest⟩ := List.append_eq_nil_iff.mp empty.symm
    obtain ⟨rfl, rfl⟩ := List.append_eq_nil_iff.mp rest
    rw [List.flatMap_cons, ← ih rfl]
    rfl

/-- The place that is told for an edit that stands behind others in order. -/
def startOf (lines : List Text) (text : Text) (front : List TextEdit) (edit : TextEdit) :
    EditorPosition :=
  placeAt text ((place lines edit).start + brought (front.map (place lines)) -
    taken (front.map (place lines)))

/-- An edit that stands behind others in order is told with a place, and there its new text starts:
behind what the edits in front of it made of the text before its span. -/
structure StartsAt (lines : List Text) (text : Text) (applied : Applied) (front : List TextEdit)
    (edit : TextEdit) (start : EditorPosition) : Prop where
  told : applied.starts[front.length]? = some (edit.span, start)
  stands : ∃ head tail before behind : Text, joinLines lines = head ++ tail ∧
    head.byteLength = (place lines edit).start ∧ Replaced 0 (front.map (place lines)) head before ∧
    text = before ++ (edit.newText ++ behind) ∧ PlaceBehind before start

/-- Edits in order that are carried out, each told with the place that its new text starts at. -/
structure CarriedOut (lines : List Text) (edits : List TextEdit) (applied : Applied) (text : Text) :
    Prop where
  replaced : Replaced 0 (edits.map (place lines)) (joinLines lines) text
  splits : applied.lines = text.splitLines
  starts : applied.starts = (edits.map (·.span)).zip
    ((newStarts 0 0 (edits.map (place lines))).map (placeAt text))

/-- Edits that are accepted are carried out. -/
theorem exists_carriedOut {file : String} {edits : List TextEdit} {applied : Applied}
    (done : apply file lines edits = .ok applied) :
    ∃ text, CarriedOut lines (sorted edits) applied text := by
  unfold apply at done
  dsimp only at done
  split at done
  · cases done
  · rename_i accepted
    obtain ⟨text, replaced⟩ := exists_replaced_place lines accepted
    obtain rfl := Except.ok.inj done
    have made : replaceAll ((sorted edits).map (place lines)) (joinLines lines) = text :=
      replaced.replaceAll [] rfl
    exact ⟨text, replaced, congrArg splitLines made, by rw [made]⟩

variable {applied : Applied} {edits : List TextEdit}

theorem CarriedOut.spans (carried : CarriedOut lines edits applied text) :
    applied.starts.map (·.1) = edits.map (·.span) := by
  rw [carried.starts, ← List.unzip_fst, List.unzip_zip_left]
  simp [length_newStarts]

theorem CarriedOut.startsAt (carried : CarriedOut lines edits applied text)
    (cut : edits = front ++ edit :: rest) :
    StartsAt lines text applied front edit (startOf lines text front edit) := by
  subst cut
  refine ⟨carried.starts ▸ getElem?_starts lines text front edit rest, ?_⟩
  have replaced := carried.replaced
  rw [List.map_append, List.map_cons] at replaced
  obtain ⟨head, tail, before, behind, whole, reach, earlier, rfl, -, length⟩ :=
    replaced.behind_front
  refine ⟨head, tail, before, behind, whole, reach, earlier, rfl, ?_⟩
  rw [startOf, ← length]
  exact placeBehind_placeAt before _

/-- If an edit reaches the start of a later one, the new text of that one starts behind the new
texts of the edits from the first one on. -/
theorem startOf_adjoining
    (replaced : Replaced 0 (((front ++ first :: between) ++ edit :: rest).map (place lines))
      (joinLines lines) text)
    (adjoins : (place lines edit).start ≤ (place lines first).stop) :
    startOf lines text (front ++ first :: between) edit =
      (startOf lines text front first).advance
        ((first :: between).flatMap (·.newText)) := by
  rw [List.map_append, List.map_cons] at replaced
  obtain ⟨head, tail, before, behind, -, reach, earlier, rfl, -, length⟩ := replaced.behind_front
  rw [startOf, ← length]
  rw [List.map_append, List.map_cons] at earlier
  obtain ⟨front', gone, kept, made, news, rfl, begins, ends, own, follows, rfl⟩ := earlier.split
  have nothing : kept = [] := by
    refine eq_nil_of_byteLength ?_
    simp only [byteLength_append] at reach
    omega
  subst nothing
  have grown := own.length
  have begun : made.byteLength = (place lines first).start + brought (front.map (place lines)) -
      taken (front.map (place lines)) := by omega
  have brings : (place lines first).newText ++ (between.map (place lines)).flatMap (·.newText) =
      (first :: between).flatMap (·.newText) := by
    rw [List.flatMap_map]
    rfl
  rw [startOf, ← begun, follows.of_nil, brings, List.append_assoc made]
  exact placeAt_advance made _ _

end TextEdit

end LanguageBridge

/-!
Where the cursor goes.
-/
namespace LanguageBridge

open Text

/-- A span that holds a place, its end excluded. -/
def Span.Covers (span : Span) (position : ProtocolPosition) : Prop :=
  span.start.notAfter position = true ∧ position.before span.stop = true

theorem Span.Covers.contains {span : Span} {position : ProtocolPosition}
    (covers : span.Covers position) : span.contains position = true := by
  obtain ⟨starts, stops⟩ := covers
  rw [Span.contains, starts, Bool.true_and]
  rcases ProtocolPosition.notAfter_total position span.stop with here | there
  · exact here
  · rw [ProtocolPosition.before_iff, there] at stops
    cases stops

namespace TextEdit

variable {lines : List Text} {text : Text} {edits : List TextEdit} {applied : Applied}
variable {position : ProtocolPosition} {front between rest : List TextEdit}
variable {first edit : TextEdit}

/-- The edit that the cursor goes to, among all in order. -/
theorem CarriedOut.exists_chosen (carried : CarriedOut lines edits applied text)
    (filled : edits ≠ []) (position : ProtocolPosition) :
    ∃ front edit rest, edits = front ++ edit :: rest ∧
      applied.nearest? position = some (startOf lines text front edit) ∧
      Nearest position (front.map (·.span)) edit.span (rest.map (·.span)) := by
  have spans := carried.spans
  have told : applied.starts ≠ [] := by
    intro none
    rw [none, List.map_nil, eq_comm, List.map_eq_nil_iff] at spans
    exact filled spans
  obtain ⟨sooner, entry, later, cut, chosen, nearest⟩ := exists_nearest? told position
  rw [cut, List.map_append, List.map_cons, eq_comm, List.map_eq_append_iff] at spans
  obtain ⟨front, others, rfl, same, after⟩ := spans
  obtain ⟨edit, rest, rfl, span, behind⟩ := List.map_eq_cons_iff.mp after
  refine ⟨front, edit, rest, rfl, ?_, by rwa [same, span, behind]⟩
  have number : front.length = sooner.length := by
    simpa using congrArg List.length same
  have here := (carried.startsAt rfl).told
  rw [cut, number, List.getElem?_append_right (Nat.le_refl _), Nat.sub_self,
    List.getElem?_cons_zero, Option.some.injEq] at here
  rw [chosen, here]

/-- The edits in front of another from the first one on that touches a place. -/
def fromTouching (position : ProtocolPosition) (front : List TextEdit) : List TextEdit :=
  front.dropWhile fun other => !other.span.contains position

/-- Where the cursor goes when edits in order are carried out. -/
structure Lands (lines : List Text) (edits : List TextEdit) (applied : Applied) (text : Text)
    (position : ProtocolPosition) : Prop where
  /-- It goes to the start of the first edit that touches its place. -/
  touched : ∀ front edit rest, edits = front ++ edit :: rest →
    edit.span.contains position = true →
    (∀ other ∈ front, other.span.contains position = false) →
    ∃ start, StartsAt lines text applied front edit start ∧ applied.nearest? position = some start
  /-- That is where the edit starts that holds its place exactly if the edits in front of that one
  bring no text, from the first one on that touches the place. -/
  covered : ∀ front edit rest, edits = front ++ edit :: rest → edit.span.Covers position →
    ∃ start, StartsAt lines text applied front edit start ∧
      (applied.nearest? position = some start ↔
        ∀ other ∈ fromTouching position front, other.newText = [])
  /-- If no edit touches its place, it goes to the start of one at the least distance, lines
  first. -/
  apart : edits ≠ [] → (∀ edit ∈ edits, edit.span.contains position = false) →
    ∃ front edit rest start, edits = front ++ edit :: rest ∧
      StartsAt lines text applied front edit start ∧ applied.nearest? position = some start ∧
      ∀ other ∈ edits,
        Nat.dist edit.span.start.line position.line ≤
          Nat.dist other.span.start.line position.line ∧
        (Nat.dist edit.span.start.line position.line =
            Nat.dist other.span.start.line position.line →
          Nat.dist edit.span.start.character position.character ≤
            Nat.dist other.span.start.character position.character)

/-- The first of some edits that touches a place is known by that. -/
theorem front_unique {others behind : List TextEdit} {other : TextEdit}
    (same : front ++ edit :: rest = others ++ other :: behind)
    (here : edit.span.contains position = true)
    (before : ∀ given ∈ front, given.span.contains position = false)
    (there : other.span.contains position = true)
    (sooner : ∀ given ∈ others, given.span.contains position = false) :
    front = others ∧ edit = other := by
  induction front generalizing others with
  | nil =>
    cases others with
    | nil => exact ⟨rfl, (List.cons.inj same).1⟩
    | cons given others =>
      have clash := sooner given List.mem_cons_self
      rw [← (List.cons.inj same).1, here] at clash
      cases clash
  | cons given front ih =>
    obtain ⟨now, later⟩ := List.forall_mem_cons.mp before
    cases others with
    | nil =>
      rw [(List.cons.inj same).1, there] at now
      cases now
    | cons next others =>
      obtain ⟨rfl, rest⟩ := List.cons.inj same
      obtain ⟨rfl, rfl⟩ := ih rest later (List.forall_mem_cons.mp sooner).2
      exact ⟨rfl, rfl⟩

/-- The cursor goes to the start of the first edit that touches its place. -/
theorem CarriedOut.nearest?_of_touches (carried : CarriedOut lines edits applied text)
    (cut : edits = front ++ edit :: rest) (touches : edit.span.contains position = true)
    (before : ∀ other ∈ front, other.span.contains position = false) :
    applied.nearest? position = some (startOf lines text front edit) := by
  have filled : edits ≠ [] := by simp [cut]
  obtain ⟨sooner, chosen, later, whole, found, nearest⟩ := carried.exists_chosen filled position
  have member : edit.span ∈ sooner.map (·.span) ++ chosen.span :: later.map (·.span) := by
    rw [← List.map_cons, ← List.map_append, ← whole, cut]
    simp
  obtain ⟨here, none⟩ := nearest.touches member touches
  obtain ⟨rfl, rfl⟩ := front_unique (cut.symm.trans whole) touches before here
    (List.forall_mem_map.mp none)
  exact found

theorem CarriedOut.nearest?_of_covers (carried : CarriedOut lines edits applied text)
    (cut : edits = front ++ edit :: rest) (covers : edit.span.Covers position) :
    applied.nearest? position = some (startOf lines text front edit) ↔
      ∀ other ∈ fromTouching position front, other.newText = [] := by
  have whole : front.takeWhile (fun other => !other.span.contains position) ++
      fromTouching position front = front := List.takeWhile_append_dropWhile
  have before : ∀ other ∈ front.takeWhile (fun other => !other.span.contains position),
      other.span.contains position = false := fun other member => by
    simpa using List.mem_takeWhile_imp member
  cases found : fromTouching position front with
  | nil =>
    rw [found, List.append_nil] at whole
    rw [whole] at before
    simp [carried.nearest?_of_touches cut covers.contains before]
  | cons first between =>
    generalize front.takeWhile (fun other => !other.span.contains position) = sooner
      at whole before
    have touches : first.span.contains position = true := by
      have stopped := List.head?_dropWhile_not (fun other => !other.span.contains position) front
      rw [← fromTouching, found] at stopped
      simpa using stopped
    rw [found] at whole
    subst whole
    have adjoins : (place lines edit).start ≤ (place lines first).stop := by
      have reached : edit.span.start.notAfter first.span.stop = true := by
        rw [Span.contains, Bool.and_eq_true] at touches
        exact ProtocolPosition.notAfter_trans covers.1 touches.2
      exact Nat.le_trans (offsetOf_mono lines reached) (Nat.le_max_left _ _)
    have split : edits = sooner ++ first :: (between ++ edit :: rest) := by
      rw [cut, List.append_assoc]
      rfl
    rw [carried.nearest?_of_touches split touches before,
      startOf_adjoining (cut ▸ carried.replaced) adjoins, Option.some.injEq, eq_comm,
      EditorPosition.advance_eq_self_iff, List.flatMap_eq_nil_iff]

theorem CarriedOut.lands (carried : CarriedOut lines edits applied text)
    (position : ProtocolPosition) : Lands lines edits applied text position where
  touched _ _ _ cut touches before :=
    ⟨_, carried.startsAt cut, carried.nearest?_of_touches cut touches before⟩
  covered _ _ _ cut covers := ⟨_, carried.startsAt cut, carried.nearest?_of_covers cut covers⟩
  apart filled away := by
    obtain ⟨front, edit, rest, cut, chosen, nearest⟩ := carried.exists_chosen filled position
    have all : front.map (·.span) ++ edit.span :: rest.map (·.span) = edits.map (·.span) := by
      rw [cut, List.map_append, List.map_cons]
    refine ⟨front, edit, rest, _, cut, carried.startsAt cut, chosen, fun other member => ?_⟩
    refine nearest.least ?_ ?_
    · rw [all]
      exact List.forall_mem_map.mpr away
    · rw [all]
      exact List.mem_map_of_mem member

/-- After edits that are accepted the cursor goes to the start of the first one in order that
touches its place. So if some edit holds its place, it goes to where the new text of that one
starts exactly if the edits in front bring none, from the first one that touches the place; and if
no edit touches its place, to the start of one at the least distance, lines first. It has a target
exactly if there are edits. -/
theorem covering_edit_reached_iff {file : String} (done : apply file lines edits = .ok applied) :
    ∃ text, CarriedOut lines (sorted edits) applied text ∧ (sorted edits).Perm edits ∧
      (∀ position, applied.nearest? position = none ↔ edits = []) ∧
      ∀ position, Lands lines (sorted edits) applied text position := by
  obtain ⟨text, carried⟩ := exists_carriedOut done
  refine ⟨text, carried, sorted_perm edits, fun position => ?_, carried.lands⟩
  have length := congrArg List.length carried.spans
  rw [List.length_map, List.length_map, (sorted_perm edits).length_eq] at length
  rw [nearest?_eq_none_iff, ← List.length_eq_zero_iff, length, List.length_eq_zero_iff]

/-- Two edits of which the second starts where the first stops; the first brings some text. -/
def adjoining (new : Text) : List TextEdit :=
  [⟨⟨⟨0, 0⟩, ⟨0, 3⟩⟩, new⟩, ⟨⟨⟨0, 3⟩, ⟨0, 5⟩⟩, ['y']⟩]

theorem sorted_adjoining (new : Text) : sorted (adjoining new) = adjoining new := by
  simp [sorted, List.mergeSort, List.MergeSort.Internal.splitInTwo, adjoining, Span.notAfter,
    ProtocolPosition.before, ProtocolPosition.notAfter]

/-- What is left when the first of the two edits only deletes. -/
def shortened : Applied :=
  ⟨[['y', 'f']], [(⟨⟨0, 0⟩, ⟨0, 3⟩⟩, ⟨1, 1⟩), (⟨⟨0, 3⟩, ⟨0, 5⟩⟩, ⟨1, 1⟩)]⟩

/-- A deletion in front does not keep the cursor from the edit that holds its place. -/
theorem deletion_passed_by :
    apply "a" [['a', 'b', 'c', 'd', 'e', 'f']] (adjoining []) = .ok shortened ∧
      Span.Covers ⟨⟨0, 3⟩, ⟨0, 5⟩⟩ ⟨0, 3⟩ ∧
      ∃ text start, shortened.starts[1]? = some (⟨⟨0, 3⟩, ⟨0, 5⟩⟩, start) ∧
        StartsAt [['a', 'b', 'c', 'd', 'e', 'f']] text shortened ((adjoining []).take 1)
          ⟨⟨⟨0, 3⟩, ⟨0, 5⟩⟩, ['y']⟩ start ∧
        shortened.nearest? ⟨0, 3⟩ = some start := by
  have done : apply "a" [['a', 'b', 'c', 'd', 'e', 'f']] (adjoining []) = .ok shortened := by
    rw [apply, sorted_adjoining]
    rfl
  have covers : Span.Covers ⟨⟨0, 3⟩, ⟨0, 5⟩⟩ ⟨0, 3⟩ := by
    unfold Span.Covers
    decide
  obtain ⟨text, -, -, -, lands⟩ := covering_edit_reached_iff done
  obtain ⟨start, starts, reached⟩ := (lands ⟨0, 3⟩).covered ((adjoining []).take 1)
    ⟨⟨⟨0, 3⟩, ⟨0, 5⟩⟩, ['y']⟩ [] (sorted_adjoining []) covers
  exact ⟨done, covers, text, start, starts.told, starts, reached.mpr (by decide)⟩

/-- A replacement in front does: the cursor goes to the start of the text in front of the one that
took the place of its own. -/
theorem covering_edit_missed :
    Span.Covers ⟨⟨0, 3⟩, ⟨0, 5⟩⟩ ⟨0, 3⟩ ∧
      ∃ applied, apply "a" [['a', 'b', 'c', 'd', 'e', 'f']] (adjoining ['x']) = .ok applied ∧
        applied.starts = [(⟨⟨0, 0⟩, ⟨0, 3⟩⟩, ⟨1, 1⟩), (⟨⟨0, 3⟩, ⟨0, 5⟩⟩, ⟨1, 2⟩)] ∧
        applied.nearest? ⟨0, 3⟩ = some ⟨1, 1⟩ := by
  refine ⟨?_, ⟨[['x', 'y', 'f']],
    [(⟨⟨0, 0⟩, ⟨0, 3⟩⟩, ⟨1, 1⟩), (⟨⟨0, 3⟩, ⟨0, 5⟩⟩, ⟨1, 2⟩)]⟩, ?_, rfl, rfl⟩
  · unfold Span.Covers
    decide
  · rw [apply, sorted_adjoining]
    rfl

end TextEdit

end LanguageBridge
