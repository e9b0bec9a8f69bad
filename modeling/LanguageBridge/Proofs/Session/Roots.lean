import LanguageBridge.ProjectRoot
import LanguageBridge.Proofs.Uri.FileNames

/-!
The parent of a path. It is the front of the path that has all of its components but the last, and
it starts at the root if the path does.
-/
namespace LanguageBridge.Path

variable {path parent : String} {kept whole backwards rest : List Char} {fuel : Nat}

theorem pieces_ne_nil (whole : List Char) : pieces whole ≠ [] := by
  cases whole with
  | nil => simp [pieces]
  | cons c rest =>
    rw [pieces]
    split
    · simp
    · split <;> simp

/-- A slash stands between the pieces in front of it and those behind. -/
theorem pieces_append (front rest : List Char) :
    pieces (front ++ '/' :: rest) = pieces front ++ pieces rest := by
  induction front with
  | nil => simp [pieces]
  | cons c front ih =>
    obtain ⟨piece, others, cut⟩ := List.exists_cons_of_ne_nil (pieces_ne_nil front)
    by_cases slash : c = '/' <;> simp [pieces, slash, ih, cut]

/-- The components of a path, each as a list of characters. -/
def names (whole : List Char) : List (List Char) := (pieces whole).filter isComponent

theorem components_eq (path : String) : components path = (names path.toList).map String.ofList :=
  rfl

theorem names_append (front rest : List Char) :
    names (front ++ '/' :: rest) = names front ++ names rest := by
  rw [names, pieces_append, List.filter_append]
  rfl

theorem names_slash (rest : List Char) : names ('/' :: rest) = names rest := names_append [] rest

theorem isComponent_reverse (piece : List Char) :
    isComponent piece.reverse = isComponent piece := by
  have dot : piece.reverse = ['.'] ↔ piece = ['.'] := List.reverse_eq_iff
  simp [isComponent, dot]

/-- Behind the last slash the components come last. -/
theorem names_behind {last : List Char} (cut : backwards = last ++ '/' :: rest) :
    names backwards.reverse = names rest.reverse ++ names last.reverse := by
  rw [cut, List.reverse_append, List.reverse_cons, List.append_assoc, List.singleton_append,
    names_append]

/-- The last piece of a path that is given backwards. -/
def lastPiece (backwards : List Char) : List Char := backwards.takeWhile (· ≠ '/')

theorem lastPiece_cases (backwards : List Char) :
    backwards.drop (lastPiece backwards).length = [] ∧ backwards = lastPiece backwards ∨
      ∃ rest, backwards.drop (lastPiece backwards).length = '/' :: rest ∧
        backwards = lastPiece backwards ++ '/' :: rest := by
  induction backwards with
  | nil => exact .inl ⟨rfl, rfl⟩
  | cons c backwards ih =>
    by_cases slash : c = '/'
    · subst slash
      exact .inr ⟨backwards, rfl, rfl⟩
    · have more : lastPiece (c :: backwards) = c :: lastPiece backwards :=
        List.takeWhile_cons_of_pos (by simpa using slash)
      rw [more, List.length_cons, List.drop_succ_cons]
      simpa using ih

theorem names_lastPiece (backwards : List Char) :
    names (lastPiece backwards).reverse =
      if isComponent (lastPiece backwards) then [(lastPiece backwards).reverse] else [] := by
  have clean : '/' ∉ (lastPiece backwards).reverse := fun member => by
    simpa using List.all_eq_true.mp List.all_takeWhile '/' (List.mem_reverse.mp member)
  rw [names, Uri.pieces_of_whole clean, List.filter_cons, isComponent_reverse, List.filter_nil]

/-- Slashes and single dots at the end are no components. -/
theorem names_dropIdle (fuel : Nat) (backwards : List Char) :
    names (dropIdle fuel backwards).reverse = names backwards.reverse := by
  induction fuel generalizing backwards with
  | zero => rfl
  | succ fuel ih =>
    unfold dropIdle
    dsimp only
    rw [← lastPiece]
    split
    · rfl
    · rename_i idle
      have none := names_lastPiece backwards
      rw [if_neg idle] at none
      rcases lastPiece_cases backwards with ⟨ends, same⟩ | ⟨rest, ends, same⟩
      · rw [ends, same, none]
        rfl
      · rw [ends, ih, names_behind same, none, List.append_nil]

/-- What is left ends with a component if anything is. -/
theorem dropIdle_ends (enough : backwards.length ≤ fuel) :
    dropIdle fuel backwards = [] ∨ isComponent (lastPiece (dropIdle fuel backwards)) = true := by
  induction fuel generalizing backwards with
  | zero => exact .inl (List.length_eq_zero_iff.mp (Nat.le_zero.mp enough))
  | succ fuel ih =>
    unfold dropIdle
    dsimp only
    rw [← lastPiece]
    split
    · rename_i component
      exact .inr component
    · rcases lastPiece_cases backwards with ⟨ends, -⟩ | ⟨rest, ends, same⟩
      · rw [ends]
        exact .inl rfl
      · rw [ends]
        -- Every step passes a slash at least, so there are as many as it takes.
        have length := congrArg List.length same
        rw [List.length_append, List.length_cons] at length
        exact ih (by omega)

theorem dropIdle_suffix (fuel : Nat) (backwards : List Char) :
    dropIdle fuel backwards <:+ backwards := by
  induction fuel generalizing backwards with
  | zero => exact List.suffix_refl _
  | succ fuel ih =>
    unfold dropIdle
    dsimp only
    rw [← lastPiece]
    split
    · exact List.suffix_refl _
    · rcases lastPiece_cases backwards with ⟨ends, -⟩ | ⟨rest, ends, same⟩
      · rw [ends]
        exact List.nil_suffix
      · rw [ends]
        have inside : '/' :: rest <:+ backwards := ⟨_, same.symm⟩
        exact (ih rest).trans ((List.suffix_cons '/' rest).trans inside)

theorem dropLast_suffix (backwards : List Char) : dropLast backwards <:+ backwards :=
  (List.drop_suffix _ _).trans (List.drop_suffix _ _)

theorem length_dropLast_lt (filled : backwards ≠ []) :
    (dropLast backwards).length < backwards.length := by
  have some := List.length_pos_iff.mpr filled
  simp only [dropLast, List.length_drop]
  omega

/-- Only the last component goes. -/
theorem names_dropLast (component : isComponent (lastPiece backwards) = true) :
    names backwards.reverse =
      names (dropLast backwards).reverse ++ [(lastPiece backwards).reverse] := by
  have last := names_lastPiece backwards
  rw [if_pos component] at last
  unfold dropLast
  rw [← lastPiece]
  rcases lastPiece_cases backwards with ⟨ends, same⟩ | ⟨rest, ends, same⟩
  · have alone : backwards.reverse = (lastPiece backwards).reverse := congrArg List.reverse same
    rw [ends, alone, last]
    rfl
  · rw [ends, names_behind same, last]
    rfl

/-- What a path has in front of its components: the root, the dot at the front, or nothing. -/
inductive Front : List Char → List Char → Prop
  | root (tail : List Char) : Front ['/'] tail
  | dot {tail : List Char} (ends : ∀ c ∈ tail.head?, c = '/') : Front ['.'] tail
  | nothing {tail : List Char} (relative : '/' ∉ tail.head?) : Front [] tail

theorem front_cases (whole : List Char) :
    Front (whole.take (frontLength whole)) (whole.drop (frontLength whole)) := by
  unfold frontLength
  split
  · exact .root _
  · exact .dot (by simp)
  · exact .dot (by simp)
  · rename_i other _ _
    refine .nothing fun slash => ?_
    cases whole with
    | nil => cases slash
    | cons c rest =>
      obtain rfl := Option.some.inj slash
      exact other rest rfl

variable {front tail : List Char}

theorem Front.of_prefix (isFront : Front front tail) (initial : kept <+: tail) :
    Front front kept := by
  have head : ∀ c ∈ kept.head?, c ∈ tail.head? := by
    obtain ⟨rest, rfl⟩ := initial
    intro c member
    rw [List.head?_append, member]
    rfl
  cases isFront with
  | root => exact .root _
  | dot ends => exact .dot fun c member => ends c (head c member)
  | nothing relative => exact .nothing fun slash => relative (head _ slash)

theorem Front.names (isFront : Front front tail) : names (front ++ tail) = names tail := by
  cases isFront with
  | root => exact names_slash tail
  | dot ends =>
    cases tail with
    | nil => rfl
    | cons c rest =>
      obtain rfl := ends c rfl
      exact (names_append ['.'] rest).trans (names_slash rest).symm
  | nothing => rfl

theorem Front.absolute (isFront : Front front tail) (isOther : Front front kept) :
    (front ++ tail).head? = some '/' ↔ (front ++ kept).head? = some '/' := by
  cases isFront with
  | root => simp
  | dot => simp
  | nothing relative =>
    cases isOther with
    | nothing other => exact iff_of_false relative other

/-- A path without its last component. -/
structure IsParent (path parent : String) : Prop where
  front : parent.toList <+: path.toList
  shorter : parent.length < path.length
  components : components parent = (components path).dropLast
  absolute : isAbsolute parent = isAbsolute path

/-- A path in two parts: what stands in front and the rest, of which the parent is made. -/
theorem parent?_cases (path : String) : ∃ front tail, Front front tail ∧
    path.toList = front ++ tail ∧ ∃ body, body = dropIdle path.toList.length tail.reverse ∧
      (body = [] → parent? path = if front = ['.'] then some "" else none) ∧
      (body ≠ [] → parent? path = some (String.ofList
        (front ++ (dropIdle path.toList.length (dropLast body)).reverse))) := by
  have cut : path.toList.drop (path.toList.take (frontLength path.toList)).length =
      path.toList.drop (frontLength path.toList) := by
    rw [List.length_take, ← List.drop_eq_drop_min]
  refine ⟨_, _, front_cases path.toList, (List.take_append_drop _ _).symm, _, rfl, ?_, ?_⟩
  · intro empty
    unfold parent?
    simp only [cut, empty, List.isEmpty_nil, if_true]
  · intro filled
    unfold parent?
    simp only [cut, List.isEmpty_iff, filled, if_false]

/-- A dot alone has the empty path as its parent. -/
theorem isParent_of_dot (whole : path.toList = ['.'] ++ tail) (alone : components path = []) :
    IsParent path "" := by
  have length := congrArg List.length whole
  rw [List.length_append, String.length_toList, List.length_singleton] at length
  refine ⟨List.nil_prefix, ?_, ?_, ?_⟩
  · rw [String.length_empty]
    omega
  · rw [alone]
    rfl
  · rw [isAbsolute, isAbsolute, whole]
    rfl

/-- The parent has the same front and, of the rest that ends with a component, what stands before
that one. -/
theorem isParent_of_body (isFront : Front front tail) (whole : path.toList = front ++ tail)
    {body : List Char} (initial : body <:+ tail.reverse) (filled : body ≠ [])
    (same : names path.toList = names body.reverse)
    (component : isComponent (lastPiece body) = true) (fuel : Nat) :
    IsParent path (String.ofList (front ++ (dropIdle fuel (dropLast body)).reverse)) := by
  have fewer := dropIdle_suffix fuel (dropLast body)
  have inside : (dropIdle fuel (dropLast body)).reverse <+: tail := by
    refine List.reverse_suffix.mp ?_
    rw [List.reverse_reverse]
    exact fewer.trans ((dropLast_suffix body).trans initial)
  have isOther := isFront.of_prefix inside
  refine ⟨?_, ?_, ?_, ?_⟩
  · rw [String.toList_ofList, whole]
    exact (List.prefix_append_right_inj front).mpr inside
  · have total := congrArg List.length whole
    have most := fewer.length_le
    have some := initial.length_le
    have less := length_dropLast_lt filled
    rw [List.length_append, String.length_toList] at total
    rw [List.length_reverse] at some
    rw [String.length_ofList, List.length_append, List.length_reverse]
    omega
  · rw [components_eq, components_eq, String.toList_ofList, same, isOther.names, names_dropIdle,
      names_dropLast component, List.map_append, List.map_singleton, List.dropLast_concat]
  · rw [isAbsolute, isAbsolute, String.toList_ofList, whole]
    exact decide_eq_decide.mpr (isOther.absolute isFront)

/-- The parent that is found is the path without its last component, and only where there is no
component none is found. -/
theorem parent?_spec (path : String) :
    (∀ parent, parent? path = some parent → IsParent path parent) ∧
      (parent? path = none → components path = []) := by
  obtain ⟨front, tail, isFront, whole, body, cut, idle, busy⟩ := parent?_cases path
  have same : names path.toList = names body.reverse := by
    rw [whole, isFront.names, cut, names_dropIdle, List.reverse_reverse]
  by_cases empty : body = []
  · have alone : components path = [] := by
      rw [components_eq, same, empty]
      rfl
    rw [idle empty]
    refine ⟨fun parent found => ?_, fun _ => alone⟩
    split at found
    · rename_i dot
      obtain rfl := Option.some.inj found
      exact isParent_of_dot (dot ▸ whole) alone
    · cases found
  · have component : isComponent (lastPiece body) = true := by
      have enough : tail.reverse.length ≤ path.toList.length := by
        rw [whole, List.length_append, List.length_reverse]
        exact Nat.le_add_left _ _
      rw [cut] at empty ⊢
      exact (dropIdle_ends enough).resolve_left empty
    rw [busy empty]
    refine ⟨fun parent found => ?_, fun none => by cases none⟩
    obtain rfl := Option.some.inj found
    exact isParent_of_body isFront whole (cut ▸ dropIdle_suffix _ _) empty same component _

theorem length_of_parent? (found : parent? path = some parent) : parent.length < path.length :=
  ((parent?_spec path).1 parent found).shorter

end LanguageBridge.Path

/-!
The paths above a path. Each is shorter than the one below it, so climbing comes to an end, and the
chain of a path leaves none of them out.
-/
namespace LanguageBridge.Path

variable {path parent other : String} {count steps : Nat}

/-- The path that is some steps above a path. -/
def above? (path : String) : Nat → Option String
  | 0 => some path
  | steps + 1 => (parent? path).bind fun parent => above? parent steps

/-- The path that is one step above, and all that are further. -/
theorem above?_succ (found : parent? path = some parent) (steps : Nat) :
    above? path (steps + 1) = above? parent steps := by
  rw [above?, found, Option.bind_some]

theorem above?_succ_of_top (top : parent? path = none) (steps : Nat) :
    above? path (steps + 1) = none := by
  rw [above?, top, Option.bind_none]

theorem above?_one (path : String) : above? path 1 = parent? path := by
  cases found : parent? path with
  | none => exact above?_succ_of_top found 0
  | some parent => exact above?_succ found 0

/-- There are no more steps than characters. -/
theorem above?_of_length_lt (far : path.length < steps) : above? path steps = none := by
  induction steps generalizing path with
  | zero => exact absurd far (Nat.not_lt_zero _)
  | succ steps ih =>
    cases found : parent? path with
    | none => exact above?_succ_of_top found steps
    | some parent =>
      have shorter := length_of_parent? found
      rw [above?_succ found]
      exact ih (by omega)

/-- Climbing far enough leaves out no path above. -/
theorem getElem?_climb (enough : path.length < count) (steps : Nat) :
    (climb count path)[steps]? = above? path steps := by
  induction count generalizing path steps with
  | zero => exact absurd enough (Nat.not_lt_zero _)
  | succ count ih =>
    unfold climb
    cases found : parent? path with
    | none =>
      cases steps with
      | zero => rfl
      | succ steps =>
        rw [above?_succ_of_top found]
        rfl
    | some parent =>
      cases steps with
      | zero => rfl
      | succ steps =>
        have shorter := length_of_parent? found
        rw [List.getElem?_cons_succ, above?_succ found]
        exact ih (by omega) steps

theorem getElem?_chain (path : String) (steps : Nat) : (chain path)[steps]? = above? path steps :=
  getElem?_climb (Nat.lt_succ_self _) steps

theorem mem_chain_iff : other ∈ chain path ↔ ∃ steps, above? path steps = some other := by
  simp only [List.mem_iff_getElem?, getElem?_chain]

end LanguageBridge.Path

/-!
The root of a project. It is the nearest path with a mark of the first group of which any path above
has one, and the parent of the path when none has any.
-/
namespace LanguageBridge.ProjectRoot

open LanguageBridge.Path

variable {tree : FileTree} {path language root : String} {marks : List RootMark}
variable {groups : List (List RootMark)} {failure : Failure}

/-- The nearest of a path and all those above it that passes a test. -/
def Nearest (Passes : String → Prop) (path root : String) : Prop :=
  ∃ steps, above? path steps = some root ∧ Passes root ∧
    ∀ fewer < steps, ∀ other, above? path fewer = some other → ¬ Passes other

/-- A path that carries one of some marks. -/
def Marked (tree : FileTree) (marks : List RootMark) (directory : String) : Prop :=
  ∃ mark ∈ marks, mark.isIn tree directory = true

/-- The roots that groups of marks allow: the nearest path with a mark of the first group, however
far above it is; only if no path has any, what the other groups allow; and the parent when there are
no groups left. -/
inductive Rooted (tree : FileTree) (path : String) : List (List RootMark) → String → Prop
  | nearest {marks : List RootMark} {groups : List (List RootMark)} {root : String}
      (near : Nearest (Marked tree marks) path root) : Rooted tree path (marks :: groups) root
  | passed {marks : List RootMark} {groups : List (List RootMark)} {root : String}
      (nowhere : ∀ steps other, above? path steps = some other → ¬ Marked tree marks other)
      (later : Rooted tree path groups root) : Rooted tree path (marks :: groups) root
  | parent {root : String} (found : parent? path = some root) : Rooted tree path [] root

theorem marked_iff : Marked tree marks root ↔ (marks.any (·.isIn tree root)) = true := by
  rw [Marked, List.any_eq_true]

theorem nearest?_eq_none_iff : nearest? tree (chain path) marks = none ↔
    ∀ steps other, above? path steps = some other → ¬ Marked tree marks other := by
  simp only [nearest?, List.find?_eq_none, mem_chain_iff, marked_iff]
  exact ⟨fun none steps other found => none other ⟨steps, found⟩,
    fun none other ⟨steps, found⟩ => none steps other found⟩

theorem nearest?_eq_some_iff :
    nearest? tree (chain path) marks = some root ↔ Nearest (Marked tree marks) path root := by
  rw [nearest?, List.find?_eq_some_iff_getElem]
  constructor
  · rintro ⟨passes, steps, bound, here, before⟩
    refine ⟨steps, ?_, marked_iff.mpr passes, ?_⟩
    · rw [← getElem?_chain, List.getElem?_eq_getElem bound, here]
    · intro fewer less other found marked
      have inside : fewer < (chain path).length := by omega
      rw [← getElem?_chain, List.getElem?_eq_getElem inside] at found
      obtain rfl := Option.some.inj found
      have fails := before fewer less
      rw [marked_iff.mp marked] at fails
      cases fails
  · rintro ⟨steps, found, passes, before⟩
    rw [← getElem?_chain] at found
    obtain ⟨bound, here⟩ := List.getElem?_eq_some_iff.mp found
    refine ⟨marked_iff.mp passes, steps, bound, here, ?_⟩
    intro fewer less
    have inside : fewer < (chain path).length := by omega
    have fails := before fewer less _
      (by rw [← getElem?_chain, List.getElem?_eq_getElem inside])
    rw [marked_iff] at fails
    rw [Bool.eq_false_iff.mpr fails]
    rfl

theorem Nearest.above {Passes : String → Prop} (near : Nearest Passes path root) :
    ∃ steps, above? path steps = some root :=
  near.imp fun _ found => found.1

/-- A root is the path itself or above it. -/
theorem Rooted.above (rooted : Rooted tree path groups root) :
    ∃ steps, above? path steps = some root := by
  induction rooted with
  | nearest near => exact near.above
  | passed _ _ ih => exact ih
  | parent found => exact ⟨1, (above?_one path).trans found⟩

/-- Going through groups of marks in order, with the parent at last. -/
theorem rooted_iff : Rooted tree path groups root ↔
    groups.findSome? (nearest? tree (chain path)) = some root ∨
      groups.findSome? (nearest? tree (chain path)) = none ∧ parent? path = some root := by
  induction groups with
  | nil =>
    constructor
    · rintro ⟨⟩
      exact .inr ⟨rfl, ‹_›⟩
    · rintro (found | ⟨-, found⟩)
      · cases found
      · exact .parent found
  | cons marks groups ih =>
    rw [List.findSome?_cons]
    cases near : nearest? tree (chain path) marks with
    | none =>
      have nowhere := nearest?_eq_none_iff.mp near
      rw [← ih]
      constructor
      · intro rooted
        cases rooted with
        | nearest near =>
          obtain ⟨steps, found, marked, -⟩ := near
          exact absurd marked (nowhere steps _ found)
        | passed _ later => exact later
      · exact .passed nowhere
    | some found =>
      have first := nearest?_eq_some_iff.mp near
      simp only [Option.some.injEq, reduceCtorEq, false_and, or_false]
      constructor
      · intro rooted
        cases rooted with
        | nearest other => exact Option.some.inj (near.symm.trans (nearest?_eq_some_iff.mpr other))
        | passed nowhere _ =>
          obtain ⟨steps, here, marked, -⟩ := first
          exact absurd marked (nowhere steps _ here)
      · rintro rfl
        exact .nearest first

theorem find_eq_ok_iff : find tree path language = .ok root ↔
    Rooted tree path (languageMarks language ++ [controlMarks]) root := by
  rw [rooted_iff, find]
  cases (languageMarks language ++ [controlMarks]).findSome? (nearest? tree (chain path)) with
  | some directory => simp
  | none => cases parent? path <;> simp

theorem nowhere_iff_of_top (top : parent? path = none) :
    (∀ steps other, above? path steps = some other → ¬ Marked tree marks other) ↔
      ¬ Marked tree marks path := by
  refine ⟨fun nowhere => nowhere 0 path rfl, fun unmarked steps other found => ?_⟩
  cases steps with
  | zero =>
    obtain rfl := Option.some.inj found
    exact unmarked
  | succ steps =>
    rw [above?_succ_of_top top] at found
    cases found

/-- There is no root exactly if the path has no parent and carries no mark itself. -/
theorem find_eq_error_iff : find tree path language = .error failure ↔
    failure = .noParent path ∧ parent? path = none ∧
      ∀ marks ∈ languageMarks language ++ [controlMarks], ¬ Marked tree marks path := by
  have unfound : find tree path language = .error failure ↔
      (languageMarks language ++ [controlMarks]).findSome? (nearest? tree (chain path)) = none ∧
        parent? path = none ∧ failure = .noParent path := by
    rw [find]
    cases (languageMarks language ++ [controlMarks]).findSome? (nearest? tree (chain path)) with
    | some directory => simp
    | none => cases parent? path <;> simp [eq_comm]
  rw [unfound, List.findSome?_eq_none_iff]
  constructor
  · rintro ⟨nowhere, top, rfl⟩
    refine ⟨rfl, top, fun marks member => ?_⟩
    exact (nowhere_iff_of_top top).mp (nearest?_eq_none_iff.mp (nowhere marks member))
  · rintro ⟨rfl, top, unmarked⟩
    refine ⟨fun marks member => ?_, top, rfl⟩
    exact nearest?_eq_none_iff.mpr ((nowhere_iff_of_top top).mpr (unmarked marks member))

/-- Of all languages but one there is one group of marks at most. -/
theorem length_languageMarks_le (other : language ≠ "haskell") :
    (languageMarks language).length ≤ 1 := by
  unfold languageMarks
  split <;> simp_all

/-- Climbing from a path takes off its last component at every step and comes to an end, the soonest
when no component is left. The root of the path's project is the nearest path with the marks of the
language, a later group counting only when no path has any mark of an earlier one; the nearest under
version control when there is none or the language is not known; and the parent when there is none
either. So it is the path or above it, and only a path that has no parent and no marks has no root.
Of all languages but one there is one group at most, and of that one a `stack.yaml` at any height
comes before all else. -/
theorem nearest_root_found (tree : FileTree) (path language : String) :
    (∀ parent, parent? path = some parent → IsParent path parent) ∧
    (parent? path = none → components path = []) ∧
    (∀ steps, path.length < steps → above? path steps = none) ∧
    (∀ root, find tree path language = .ok root ↔
      Rooted tree path (languageMarks language ++ [controlMarks]) root) ∧
    (∀ root, find tree path language = .ok root → ∃ steps, above? path steps = some root) ∧
    (∀ failure, find tree path language = .error failure ↔
      failure = .noParent path ∧ parent? path = none ∧
        ∀ marks ∈ languageMarks language ++ [controlMarks], ¬ Marked tree marks path) ∧
    (language ≠ "haskell" → (languageMarks language).length ≤ 1) ∧
    ∀ root,
      Nearest (fun directory => tree.holds (Path.join directory "stack.yaml") = true) path root →
        find tree path "haskell" = .ok root := by
  obtain ⟨parent, top⟩ := parent?_spec path
  refine ⟨parent, top, fun steps far => above?_of_length_lt far, fun root => find_eq_ok_iff, ?_,
    fun failure => find_eq_error_iff, length_languageMarks_le, ?_⟩
  · exact fun root found => (find_eq_ok_iff.mp found).above
  · rintro root ⟨steps, found, stack, before⟩
    have marked (directory : String) : Marked tree [.named "stack.yaml"] directory ↔
        tree.holds (Path.join directory "stack.yaml") = true := by
      simp [Marked, RootMark.isIn]
    refine find_eq_ok_iff.mpr (.nearest ⟨steps, found, (marked root).mpr stack, ?_⟩)
    exact fun fewer less other here there => before fewer less other here ((marked other).mp there)

/-- A package description below a `stack.yaml`. -/
def stackedTree : FileTree where
  workingDirectory := []
  nodes := [(["p"], .directory), (["p", "stack.yaml"], .file []), (["p", "q"], .directory),
    (["p", "q", "q.cabal"], .file []), (["p", "q", "Main.hs"], .file [])]

/-- The directory with the `stack.yaml` is the root, although the one with the package description
is nearer. -/
theorem stack_above_package_found :
    Nearest (fun directory => stackedTree.holds (Path.join directory "stack.yaml") = true)
        "/p/q/Main.hs" "/p" ∧
      find stackedTree "/p/q/Main.hs" "haskell" = .ok "/p" ∧
      (∃ steps, above? "/p/q/Main.hs" steps = some "/p") ∧
      IsParent "/p/q/Main.hs" "/p/q" ∧ components "/" = [] ∧
      above? "/p/q/Main.hs" 13 = none ∧ (languageMarks "go").length ≤ 1 := by
  have near : Nearest (fun directory => stackedTree.holds (Path.join directory "stack.yaml") = true)
      "/p/q/Main.hs" "/p" := by
    refine ⟨2, by decide +kernel, by decide +kernel, ?_⟩
    intro fewer less other found
    match fewer, less with
    | 0, _ =>
      obtain rfl := Option.some.inj found
      decide +kernel
    | 1, _ =>
      have parent : above? "/p/q/Main.hs" 1 = some "/p/q" := by decide +kernel
      obtain rfl := Option.some.inj (parent.symm.trans found)
      decide +kernel
  obtain ⟨parent, _, ends, _, above, _, _, stacked⟩ :=
    nearest_root_found stackedTree "/p/q/Main.hs" "haskell"
  obtain ⟨_, top, _, _, _, _, single, _⟩ := nearest_root_found stackedTree "/" "go"
  have found := stacked "/p" near
  exact ⟨near, found, above "/p" found, parent "/p/q" (by decide +kernel),
    top (by decide +kernel), ends 13 (by decide +kernel), single (by decide)⟩

end LanguageBridge.ProjectRoot
