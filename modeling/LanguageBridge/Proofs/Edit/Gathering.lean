import Mathlib.Data.List.Forall2
import Mathlib.Data.List.Nodup
import Mathlib.Data.List.Perm.Basic
import LanguageBridge.Editor.WorkspaceEdits

/-!
Which text edits are collected for a file: those that were sent under its URIs, in the order in which
they were sent, none lost and none twice.
-/
namespace LanguageBridge

/-- Of equal values the first is kept, and no other. -/
theorem nodup_eraseDups (names : List String) : names.eraseDups.Nodup := by
  cases names with
  | nil => exact List.nodup_nil
  | cons name rest =>
    rw [List.eraseDups_cons, List.nodup_cons]
    refine ⟨?_, nodup_eraseDups _⟩
    simp [List.mem_eraseDups]
termination_by names.length
decreasing_by exact Nat.lt_succ_of_le (List.length_filter_le ..)

/-- Values that are all worked out are worked out one by one. -/
theorem forall₂_of_mapM {α β ε : Type} {f : α → Except ε β} {values : List α} {results : List β}
    (done : values.mapM f = .ok results) :
    List.Forall₂ (fun value result => f value = .ok result) values results := by
  induction values generalizing results with
  | nil =>
    cases done
    exact .nil
  | cons value rest ih =>
    rw [List.mapM_cons] at done
    cases first : f value with
    | error failure =>
      rw [first] at done
      cases done
    | ok result =>
      cases others : rest.mapM f with
      | error failure =>
        rw [first, others] at done
        cases done
      | ok found =>
        rw [first, others] at done
        cases done
        exact .cons first (ih others)

theorem exists_of_forall₂_left {α β : Type} {relates : α → β → Prop} {values : List α}
    {results : List β} (each : List.Forall₂ relates values results) {value : α}
    (member : value ∈ values) : ∃ result ∈ results, relates value result := by
  induction each with
  | nil => cases member
  | cons here _ ih =>
    rcases List.mem_cons.mp member with rfl | later
    · exact ⟨_, List.mem_cons_self, here⟩
    · obtain ⟨result, there, found⟩ := ih later
      exact ⟨result, List.mem_cons_of_mem _ there, found⟩

theorem exists_of_forall₂_right {α β : Type} {relates : α → β → Prop} {values : List α}
    {results : List β} (each : List.Forall₂ relates values results) {result : β}
    (member : result ∈ results) : ∃ value ∈ values, relates value result :=
  exists_of_forall₂_left (List.Forall₂.flip each) member

/-- Where working values out fails, it fails as one of them does. -/
theorem exists_of_mapM_error {α β ε : Type} {f : α → Except ε β} {values : List α} {failure : ε}
    (failed : values.mapM f = .error failure) : ∃ value ∈ values, f value = .error failure := by
  induction values with
  | nil => cases failed
  | cons value rest ih =>
    rw [List.mapM_cons] at failed
    cases first : f value with
    | error other =>
      rw [first] at failed
      cases failed
      exact ⟨value, List.mem_cons_self, first⟩
    | ok result =>
      cases others : rest.mapM f with
      | error other =>
        rw [first, others] at failed
        cases failed
        obtain ⟨found, member, here⟩ := ih others
        exact ⟨found, List.mem_cons_of_mem _ member, here⟩
      | ok results =>
        rw [first, others] at failed
        cases failed

/-- Names in ascending order, each once. -/
abbrev Ascending (names : List String) : Prop := names.Pairwise (· < ·)

/-- What a document edit holds for a file, with and without annotations. -/
def DocumentEdit.sentFor (file : String) (edit : DocumentEdit) : List TextEdit :=
  if edit.uri.fileName = .ok file then edit.edits.map (·.edit) else []

/-- What a step of a mixed list of changes holds for a file; operations on files hold nothing. -/
def DocumentChange.sentFor (file : String) : DocumentChange → List TextEdit
  | .edit change => change.sentFor file
  | .operation _ => []

namespace WorkspaceEdit

/-- What an entry of a table of changes holds for a file. -/
def entryFor (file : String) (entry : Uri × List TextEdit) : List TextEdit :=
  if entry.1.fileName = .ok file then entry.2 else []

/-- Entries whose URIs all stand for files. -/
def Named (entries : List (Uri × List TextEdit)) : Prop :=
  ∀ entry ∈ entries, ∃ file, entry.1.fileName = .ok file

/-- Entries, each beside the file name of its URI. -/
def Naming : List (Uri × List TextEdit) → List (String × List TextEdit) → Prop :=
  List.Forall₂ fun entry pair => entry.1.fileName = .ok pair.1 ∧ entry.2 = pair.2

/-- The edits that files hold under a name. -/
def collectedFor (name : String) (files : List FileEdits) : List TextEdit :=
  files.flatMap fun file => if file.file = name then file.edits else []

/-- What is made of entries: files in ascending order of their names, none without edits, each with
what all entries hold for it. -/
structure Gathered (entries : List (Uri × List TextEdit)) (files : List FileEdits) : Prop where
  ascending : Ascending (files.map (·.file))
  filled : ∀ file ∈ files, file.edits ≠ []
  held : ∀ name, collectedFor name files = entries.flatMap (entryFor name)
  kept : (files.flatMap (·.edits)).Perm (entries.flatMap (·.2))

variable {edit : WorkspaceEdit} {entries others : List (Uri × List TextEdit)}
  {named : List (String × List TextEdit)} {files : List FileEdits}

theorem namesInOrder_ascending (named : List (String × List TextEdit)) :
    Ascending (namesInOrder named) := by
  have sorted : (namesInOrder named).Pairwise (· ≤ ·) := by
    refine (List.pairwise_mergeSort ?_ ?_ _).imp of_decide_eq_true
    · intro first second third below above
      exact decide_eq_true
        (String.le_trans (of_decide_eq_true below) (of_decide_eq_true above))
    · intro first second
      rcases String.le_total first second with below | above
      · simp [below]
      · simp [above]
  have once : (namesInOrder named).Nodup :=
    (List.mergeSort_perm _ _).nodup_iff.mpr (nodup_eraseDups _)
  exact (sorted.and once).imp fun ⟨below, apart⟩ => Std.lt_of_le_of_ne below apart

/-- The files that come of named entries; those without edits are left out. -/
def filesOf (named : List (String × List TextEdit)) : List FileEdits :=
  ((namesInOrder named).map fun file => FileEdits.mk file (editsOf file named)).filter
    fun file => !file.edits.isEmpty

/-- An entry beside the file name of its URI. -/
def beside (entry : Uri × List TextEdit) : Outcome (String × List TextEdit) :=
  entry.1.fileName.map fun file => (file, entry.2)

theorem beside_ok {entry : Uri × List TextEdit} {pair : String × List TextEdit}
    (named : beside entry = .ok pair) : entry.1.fileName = .ok pair.1 ∧ entry.2 = pair.2 := by
  unfold beside at named
  cases given : entry.1.fileName with
  | error failure =>
    rw [given] at named
    cases named
  | ok file =>
    rw [given] at named
    cases named
    exact ⟨rfl, rfl⟩

theorem beside_error {entry : Uri × List TextEdit} {failure : Failure}
    (failed : beside entry = .error failure) : entry.1.fileName = .error failure := by
  unfold beside at failed
  cases given : entry.1.fileName with
  | error other =>
    rw [given] at failed
    cases failed
    rfl
  | ok file =>
    rw [given] at failed
    cases failed

theorem collect_eq (edit : WorkspaceEdit) :
    edit.collect = (edit.entries.mapM beside).map filesOf := by
  have each : (fun entry : Uri × List TextEdit => do return (← entry.1.fileName, entry.2)) =
      beside := by
    funext entry
    unfold beside
    cases entry.1.fileName <;> rfl
  rw [collect, each]
  cases edit.entries.mapM beside <;> rfl

/-- All URIs stand for files, and files come of their names; or one of them does not, and its
failure is that of the whole. -/
theorem collect_cases (edit : WorkspaceEdit) :
    (∃ named, Naming edit.entries named ∧ edit.collect = .ok (filesOf named)) ∨
      ∃ entry ∈ edit.entries, ∃ failure, entry.1.fileName = .error failure ∧
        edit.collect = .error failure := by
  rw [collect_eq]
  cases read : edit.entries.mapM beside with
  | ok named => exact .inl ⟨named, (forall₂_of_mapM read).imp fun _ _ => beside_ok, rfl⟩
  | error failure =>
    obtain ⟨entry, member, failed⟩ := exists_of_mapM_error read
    exact .inr ⟨entry, member, failure, beside_error failed, rfl⟩

theorem editsOf_of_naming (naming : Naming entries named) (name : String) :
    editsOf name named = entries.flatMap (entryFor name) := by
  induction naming with
  | nil => rfl
  | @cons entry pair _ _ here _ ih =>
    rw [editsOf, List.flatMap_cons, List.flatMap_cons, ← editsOf, ih, entryFor, here.1, here.2]
    simp

theorem flatMap_of_naming (naming : Naming entries named) :
    entries.flatMap (·.2) = named.flatMap (·.2) := by
  induction naming with
  | nil => rfl
  | cons here _ ih => rw [List.flatMap_cons, List.flatMap_cons, here.2, ih]

theorem mem_namesInOrder (name : String) :
    name ∈ namesInOrder named ↔ ∃ edits, (name, edits) ∈ named := by
  rw [namesInOrder, (List.mergeSort_perm _ _).mem_iff, List.mem_eraseDups]
  simp

/-- What is kept for one of several names is there once. -/
theorem flatMap_ite {names : List String} (once : names.Nodup) (name : String)
    (edits : List TextEdit) :
    (names.flatMap fun other => if name = other then edits else []) =
      if name ∈ names then edits else [] := by
  induction names with
  | nil => rfl
  | cons first rest ih =>
    rw [List.nodup_cons] at once
    rw [List.flatMap_cons, ih once.2]
    by_cases here : name = first
    · rw [if_pos here, if_neg (here ▸ once.1), if_pos (here ▸ List.mem_cons_self), List.append_nil]
    · simp [here]

/-- Edits listed name by name are all edits. -/
theorem flatMap_editsOf_perm {names : List String} (once : names.Nodup)
    (all : ∀ pair ∈ named, pair.1 ∈ names) :
    (names.flatMap fun name => editsOf name named).Perm (named.flatMap (·.2)) := by
  induction named with
  | nil => simp [editsOf]
  | cons pair rest ih =>
    have split := List.flatMap_append_perm names (fun name => if pair.1 = name then pair.2 else [])
      fun name => editsOf name rest
    refine split.symm.trans ?_
    rw [flatMap_ite once, if_pos (all pair List.mem_cons_self), List.flatMap_cons]
    exact (ih fun other member => all other (List.mem_cons_of_mem _ member)).append_left _

/-- Files without edits add nothing. -/
theorem flatMap_filled {part : FileEdits → List TextEdit}
    (none : ∀ file, file.edits = [] → part file = []) (files : List FileEdits) :
    (files.filter fun file => !file.edits.isEmpty).flatMap part = files.flatMap part := by
  induction files with
  | nil => rfl
  | cons file rest ih =>
    by_cases empty : file.edits = []
    · rw [List.filter_cons_of_neg (by simp [empty]), ih, List.flatMap_cons, none file empty,
        List.nil_append]
    · rw [List.filter_cons_of_pos (by simpa using empty), List.flatMap_cons, List.flatMap_cons, ih]

theorem collectedFor_filesOf (named : List (String × List TextEdit)) (name : String) :
    collectedFor name (filesOf named) = editsOf name named := by
  have once := (namesInOrder_ascending named).nodup
  have own : collectedFor name (filesOf named) =
      (namesInOrder named).flatMap fun file => if name = file then editsOf name named else [] := by
    rw [collectedFor, filesOf, flatMap_filled fun file empty => by rw [empty, ite_self],
      List.flatMap_map]
    refine List.flatMap_congr fun file _ => ?_
    by_cases same : file = name
    · rw [if_pos same, if_pos same.symm, same]
    · rw [if_neg same, if_neg (Ne.symm same)]
  rw [own, flatMap_ite once]
  split
  · rfl
  · rename_i nowhere
    refine (List.flatMap_eq_nil_iff.mpr ?_).symm
    rintro ⟨file, edits⟩ there
    exact if_neg fun same : file = name =>
      nowhere (same ▸ (mem_namesInOrder file).mpr ⟨edits, there⟩)

theorem gathered_filesOf (naming : Naming entries named) : Gathered entries (filesOf named) := by
  have ascending := namesInOrder_ascending named
  refine ⟨?_, ?_, ?_, ?_⟩
  · refine List.Pairwise.sublist (List.filter_sublist.map _) ?_
    rw [List.map_map]
    exact (List.map_id _).symm ▸ ascending
  · intro file member
    simpa using (List.mem_filter.mp member).2
  · intro name
    rw [collectedFor_filesOf, editsOf_of_naming naming]
  · have all : ∀ pair ∈ named, pair.1 ∈ namesInOrder named := fun pair there =>
      (mem_namesInOrder pair.1).mpr ⟨pair.2, there⟩
    rw [filesOf, flatMap_filled (fun _ => id), List.flatMap_map, flatMap_of_naming naming]
    exact flatMap_editsOf_perm ascending.nodup all

theorem collect_gathered (edit : WorkspaceEdit) (each : Named edit.entries) :
    ∃ files, edit.collect = .ok files ∧ Gathered edit.entries files := by
  rcases edit.collect_cases with ⟨named, naming, collected⟩ | ⟨entry, member, failure, failed, _⟩
  · exact ⟨_, collected, gathered_filesOf naming⟩
  · obtain ⟨file, here⟩ := each entry member
    rw [here] at failed
    cases failed

theorem gathered_of_collect (collected : edit.collect = .ok files) :
    Named edit.entries ∧ Gathered edit.entries files := by
  rcases edit.collect_cases with ⟨named, naming, found⟩ | ⟨_, _, _, _, failed⟩
  · obtain rfl := Except.ok.inj (collected.symm.trans found)
    refine ⟨fun entry member => ?_, gathered_filesOf naming⟩
    obtain ⟨pair, _, here, _⟩ := exists_of_forall₂_left naming member
    exact ⟨pair.1, here⟩
  · rw [collected] at failed
    cases failed

/-- Every text edit that counts is among the edits of its file. -/
theorem mem_collect (collected : edit.collect = .ok files) {entry : Uri × List TextEdit}
    (member : entry ∈ edit.entries) {change : TextEdit} (among : change ∈ entry.2) :
    ∃ file ∈ files, entry.1.fileName = .ok file.file ∧ change ∈ file.edits := by
  obtain ⟨named, gathered⟩ := gathered_of_collect collected
  obtain ⟨name, here⟩ := named entry member
  have held : change ∈ collectedFor name files := by
    rw [gathered.held]
    exact List.mem_flatMap.mpr ⟨entry, member, by rwa [entryFor, if_pos here]⟩
  obtain ⟨file, there, own⟩ := List.mem_flatMap.mp held
  split at own
  · rename_i same
    exact ⟨file, there, same ▸ here, own⟩
  · cases own

/-- Files are collected in the order of their names. -/
theorem collect_ascending (collected : edit.collect = .ok files) :
    Ascending (files.map (·.file)) := (gathered_of_collect collected).2.ascending

/-- Operations on files hold nothing. -/
theorem flatMap_documentEdits (name : String) (steps : List DocumentChange) :
    ((documentEdits steps).flatMap fun edit => entryFor name (entryOf edit)) =
      steps.flatMap (·.sentFor name) := by
  induction steps with
  | nil => rfl
  | cons step rest ih =>
    cases step with
    | operation _ => exact ih
    | edit change => exact congrArg (change.sentFor name ++ ·) ih

/-- What is collected under each name is what was sent for it. -/
def Holding (files : List FileEdits) (sent : String → List TextEdit) : Prop :=
  ∀ name, collectedFor name files = sent name

theorem Gathered.files_nil (gathered : Gathered [] files) : files = [] := by
  cases files with
  | nil => rfl
  | cons file rest =>
    have none := (gathered.kept.trans (List.Perm.refl [])).eq_nil
    rw [List.flatMap_cons, List.append_eq_nil_iff] at none
    exact absurd none.1 (gathered.filled file List.mem_cons_self)

/-- An edit whose URIs stand for files is collected: files in strictly ascending order of their
names, none without edits, and for each name exactly the edits that were sent under its URIs, in the
order in which they were sent and with those with annotations among them. Document changes count
where there are any, and operations on files between them make no difference; no edit is lost and
none is there twice. -/
theorem collected_by_file (edit : WorkspaceEdit)
    (named : ∀ entry ∈ edit.entries, ∃ file, entry.1.fileName = .ok file) :
    ∃ files, edit.collect = .ok files ∧ Ascending (files.map (·.file)) ∧
      (∀ file ∈ files, file.edits ≠ []) ∧
      (files.flatMap (·.edits)).Perm (edit.entries.flatMap (·.2)) ∧
      (∀ documents, edit.documentChanges = some (.edits documents) →
        Holding files fun name => documents.flatMap (·.sentFor name)) ∧
      (∀ steps, edit.documentChanges = some (.mixed steps) →
        Holding files fun name => steps.flatMap (·.sentFor name)) ∧
      (∀ changes, edit.documentChanges = none → edit.changes = some changes →
        Holding files fun name => changes.entries.flatMap (entryFor name)) ∧
      (edit.documentChanges = none → edit.changes = none → files = []) := by
  obtain ⟨files, collected, gathered⟩ := collect_gathered edit named
  refine ⟨files, collected, gathered.ascending, gathered.filled, gathered.kept, ?_, ?_, ?_, ?_⟩
  · intro documents changed name
    rw [gathered.held, entries, changed, List.flatMap_map]
    rfl
  · intro steps changed name
    rw [gathered.held, entries, changed, List.flatMap_map]
    exact flatMap_documentEdits name steps
  · intro changes unchanged changed name
    rw [gathered.held, entries, unchanged, changed]
  · intro unchanged nothing
    rw [entries, unchanged, nothing] at gathered
    exact gathered.files_nil

/-- An insertion at the start of a line. -/
def insertion (line : Nat) (text : Text) : TextEdit := ⟨⟨⟨line, 0⟩, ⟨line, 0⟩⟩, text⟩

/-- Two edits of `/a`, one of them under another spelling and with an annotation, and between them
an edit of `/b` and an operation on files. -/
def respelled : WorkspaceEdit where
  documentChanges := some (.mixed [
    .edit ⟨.ofPath "/a".toList, none, [.plain (insertion 0 ['1'])]⟩,
    .edit ⟨.ofPath "/b".toList, some 2, [.plain (insertion 0 ['2'])]⟩,
    .operation (.create (.ofPath "/c".toList)),
    .edit ⟨.ofPath "/%61".toList, none, [.annotated (insertion 0 ['3']) "rename"]⟩])

/-- Both edits of `/a` are collected, in the order in which they were sent. -/
theorem respelled_collected :
    (∀ entry ∈ respelled.entries, ∃ file, entry.1.fileName = .ok file) ∧
    ∃ files, respelled.collect = .ok files ∧ Ascending (files.map (·.file)) ∧
      collectedFor "/a" files = [insertion 0 ['1'], insertion 0 ['3']] := by
  have named : ∀ entry ∈ respelled.entries, ∃ file, entry.1.fileName = .ok file := by
    intro entry member
    simp only [respelled, entries, documentEdits, entryOf, List.mem_cons, List.map,
      List.filterMap, List.not_mem_nil, or_false] at member
    rcases member with rfl | rfl | rfl
    · exact ⟨"/a", by decide +kernel⟩
    · exact ⟨"/b", by decide +kernel⟩
    · exact ⟨"/a", by decide +kernel⟩
  obtain ⟨files, collected, ascending, _, _, _, held, _⟩ := collected_by_file respelled named
  refine ⟨named, files, collected, ascending, ?_⟩
  rw [held _ rfl "/a"]
  decide +kernel

end WorkspaceEdit

end LanguageBridge

/-!
The order in which the files of an edit are written: by their names, each once, and that of the
cursor last.
-/
namespace LanguageBridge

namespace Editor

theorem planFile_file {workspace : Workspace} {tree : FileTree} {edits : FileEdits}
    {planned : PlannedFile} (done : planFile workspace tree edits = .ok planned) :
    planned.file = edits.file := by
  unfold planFile at done
  split at done
  · cases done
  · rename_i lines _
    cases applied : TextEdit.apply edits.file lines edits.edits with
    | error failure =>
      rw [applied] at done
      cases done
    | ok outcome =>
      rw [applied] at done
      cases done
      rfl

/-- Only files of the edit are planned. -/
theorem plan_files {workspace : Workspace} {tree : FileTree} {files : List FileEdits}
    {planned : List PlannedFile} (done : plan workspace tree files = .ok planned) :
    planned.map (·.file) = files.map (·.file) := by
  have each := forall₂_of_mapM done
  clear done
  induction each with
  | nil => rfl
  | cons first _ ih => rw [List.map_cons, List.map_cons, planFile_file first, ih]

/-- Files in the order in which they are written: those that are not the cursor's in ascending order
of their names, then that of the cursor, if it is among them; each once. -/
structure InWritingOrder (cursor : Option CursorPlace) (order : List PlannedFile) : Prop where
  split : ∃ others own, order = others ++ own ∧ Ascending (others.map (·.file)) ∧
    (∀ entry ∈ others, some entry.file ≠ cursor.map (·.file)) ∧
    ∀ entry ∈ own, some entry.file = cursor.map (·.file)
  once : (order.map (·.file)).Nodup

theorem writingOrder_perm (cursor : Option CursorPlace) (planned : List PlannedFile) :
    (writingOrder cursor planned).Perm planned := by
  have split := List.filter_append_perm
    (fun entry : PlannedFile => !decide (some entry.file = cursor.map (·.file))) planned
  simpa [writingOrder] using split

theorem writingOrder_inOrder (cursor : Option CursorPlace) {planned : List PlannedFile}
    (ascending : Ascending (planned.map (·.file))) :
    InWritingOrder cursor (writingOrder cursor planned) := by
  refine ⟨⟨_, _, rfl, ?_, ?_, ?_⟩, ?_⟩
  · exact ascending.sublist (List.filter_sublist.map _)
  · intro entry member
    simpa using (List.mem_filter.mp member).2
  · intro entry member
    simpa using (List.mem_filter.mp member).2
  · exact ((writingOrder_perm cursor planned).map _).nodup_iff.mpr ascending.nodup

end Editor

end LanguageBridge
