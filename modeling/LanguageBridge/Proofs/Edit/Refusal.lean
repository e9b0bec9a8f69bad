import LanguageBridge.Editor.WorkspaceEdits
import LanguageBridge.Proofs.Edit.Overlap
import LanguageBridge.Proofs.Script.Runs

/-!
Edits that are refused. Every file is planned before anything is sent, so a single file that cannot
be read or whose edits overlap makes the whole edit fail, and the world stays as it was.
-/
namespace LanguageBridge

namespace Editor

open TextEdit

section Planning

variable {workspace : Workspace} {tree : FileTree} {file : FileEdits} {files : List FileEdits}
  {failure : Failure}

/-- Why a file cannot be planned: it cannot be read, or two of its edits overlap. -/
inductive Unplannable (workspace : Workspace) (tree : FileTree) (file : FileEdits) : Failure → Prop
  | unread (failed : workspace.lines tree file.file = .error error) :
      Unplannable workspace tree file (.notOpened file.file error.message)
  | overlapping (known : workspace.lines tree file.file = .ok lines) (here : first ∈ file.edits)
      (there : second ∈ file.edits) (before : second.span.start.before first.span.stop = true) :
      Unplannable workspace tree file (.conflict file.file first.span.text second.span.text)

/-- A file that cannot be planned: it cannot be read, or its edits are not disjoint. -/
def Faulty (workspace : Workspace) (tree : FileTree) (file : FileEdits) : Prop :=
  (∃ error, workspace.lines tree file.file = .error error) ∨ ¬ Disjoint file.edits

theorem planFile_of_unread (failed : workspace.lines tree file.file = .error error) :
    planFile workspace tree file = .error (.notOpened file.file error.message) := by
  rw [planFile, failed]
  rfl

theorem planFile_of_overlap (known : workspace.lines tree file.file = .ok lines)
    (found : overlap? (sorted file.edits) = some (first, second)) :
    planFile workspace tree file =
      .error (.conflict file.file first.span.text second.span.text) := by
  simp only [planFile, known, TextEdit.apply, found]
  rfl

theorem planFile_of_faulty (faulty : Faulty workspace tree file) :
    ∃ failure, planFile workspace tree file = .error failure := by
  cases known : workspace.lines tree file.file with
  | error error => exact ⟨_, planFile_of_unread known⟩
  | ok lines =>
    rcases faulty with ⟨error, failed⟩ | crossing
    · rw [known] at failed
      cases failed
    · obtain ⟨first, second, found⟩ := exists_overlap crossing
      exact ⟨_, planFile_of_overlap known found⟩

theorem unplannable_of_error (failed : planFile workspace tree file = .error failure) :
    Unplannable workspace tree file failure := by
  cases known : workspace.lines tree file.file with
  | error error =>
    rw [planFile_of_unread known] at failed
    cases failed
    exact .unread known
  | ok lines =>
    cases found : overlap? (sorted file.edits) with
    | none =>
      simp only [planFile, known, TextEdit.apply, found] at failed
      cases failed
    | some pair =>
      obtain ⟨first, second⟩ := pair
      rw [planFile_of_overlap known found] at failed
      cases failed
      obtain ⟨here, there, before⟩ := overlap?_eq_some found
      have same := sorted_perm file.edits
      exact .overlapping known (same.mem_iff.mp here) (same.mem_iff.mp there) before

/-- The first file that cannot be planned fails all of them. -/
theorem plan_of_faulty (member : file ∈ files) (faulty : Faulty workspace tree file) :
    ∃ earlier first later failure, files = earlier ++ first :: later ∧
      (∀ other ∈ earlier, ¬ Faulty workspace tree other) ∧
      Unplannable workspace tree first failure ∧
      plan workspace tree files = .error failure := by
  induction files with
  | nil => cases member
  | cons head rest ih =>
    simp only [plan, List.mapM_cons]
    cases planned : planFile workspace tree head with
    | error failure =>
      exact ⟨[], head, rest, failure, rfl, by simp, unplannable_of_error planned, rfl⟩
    | ok value =>
      have sound : ¬ Faulty workspace tree head := by
        intro faulty
        obtain ⟨failure, failed⟩ := planFile_of_faulty faulty
        rw [planned] at failed
        cases failed
      have behind : file ∈ rest := by
        rcases List.mem_cons.mp member with rfl | behind
        · exact absurd faulty sound
        · exact behind
      obtain ⟨earlier, first, later, failure, rfl, sounds, reason, failed⟩ := ih behind
      refine ⟨head :: earlier, first, later, failure, rfl, ?_, reason, ?_⟩
      · exact List.forall_mem_cons.mpr ⟨sound, sounds⟩
      · rw [plan] at failed
        rw [failed]
        rfl

end Planning

/-- An edit that is refused: its files cannot be collected, or one of them cannot be planned. -/
def Refused (workspace : Workspace) (tree : FileTree) (edit : WorkspaceEdit) : Prop :=
  match edit.collect with
  | .error _ => True
  | .ok files => ∃ file ∈ files, Faulty workspace tree file

/-- The failure of a refused edit: that of collecting it, or the reason why the first of its files
that cannot be planned is not. -/
inductive Refusal (workspace : Workspace) (tree : FileTree) (edit : WorkspaceEdit)
    (failure : Failure) : Prop
  | uncollected (failed : edit.collect = .error failure)
  | unplanned (collected : edit.collect = .ok (earlier ++ file :: later))
      (sound : ∀ other ∈ earlier, ¬ Faulty workspace tree other)
      (reason : Unplannable workspace tree file failure)

variable {world : World} {edit : WorkspaceEdit}

/-- A refused edit fails with the reason of its refusal and leaves the world as it was, with all
that was said, all that is tracked and all diagnostics; however many of its files could be
planned. -/
theorem refused_edit_changes_nothing (host : Host) (thread : Nat) (context : Context)
    (cursor : Option CursorPlace) (readable : world.mayRead .documents thread = true)
    (refused : Refused world.workspace world.tree edit) :
    ∃ failure, Refusal world.workspace world.tree edit failure ∧
      (applyEdit context edit cursor).run.run? host thread world =
        some (.error failure, world) := by
  unfold Refused at refused
  split at refused
  · rename_i failure failed
    refine ⟨failure, .uncollected failed, ?_⟩
    rw [applyEdit, failed]
    rfl
  · rename_i files collected
    obtain ⟨file, member, faulty⟩ := refused
    obtain ⟨earlier, first, later, failure, rfl, sound, reason, failed⟩ :=
      plan_of_faulty member faulty
    refine ⟨failure, .unplanned collected sound reason, ?_⟩
    have filled : (earlier ++ first :: later).isEmpty = false := by simp
    have reading : world.perform host thread .workspace = some (world, world.workspace) :=
      if_pos readable
    rw [applyEdit, collected]
    change (if (earlier ++ first :: later).isEmpty then _ else _ : Job Unit).run.run? host thread
      world = _
    rw [filled]
    refine (Job.run?_ask_bind reading).trans ?_
    refine (Job.run?_ask_bind rfl).trans ?_
    rw [failed]
    rfl

/-- A line put in front of a file. -/
def frontLine : TextEdit := ⟨⟨⟨0, 0⟩, ⟨0, 0⟩⟩, ['b', '\n']⟩

/-- An edit that puts a line in front of `/a` and of `/b`. -/
def frontLines : WorkspaceEdit where
  documentChanges := some (.edits (["/a", "/b"].map fun file =>
    ⟨.ofPath file.toList, none, [.plain frontLine]⟩))

theorem collect_frontLines :
    frontLines.collect = .ok [⟨"/a", [frontLine]⟩, ⟨"/b", [frontLine]⟩] := by
  have named : (frontLines.entries.mapM fun entry => do
      return (← entry.1.fileName, entry.2) : Outcome (List (String × List TextEdit))) =
      .ok [("/a", [frontLine]), ("/b", [frontLine])] := by
    decide +kernel
  have ordered : WorkspaceEdit.namesInOrder [("/a", [frontLine]), ("/b", [frontLine])] =
      ["/a", "/b"] := by
    refine List.mergeSort_of_pairwise ?_
    decide
  rw [WorkspaceEdit.collect, named]
  simp only [bind, Except.bind, ordered]
  decide +kernel

/-- A world with a file `/a` and no other. -/
def lonelyFile : World where
  tree := ⟨[], [(["a"], .file [97, 10])]⟩

/-- `/a` could be edited, `/b` is not there: nothing happens to either. -/
theorem edit_of_missing_file :
    ∃ failure, Refusal lonelyFile.workspace lonelyFile.tree frontLines failure ∧
      (applyEdit {} frontLines none).run.run? {} 0 lonelyFile =
        some (.error failure, lonelyFile) := by
  refine refused_edit_changes_nothing {} 0 {} none rfl ?_
  have missing : lonelyFile.workspace.lines lonelyFile.tree "/b" = .error .notFound := by
    decide +kernel
  rw [Refused, collect_frontLines]
  exact ⟨⟨"/b", [frontLine]⟩, by decide, .inl ⟨_, missing⟩⟩

end Editor

end LanguageBridge
