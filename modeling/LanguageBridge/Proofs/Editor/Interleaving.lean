import LanguageBridge.Editor.Events
import LanguageBridge.Proofs.Edit.FileEnd
import LanguageBridge.Proofs.Editor.Commit

/-!
Edits of files that others change meanwhile. Whatever others do, an edit writes and syncs the lines
that it planned, from what its files were by then; they are those of the edited files as they are by
the time of the writing only when what has changed since makes no difference.
-/
namespace LanguageBridge.Editor

open Text TextEdit

variable {host : Host} {thread : Nat} {others : World → World → Prop} {world now : World}
  {context : Context} {cursor : Option CursorPlace} {edit : WorkspaceEdit}

/-- The lines of a file with its edits carried out. -/
def edited (edits : FileEdits) (lines : List Text) : List Text :=
  (replaceAll ((sorted edits.edits).map (place lines)) (joinLines lines)).splitLines

/-- An operation by which the lines of a planned file replace what was there: they are put into its
buffer, a server is told to open the file with them, or they are tracked in place of other lines. -/
inductive Writes (planned : PlannedFile) : Operation → Prop
  | fills (buffer : Nat) :
      Writes planned (.notify .editor "vim#set_buffer_lines" (planned.fill buffer))
  | opens (session : Session) (uri : Uri) :
      Writes planned (.notify session.peer "textDocument/didOpen"
        ((Document.ofText session.key planned.text).openParams uri))
  | replaces (workspace : Workspace) (document : Document) :
      Writes planned
        (.setWorkspace (workspace.track planned.file (document.update planned.text).1))

/-- An operation that follows when the lines of a planned file were written: the server is told that
they have changed, the opened document is tracked, and it is marked as changed. -/
inductive Follows (planned : PlannedFile) : Operation → Prop
  | changes (session : Session) (uri : Uri) (version : Nat) :
      Follows planned (.notify session.peer "textDocument/didChange"
        (Document.changeParams uri version planned.text))
  | tracks (workspace : Workspace) (key : SessionKey) :
      Follows planned (.setWorkspace (workspace.track planned.file (.ofText key planned.text)))
  | marks (workspace : Workspace) :
      Follows planned (.setWorkspace (workspace.markDirty planned.file))

/-- Whether an operation tells somebody something or changes what is tracked. -/
def Telling : Operation → Prop
  | .notify .. | .setWorkspace _ => True
  | _ => False

/-- Whatever is told or tracked is of one of some planned files. -/
def Conveying (order : List PlannedFile) (operation : Operation) : Prop :=
  Telling operation → ∃ planned ∈ order, Writes planned operation ∨ Follows planned operation

theorem conveying_of_not {order : List PlannedFile} {operation : Operation}
    (silent : ¬ Telling operation) : Conveying order operation :=
  fun telling => absurd telling silent

theorem sync_conveys {order : List PlannedFile} {planned : PlannedFile} (member : planned ∈ order) :
    (context.sync planned.file planned.text).Each (Conveying order) := by
  have attaches : context.attached.Each (Conveying order) := by
    unfold Context.attached
    split <;> trivial
  refine attaches.bind fun session => (Job.Each.ofOutcome _).bind fun uri =>
    .holding (conveying_of_not nofun) (conveying_of_not nofun)
      (Job.Each.ask_bind (conveying_of_not nofun) fun workspace => ?_)
  split
  · rename_i document _
    split
    · rename_i updated version changed
      have replaced : Writes planned
          (.setWorkspace (workspace.track planned.file (document.update planned.text).1)) :=
        .replaces workspace document
      rw [changed] at replaced
      refine Job.Each.ask_bind (fun _ => ⟨planned, member, .inl replaced⟩) fun _ =>
        (Job.Each.notify fun _ => ?_).bind fun _ => trivial
      exact ⟨planned, member, .inr (.changes session uri version)⟩
    · trivial
  · refine (Job.Each.notify fun _ => ⟨planned, member, .inl (.opens session uri)⟩).bind fun _ => ?_
    exact Job.Each.ask_bind (fun _ => ⟨planned, member, .inr (.tracks workspace session.key)⟩)
      fun _ => trivial

theorem writeFile_conveys {order : List PlannedFile} {planned : PlannedFile}
    (member : planned ∈ order) : (writeFile context planned).Each (Conveying order) := by
  have loads : (loadBuffer planned.file).Each (Conveying order) := by
    refine (Job.Each.call _ (conveying_of_not nofun) fun _ => conveying_of_not nofun).bind fun buffer => ?_
    split
    · exact Job.Each.bind trivial fun _ => trivial
    · trivial
  have marks : (markDirty planned.file).Each (Conveying order) :=
    .holding (conveying_of_not nofun) (conveying_of_not nofun)
      (Job.Each.ask_bind (conveying_of_not nofun) fun workspace =>
        Job.Each.ask_bind (fun _ => ⟨planned, member, .inr (.marks workspace)⟩) fun _ => trivial)
  refine loads.bind fun buffer => (Job.Each.notify fun _ => ?_).bind fun _ =>
    (sync_conveys member).bind fun _ => marks
  exact ⟨planned, member, .inl (.fills buffer)⟩

theorem commit_conveys (order : List PlannedFile) (target : Option EditorPosition) :
    (commit context order target).Each (Conveying order) := by
  refine (Job.Each.forM fun planned member => writeFile_conveys member).bind fun _ => ?_
  split
  · trivial
  · exact (Job.Each.call _ (conveying_of_not nofun) fun _ => conveying_of_not nofun).bind fun _ => trivial

/-- The lines are those of the file as it is, with its edits carried out. -/
def Current (now : World) (edits : FileEdits) (lines : List Text) : Prop :=
  ∃ content, now.workspace.lines now.tree edits.file = .ok content ∧ lines = edited edits content

theorem planFile_edited {workspace : Workspace} {tree : FileTree} {edits : FileEdits}
    {planned : PlannedFile} (done : planFile workspace tree edits = .ok planned) :
    planned.file = edits.file ∧ ∃ content, workspace.lines tree edits.file = .ok content ∧
      planned.applied.lines = edited edits content := by
  cases known : workspace.lines tree edits.file with
  | error error =>
    rw [planFile_of_unread known] at done
    cases done
  | ok content =>
    cases accepted : overlap? (sorted edits.edits) with
    | some pair =>
      rw [planFile_of_overlap known accepted] at done
      cases done
    | none =>
      obtain ⟨same, given, file, lines⟩ := planFile_eq known accepted
      rw [done] at given
      cases given
      exact ⟨file, content, rfl, lines⟩

/-- An edit is carried out while others do whatever they do. All that it tells anybody and all that
it changes of what is tracked is of the lines of a planned file: those of the file with its edits, as
the file was when the edit was planned, tracked by then, or else on the disk a moment later. When
they are written, they are those of the file as it is by then exactly if its edits make the same of
what it was and of what it is, and so whenever it is still what it was. -/
theorem written_lines_current_iff {files : List FileEdits} (collected : edit.collect = .ok files)
    {operation : Operation} (telling : Telling operation)
    {next : operation.Answer → Script (Outcome Unit)}
    (reaches : (applyEdit context edit cursor).run.Reaches host thread others world
      (.step operation next) now) :
    ∃ first second, Relation.ReflTransGen others world first ∧
      Relation.ReflTransGen others first second ∧
      ∃ edits ∈ files, ∃ planned content,
        planFile first.workspace second.tree edits = .ok planned ∧
        (Writes planned operation ∨ Follows planned operation) ∧ planned.file = edits.file ∧
        first.workspace.lines second.tree edits.file = .ok content ∧
        planned.applied.lines = edited edits content ∧
        (Current now edits planned.applied.lines ↔
          ∃ present, now.workspace.lines now.tree edits.file = .ok present ∧
            edited edits content = edited edits present) ∧
        (now.workspace.lines now.tree edits.file = .ok content →
          Current now edits planned.applied.lines) := by
  by_cases none : files = []
  · subst none
    rw [applyEdit, collected] at reaches
    cases Script.Reaches.of_done reaches
  rw [applyEdit_eq collected none] at reaches
  rcases Job.reaches_ask_bind reaches with ⟨_, same⟩ | ⟨first, _, _, before, reading, rest⟩
  · cases same
    cases telling
  simp only [World.perform] at reading
  split at reading <;> cases reading
  rcases Job.reaches_ask_bind rest with ⟨_, same⟩ | ⟨second, _, _, after, looking, rest⟩
  · cases same
    cases telling
  cases looking
  refine ⟨first, second, before, after, ?_⟩
  cases done : plan first.workspace second.tree files with
  | error failure =>
    rw [done] at rest
    cases Script.Reaches.of_done rest
  | ok planned =>
    rw [done] at rest
    have conveyed := ((commit_conveys _ _).reaches rest).1 telling
    obtain ⟨entry, member, conveys⟩ := conveyed
    obtain ⟨edits, among, made⟩ := exists_of_forall₂_right (forall₂_of_mapM done)
      ((writingOrder_perm ..).mem_iff.mp member)
    obtain ⟨file, content, known, lines⟩ := planFile_edited made
    refine ⟨edits, among, entry, content, made, conveys, file, known, lines, ?_, ?_⟩
    · rw [Current, lines]
    · exact fun still => ⟨content, still, lines⟩

/-- Files `/a` and `/b` of a server that runs, and an editor that loads the first. -/
def attended : World := { oneLoads with sessions := .ofList [(goSession.key, goSession)] }

/-- What the editor says when a line is added at the end of `/a`. -/
def lineAdded : Json :=
  .obj [("text_document", .str "/a"), ("language_id", .str "go"), ("text", .str "a\nb")]

/-- The editor is asked to load `/a`. -/
def asked : World := { attended with traffic := [loading 0 "/a"], tickets := 1 }

theorem frontPlanned_written {others : World → World → Prop} {later : World}
    (meanwhile : Relation.ReflTransGen others asked later)
    (answered : later.answers.get? 0 = some (.ok (.nat 3))) :
    ∃ next, (applyEdit (.ofSession goSession) frontLines none).run.Reaches {} 0 others attended
      (.step (.notify .editor "vim#set_buffer_lines" ((frontPlanned "/a").fill 3)) next) later := by
  rw [applyEdit_eq collect_frontLines (by decide)]
  have waited : World.perform {} 0 later (.await 0) = some (later, .ok (.nat 3)) := by
    rw [World.perform, answered]
    rfl
  have writes : ∃ next, (Job.ofOutcome (plan oneLoads.workspace oneLoads.tree
      [⟨"/a", [frontLine]⟩, ⟨"/b", [frontLine]⟩]) >>= fun planned =>
        commit (.ofSession goSession) (writingOrder none planned)
          (targetOf none oneLoads.workspace (writingOrder none planned))).run.Reaches {} 0 others
      attended
      (.step (.notify .editor "vim#set_buffer_lines" ((frontPlanned "/a").fill 3)) next) later := by
    rw [plan_frontLines]
    exact ⟨_, .step rfl (.meanwhiles meanwhile (.step waited (.here _ _)))⟩
  obtain ⟨next, reaches⟩ := writes
  exact ⟨next, .step (rfl : World.perform {} 0 attended .workspace = some (attended, {}))
    (.step (rfl : World.perform {} 0 attended .disk = some (attended, oneLoads.tree)) reaches)⟩

/-- Nobody else is about: the lines planned for `/a` are those of `/a` with its edits. -/
theorem front_line_written : ∃ operation next,
    Telling operation ∧
    (applyEdit (.ofSession goSession) frontLines none).run.Reaches {} 0 (fun _ _ => False) attended
      (.step operation next) asked ∧
    ∃ first second, Relation.ReflTransGen (fun _ _ => False) attended first ∧
      Relation.ReflTransGen (fun _ _ => False) first second ∧
      ∃ edits ∈ [⟨"/a", [frontLine]⟩, ⟨"/b", [frontLine]⟩], ∃ planned content,
        planFile first.workspace second.tree edits = .ok planned ∧
        (Writes planned operation ∨ Follows planned operation) ∧ planned.file = edits.file ∧
        first.workspace.lines second.tree edits.file = .ok content ∧
        planned.applied.lines = edited edits content ∧
        (Current asked edits planned.applied.lines ↔
          ∃ present, asked.workspace.lines asked.tree edits.file = .ok present ∧
            edited edits content = edited edits present) ∧
        (asked.workspace.lines asked.tree edits.file = .ok content →
          Current asked edits planned.applied.lines) := by
  obtain ⟨next, reaches⟩ := frontPlanned_written (.refl (r := fun _ _ => False)) rfl
  exact ⟨_, next, trivial, reaches, written_lines_current_iff collect_frontLines trivial reaches⟩

/-- A thread handles a change event from its begin to its end. -/
def HandlesChange (host : Host) (thread : Nat) (before after : World) : Prop :=
  ∃ params outcome, (handleEvent "textDocument/didChange" params).run.run? host thread before =
    some (outcome, after)

/-- A line that is added to a file while the editor loads its buffer is not there in what is written
into the buffer. -/
theorem added_line_overwritten :
    ¬ ∀ (host : Host) (thread other : Nat) (context : Context) (cursor : Option CursorPlace)
      (edit : WorkspaceEdit) (files : List FileEdits) (edits : FileEdits) (world now : World)
      (planned : PlannedFile) (buffer : Nat) (next : Outcome Unit → Script (Outcome Unit)),
      edit.collect = .ok files →
      (applyEdit context edit cursor).run.Reaches host thread (HandlesChange host other) world
        (.step (.notify .editor "vim#set_buffer_lines" (planned.fill buffer)) next) now →
      edits ∈ files → edits.file = planned.file → Current now edits planned.applied.lines := by
  intro claimed
  have ran : ((handleEvent "textDocument/didChange" lineAdded).run.run? {} 1 asked).map
      (fun result => (result.2.workspace.documents.get? "/a").map (·.lines)) =
        some (some [['a'], ['b']]) := by decide +kernel
  obtain ⟨⟨outcome, later⟩, handled, tracked⟩ := Option.map_eq_some_iff.mp ran
  obtain ⟨document, found, lines⟩ := Option.map_eq_some_iff.mp tracked
  have answered : later.answers.get? 0 = some (.ok (.nat 3)) :=
    (Script.runs_of_run? handled).answers rfl
  have moved : HandlesChange {} 1 asked later := ⟨lineAdded, outcome, handled⟩
  obtain ⟨next, reaches⟩ := frontPlanned_written (.single moved) answered
  obtain ⟨content, known, same⟩ := claimed _ _ _ _ _ _ _ ⟨"/a", [frontLine]⟩ _ _
    (frontPlanned "/a") 3 next collect_frontLines reaches List.mem_cons_self rfl
  rw [Workspace.lines, found] at known
  obtain rfl := (Except.ok.inj known).symm.trans lines
  have ordered : TextEdit.sorted [frontLine] = [frontLine] := List.mergeSort_singleton _
  rw [edited, ordered] at same
  exact absurd same (by decide +kernel)

end LanguageBridge.Editor
