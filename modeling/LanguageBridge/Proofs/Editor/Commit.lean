import Mathlib.Data.List.Forall2
import LanguageBridge.Proofs.Edit.Gathering
import LanguageBridge.Proofs.Edit.Refusal
import LanguageBridge.Proofs.Editor.Writing

/-!
How an edit of several files is carried out, when nothing else goes on in the program and the editor
and the server may fail at any point: one file after the other is written, up to the first step that
fails.
-/
namespace LanguageBridge.Editor

variable {host : Host} {thread : Nat} {world last : World}

section Tracking

variable {context : Context} {workspace : Workspace} {planned : PlannedFile} {file : String}

theorem get?_written_other (apart : file ≠ planned.file) :
    (written context workspace planned).documents.get? file = workspace.documents.get? file := by
  unfold written
  split
  · rfl
  · rw [Workspace.get?_markDirty_other apart, Workspace.get?_synced_other apart]

/-- A file is tracked in a session with its planned lines, and changed since it was saved. -/
def Tracked (session : Session) (planned : PlannedFile) (workspace : Workspace) : Prop :=
  ∃ document, workspace.documents.get? planned.file = some document ∧
    document.session = session.key ∧ document.lines = planned.text.splitLines ∧
    document.dirty = true

theorem tracked_written {session : Session} (attached : context.session = some session) :
    Tracked session planned (written context workspace planned) := by
  obtain ⟨document, found, own, lines⟩ :=
    Workspace.get?_synced_self workspace session.key planned.file planned.text
  refine ⟨{ document with dirty := true }, ?_, own, lines, rfl⟩
  rw [written, attached]
  exact Workspace.get?_markDirty_self found

theorem get?_written_all {files : List PlannedFile} (absent : file ∉ files.map (·.file)) :
    (files.foldl (written context) workspace).documents.get? file =
      workspace.documents.get? file := by
  induction files generalizing workspace with
  | nil => rfl
  | cons first rest ih =>
    rw [List.map_cons, List.mem_cons, not_or] at absent
    rw [List.foldl_cons, ih absent.2, get?_written_other absent.1]

theorem tracked_written_all {session : Session} (attached : context.session = some session)
    {files : List PlannedFile} (once : (files.map (·.file)).Nodup) (member : planned ∈ files) :
    Tracked session planned (files.foldl (written context) workspace) := by
  induction files generalizing workspace with
  | nil => cases member
  | cons first rest ih =>
    rw [List.map_cons, List.nodup_cons] at once
    rw [List.foldl_cons]
    rcases List.mem_cons.mp member with rfl | later
    · obtain ⟨document, found, facts⟩ := tracked_written attached
      exact ⟨document, (get?_written_all once.1).trans found, facts⟩
    · exact ih once.2 later

end Tracking

section Loop

variable {context : Context} {order : List PlannedFile} {outcome : Outcome Unit}

theorem Writing.later {planned : PlannedFile} {said : List Sent} {workspace : Workspace}
    {script : Script (Outcome Unit)} {value : Outcome Unit}
    (writing : Writing context workspace world planned said)
    (runs : script.Runs host thread world value last) :
    Writing context workspace last planned said := by
  obtain ⟨attached, named, answer, there, same⟩ := writing
  exact .mk attached named ⟨answer, runs.answers there, same⟩

theorem Writing.before {planned : PlannedFile} {said : List Sent} {workspace before : Workspace}
    (writing : Writing context workspace last planned said)
    (same : workspace.documents.get? planned.file = before.documents.get? planned.file) :
    Writing context before last planned said := by
  obtain ⟨attached, named, loaded⟩ := writing
  rw [Workspace.news_eq same]
  exact .mk attached named loaded

/-- How far the files were written: all of them, or up to one at which a step failed. -/
inductive Looped (context : Context) (order : List PlannedFile) (world last : World) :
    Outcome Unit → Prop
  | finished {blocks : List (List Sent)}
      (said : List.Forall₂ (Writing context world.workspace last) order blocks)
      (becomes : World.Becomes (order.foldl (written context) world.workspace) blocks.flatten
        world last) : Looped context order world last (.ok ())
  | stopped {done later : List PlannedFile} {next : PlannedFile} {blocks : List (List Sent)}
      {part : List Sent} {middle : World} {failure : Failure}
      (split : order = done ++ next :: later)
      (said : List.Forall₂ (Writing context world.workspace last) done blocks)
      (becomes : World.Becomes (done.foldl (written context) world.workspace) blocks.flatten
        world middle)
      (stopped : Stopped context next middle last failure part) :
      Looped context order world last (.error failure)

theorem writeAll_becomes (once : (order.map (·.file)).Nodup)
    (runs : Job.Runs host thread (order.forM (writeFile context)) world outcome last) :
    Looped context order world last outcome := by
  induction order generalizing world with
  | nil =>
    obtain ⟨rfl, drift⟩ := Job.Runs.of_pure runs
    exact .finished .nil drift.becomes
  | cons first rest ih =>
    change Job.Runs host thread (writeFile context first >>= fun _ =>
      rest.forM (writeFile context)) world outcome last at runs
    rw [List.map_cons, List.nodup_cons] at once
    rcases runs.of_bind with ⟨failure, rfl, writing⟩ | ⟨_, here, writing, others⟩
    · rcases writeFile_becomes writing with ⟨_, impossible, _⟩ | ⟨reason, said, same, stopped⟩
      · cases impossible
      · cases same
        exact .stopped rfl .nil (World.Undisturbed.refl world).becomes stopped
    · rcases writeFile_becomes writing with ⟨said, _, block, becomes⟩ | ⟨_, _, impossible, _⟩
      case inr => cases impossible
      have firstBlock := block.later others
      have kept {files : List PlannedFile} {blocks : List (List Sent)}
          (among : ∀ planned ∈ files, planned ∈ rest)
          (said : List.Forall₂ (Writing context here.workspace last) files blocks) :
          List.Forall₂ (Writing context world.workspace last) files blocks := by
        induction said with
        | nil => exact .nil
        | cons block _ ih =>
          refine .cons (block.before ?_) (ih fun planned member =>
            among planned (List.mem_cons_of_mem _ member))
          rw [becomes.workspace]
          refine get?_written_other ?_
          rintro same
          exact once.1 (same ▸ List.mem_map_of_mem (among _ List.mem_cons_self))
      cases ih once.2 others with
      | finished blocks after =>
        rw [becomes.workspace] at after
        exact .finished (.cons firstBlock (kept (fun _ member => member) blocks))
          (becomes.trans after)
      | @stopped done later next _ _ _ _ split blocks after stopped =>
        rw [becomes.workspace] at after
        have among (planned : PlannedFile) (member : planned ∈ done) : planned ∈ rest := by
          rw [split]
          exact List.mem_append_left _ member
        exact .stopped (by rw [split, List.cons_append]) (.cons firstBlock (kept among blocks))
          (becomes.trans after) stopped

end Loop

section Whole

variable {context : Context} {cursor : Option CursorPlace} {edit : WorkspaceEdit}
  {outcome : Outcome Unit}

/-- The call that moves the cursor. -/
def moving (ticket : Nat) (position : EditorPosition) : Sent :=
  .call .editor ticket "execute" (Params.ofJson (.arr [(moveCursor position).toJson]))

/-- What is said of the cursor in the end, and the outcome of the whole: nothing when it stays, and
else the call that moves it, unless the editor is gone. -/
inductive Ended (last : World) : Option EditorPosition → List Sent → Outcome Unit → Prop
  | still : Ended last none [] (.ok ())
  | moved {ticket : Nat} {position : EditorPosition} {answer : Outcome Json}
      (answered : last.answers.get? ticket = some answer) :
      Ended last (some position) [moving ticket position]
        ((Job.readAnswer "execute" (Json.readOption (Json.readList Json.readAny)) answer).map
          fun _ => ())
  | gone {position : EditorPosition} (gone : last.isAlive .editor = false) :
      Ended last (some position) [] (.error .terminated)

/-- What comes of carrying out planned files in an order, when a cursor is to be moved to a place. -/
inductive Committed (context : Context) (order : List PlannedFile)
    (target : Option EditorPosition) (world last : World) : Outcome Unit → Prop
  /-- Every file is written, and at the end the cursor is moved. -/
  | finished {session : Session} {blocks : List (List Sent)} {ending : List Sent}
      {result : Outcome Unit} (attached : order = [] ∨ context.session = some session)
      (said : List.Forall₂ (Writing context world.workspace last) order blocks)
      (traffic : last.traffic = world.traffic ++ blocks.flatten ++ ending)
      (tracked : ∀ planned ∈ order, Tracked session planned last.workspace)
      (spared : ∀ file, file ∉ order.map (·.file) →
        last.workspace.documents.get? file = world.workspace.documents.get? file)
      (ended : Ended last target ending result) :
      Committed context order target world last result
  /-- A step fails at a file: those before it are written, and of those behind it nothing is said and
  nothing changes. -/
  | stopped {session : Session} {done later : List PlannedFile} {next : PlannedFile}
      {blocks : List (List Sent)} {part : List Sent} {middle : World} {failure : Failure}
      (split : order = done ++ next :: later)
      (attached : done = [] ∨ context.session = some session)
      (before : middle.workspace = done.foldl (written context) world.workspace)
      (said : List.Forall₂ (Writing context world.workspace last) done blocks)
      (traffic : last.traffic = world.traffic ++ blocks.flatten ++ part)
      (tracked : ∀ planned ∈ done, Tracked session planned last.workspace)
      (stopped : Stopped context next middle last failure part)
      (spared : ∀ file, file ∉ (done ++ [next]).map (·.file) →
        last.workspace.documents.get? file = world.workspace.documents.get? file) :
      Committed context order target world last (.error failure)

theorem Committed.of_undisturbed {order : List PlannedFile} {target : Option EditorPosition}
    {here : World} (committed : Committed context order target here last outcome)
    (drift : world.Undisturbed here) : Committed context order target world last outcome := by
  cases committed with
  | finished attached said traffic tracked spared ended =>
    rw [drift.workspace] at said spared
    rw [drift.traffic] at traffic
    exact .finished attached said traffic tracked spared ended
  | stopped split attached before said traffic tracked stopped spared =>
    rw [drift.workspace] at said before spared
    rw [drift.traffic] at traffic
    exact .stopped split attached before said traffic tracked stopped spared

theorem execute_becomes {position : EditorPosition}
    (runs : Job.Runs host thread (execute [moveCursor position]) world outcome last) :
    ∃ said, Ended last (some position) said outcome ∧
      World.Becomes world.workspace said world last := by
  unfold execute at runs
  rcases runs.of_bind with ⟨failure, failed, calling⟩ | ⟨value, here, calling, rest⟩
  · rcases calling.calls with ⟨ticket, ⟨answer, answered, read⟩, becomes⟩ | ⟨same, gone, becomes⟩
    · refine ⟨_, ?_, becomes⟩
      have outcome_eq : outcome = (Job.readAnswer "execute"
          (Json.readOption (Json.readList Json.readAny)) answer).map fun _ => () := by
        rw [failed, ← read]
        rfl
      exact outcome_eq ▸ .moved answered
    · cases same
      exact ⟨_, failed ▸ .gone gone, becomes⟩
  · obtain ⟨done, drift⟩ := rest.of_pure
    rcases calling.calls with ⟨ticket, ⟨answer, answered, read⟩, becomes⟩ | ⟨impossible, _⟩
    · refine ⟨_, ?_, becomes.undisturbed drift⟩
      have outcome_eq : outcome = (Job.readAnswer "execute"
          (Json.readOption (Json.readList Json.readAny)) answer).map fun _ => () := by
        rw [done, ← read]
        rfl
      exact outcome_eq ▸ .moved (Script.Runs.answers rest answered)
    · cases impossible

/-- A file of which all is said belongs to a session. -/
theorem attached_of_said {workspace : Workspace} {files : List PlannedFile}
    {blocks : List (List Sent)}
    (said : List.Forall₂ (Writing context workspace last) files blocks) :
    ∃ session, files = [] ∨ context.session = some session := by
  cases said with
  | nil => exact ⟨default, .inl rfl⟩
  | cons first _ =>
    obtain ⟨attached, _, _⟩ := first
    exact ⟨_, .inr attached⟩

/-- Where the cursor goes after an edit whose files are written in an order. -/
def targetOf (cursor : Option CursorPlace) (workspace : Workspace) (order : List PlannedFile) :
    Option EditorPosition :=
  cursor.bind fun place =>
    cursorTarget order place.file (workspace.toProtocol place.file place.position)

/-- The part of carrying out an edit that comes after the planning. -/
def commit (context : Context) (order : List PlannedFile) (target : Option EditorPosition) :
    Job Unit := do
  order.forM (writeFile context)
  match target with
  | none => return
  | some position => execute [moveCursor position]

theorem commit_committed {order : List PlannedFile} {target : Option EditorPosition}
    (once : (order.map (·.file)).Nodup)
    (runs : Job.Runs host thread (commit context order target) world outcome last) :
    Committed context order target world last outcome := by
  unfold commit at runs
  rcases runs.of_bind with ⟨failure, rfl, looping⟩ | ⟨_, here, looping, rest⟩
  · cases writeAll_becomes once looping with
    | @stopped done later next blocks part middle _ split said becomes stopped =>
      obtain ⟨session, attached⟩ := attached_of_said said
      obtain ⟨workspace, after, others⟩ := stopped.becomes
      have names : ((done ++ next :: later).map (·.file)).Nodup := split ▸ once
      rw [List.map_append, List.map_cons] at names
      have apart := List.nodup_append.mp names
      refine .stopped split attached becomes.workspace said ?_ ?_ stopped ?_
      · rw [after.traffic, becomes.traffic]
      · intro planned member
        rcases attached with rfl | attached
        · cases member
        · have tracked : Tracked session planned (done.foldl (written context) world.workspace) :=
            tracked_written_all attached apart.1 member
          obtain ⟨document, found, facts⟩ := tracked
          refine ⟨document, ?_, facts⟩
          have other : planned.file ≠ next.file :=
            apart.2.2 _ (List.mem_map_of_mem member) _ List.mem_cons_self
          rw [after.workspace, others _ other, becomes.workspace, found]
      · intro file absent
        rw [List.map_append, List.mem_append, not_or, List.map_singleton,
          List.mem_singleton] at absent
        rw [after.workspace, others _ absent.2, becomes.workspace, get?_written_all absent.1]
  · cases writeAll_becomes once looping with
    | @finished blocks said becomes =>
      have saidLast := said.imp fun _ _ writing => writing.later rest
      obtain ⟨session, attached⟩ := attached_of_said saidLast
      have ended : ∃ ending, Ended last target ending outcome ∧
          World.Becomes here.workspace ending here last := by
        cases target with
        | none =>
          obtain ⟨rfl, drift⟩ := rest.of_pure
          exact ⟨_, .still, drift.becomes⟩
        | some position => exact execute_becomes rest
      obtain ⟨ending, ended, after⟩ := ended
      have whole := becomes.tells after
      refine .finished attached saidLast ?_ ?_ ?_ ended
      · rw [whole.traffic, List.append_assoc]
      · intro planned member
        rcases attached with rfl | attached
        · cases member
        · rw [whole.workspace]
          exact tracked_written_all attached once member
      · intro file absent
        rw [whole.workspace, get?_written_all absent]

/-- The rest of carrying out an edit, once its files are planned. -/
theorem applyEdit_eq {files : List FileEdits} (collected : edit.collect = .ok files)
    (filled : files ≠ []) :
    applyEdit context edit cursor = (do
      let workspace ← Job.ask .workspace
      let tree ← Job.ask .disk
      let planned ← Job.ofOutcome (plan workspace tree files)
      let order := writingOrder cursor planned
      commit context order (targetOf cursor workspace order)) := by
  have filled : files.isEmpty = false := by simp [filled]
  rw [applyEdit, collected]
  change (if files.isEmpty then _ else _ : Job Unit) = _
  rw [filled]
  refine congrArg (fun next => Job.ask .workspace >>= next) (funext fun workspace => ?_)
  refine congrArg (fun next => Job.ask .disk >>= next) (funext fun tree => ?_)
  refine congrArg (fun next => Job.ofOutcome (plan workspace tree files) >>= next)
    (funext fun planned => ?_)
  refine congrArg (fun next => (writingOrder cursor planned).forM (writeFile context) >>= next)
    (funext fun _ => ?_)
  cases cursor with
  | none => rfl
  | some place =>
    simp only [targetOf, Option.bind_some]
    cases cursorTarget .. <;> rfl

theorem writeFile_inTurns (planned : PlannedFile) :
    (writeFile context planned).InTurns false := by
  have loads : (loadBuffer planned.file).InTurns false := by
    refine (Job.InTurns.call ..).bind fun buffer => ?_
    split
    · exact (Job.InTurns.throw _).bind fun _ => .pure _
    · exact .pure _
  have syncs : (context.sync planned.file planned.text).InTurns false := by
    refine context.attached_inTurns.bind fun session => ?_
    refine (Job.InTurns.ofOutcome _).bind fun uri => .holding ?_
    refine Job.InTurns.ask_bind rfl fun workspace => ?_
    split
    · split
      · exact Job.InTurns.ask_bind rfl fun _ => (Job.InTurns.notify ..).bind fun _ => .pure _
      · exact .pure _
    · exact (Job.InTurns.notify ..).bind fun _ => Job.InTurns.ask_bind rfl fun _ => .pure _
  have marks : (markDirty planned.file).InTurns false :=
    .holding (Job.InTurns.ask_bind rfl fun _ => Job.InTurns.ask_bind rfl fun _ => .pure _)
  exact loads.bind fun _ => (Job.InTurns.notify ..).bind fun _ => syncs.bind fun _ => marks

theorem applyEdit_inTurns : (applyEdit context edit cursor).InTurns false := by
  refine (Job.InTurns.ofOutcome _).bind fun files => ?_
  split
  · exact .pure _
  refine Job.InTurns.ask_bind rfl fun workspace => Job.InTurns.ask_bind rfl fun tree => ?_
  refine (Job.InTurns.ofOutcome _).bind fun planned => ?_
  refine (Job.InTurns.forM writeFile_inTurns _).bind fun _ => ?_
  split
  · exact .pure _
  · split
    · exact (Job.InTurns.call ..).bind fun _ => .pure _
    · exact .pure _

/-- An edit is carried out with nothing else going on. It never gets stuck, but for calls that the
editor does not answer. Once its files are planned, from what is tracked and what the disk holds
then, they are written in their order: each is loaded, filled with its planned lines and brought to
the server with exactly these lines, up to the first step that fails, whose failure is that of the
whole; and only when all are written the cursor is moved. -/
theorem edit_is_committed (host : Host) (thread : Nat) (context : Context)
    (cursor : Option CursorPlace) {files : List FileEdits} (collected : edit.collect = .ok files)
    (alone : world.held = []) :
    (∀ left there, (applyEdit context edit cursor).run.Reaches host thread Script.Surroundings world
        left there → left.Proceeds host thread there) ∧
      ∀ outcome last, Job.Runs host thread (applyEdit context edit cursor) world outcome last →
        ∃ moment, world.Meanwhile moment ∧
          match plan world.workspace moment.tree files with
          | .error failure =>
            outcome = .error failure ∧ World.Becomes world.workspace [] world last
          | .ok planned =>
            planned.map (·.file) = files.map (·.file) ∧
              (writingOrder cursor planned).Perm planned ∧
              InWritingOrder cursor (writingOrder cursor planned) ∧
              Committed context (writingOrder cursor planned)
                (targetOf cursor world.workspace (writingOrder cursor planned)) world last
                outcome := by
  refine ⟨fun left there reaches => Script.InTurns.proceeds applyEdit_inTurns alone reaches, ?_⟩
  intro outcome last runs
  have ordered (planned : List PlannedFile) {tree : FileTree}
      (done : plan world.workspace tree files = .ok planned) :
      InWritingOrder cursor (writingOrder cursor planned) :=
    writingOrder_inOrder cursor (plan_files done ▸ WorkspaceEdit.collect_ascending collected)
  by_cases none : files = []
  · subst none
    rw [applyEdit, collected] at runs
    obtain ⟨rfl, drift⟩ := Job.Runs.of_pure runs
    have planned : plan world.workspace world.tree [] = .ok [] := rfl
    refine ⟨world, .refl, ?_⟩
    rw [planned]
    refine ⟨rfl, writingOrder_perm .., ordered [] planned, ?_⟩
    have still : targetOf cursor world.workspace (writingOrder cursor []) = Option.none := by
      cases cursor <;> rfl
    rw [still]
    exact commit_committed List.nodup_nil runs
  · rw [applyEdit_eq collected none] at runs
    obtain ⟨near, before, runs⟩ := runs.of_workspace_meanwhile
    obtain ⟨moment, after, runs⟩ := runs.of_disk_meanwhile
    have meanwhile : world.Meanwhile moment := before.trans after
    have drift := meanwhile.undisturbed
    refine ⟨moment, meanwhile, ?_⟩
    rcases runs.of_bind with ⟨failure, rfl, planning⟩ | ⟨planned, here, planning, committing⟩
    · obtain ⟨failed, ending⟩ := planning.of_ofOutcome
      rw [← failed]
      exact ⟨rfl, (drift.trans ending).becomes⟩
    · obtain ⟨done, ending⟩ := planning.of_ofOutcome
      rw [← done]
      have inOrder := ordered planned done.symm
      refine ⟨plan_files done.symm, writingOrder_perm .., inOrder, ?_⟩
      exact (commit_committed inOrder.once committing).of_undisturbed (drift.trans ending)

end Whole

/-- Files `/a` and `/b` of one line each, and an editor that loads the first and not the second. -/
def oneLoads : World where
  tree := ⟨[], [(["a"], .file [97, 10]), (["b"], .file [97, 10])]⟩
  answers := ⟨[(0, .ok (.nat 3)), (1, .error .terminated)]⟩

/-- A file of one line with a line put in front of it. -/
def frontPlanned (file : String) : PlannedFile :=
  ⟨file, [['b'], ['a']], [(frontLine.span, ⟨1, 1⟩)]⟩

theorem planFile_frontLine {file : String}
    (known : oneLoads.workspace.lines oneLoads.tree file = .ok [['a']]) :
    planFile oneLoads.workspace oneLoads.tree ⟨file, [frontLine]⟩ = .ok (frontPlanned file) := by
  have ordered : TextEdit.sorted [frontLine] = [frontLine] := List.mergeSort_singleton _
  simp only [planFile, known, TextEdit.apply, ordered]
  rfl

theorem plan_frontLines :
    plan oneLoads.workspace oneLoads.tree [⟨"/a", [frontLine]⟩, ⟨"/b", [frontLine]⟩] =
      .ok [frontPlanned "/a", frontPlanned "/b"] := by
  simp only [plan, List.mapM_cons, List.mapM_nil]
  rw [planFile_frontLine rfl, planFile_frontLine rfl]
  rfl

/-- A session of a server. -/
def goSession : Session where
  key := ⟨"go", "/"⟩
  server := ⟨"go", 1⟩

/-- A run with an outcome, found by doing the script in one go. -/
theorem exists_run {α : Type} {script : Script α} (p : α → Bool)
    (ran : (script.run? host thread world).any (fun result => p result.1) = true) :
    ∃ value last, p value = true ∧ script.Runs host thread world value last := by
  obtain ⟨⟨value, last⟩, found, holds⟩ := (Option.any_eq_true _ _).mp ran
  exact ⟨value, last, holds, Script.runs_of_run? found⟩

theorem ran_oneLoads :
    ((applyEdit (.ofSession goSession) frontLines none).run.run? {} 0 oneLoads).any
      (fun result => !result.1.isOk) = true := by
  rw [applyEdit_eq collect_frontLines (by decide)]
  rw [Job.run?_ask_bind (rfl : World.perform {} 0 oneLoads .workspace = some (oneLoads, {}))]
  rw [Job.run?_ask_bind (rfl : World.perform {} 0 oneLoads .disk = some (oneLoads, oneLoads.tree))]
  rw [plan_frontLines]
  decide +kernel

/-- A line put in front of `/a` and `/b`, of which the editor loads only the first. -/
theorem second_file_refused : ∃ outcome last,
    Job.Runs {} 0 (applyEdit (.ofSession goSession) frontLines none) oneLoads outcome last ∧
    outcome ≠ .ok () ∧ ∃ moment, oneLoads.Meanwhile moment ∧
      match plan {} moment.tree [⟨"/a", [frontLine]⟩, ⟨"/b", [frontLine]⟩] with
      | .error failure => outcome = .error failure ∧ World.Becomes {} [] oneLoads last
      | .ok planned =>
        planned.map (·.file) = ["/a", "/b"] ∧ (writingOrder none planned).Perm planned ∧
          InWritingOrder none (writingOrder none planned) ∧
          Committed (.ofSession goSession) (writingOrder none planned)
            (targetOf none {} (writingOrder none planned)) oneLoads last outcome := by
  obtain ⟨outcome, last, failed, runs⟩ :=
    exists_run (fun outcome : Outcome Unit => !outcome.isOk) ran_oneLoads
  have alone : oneLoads.held = [] := rfl
  have committed := (edit_is_committed {} 0 (.ofSession goSession) none collect_frontLines alone).2
  refine ⟨outcome, last, runs, ?_, committed outcome last runs⟩
  rintro rfl
  cases failed

end LanguageBridge.Editor
