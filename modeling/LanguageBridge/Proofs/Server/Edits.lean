import LanguageBridge.Proofs.Edit.Gathering
import LanguageBridge.Proofs.Server.Replies

/-!
What a server is told of its edits. An edit is reported as applied only when every text edit that
counts has been written to the editor; operations on files are passed over and are not reported.
-/
namespace LanguageBridge

/-- The edit with its text edits alone: operations on files, and changes beside document changes,
are left out. -/
def WorkspaceEdit.textual (edit : WorkspaceEdit) : WorkspaceEdit where
  changes := match edit.documentChanges with
    | none => edit.changes
    | some _ => none
  documentChanges := match edit.documentChanges with
    | some (.mixed changes) => some (.edits (documentEdits changes))
    | given => given

/-- The operations on files that an edit asks for. -/
def WorkspaceEdit.operations (edit : WorkspaceEdit) : List FileOperation :=
  match edit.documentChanges with
  | some (.mixed changes) => changes.filterMap fun
    | .operation operation => some operation
    | .edit _ => none
  | _ => []

theorem WorkspaceEdit.entries_textual (edit : WorkspaceEdit) :
    edit.textual.entries = edit.entries := by
  obtain ⟨changes, documentChanges⟩ := edit
  cases documentChanges with
  | none => rfl
  | some given => cases given <;> rfl

theorem WorkspaceEdit.operations_textual (edit : WorkspaceEdit) : edit.textual.operations = [] := by
  obtain ⟨changes, documentChanges⟩ := edit
  cases documentChanges with
  | none => rfl
  | some given => cases given <;> rfl

/-- What is left out makes no difference to what is done. -/
theorem Editor.applyEdit_textual (context : Context) (edit : WorkspaceEdit)
    (cursor : Option CursorPlace) :
    Editor.applyEdit context edit.textual cursor = Editor.applyEdit context edit cursor := by
  unfold Editor.applyEdit WorkspaceEdit.collect
  rw [edit.entries_textual]

namespace Server

variable {setup : Setup} {tree : FileTree} {session : Session} {journal : Journal} {now : System}
  {acts : List Act}

/-- The editor has loaded a file into a buffer, and was given new lines for it; the server is up to
date with them. -/
inductive Rewritten (session : Session) (acts : List Act) (file : String) (lines : List Text) : Prop
  | mk {ticket buffer version : Nat} {answer : Json} {syncing : List Act}
      (asked : (⟨.call .editor "vim#load_buffer" (.arr [.str file]), (.ok ticket : Outcome Nat)⟩ :
        Act) ∈ acts)
      (loaded : (⟨.await ticket, .ok answer⟩ : Act) ∈ acts)
      (number : Json.readInt64 answer = .ok (buffer : Int))
      (given : (⟨.notify .editor "vim#set_buffer_lines" (.arr [.obj [("bufnr", .nat buffer),
        ("text_document", .str file), ("lines", .arr (lines.map .text))]]),
        (.ok () : Outcome Unit)⟩ : Act) ∈ acts)
      (within : syncing <:+: acts)
      (synced : ((Context.ofSession session).sync file (Text.joinLines lines)).Comes syncing
        (.ok version))

theorem Rewritten.of_part {part : List Act} {file : String} {lines : List Text}
    (rewritten : Rewritten session part file lines) (within : part <:+: acts) :
    Rewritten session acts file lines := by
  obtain ⟨asked, loaded, number, given, inside, synced⟩ := rewritten
  exact .mk (within.subset asked) (within.subset loaded) number (within.subset given)
    (inside.trans within) synced

/-- A file is loaded by asking the editor for a buffer. -/
theorem asked_of_loadBuffer {file : String} {buffer : Nat}
    (comes : (Editor.loadBuffer file).Comes acts (.ok buffer)) : ∃ ticket answer,
      (⟨.call .editor "vim#load_buffer" (.arr [.str file]), (.ok ticket : Outcome Nat)⟩ : Act) ∈
        acts ∧ (⟨.await ticket, .ok answer⟩ : Act) ∈ acts ∧
      Json.readInt64 answer = .ok (buffer : Int) := by
  obtain ⟨given, _, _, rfl, calling, checking⟩ := Job.Comes.of_bind_ok comes
  rcases calling.of_call with ⟨_, impossible, _⟩ | ⟨ticket, _, rfl, reads⟩
  · cases impossible
  obtain ⟨answer, rfl, read⟩ := reads given rfl
  refine ⟨ticket, answer, by simp, by simp, ?_⟩
  split at checking
  · obtain ⟨_, _, _, _, impossible, _⟩ := checking.of_bind_ok
    cases impossible.of_throw.2
  · rename_i counted
    obtain ⟨_, same⟩ := checking.of_pure
    rw [read, Except.ok.inj same, Int.toNat_of_nonneg (Int.not_lt.mp counted)]

theorem rewritten_of_writeFile {planned : Editor.PlannedFile}
    (comes : (Editor.writeFile (Context.ofSession session) planned).Comes acts (.ok ())) :
    Rewritten session acts planned.file planned.applied.lines := by
  obtain ⟨buffer, loading, _, rfl, asking, loaded⟩ := Job.Comes.of_bind_ok comes
  obtain ⟨_, _, _, rfl, setting, set⟩ := loaded.of_bind_ok
  obtain rfl := Job.Comes.of_notify setting
  obtain ⟨version, syncing, marking, rfl, synced, _⟩ := set.of_bind_ok
  obtain ⟨ticket, answer, asked, answered, number⟩ := asked_of_loadBuffer asking
  exact .mk (List.mem_append_left _ asked) (List.mem_append_left _ answered) number (by simp)
    ((List.prefix_append syncing marking).isInfix.trans
      ((List.suffix_append _ _).isInfix.trans (List.suffix_append _ _).isInfix)) synced

/-- All edits of a file have been carried out: they were applied to the lines of the file as it was,
and what came of them was written. -/
inductive Written (session : Session) (acts : List Act) (file : String) (edits : List TextEdit) :
    Prop
  | mk {workspace : Workspace} {tree : FileTree} {lines : List Text} {applied : TextEdit.Applied}
      (tracked : (⟨.workspace, workspace⟩ : Act) ∈ acts) (stored : (⟨.disk, tree⟩ : Act) ∈ acts)
      (before : workspace.lines tree file = .ok lines)
      (after : TextEdit.apply file lines edits = .ok applied)
      (rewritten : Rewritten session acts file applied.lines)

/-- An edit that was carried out was carried out as far as it goes: each of its text edits that
count was written with the others of its file. -/
theorem written_of_applyEdit {edit : WorkspaceEdit}
    (comes : (Editor.applyEdit (Context.ofSession session) edit none).Comes acts (.ok ()))
    {entry : Uri × List TextEdit} (member : entry ∈ edit.entries) {change : TextEdit}
    (among : change ∈ entry.2) : ∃ file edits, entry.1.fileName = .ok file ∧ change ∈ edits ∧
      Written session acts file edits := by
  rcases Job.Comes.of_ofOutcome_bind comes with ⟨_, _, impossible, _⟩ | ⟨files, collected, planning⟩
  · cases impossible
  obtain ⟨file, there, named, own⟩ := WorkspaceEdit.mem_collect collected member among
  split at planning
  · rename_i empty
    rw [List.isEmpty_iff.mp empty] at there
    cases there
  obtain ⟨workspace, _, rfl, known⟩ := planning.of_ask_bind
  obtain ⟨tree, _, rfl, read⟩ := known.of_ask_bind
  rcases Job.Comes.of_ofOutcome_bind read with ⟨_, _, impossible, _⟩ | ⟨planned, done, committing⟩
  · cases impossible
  obtain ⟨_, writing, ending, rfl, wrote, _⟩ := committing.of_bind_ok
  obtain ⟨entry, present, plans⟩ := exists_of_forall₂_left (forall₂_of_mapM done) there
  obtain ⟨part, within, comes⟩ := wrote.of_forM_ok
    ((Editor.writingOrder_perm none planned).mem_iff.mpr present)
  have rewritten := (rewritten_of_writeFile comes).of_part (within.trans
    (⟨[⟨.workspace, workspace⟩, ⟨.disk, tree⟩], ending, rfl⟩ : writing <:+:
      ⟨.workspace, workspace⟩ :: ⟨.disk, tree⟩ :: (writing ++ ending)))
  refine ⟨file.file, file.edits, named, own, ?_⟩
  unfold Editor.planFile at plans
  split at plans
  · cases plans
  · rename_i lines before
    cases after : TextEdit.apply file.file lines file.edits with
    | error failure =>
      rw [after] at plans
      cases plans
    | ok applied =>
      rw [after] at plans
      cases plans
      exact .mk (by simp) (by simp) before after rewritten

theorem Written.of_part {part : List Act} {file : String} {edits : List TextEdit}
    (written : Written session part file edits) (within : part <:+: acts) :
    Written session acts file edits := by
  obtain ⟨tracked, stored, before, after, rewritten⟩ := written
  exact .mk (within.subset tracked) (within.subset stored) before after
    (rewritten.of_part within)

/-- The result of an edit request: the edit is reported as applied when all its text edits that
count have been written, and else as not applied, with the reason. -/
inductive Reported (session : Session) (params : Json) (acts : List Act) : String → Json → Prop
  | applied {edit : WorkspaceEdit} (read : readEditRequest params = .ok edit)
      (every : ∀ entry ∈ edit.entries, ∀ change ∈ entry.2, ∃ file edits,
        entry.1.fileName = .ok file ∧ change ∈ edits ∧ Written session acts file edits) :
      Reported session params acts "workspace/applyEdit" (.obj [("applied", .bool true)])
  | refused {edit : WorkspaceEdit} {failure : Failure} (read : readEditRequest params = .ok edit)
      (failed : Applied session edit acts (.error failure)) :
      Reported session params acts "workspace/applyEdit"
        (.obj [("applied", .bool false), ("failureReason", .str failure.message)])
  | malformed {error : ShapeError} {result : Json}
      (unread : readEditRequest params = .error error) :
      Reported session params acts "workspace/applyEdit" result
  | other {method : String} {result : Json} (other : method ≠ "workspace/applyEdit") :
      Reported session params acts method result

theorem Replied.reported {params : Json} {method : String} {result : Json}
    (replied : Replied session params acts method result) :
    Reported session params acts method result := by
  cases replied with
  | other other => exact .other other
  | malformed unread => exact .malformed unread
  | @edited edit outcome read applied =>
    cases outcome with
    | error failure => exact .refused read applied
    | ok _ =>
      refine .applied read fun entry member change among => ?_
      obtain ⟨asked, applying, after, rfl, comes⟩ := applied
      obtain ⟨file, edits, named, own, written⟩ := written_of_applyEdit comes member among
      exact ⟨file, edits, named, own, written.of_part ⟨[asked], after, rfl⟩⟩

/-- A server that is there is told of each edit that it asked for: it was applied, and then all its
text edits that count have been written, or it was not, and why. Operations on files, and changes
beside document changes, are passed over; they make no difference to what is done or replied. -/
theorem edits_reported (kept : Journal.Kept setup tree journal now)
    (served : .serveSession session ∈ journal.works)
    (alive : now.world.isAlive session.peer = true) : ∃ handled under,
      Journal.Attended setup journal now session.peer (.serveSession session) handled under ∧
      List.Forall₂ (Answered (Reported session)) (handled.filter (·.message.isCall))
        (now.world.repliesTo session.peer) ∧
      ∀ edit : WorkspaceEdit, edit.textual.operations = [] ∧
        Editor.applyEdit (Context.ofSession session) edit.textual none =
          Editor.applyEdit (Context.ofSession session) edit none := by
  obtain ⟨handled, under, attended⟩ := kept.attended served rfl
  refine ⟨handled, under, attended, ?_, fun edit => ⟨edit.operations_textual,
    Editor.applyEdit_textual _ edit none⟩⟩
  exact (Server.replied_in_order kept alive attended).imp fun _ _ answered =>
    answered.mono (·.reported)

/-- Letters are put in front of two documents, one of which is nowhere to be found. -/
def twoEdits : Journal × System :=
  afterOpening
    [asksForEdit 1 (.obj [("changes", .obj [("file:///a.go", .arr [letterInFront])])]),
      .answer 1 (.ok (.nat 3)),
      asksForEdit 2 (.obj [("changes", .obj [("file:///b.go", .arr [letterInFront])])])]

theorem edits_reported_in_turn : ∃ journal now, Journal.Kept soleServer ⟨[], []⟩ journal now ∧
    (now.world.repliesTo soleSession.peer).map (fun reply => (reply.1, appliedIn? reply)) =
      [(.number 1, some true), (.number 2, some false)] ∧
    ∃ handled under, Journal.Attended soleServer journal now soleSession.peer
        (.serveSession soleSession) handled under ∧
      List.Forall₂ (Answered (Reported soleSession)) (handled.filter (·.message.isCall))
        (now.world.repliesTo soleSession.peer) := by
  have kept : Journal.Kept soleServer ⟨[], []⟩ twoEdits.1 twoEdits.2 := kept_afterOpening _
  obtain ⟨alive, serves, replies⟩ : twoEdits.2.world.isAlive soleSession.peer = true ∧
      servesSole twoEdits.1 = true ∧
      (twoEdits.2.world.repliesTo soleSession.peer).map
        (fun reply => (reply.1, appliedIn? reply)) =
      [(.number 1, some true), (.number 2, some false)] := by decide +kernel
  obtain ⟨handled, under, attended, reported, _⟩ :=
    edits_reported kept (soleSession_serves serves) alive
  exact ⟨_, _, kept, replies, handled, under, attended, reported⟩

/-- What it takes at the least to carry out an operation on files: the files have changed, or the
editor, which could do it, has been told something. -/
def Traced (tree : FileTree) (world : World) : Prop :=
  world.tree ≠ tree ∨ ∃ sent ∈ world.traffic, sent.peer = .editor

/-- A new file, to be created. -/
def creation : Json :=
  .obj [("documentChanges", .arr [.obj [("kind", .str "create"), ("uri", .str "file:///b.go")]])]

/-- A server asks for the new file. -/
def creationAsked : Journal × System := afterOpening [asksForEdit 1 creation]

/-- The creation of a file is reported as applied, though nothing was done about it. -/
theorem creation_reported_as_applied :
    ¬ ∀ (setup : Setup) (tree : FileTree) (journal : Journal) (now : System) (session : Session)
      (versioned : Bool) (id : RequestId) (params : Params) (edit : WorkspaceEdit) (result : Json),
      Journal.Kept setup tree journal now → .serveSession session ∈ journal.works →
      now.world.isAlive session.peer = true →
      .call versioned id "workspace/applyEdit" params ∈ journal.delivered session.peer →
      readEditRequest params.toJson = .ok edit →
      (id, result) ∈ now.world.repliesTo session.peer →
      result.get? "applied" = some (.bool true) →
      ∀ operation ∈ edit.operations, Traced tree now.world := by
  intro claimed
  have kept : Journal.Kept soleServer ⟨[], []⟩ creationAsked.1 creationAsked.2 :=
    kept_afterOpening _
  have read : (readEditRequest (.obj [("edit", creation)])).toOption.map
      (fun edit => edit.operations.length) = some 1 := by decide +kernel
  obtain ⟨alive, serves, replies, unchanged, untold⟩ :
      creationAsked.2.world.isAlive soleSession.peer = true ∧
      servesSole creationAsked.1 = true ∧
      (creationAsked.2.world.repliesTo soleSession.peer).map
        (fun reply => (reply.1, appliedIn? reply)) = [(.number 1, some true)] ∧
      (creationAsked.2.world.tree.nodes.isEmpty = true ∧
        creationAsked.2.world.tree.workingDirectory = []) ∧
      creationAsked.2.world.traffic.all (fun sent => sent.peer ≠ .editor) = true := by
    decide +kernel
  have served := soleSession_serves serves
  obtain ⟨edit, parsed, count⟩ : ∃ edit, readEditRequest (.obj [("edit", creation)]) = .ok edit ∧
      edit.operations.length = 1 := by
    cases parsed : readEditRequest (.obj [("edit", creation)]) with
    | error error =>
      rw [parsed] at read
      cases read
    | ok edit =>
      rw [parsed] at read
      exact ⟨edit, rfl, Option.some.inj read⟩
  obtain ⟨operation, asked⟩ :=
    List.exists_mem_of_length_pos (Nat.lt_of_lt_of_eq Nat.one_pos count.symm)
  obtain ⟨⟨id, result⟩, member, same⟩ : ∃ reply ∈ creationAsked.2.world.repliesTo soleSession.peer,
      (reply.1, appliedIn? reply) = (.number 1, some true) := by
    rw [← List.mem_map, replies]
    exact List.mem_singleton_self _
  obtain ⟨rfl, applied⟩ := Prod.mk.inj same
  have happened : .happened (asksForEdit 1 creation) ∈ creationAsked.1 :=
    Journal.mem_play (List.mem_append_right _ List.mem_cons_self) 60 _
  have delivered : .call true (.number 1) "workspace/applyEdit"
      (Params.ofJson (.obj [("edit", creation)])) ∈ creationAsked.1.delivered soleSession.peer :=
    List.mem_filterMap.mpr ⟨_, happened, rfl⟩
  have traced := claimed _ _ _ _ soleSession true (.number 1) _ edit result kept served alive
    delivered parsed member (get?_of_appliedIn? applied) operation asked
  rcases traced with changed | ⟨sent, said, editor⟩
  · refine changed ?_
    generalize creationAsked.2.world.tree = tree at unchanged
    obtain ⟨directory, nodes⟩ := tree
    obtain ⟨none, rfl⟩ := unchanged
    exact congrArg (FileTree.mk []) (List.isEmpty_iff.mp none)
  · exact of_decide_eq_true (List.all_eq_true.mp untold sent said) editor

end Server

end LanguageBridge
