import LanguageBridge.Editor.WorkspaceEdits
import LanguageBridge.Proofs.Script.Exchanges

/-!
How one file of an edit is written, when nothing else goes on in the program and the editor and the
server may fail at any point: it is loaded into a buffer, filled with its new lines, brought to the
server and marked as changed, and the first step that fails is the last that is taken.
-/
namespace LanguageBridge

namespace Workspace

/-- What is tracked once a session is up to date with a file. -/
def synced (workspace : Workspace) (key : SessionKey) (file : String) (text : Text) : Workspace :=
  match workspace.ownedBy? key file with
  | some document =>
    match document.update text with
    | (updated, some _) => workspace.track file updated
    | (_, none) => workspace
  | none => workspace.track file (.ofText key text)

/-- What a session's server is told to bring it up to date with a file. -/
def news (workspace : Workspace) (session : Session) (uri : Uri) (file : String) (text : Text) :
    List Sent :=
  match workspace.ownedBy? session.key file with
  | some document =>
    match document.update text with
    | (_, some version) =>
      [.notification session.peer "textDocument/didChange"
        (Params.ofJson (Document.changeParams uri version text))]
    | (_, none) => []
  | none =>
    [.notification session.peer "textDocument/didOpen"
      (Params.ofJson ((Document.ofText session.key text).openParams uri))]

variable {workspace : Workspace} {key : SessionKey} {file other : String} {text : Text}

theorem get?_track_self (document : Document) :
    (workspace.track file document).documents.get? file = some document := by
  simp [track]

theorem get?_track_other (document : Document) (apart : other ≠ file) :
    (workspace.track file document).documents.get? other = workspace.documents.get? other := by
  simp [track, Ne.symm apart]

theorem get?_synced_other (apart : other ≠ file) :
    (workspace.synced key file text).documents.get? other = workspace.documents.get? other := by
  unfold synced
  split
  · split
    · exact get?_track_other _ apart
    · rfl
  · exact get?_track_other _ apart

/-- A file that was brought up to date is tracked in the session with the lines of the text. -/
theorem get?_synced_self (workspace : Workspace) (key : SessionKey) (file : String) (text : Text) :
    ∃ document,
    (workspace.synced key file text).documents.get? file = some document ∧
      document.session = key ∧ document.lines = text.splitLines := by
  unfold synced
  cases owned : workspace.ownedBy? key file with
  | none => exact ⟨_, get?_track_self _, rfl, rfl⟩
  | some document =>
    obtain ⟨tracked, own⟩ := Option.filter_eq_some_iff.mp owned
    have own : document.session = key := of_decide_eq_true own
    by_cases same : text.splitLines = document.lines
    · simp only [Document.update, same, if_true]
      exact ⟨document, tracked, own, rfl⟩
    · simp only [Document.update, same, if_false]
      exact ⟨_, get?_track_self _, own, rfl⟩

theorem get?_markDirty_other (apart : other ≠ file) :
    (workspace.markDirty file).documents.get? other = workspace.documents.get? other := by
  simp only [markDirty, Table.modify]
  split
  · simp [Ne.symm apart]
  · rfl

theorem get?_markDirty_self {document : Document}
    (tracked : workspace.documents.get? file = some document) :
    (workspace.markDirty file).documents.get? file = some { document with dirty := true } := by
  simp [markDirty, Table.modify, tracked]

/-- What a server is told of a file depends on what is tracked of that file only. -/
theorem news_eq {before : Workspace} {session : Session} {uri : Uri}
    (same : workspace.documents.get? file = before.documents.get? file) :
    workspace.news session uri file text = before.news session uri file text := by
  simp only [news, ownedBy?, same]

end Workspace

namespace Editor

/-- The call that loads a file into a buffer. -/
def loading (ticket : Nat) (file : String) : Sent :=
  .call .editor ticket "vim#load_buffer" (Params.ofJson (.arr [.str file]))

/-- The buffer that the editor names in answer; a negative number is that of none. -/
def loadedBuffer (file : String) (answer : Outcome Json) : Outcome Nat := do
  let buffer ← Job.readAnswer "vim#load_buffer" Json.readInt64 answer
  if buffer < 0 then .error (.notOpened file "the editor could not load it")
  else .ok buffer.toNat

/-- The editor has answered the call that loads a file. -/
def Loaded (world : World) (ticket : Nat) (file : String) (buffer : Outcome Nat) : Prop :=
  ∃ answer, world.answers.get? ticket = some answer ∧ buffer = loadedBuffer file answer

/-- The new lines of a file for its buffer. -/
def PlannedFile.fill (planned : PlannedFile) (buffer : Nat) : Json :=
  .arr [.obj [("bufnr", .nat buffer), ("text_document", .str planned.file),
    ("lines", .arr (planned.applied.lines.map .text))]]

/-- The message that puts the new lines of a file into its buffer. -/
def filling (buffer : Nat) (planned : PlannedFile) : Sent :=
  .notification .editor "vim#set_buffer_lines" (Params.ofJson (planned.fill buffer))

/-- The text with which the server is brought up to date. -/
def PlannedFile.text (planned : PlannedFile) : Text := Text.joinLines planned.applied.lines

end Editor

variable {host : Host} {thread : Nat} {world last : World}

/-- How it comes that a server is not brought up to date with a file. -/
inductive Unsynced (context : Context) (file : String) (text : Text) (world last : World) :
    Failure → Prop
  | unattached (none : context.session = none)
      (becomes : World.Becomes world.workspace [] world last) :
      Unsynced context file text world last
        (.unavailable context.language "no session attached")
  | unnamed {failure : Failure} (named : Uri.ofFileName file = .error failure)
      (becomes : World.Becomes world.workspace [] world last) :
      Unsynced context file text world last failure
  | gone (attached : context.session = some session)
      (dead : last.isAlive session.peer = false)
      (tracked : workspace = world.workspace ∨
        workspace = world.workspace.synced session.key file text)
      (becomes : World.Becomes workspace [] world last) :
      Unsynced context file text world last .terminated

/-- Whatever fails, of other files the same is tracked as before. -/
theorem Unsynced.becomes {context : Context} {file : String} {text : Text} {failure : Failure}
    (unsynced : Unsynced context file text world last failure) :
    ∃ workspace, World.Becomes workspace [] world last ∧ ∀ other, other ≠ file →
      workspace.documents.get? other = world.workspace.documents.get? other := by
  cases unsynced with
  | unattached _ becomes => exact ⟨_, becomes, fun _ _ => rfl⟩
  | unnamed _ becomes => exact ⟨_, becomes, fun _ _ => rfl⟩
  | gone _ _ tracked becomes =>
    refine ⟨_, becomes, fun other apart => ?_⟩
    rcases tracked with rfl | rfl
    · rfl
    · exact Workspace.get?_synced_other apart

theorem Session.syncHeld_becomes {session : Session} {uri : Uri} {file : String} {text : Text}
    {outcome : Outcome Nat}
    (runs : Job.Runs host thread (session.syncHeld uri file text) world outcome last) :
    (∃ version, outcome = .ok version ∧
      World.Becomes (world.workspace.synced session.key file text)
        (world.workspace.news session uri file text) world last) ∨
      (outcome = .error .terminated ∧ last.isAlive session.peer = false ∧
        ∃ workspace, (workspace = world.workspace ∨
            workspace = world.workspace.synced session.key file text) ∧
          World.Becomes workspace [] world last) := by
  unfold syncHeld at runs
  obtain ⟨here, drift, rest⟩ := runs.of_workspace
  unfold Workspace.synced Workspace.news
  cases owned : world.workspace.ownedBy? session.key file with
  | some document =>
    simp only [owned] at rest ⊢
    generalize document.update text = after at rest ⊢
    obtain ⟨updated, _ | version⟩ := after
    · obtain ⟨done, ending⟩ := rest.of_pure
      exact .inl ⟨_, done, (drift.trans ending).becomes⟩
    · obtain ⟨stored, set, rest⟩ := rest.of_setWorkspace
      have tracked := ((drift.withWorkspace _).trans set).becomes_tracked
      rcases rest.of_bind with ⟨failure, failed, sending⟩ | ⟨_, there, sending, rest⟩
      · rcases sending.notifies with ⟨impossible, _⟩ | ⟨same, gone, becomes⟩
        · cases impossible
        · cases same
          exact .inr ⟨failed, gone, _, .inr rfl, tracked.tells becomes⟩
      · obtain ⟨done, ending⟩ := rest.of_pure
        rcases sending.notifies with ⟨_, becomes⟩ | ⟨impossible, _⟩
        · exact .inl ⟨version, done, (tracked.tells becomes).undisturbed ending⟩
        · cases impossible
  | none =>
    simp only [owned] at rest ⊢
    rcases rest.of_bind with ⟨failure, failed, sending⟩ | ⟨_, there, sending, rest⟩
    · rcases sending.notifies with ⟨impossible, _⟩ | ⟨same, gone, becomes⟩
      · cases impossible
      · cases same
        exact .inr ⟨failed, gone, _, .inl rfl, drift.becomes.tells becomes⟩
    · rcases sending.notifies with ⟨_, becomes⟩ | ⟨impossible, _⟩
      · obtain ⟨stored, set, rest⟩ := rest.of_setWorkspace
        obtain ⟨done, ending⟩ := rest.of_pure
        have tracked := (set.trans ending).becomes_tracked
        exact .inl ⟨_, done, (drift.becomes.trans becomes).trans tracked⟩
      · cases impossible

theorem Context.sync_becomes {context : Context} {file : String} {text : Text}
    {outcome : Outcome Nat}
    (runs : Job.Runs host thread (context.sync file text) world outcome last) :
    (∃ session uri version, context.session = some session ∧ Uri.ofFileName file = .ok uri ∧
      outcome = .ok version ∧ World.Becomes (world.workspace.synced session.key file text)
        (world.workspace.news session uri file text) world last) ∨
      ∃ failure, outcome = .error failure ∧ Unsynced context file text world last failure := by
  unfold sync attached at runs
  cases attached : context.session with
  | none =>
    simp only [attached] at runs
    rcases runs.of_bind with ⟨failure, failed, missing⟩ | ⟨session, here, missing, _⟩
    · obtain ⟨same, drift⟩ := missing.of_throw
      cases same
      exact .inr ⟨_, failed, .unattached attached drift.becomes⟩
    · cases missing.of_throw.1
  | some session =>
    simp only [attached] at runs
    rcases runs.of_bind with ⟨failure, _, given⟩ | ⟨same, here, given, rest⟩
    · cases given.of_pure.1
    obtain ⟨found, drift⟩ := given.of_pure
    cases found
    rcases rest.of_bind with ⟨failure, failed, naming⟩ | ⟨uri, there, naming, rest⟩
    · obtain ⟨named, further⟩ := naming.of_ofOutcome
      exact .inr ⟨failure, failed, .unnamed named.symm (drift.trans further).becomes⟩
    obtain ⟨named, further⟩ := naming.of_ofOutcome
    obtain ⟨first, done, before, inside, after⟩ := rest.of_holding
    have path := (drift.trans further).trans before
    rcases Session.syncHeld_becomes inside with ⟨version, given, becomes⟩ |
      ⟨failed, gone, workspace, tracked, becomes⟩
    · rw [path.workspace] at becomes
      exact .inl ⟨session, uri, version, rfl, named.symm, given,
        (path.becomes_of becomes).undisturbed after⟩
    · rw [path.workspace] at tracked
      exact .inr ⟨_, failed, .gone attached (after.gone gone) tracked
        ((path.becomes_of becomes).undisturbed after)⟩

namespace Editor

theorem markDirty_becomes {file : String} {outcome : Outcome Unit}
    (runs : Job.Runs host thread (markDirty file) world outcome last) :
    outcome = .ok () ∧ World.Becomes (world.workspace.markDirty file) [] world last := by
  obtain ⟨first, there, before, inside, after⟩ := Job.Runs.of_holding runs
  obtain ⟨here, drift, rest⟩ := inside.of_workspace
  obtain ⟨stored, set, rest⟩ := rest.of_setWorkspace
  obtain ⟨done, ending⟩ := rest.of_pure
  rw [before.workspace] at set
  have path := ((before.trans drift).withWorkspace _).trans set
  exact ⟨done, ((path.trans ending).trans after).becomes_tracked⟩

theorem loadBuffer_becomes {file : String} {outcome : Outcome Nat}
    (runs : Job.Runs host thread (loadBuffer file) world outcome last) :
    (∃ ticket, Loaded last ticket file outcome ∧
      World.Becomes world.workspace [loading ticket file] world last) ∨
      (outcome = .error .terminated ∧ last.isAlive .editor = false ∧
        World.Becomes world.workspace [] world last) := by
  unfold loadBuffer at runs
  rcases runs.of_bind with ⟨failure, failed, calling⟩ | ⟨number, here, calling, rest⟩
  · rcases calling.calls with ⟨ticket, ⟨answer, there, read⟩, becomes⟩ | ⟨same, gone, becomes⟩
    · refine .inl ⟨ticket, ⟨answer, there, ?_⟩, becomes⟩
      rw [failed, loadedBuffer, ← read]
      rfl
    · cases same
      exact .inr ⟨failed, gone, becomes⟩
  · rcases calling.calls with ⟨ticket, ⟨answer, there, read⟩, becomes⟩ | ⟨impossible, _⟩
    · have later := Script.Runs.answers rest there
      have value : loadedBuffer file answer =
          if number < 0 then .error (.notOpened file "the editor could not load it")
          else .ok number.toNat := by
        rw [loadedBuffer, ← read]
        rfl
      have same : outcome = loadedBuffer file answer ∧ here.Undisturbed last := by
        rw [value]
        by_cases negative : number < 0
        · simp only [negative, if_true] at rest ⊢
          rcases rest.of_bind with ⟨failure, failed, throwing⟩ | ⟨_, _, throwing, _⟩
          · obtain ⟨same, after⟩ := throwing.of_throw
            cases same
            exact ⟨failed, after⟩
          · cases throwing.of_throw.1
        · simp only [negative, if_false] at rest ⊢
          exact rest.of_pure
      exact .inl ⟨ticket, ⟨answer, later, same.1⟩, becomes.undisturbed same.2⟩
    · cases impossible

/-- All that is said while a file is written, from the workspace that there was before: the call that
loads it, its new lines, and what brings the server up to date with exactly these lines. -/
inductive Writing (context : Context) (workspace : Workspace) (last : World)
    (planned : PlannedFile) : List Sent → Prop
  | mk {session : Session} {uri : Uri} {ticket buffer : Nat}
      (attached : context.session = some session) (named : Uri.ofFileName planned.file = .ok uri)
      (loaded : Loaded last ticket planned.file (.ok buffer)) :
      Writing context workspace last planned
        (loading ticket planned.file :: filling buffer planned ::
          workspace.news session uri planned.file planned.text)

/-- What is tracked once a file is written. -/
def written (context : Context) (workspace : Workspace) (planned : PlannedFile) : Workspace :=
  match context.session with
  | none => workspace
  | some session =>
    (workspace.synced session.key planned.file planned.text).markDirty planned.file

/-- The step that fails while a file is written, with all that was said for the file: the editor is
gone before the file is loaded, it does not load it, it is gone before the lines are sent, or the
server is not brought up to date. -/
inductive Stopped (context : Context) (planned : PlannedFile) (world last : World) :
    Failure → List Sent → Prop
  | unasked (gone : last.isAlive .editor = false)
      (becomes : World.Becomes world.workspace [] world last) :
      Stopped context planned world last .terminated []
  | refused {ticket : Nat} {failure : Failure}
      (refused : Loaded last ticket planned.file (.error failure))
      (becomes : World.Becomes world.workspace [loading ticket planned.file] world last) :
      Stopped context planned world last failure [loading ticket planned.file]
  | unfilled {ticket buffer : Nat} (loaded : Loaded last ticket planned.file (.ok buffer))
      (gone : last.isAlive .editor = false)
      (becomes : World.Becomes world.workspace [loading ticket planned.file] world last) :
      Stopped context planned world last .terminated [loading ticket planned.file]
  | unsynced {ticket buffer : Nat} {failure : Failure} {here : World}
      (loaded : Loaded last ticket planned.file (.ok buffer))
      (sent : World.Becomes world.workspace [loading ticket planned.file, filling buffer planned]
        world here)
      (unsynced : Unsynced context planned.file planned.text here last failure) :
      Stopped context planned world last failure
        [loading ticket planned.file, filling buffer planned]

/-- However a step fails, of other files the same is tracked as before. -/
theorem Stopped.becomes {context : Context} {planned : PlannedFile} {failure : Failure}
    {said : List Sent} (stopped : Stopped context planned world last failure said) :
    ∃ workspace, World.Becomes workspace said world last ∧ ∀ file, file ≠ planned.file →
      workspace.documents.get? file = world.workspace.documents.get? file := by
  cases stopped with
  | unasked _ becomes => exact ⟨_, becomes, fun _ _ => rfl⟩
  | refused _ becomes => exact ⟨_, becomes, fun _ _ => rfl⟩
  | unfilled _ _ becomes => exact ⟨_, becomes, fun _ _ => rfl⟩
  | unsynced _ sent unsynced =>
    obtain ⟨workspace, becomes, others⟩ := unsynced.becomes
    rw [sent.workspace] at others
    exact ⟨workspace, sent.trans becomes, others⟩

theorem writeFile_becomes {context : Context} {planned : PlannedFile} {outcome : Outcome Unit}
    (runs : Job.Runs host thread (writeFile context planned) world outcome last) :
    (∃ said, outcome = .ok () ∧ Writing context world.workspace last planned said ∧
      World.Becomes (written context world.workspace planned) said world last) ∨
      ∃ failure said, outcome = .error failure ∧
        Stopped context planned world last failure said := by
  unfold writeFile at runs
  rcases runs.of_bind with ⟨failure, failed, loadingIt⟩ | ⟨buffer, here, loadingIt, rest⟩
  · rcases loadBuffer_becomes loadingIt with ⟨ticket, loaded, becomes⟩ | ⟨same, gone, becomes⟩
    · exact .inr ⟨failure, _, failed, .refused loaded becomes⟩
    · cases same
      exact .inr ⟨_, _, failed, .unasked gone becomes⟩
  rcases loadBuffer_becomes loadingIt with ⟨ticket, loaded, asked⟩ | ⟨impossible, _⟩
  case inr => cases impossible
  have keeps {value : Outcome Unit} {script : Job Unit} {after : World}
      (runs : Job.Runs host thread script here value after) :
      Loaded after ticket planned.file (.ok buffer) := by
    obtain ⟨answer, there, same⟩ := loaded
    exact ⟨answer, Script.Runs.answers runs there, same⟩
  have loadedLast := keeps rest
  rcases rest.of_bind with ⟨failure, failed, fillingIt⟩ | ⟨_, filled, fillingIt, rest⟩
  · rcases fillingIt.notifies with ⟨impossible, _⟩ | ⟨same, gone, becomes⟩
    · cases impossible
    · cases same
      exact .inr ⟨_, _, failed, .unfilled loadedLast gone (asked.tells becomes)⟩
  rcases fillingIt.notifies with ⟨_, told⟩ | ⟨impossible, _⟩
  case inr => cases impossible
  have sent := asked.tells told
  rcases rest.of_bind with ⟨failure, failed, syncing⟩ | ⟨version, synced, syncing, rest⟩
  · rcases Context.sync_becomes syncing with ⟨_, _, _, _, _, impossible, _⟩ | ⟨reason, same, unsynced⟩
    · cases impossible
    · cases same
      exact .inr ⟨_, _, failed, .unsynced loadedLast sent unsynced⟩
  · obtain ⟨done, marked⟩ := markDirty_becomes rest
    rcases Context.sync_becomes syncing with ⟨session, uri, _, attached, named, _, becomes⟩ |
      ⟨_, impossible, _⟩
    · rw [sent.workspace] at becomes
      rw [becomes.workspace] at marked
      have whole := (sent.trans becomes).trans marked
      refine .inl ⟨_, done, .mk attached named loadedLast, ?_⟩
      rw [List.append_nil] at whole
      rw [written, attached]
      exact whole
    · cases impossible

end Editor

end LanguageBridge
