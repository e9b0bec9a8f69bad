import LanguageBridge.Document.Sync
import LanguageBridge.Proofs.Document.Notice
import LanguageBridge.Proofs.Script.Runs

/-!
What the operations on documents do, as far as it matters what is tracked and what servers were told
of it. A server that is gone is told nothing.
-/
namespace LanguageBridge

/-- A server got notices, and nothing else changed in what is tracked or in what servers know. -/
structure World.Notified (server : ServerId) (notices : List Notice) (before after : World) :
    Prop where
  workspace : after.workspace = before.workspace
  sessions : after.sessions = before.sessions
  connected : after.connected = before.connected
  received : ∀ other, after.noticesTo other =
    before.noticesTo other ++ if other = server then notices else []
  heard : notices ≠ [] → before.isAlive (.server server) = true
  dead : ∀ peer, after.isAlive peer = true → before.isAlive peer = true

namespace World

variable {server : ServerId} {before middle after : World}

theorem Undisturbed.notified (drift : before.Undisturbed after) (server : ServerId) :
    Notified server [] before after where
  workspace := drift.workspace
  sessions := drift.sessions
  connected := drift.connected
  received := by simp [noticesTo, drift.traffic]
  heard := fun some => absurd rfl some
  dead := drift.dead

theorem Notified.trans {first second : List Notice} (former : Notified server first before middle)
    (latter : Notified server second middle after) :
    Notified server (first ++ second) before after where
  workspace := latter.workspace.trans former.workspace
  sessions := latter.sessions.trans former.sessions
  connected := latter.connected.trans former.connected
  received := by
    intro other
    rw [latter.received, former.received]
    split <;> simp
  heard := by
    intro some
    by_cases none : first = []
    · have later : second ≠ [] := by simpa [none] using some
      exact former.dead _ (latter.heard later)
    · exact former.heard none
  dead := fun peer alive => former.dead peer (latter.dead peer alive)

theorem noticesTo_told (world : World) (sent : Sent) (server : ServerId) :
    (world.told sent).noticesTo server =
      world.noticesTo server ++ (Notice.heard? server sent).toList := by
  simp only [noticesTo, told, List.filterMap_append]
  cases heard : Notice.heard? server sent <;> simp [heard]

/-- A notification that reaches a server is noticed by it and by no other. -/
theorem notified_of_told (world : World) (server : ServerId) (method : String) {params : Json}
    (kept : (Params.ofJson params).toJson = params)
    (alive : world.isAlive (.server server) = true) :
    Notified server (Notice.read? method params).toList world
      (world.told (.notification (.server server) method (Params.ofJson params))) where
  workspace := rfl
  sessions := rfl
  connected := rfl
  received := by
    intro other
    rw [noticesTo_told]
    by_cases same : other = server
    · simp [Notice.heard?, kept, same]
    · have apart : server ≠ other := Ne.symm same
      simp [Notice.heard?, same, apart]
  heard := fun _ => alive
  dead := fun _ alive => alive

/-- A call tells a server nothing of documents. -/
theorem notified_of_call (world : World) (server : ServerId) (peer : Peer) (ticket : Nat)
    (method : String) (params : Params) :
    Notified server [] world (world.told (.call peer ticket method params)) where
  workspace := rfl
  sessions := rfl
  connected := rfl
  received := by
    intro other
    rw [noticesTo_told]
    simp [Notice.heard?]
  heard := fun some => absurd rfl some
  dead := fun _ alive => alive

end World

namespace Notice

theorem read?_openParams (uri : Uri) (document : Document) :
    read? "textDocument/didOpen" (document.openParams uri) =
      some (.opened uri.text document.version document.text) := by
  simp [read?, Document.openParams, Json.get?, Json.member?, string?, int?, Json.nat, Json.text,
    Uri.toJson]

theorem read?_changeParams (uri : Uri) (version : Nat) (text : Text) :
    read? "textDocument/didChange" (Document.changeParams uri version text) =
      some (.changed uri.text version text) := by
  simp [read?, soleChange?, Document.changeParams, Json.get?, Json.member?, string?, int?, Json.nat,
    Json.text, Uri.toJson]

theorem read?_closing (uri : Uri) :
    read? "textDocument/didClose" (Document.namingParams uri) = some (.closed uri.text) := by
  simp [read?, Document.namingParams, Document.identity, Json.get?, Json.member?, string?,
    Uri.toJson]

theorem read?_saving (uri : Uri) :
    read? "textDocument/didSave" (Document.namingParams uri) = none := by
  simp [read?, Document.namingParams, Document.identity, Json.get?, Json.member?, Uri.toJson]

end Notice

variable {host : Host} {thread : Nat} {world last : World}

/-- A server notices what it is told, or it is gone. -/
theorem Job.Runs.of_notify_server {server : ServerId} {method : String} {params : Json}
    {outcome : Outcome Unit}
    (runs : Job.Runs host thread (Job.notify (.server server) method params) world outcome last)
    (kept : (Params.ofJson params).toJson = params) :
    (outcome = .ok () ∧ world.Notified server (Notice.read? method params).toList last) ∨
      (∃ failure, outcome = .error failure ∧ last.isAlive (.server server) = false ∧
        world.Notified server [] last) := by
  rcases runs.of_notify with ⟨done, alive, after⟩ | ⟨failed, gone, drift⟩
  · have told := World.notified_of_told world server method kept alive
    have whole := told.trans (after.notified server)
    rw [List.append_nil] at whole
    exact .inl ⟨done, whole⟩
  · exact .inr ⟨_, failed, gone, drift.notified server⟩

theorem Job.Runs.of_notify_server_bind {server : ServerId} {method : String} {params : Json}
    {β : Type} {next : Unit → Job β} {outcome : Outcome β}
    (runs : Job.Runs host thread (Job.notify (.server server) method params >>= next) world outcome
      last)
    (kept : (Params.ofJson params).toJson = params) :
    (∃ here, world.Notified server (Notice.read? method params).toList here ∧
        Job.Runs host thread (next ()) here outcome last) ∨
      (∃ failure, outcome = .error failure ∧ last.isAlive (.server server) = false ∧
        world.Notified server [] last) := by
  rcases runs.of_bind with ⟨failure, failed, sending⟩ | ⟨value, here, sending, rest⟩
  · rcases sending.of_notify_server kept with ⟨done, _⟩ | ⟨_, _, gone, drift⟩
    · cases done
    · exact .inr ⟨failure, failed, gone, drift⟩
  · rcases sending.of_notify_server kept with ⟨_, told⟩ | ⟨_, impossible, _⟩
    · exact .inl ⟨here, told, rest⟩
    · cases impossible

/-- What becomes of a world in which a server is brought up to date with a file. -/
inductive Synced (session : Session) (uri : Uri) (file : String) (text : Text)
    (world last : World) : Prop
  | unchanged (drift : world.Notified session.server [] last)
  | changed {document : Document}
      (owned : world.workspace.ownedBy? session.key file = some document)
      (differs : text.splitLines ≠ document.lines)
      (told : World.Notified session.server [.changed uri.text (document.version + 1 : Nat) text]
        { world with workspace := world.workspace.track file (document.update text).1 } last)
  | lost {document : Document}
      (owned : world.workspace.ownedBy? session.key file = some document)
      (differs : text.splitLines ≠ document.lines)
      (gone : last.isAlive session.peer = false)
      (told : World.Notified session.server []
        { world with workspace := world.workspace.track file (document.update text).1 } last)
  | opened (fresh : world.workspace.ownedBy? session.key file = none)
      (told : World.Notified session.server
        [.opened uri.text 0 (Document.ofText session.key text).text]
        { world with
            workspace := world.workspace.track file (Document.ofText session.key text) } last)

namespace World.Notified

variable {server : ServerId} {notices : List Notice} {before middle after : World}
  {workspace : Workspace}

theorem of_undisturbed (told : Notified server notices middle after)
    (drift : before.Undisturbed middle) : Notified server notices before after :=
  (drift.notified server).trans told

theorem undisturbed (told : Notified server notices before middle)
    (drift : middle.Undisturbed after) : Notified server notices before after := by
  have whole := told.trans (drift.notified server)
  rwa [List.append_nil] at whole

/-- Setting the documents may as well come before the notices. -/
theorem withWorkspace (told : Notified server notices before after) (workspace : Workspace) :
    Notified server notices { before with workspace } { after with workspace } where
  workspace := rfl
  sessions := told.sessions
  connected := told.connected
  received := told.received
  heard := told.heard
  dead := told.dead

end World.Notified

/-- How a server is brought up to date with a file, and what comes of it. -/
inductive Syncing (session : Session) (uri : Uri) (file : String) (text : Text)
    (world last : World) : Outcome Nat → Prop
  | kept {document : Document}
      (owned : world.workspace.ownedBy? session.key file = some document)
      (same : text.splitLines = document.lines)
      (idle : world.Notified session.server [] last) :
      Syncing session uri file text world last (.ok document.version)
  | changed {document : Document}
      (owned : world.workspace.ownedBy? session.key file = some document)
      (differs : text.splitLines ≠ document.lines)
      (told : World.Notified session.server [.changed uri.text (document.version + 1 : Nat) text]
        { world with workspace := world.workspace.track file (document.update text).1 } last) :
      Syncing session uri file text world last (.ok (document.version + 1))
  | lost {document : Document} {failure : Failure}
      (owned : world.workspace.ownedBy? session.key file = some document)
      (differs : text.splitLines ≠ document.lines)
      (gone : last.isAlive session.peer = false)
      (told : World.Notified session.server []
        { world with workspace := world.workspace.track file (document.update text).1 } last) :
      Syncing session uri file text world last (.error failure)
  | opened (fresh : world.workspace.ownedBy? session.key file = none)
      (told : World.Notified session.server
        [.opened uri.text 0 (Document.ofText session.key text).text]
        { world with
            workspace := world.workspace.track file (Document.ofText session.key text) } last) :
      Syncing session uri file text world last (.ok 0)
  | unopened {failure : Failure} (idle : world.Notified session.server [] last) :
      Syncing session uri file text world last (.error failure)

theorem Syncing.synced {session : Session} {uri : Uri} {file : String} {text : Text}
    {outcome : Outcome Nat} (syncing : Syncing session uri file text world last outcome) :
    Synced session uri file text world last := by
  cases syncing with
  | kept _ _ idle => exact .unchanged idle
  | changed owned differs told => exact .changed owned differs told
  | lost owned differs gone told => exact .lost owned differs gone told
  | opened fresh told => exact .opened fresh told
  | unopened idle => exact .unchanged idle

theorem Session.syncHeld_syncing {session : Session} {uri : Uri} {file : String} {text : Text}
    {outcome : Outcome Nat}
    (runs : Job.Runs host thread (session.syncHeld uri file text) world outcome last) :
    Syncing session uri file text world last outcome := by
  unfold syncHeld at runs
  obtain ⟨here, drift, rest⟩ := runs.of_workspace
  cases owned : world.workspace.ownedBy? session.key file with
  | some document =>
    simp only [owned] at rest
    by_cases same : text.splitLines = document.lines
    · have idle : document.update text = (document, none) := if_pos same
      simp only [idle] at rest
      obtain ⟨rfl, after⟩ := rest.of_pure
      exact .kept owned same ((drift.trans after).notified _)
    · have moved : document.update text =
          ((document.update text).1, some (document.version + 1)) := by
        simp [Document.update, same]
      rw [moved] at rest
      obtain ⟨stored, set, rest⟩ := rest.of_setWorkspace
      rcases rest.of_notify_server_bind rfl with ⟨sent, told, rest⟩ | ⟨failure, rfl, gone, told⟩
      · rw [Notice.read?_changeParams] at told
        obtain ⟨rfl, after⟩ := rest.of_pure
        have changed := (told.of_undisturbed set).undisturbed after
        exact .changed owned same (changed.of_undisturbed (drift.withWorkspace _))
      · have lost := told.of_undisturbed set
        exact .lost owned same gone (lost.of_undisturbed (drift.withWorkspace _))
  | none =>
    simp only [owned] at rest
    rcases rest.of_notify_server_bind rfl with ⟨sent, told, rest⟩ | ⟨failure, rfl, gone, told⟩
    · rw [Notice.read?_openParams] at told
      obtain ⟨stored, set, rest⟩ := rest.of_setWorkspace
      obtain ⟨rfl, after⟩ := rest.of_pure
      have opened := (told.of_undisturbed drift).withWorkspace
        (world.workspace.track file (Document.ofText session.key text))
      exact .opened owned ((opened.undisturbed set).undisturbed after)
    · exact .unopened (told.of_undisturbed drift)

theorem Synced.widen {session : Session} {uri : Uri} {file : String} {text : Text}
    {before middle later last : World} (drift : before.Undisturbed middle)
    (synced : Synced session uri file text middle later) (after : later.Undisturbed last) :
    Synced session uri file text before last := by
  cases synced with
  | unchanged idle => exact .unchanged ((idle.undisturbed after).of_undisturbed drift)
  | changed owned differs told =>
    rw [drift.workspace] at owned told
    have whole := (told.undisturbed after).of_undisturbed (drift.withWorkspace _)
    exact .changed owned differs whole
  | lost owned differs gone told =>
    rw [drift.workspace] at owned told
    have whole := (told.undisturbed after).of_undisturbed (drift.withWorkspace _)
    exact .lost owned differs (after.gone gone) whole
  | opened fresh told =>
    rw [drift.workspace] at fresh told
    have whole := (told.undisturbed after).of_undisturbed (drift.withWorkspace _)
    exact .opened fresh whole

theorem Context.of_attached {context : Context} {β : Type} {next : Session → Job β}
    {outcome : Outcome β}
    (runs : Job.Runs host thread (context.attached >>= next) world outcome last) :
    (context.session = none ∧
        outcome = .error (.unavailable context.language "no session attached") ∧
        world.Undisturbed last) ∨
      ∃ session here, context.session = some session ∧ world.Undisturbed here ∧
        Job.Runs host thread (next session) here outcome last := by
  unfold attached at runs
  cases held : context.session with
  | none =>
    simp only [held] at runs
    rcases runs.of_bind with ⟨failure, rfl, missing⟩ | ⟨session, here, missing, _⟩
    · obtain ⟨failed, drift⟩ := missing.of_throw
      cases failed
      exact .inl ⟨rfl, rfl, drift⟩
    · cases missing.of_throw.1
  | some session =>
    simp only [held] at runs
    rcases runs.of_bind with ⟨failure, _, given⟩ | ⟨same, here, given, rest⟩
    · cases given.of_pure.1
    · obtain ⟨found, drift⟩ := given.of_pure
      cases found
      exact .inr ⟨session, here, rfl, drift, rest⟩

/-- Without a session nothing is done. -/
theorem Context.idle {context : Context} (none : context.session = none) {β : Type}
    {next : Session → Job β} {outcome : Outcome β}
    (runs : Job.Runs host thread (context.attached >>= next) world outcome last) :
    world.Undisturbed last := by
  rcases Context.of_attached runs with ⟨_, _, drift⟩ | ⟨session, _, found, _⟩
  · exact drift
  · rw [none] at found
    cases found

theorem Context.sync_effect {context : Context} {session : Session}
    (held : context.session = some session) {file : String} {text : Text} {outcome : Outcome Nat}
    (runs : Job.Runs host thread (context.sync file text) world outcome last) :
    world.Notified session.server [] last ∨
      ∃ uri, Uri.ofFileName file = .ok uri ∧ Synced session uri file text world last := by
  rcases Context.of_attached runs with ⟨none, _⟩ | ⟨same, here, found, drift, rest⟩
  · rw [held] at none
    cases none
  obtain rfl : session = same := Option.some.inj (held.symm.trans found)
  rcases rest.of_bind with ⟨failure, _, naming⟩ | ⟨uri, named, naming, rest⟩
  · exact .inl ((drift.trans naming.of_ofOutcome.2).notified _)
  obtain ⟨same, further⟩ := naming.of_ofOutcome
  obtain ⟨first, there, before, inside, after⟩ := rest.of_holding
  have synced := (Session.syncHeld_syncing inside).synced
  exact .inr ⟨uri, same.symm, synced.widen ((drift.trans further).trans before) after⟩

theorem Context.didSave_effect {context : Context} {session : Session}
    (held : context.session = some session) {file : String} {outcome : Outcome Unit}
    (runs : Job.Runs host thread (context.didSave file) world outcome last) :
    world.Notified session.server [] last ∨
      (∃ document, world.workspace.ownedBy? session.key file = some document) ∧
        World.Notified session.server []
          { world with workspace := world.workspace.markSaved file } last := by
  rcases Context.of_attached runs with ⟨none, _⟩ | ⟨same, here, found, drift, rest⟩
  · rw [held] at none
    cases none
  obtain rfl : session = same := Option.some.inj (held.symm.trans found)
  obtain ⟨first, there, before, inside, after⟩ := rest.of_holding
  have start := drift.trans before
  obtain ⟨read, reading, inside⟩ := inside.of_workspace
  rw [start.workspace] at inside
  cases owned : world.workspace.ownedBy? session.key file with
  | none =>
    simp only [owned] at inside
    exact .inl ((((start.trans reading).trans inside.of_pure.2).trans after).notified _)
  | some document =>
    simp only [owned] at inside
    obtain ⟨stored, set, inside⟩ := inside.of_setWorkspace
    have saved := ((start.trans reading).withWorkspace _).trans set
    refine .inr ⟨⟨document, rfl⟩, ?_⟩
    rcases inside.of_bind with ⟨failure, _, naming⟩ | ⟨uri, named, naming, sending⟩
    · exact ((saved.trans naming.of_ofOutcome.2).trans after).notified _
    · have ready := saved.trans naming.of_ofOutcome.2
      rcases sending.of_notify_server rfl with ⟨_, told⟩ | ⟨_, _, _, told⟩
      · rw [Notice.read?_saving] at told
        exact (told.of_undisturbed ready).undisturbed after
      · exact (told.of_undisturbed ready).undisturbed after

/-- What becomes of a world in which a file is closed. -/
inductive Closed (session : Session) (file : String) (world last : World) : Prop
  | forgotten {workspace : Workspace}
      (erased : workspace.documents = world.workspace.documents.erase file)
      (silent : world.workspace.documents.get? file = none ∨
        last.isAlive session.peer = false ∨ ∃ failure, Uri.ofFileName file = .error failure)
      (told : World.Notified session.server [] { world with workspace } last)
  | told {workspace : Workspace} {uri : Uri}
      (erased : workspace.documents = world.workspace.documents.erase file)
      (named : Uri.ofFileName file = .ok uri)
      (tracked : world.workspace.documents.get? file ≠ none)
      (told : World.Notified session.server [.closed uri.text] { world with workspace } last)

/-- A workspace in which a file is not tracked. -/
def Workspace.untrack (workspace : Workspace) (file : String) : Workspace :=
  { workspace with documents := workspace.documents.erase file }

/-- A workspace that knows nothing of a file. -/
def Workspace.forget (workspace : Workspace) (file : String) : Workspace where
  documents := workspace.documents.erase file
  diagnostics := workspace.diagnostics.erase file

/-- How a file is closed in a session, and what comes of it. Only when its server cannot be told are
the diagnostics kept. -/
inductive Closing (session : Session) (file : String) (world last : World) : Outcome Nat → Prop
  | untracked (absent : world.workspace.documents.get? file = none)
      (forgot : World.Undisturbed
        { world with workspace := world.workspace.forget file } last) :
      Closing session file world last (.ok (last.workspace.documentsOf session.key).length)
  | told {uri : Uri} (tracked : world.workspace.documents.get? file ≠ none)
      (named : Uri.ofFileName file = .ok uri) (alive : world.isAlive session.peer = true)
      (forgot : World.Undisturbed
        (World.told { world with workspace := world.workspace.forget file }
          (.notification session.peer "textDocument/didClose"
            (Params.ofJson (Document.namingParams uri)))) last) :
      Closing session file world last (.ok (last.workspace.documentsOf session.key).length)
  | unnamed {failure : Failure} (tracked : world.workspace.documents.get? file ≠ none)
      (unnamed : Uri.ofFileName file = .error failure)
      (untracked : World.Undisturbed
        { world with workspace := world.workspace.untrack file } last) :
      Closing session file world last (.error failure)
  | lost (tracked : world.workspace.documents.get? file ≠ none)
      (gone : last.isAlive session.peer = false)
      (untracked : World.Undisturbed
        { world with workspace := world.workspace.untrack file } last) :
      Closing session file world last (.error .terminated)

theorem Context.didClose_closing {context : Context} {session : Session}
    (held : context.session = some session) {file : String} {outcome : Outcome Nat}
    (runs : Job.Runs host thread (context.didClose file) world outcome last) :
    Closing session file world last outcome := by
  rcases Context.of_attached runs with ⟨none, _⟩ | ⟨same, here, found, drift, rest⟩
  · rw [held] at none
    cases none
  obtain rfl : session = same := Option.some.inj (held.symm.trans found)
  obtain ⟨first, there, before, inside, after⟩ := rest.of_holding
  have start := drift.trans before
  obtain ⟨read, reading, inside⟩ := inside.of_workspace
  rw [start.workspace] at inside
  have counted {before after : World}
      (drift : before.Undisturbed after) (same : before.workspace = world.workspace.forget file) :
      ((world.workspace.untrack file).documentsOf session.key).length =
        (after.workspace.documentsOf session.key).length := by
    rw [drift.workspace, same]
    rfl
  cases tracked : world.workspace.documents.contains file with
  | false =>
    simp only [tracked, Bool.false_eq_true, if_false] at inside
    obtain ⟨stored, set, inside⟩ := inside.of_setWorkspace
    obtain ⟨rfl, idle⟩ := inside.of_pure
    have absent : world.workspace.documents.get? file = none := by
      simpa [Table.contains] using tracked
    have forgot := (((start.trans reading).withWorkspace (world.workspace.forget file)).trans
      (set.trans idle)).trans after
    have count := counted forgot rfl
    exact count ▸ .untracked absent forgot
  | true =>
    simp only [tracked, if_true] at inside
    obtain ⟨stored, set, inside⟩ := inside.of_setWorkspace
    have present : world.workspace.documents.get? file ≠ none := by
      intro none
      simp [Table.contains, none] at tracked
    have erased := ((start.trans reading).withWorkspace (world.workspace.untrack file)).trans set
    rcases inside.of_bind with ⟨failure, rfl, naming⟩ | ⟨uri, named, naming, inside⟩
    · obtain ⟨bad, quiet⟩ := naming.of_ofOutcome
      exact .unnamed present bad.symm ((erased.trans quiet).trans after)
    obtain ⟨good, quiet⟩ := naming.of_ofOutcome
    have ready := erased.trans quiet
    rcases inside.of_bind with ⟨failure, rfl, telling⟩ | ⟨_, sent, telling, inside⟩
    · rcases telling.of_notify with ⟨impossible, _⟩ | ⟨same, gone, idle⟩
      · cases impossible
      · cases same
        exact .lost present (after.gone gone) ((ready.trans idle).trans after)
    rcases telling.of_notify with ⟨_, alive, told⟩ | ⟨impossible, _⟩
    · obtain ⟨cleared, reset, inside⟩ := inside.of_setWorkspace
      obtain ⟨rfl, idle⟩ := inside.of_pure
      have said := ((ready.told _).trans told).withWorkspace (world.workspace.forget file)
      have forgot := (said.trans (reset.trans idle)).trans after
      have count := counted forgot rfl
      exact count ▸ .told present good.symm (ready.dead _ alive) forgot
    · cases impossible

theorem Closing.closed {session : Session} {file : String} {outcome : Outcome Nat}
    (closing : Closing session file world last outcome) : Closed session file world last := by
  cases closing with
  | untracked absent forgot => exact .forgotten rfl (.inl absent) (forgot.notified _)
  | @told uri tracked named alive forgot =>
    have kept : (Params.ofJson (Document.namingParams uri)).toJson = Document.namingParams uri := rfl
    have told := World.notified_of_told { world with workspace := world.workspace.forget file }
      session.server "textDocument/didClose" kept alive
    rw [Notice.read?_closing] at told
    exact .told rfl named tracked (told.undisturbed forgot)
  | unnamed _ unnamed untracked =>
    exact .forgotten rfl (.inr (.inr ⟨_, unnamed⟩)) (untracked.notified _)
  | lost _ gone untracked => exact .forgotten rfl (.inr (.inl gone)) (untracked.notified _)

theorem Context.didClose_effect {context : Context} {session : Session}
    (held : context.session = some session) {file : String} {outcome : Outcome Nat}
    (runs : Job.Runs host thread (context.didClose file) world outcome last) :
    Closed session file world last :=
  (Context.didClose_closing held runs).closed

/-- Closing a document tells how many of its session are left. -/
theorem Closing.count {session : Session} {file : String} {count : Nat}
    (closing : Closing session file world last (.ok count)) :
    count = (last.workspace.documentsOf session.key).length := by
  cases closing <;> rfl

end LanguageBridge
