import LanguageBridge.Proofs.Document.Taking
import LanguageBridge.Proofs.Script.Idle
import LanguageBridge.Proofs.Session.Start

/-!
The deeds by which documents come to servers and go from them, one at a time and with all servers
there: what each of them does to documents that are placed as they should be.
-/
namespace LanguageBridge

variable {host : Host} {thread : Nat} {world last : World} {key : SessionKey} {α β : Type}

theorem Placed.undisturbed (placed : Placed world) (drift : world.Undisturbed last) :
    Placed last := by
  refine placed.kept (World.informed_of_undisturbed drift default) ?_ (fun file => ?_)
    (fun _ member => (List.not_mem_nil member).elim)
  · rw [drift.workspace]
    exact placed.unique
  · rw [drift.workspace]

theorem Placed.idle (placed : Placed world) (drift : world.Undisturbed last) :
    Placed last ∧ World.Settled world last := by
  have after := placed.undisturbed drift
  exact ⟨after, after.settled fun file key tracked => by rwa [drift.workspace] at tracked⟩

section Editing

/-- A job that does nothing but sync files with the session of a key, if there is one. -/
def Job.Writes (host : Host) (thread : Nat) (key : SessionKey) (session : Option Session)
    (job : Job α) : Prop :=
  ∀ world outcome last, world.sessions.get? key = session →
    (∀ given, session = some given → last.isAlive given.peer = true) →
    Job.Runs host thread job world outcome last →
    Relation.ReflTransGen (World.Written key) world last

theorem World.sessions_of_writes
    (writes : Relation.ReflTransGen (World.Written key) world last) :
    last.sessions = world.sessions := by
  induction writes with
  | refl => rfl
  | tail _ written ih => exact written.sessions.trans ih

namespace Job.Writes

variable {session : Option Session} {job : Job α} {next : α → Job β}

theorem quiet (server : ServerId) (quiet : job.Quiet host thread server)
    (unsaving : job.Unsaving) : job.Writes host thread key session :=
  fun world outcome last _ _ runs =>
    .single (.of_notified unsaving runs (quiet world outcome last runs))

theorem bind (first : job.Writes host thread key session)
    (rest : ∀ value, (next value).Writes host thread key session) :
    (job >>= next).Writes host thread key session := by
  intro world outcome last registered alive runs
  rcases runs.of_bind with ⟨failure, rfl, only⟩ | ⟨value, here, before, after⟩
  · exact first world _ last registered alive only
  · have there (given : Session) (held : session = some given) :=
      Script.Runs.alive after (alive given held)
    have between := first world _ here registered there before
    refine between.trans (rest value here outcome last ?_ alive after)
    rw [World.sessions_of_writes between]
    exact registered

theorem pure (value : α) : (Pure.pure value : Job α).Writes host thread key session :=
  .quiet default (.pure value) (.pure value)

theorem forM {f : α → Job Unit} (each : ∀ value, (f value).Writes host thread key session)
    (values : List α) : (values.forM f).Writes host thread key session := by
  induction values with
  | nil => exact .pure ()
  | cons value rest ih => exact (each value).bind fun _ => ih

/-- An operation that looks something up. -/
theorem look_bind {operation : Operation} {next : operation.Answer → Job β}
    (looks : ∀ before after answer,
      World.perform host thread before operation = some (after, answer) → after = before)
    (rest : ∀ answer, (next answer).Writes host thread key session) :
    (Job.ask operation >>= next).Writes host thread key session := by
  intro world outcome last registered alive runs
  obtain ⟨answer, here, later, drift, performed, after⟩ := runs.of_ask_bind
  obtain rfl := looks here later answer performed
  refine .head (.of_undisturbed drift) (rest answer later outcome last ?_ alive after)
  rw [drift.sessions]
  exact registered

end Job.Writes

theorem Job.Quiet.notify_editor {server : ServerId} (method : String) (params : Json) :
    (Job.notify .editor method params).Quiet host thread server := by
  intro world outcome last runs
  rcases runs.of_notify with ⟨_, _, told⟩ | ⟨_, _, drift⟩
  · have silent : World.Notified server [] world
        (world.told (.notification .editor method (Params.ofJson params))) := by
      refine ⟨rfl, rfl, rfl, fun other => ?_, fun some => absurd rfl some, fun _ alive => alive⟩
      rw [World.noticesTo_told]
      simp [Notice.heard?]
    exact silent.undisturbed told
  · exact drift.notified server

theorem Context.sync_writes {context : Context} {session : Option Session}
    (held : context.session = session) (keyed : ∀ given, session = some given → given.key = key)
    (file : String) (text : Text) :
    (context.sync file text).Writes host thread key session := by
  intro world outcome last registered alive runs
  cases session with
  | none => exact .single (.of_undisturbed (Context.idle held runs))
  | some session =>
    exact .single (.of_sync registered (keyed session rfl) held (alive session rfl) runs)

namespace Editor

theorem markDirty_writes {session : Option Session} (file : String) :
    (markDirty file).Writes host thread key session := by
  intro world outcome last _ _ runs
  obtain ⟨first, there, before, inside, after⟩ := Job.Runs.of_holding runs
  obtain ⟨here, drift, rest⟩ := inside.of_workspace
  obtain ⟨set, marked, rest⟩ := rest.of_setWorkspace
  have ready := before.trans drift
  have whole := ((ready.withWorkspace _).trans (marked.trans rest.of_pure.2)).trans after
  rw [before.workspace] at whole
  have informed : World.Informed default [] world last :=
    ⟨whole.sessions, whole.connected, (World.informed_of_undisturbed whole default).received⟩
  refine .single (.silent informed ?_ fun other => ?_)
  · rw [whole.workspace]
    exact fun unique => Table.nodup_keys_modify unique file _
  · rw [whole.workspace]
    exact Workspace.sessionOf?_modify (fun document => { document with dirty := true })
      (fun _ => rfl) _

variable {context : Context} {session : Option Session} (held : context.session = session)
  (keyed : ∀ given, session = some given → given.key = key)

include held keyed

theorem writeFile_writes (planned : PlannedFile) :
    (writeFile context planned).Writes host thread key session := by
  have loading : (loadBuffer planned.file).Quiet host thread default := by
    refine (Job.Quiet.call _ _ _ _).bind fun buffer => ?_
    split
    · exact (Job.Quiet.throw _).bind fun _ => .pure _
    · exact .pure _
  refine (Job.Writes.quiet default loading (loadBuffer_unsaving _)).bind fun buffer => ?_
  have setting : (setBufferLines buffer planned.file planned.applied.lines).Writes host thread key
      session :=
    .quiet default (.notify_editor _ _) (.notify_editor _ _)
  refine setting.bind fun _ => ?_
  refine (Context.sync_writes held keyed _ _).bind fun _ => ?_
  exact markDirty_writes planned.file

theorem applyEdit_writes (edit : WorkspaceEdit) (cursor : Option CursorPlace) :
    (applyEdit context edit cursor).Writes host thread key session := by
  have still {α : Type} (outcome : Outcome α) :
      (Job.ofOutcome outcome).Writes host thread key session :=
    .quiet default (.ofOutcome outcome) (.ofOutcome outcome)
  have moving (commands : List Command) : (execute commands).Writes host thread key session :=
    .quiet default ((Job.Quiet.call _ _ _ _).bind fun _ => .pure _)
      ((Job.Unsaving.call _ _ _ _).bind fun _ => .pure _)
  refine (still _).bind fun files => ?_
  split
  · exact .pure _
  refine Job.Writes.look_bind ?_ fun (workspace : Workspace) => ?_
  · intro before after answer performed
    simp only [World.perform] at performed
    split at performed <;> cases performed
    rfl
  refine Job.Writes.look_bind ?_ fun (tree : FileTree) => ?_
  · intro before after answer performed
    cases performed
    rfl
  refine (still _).bind fun planned => ?_
  refine (Job.Writes.forM (writeFile_writes held keyed) _).bind fun _ => ?_
  split
  · exact .pure _
  · split
    · exact moving _
    · exact .pure _

end Editor

end Editing

end LanguageBridge

/-!
Saving and closing documents and starting sessions while the servers of all sessions are there:
documents that are placed as they should be stay so.
-/
namespace LanguageBridge

variable {host : Host} {thread : Nat} {world last : World} {key : SessionKey} {file : String}
  {α : Type}

/-- The servers of all sessions in use are there until the end. -/
def World.Served (world last : World) : Prop :=
  ∀ key session, world.sessions.get? key = some session → last.isAlive session.peer = true

theorem World.Served.before {middle : World} (served : world.Served last)
    (dead : ∀ peer, last.isAlive peer = true → middle.isAlive peer = true) : world.Served middle :=
  fun key session here => dead _ (served key session here)

theorem Job.Says.ofOutcome_bind {allowed : Sent → Prop} {β : Type} {outcome : Outcome α}
    {next : α → Job β} (rest : ∀ value, outcome = .ok value → (next value).Says allowed) :
    (Job.ofOutcome outcome >>= next).Says allowed := by
  cases outcome with
  | ok value => exact rest value rfl
  | error failure => trivial

/-- What is said of a file to a server is that the file was saved. -/
def Told.SavingOf (file : String) (server : ServerId) (sent : Sent) : Prop :=
  ∀ other told, heard? other sent = some told →
    other = server ∧ ∃ uri, Uri.ofFileName file = .ok uri ∧ told = .saved uri.text

theorem Told.read?_saving (uri : Uri) :
    read? "textDocument/didSave" (Document.namingParams uri) = some (.saved uri.text) := by
  simp [read?, Document.namingParams, Document.identity, Json.get?, Json.member?, Uri.toJson,
    Notice.string?]

theorem Context.didSave_savingOf {context : Context} {session : Session}
    (held : context.session = some session) (file : String) :
    (context.didSave file).Says (Told.SavingOf file session.server) := by
  unfold didSave
  rw [attached_eq held, pure_bind]
  refine Job.Says.holding (Job.Says.ask_bind (fun _ => rfl) fun (workspace : Workspace) => ?_)
  split
  · exact .pure _
  · refine Job.Says.ask_bind (fun _ => rfl) fun _ => Job.Says.ofOutcome_bind fun uri named => ?_
    refine Job.Says.notify fun other told heard => ?_
    have read := Told.read?_saving uri
    by_cases same : other = session.server
    · subst same
      refine ⟨rfl, uri, named, Option.some.inj (heard.symm.trans ?_)⟩
      exact (if_pos rfl).trans read
    · have apart : session.server ≠ other := Ne.symm same
      simp [Told.heard?, Session.peer, apart] at heard

/-- Saving tells the server of a session at most that the file was saved. -/
theorem Context.didSave_informed {context : Context} {session : Session}
    (held : context.session = some session) {outcome : Outcome Unit}
    (runs : Job.Runs host thread (context.didSave file) world outcome last) :
    ∃ told, World.Informed session.server told world last ∧
      ∀ entry ∈ told, ∃ uri, Uri.ofFileName file = .ok uri ∧ entry = .saved uri.text := by
  obtain ⟨added, grown, kind⟩ := Script.Says.runs (didSave_savingOf held file) runs
  have kept : last.sessions = world.sessions ∧ last.connected = world.connected := by
    rcases didSave_effect held runs with idle | ⟨_, saved⟩
    · exact ⟨idle.sessions, idle.connected⟩
    · exact ⟨saved.sessions, saved.connected⟩
  refine ⟨added.filterMap (Told.heard? session.server), ⟨kept.1, kept.2, fun other => ?_⟩, ?_⟩
  · rw [World.toldTo, grown, List.filterMap_append]
    split
    · rename_i same
      rw [same]
      rfl
    · rename_i apart
      have deaf : added.filterMap (Told.heard? other) = [] := by
        rw [List.filterMap_eq_nil_iff]
        intro sent member
        by_contra some
        obtain ⟨told, heard⟩ := Option.ne_none_iff_exists'.mp some
        exact apart (kind sent member other told heard).1
      rw [deaf]
      rfl
  · intro entry member
    obtain ⟨sent, inside, heard⟩ := List.mem_filterMap.mp member
    exact (kind sent inside session.server entry heard).2

theorem Context.didSave_sessionOf? {context : Context} {session : Session}
    (held : context.session = some session) {outcome : Outcome Unit}
    (runs : Job.Runs host thread (context.didSave file) world outcome last) :
    ((world.workspace.documents.entries.map (·.1)).Nodup →
        (last.workspace.documents.entries.map (·.1)).Nodup) ∧
      ∀ other, last.workspace.sessionOf? other = world.workspace.sessionOf? other := by
  rcases didSave_effect held runs with idle | ⟨_, saved⟩
  · rw [idle.workspace]
    exact ⟨id, fun _ => rfl⟩
  · rw [saved.workspace]
    refine ⟨fun unique => Table.nodup_keys_modify unique file _, fun other => ?_⟩
    exact Workspace.sessionOf?_modify (fun document => { document with dirty := false })
      (fun _ => rfl) _

theorem Session.close_effect {outcome : Outcome (Option Nat)}
    (runs : Job.Runs host thread (close key) world outcome last) :
    (∃ stopping, outcome = .ok stopping) ∧
      ({ world with sessions := world.sessions.erase key } : World).Undisturbed last := by
  unfold close at runs
  obtain ⟨found, here, later, before, performed, rest⟩ := runs.of_ask_bind
  cases performed
  have out := before.withSessions (world.sessions.erase key)
  rw [before.sessions] at rest
  cases used : world.sessions.get? key with
  | none =>
    simp only [used] at rest
    obtain ⟨done, after⟩ := rest.of_pure
    exact ⟨⟨_, done⟩, out.trans after⟩
  | some session =>
    simp only [used] at rest
    obtain ⟨number, there, forked, further, performed, rest⟩ := rest.of_ask_bind
    cases performed
    have path := (out.trans further)
    obtain ⟨done, after⟩ := rest.of_pure
    exact ⟨⟨_, done⟩, path.trans ⟨after.workspace, after.sessions, after.connected, after.traffic,
      after.dead⟩⟩

/-- The context of a tracked file is that of its session; one whose server is gone is out of use
from now on. -/
theorem Session.trackedContext?_effect {document : Document}
    (tracked : world.workspace.documents.get? file = some document)
    {outcome : Outcome (Option Context)}
    (runs : Job.Runs host thread (trackedContext? file) world outcome last) :
    (∃ context session, outcome = .ok (some context) ∧ context.session = some session ∧
        world.sessions.get? document.session = some session ∧ world.Undisturbed last) ∨
      (outcome = .ok none ∧ world.Bereft document.session last ∧
        ({ world with sessions := world.sessions.erase document.session } : World).Undisturbed
          last) := by
  obtain ⟨here, drift, rest⟩ := Job.Runs.of_workspace runs
  simp only [tracked] at rest
  rcases rest.of_bind with ⟨failure, rfl, looking⟩ | ⟨found, there, looking, rest⟩
  · rcases live?_effect looking with ⟨_, impossible, _⟩ | ⟨impossible, _⟩ <;> cases impossible
  rcases live?_effect looking with ⟨session, given, known, idle⟩ | ⟨given, bereft, dropped⟩
  · cases given
    obtain ⟨done, after⟩ := rest.of_pure
    rw [drift.sessions] at known
    exact .inl ⟨_, session, done, rfl, known, (drift.trans idle).trans after⟩
  · cases given
    obtain ⟨done, after⟩ := rest.of_pure
    refine .inr ⟨done, fun session registered => ?_, ?_⟩
    · rw [← drift.sessions] at registered
      exact after.gone (bereft session registered)
    · rw [drift.sessions] at dropped
      exact ((drift.withSessions _).trans dropped).trans after

/-- When all servers are there, the context of a tracked file is that of its session. -/
theorem Placed.trackedContext? (placed : Placed world) (served : world.Served last)
    {outcome : Outcome (Option Context)}
    (runs : Job.Runs host thread (Session.trackedContext? file) world outcome last) :
    world.Undisturbed last ∧
      (outcome = .ok none ∨ ∃ context key session, outcome = .ok (some context) ∧
        context.session = some session ∧ world.workspace.sessionOf? file = some key ∧
        world.sessions.get? key = some session) := by
  cases tracked : world.workspace.documents.get? file with
  | none =>
    obtain ⟨here, drift, rest⟩ := Job.Runs.of_workspace runs
    simp only [tracked] at rest
    obtain ⟨done, after⟩ := rest.of_pure
    exact ⟨drift.trans after, .inl done⟩
  | some document =>
    have held : world.workspace.sessionOf? file = some document.session := by
      simp [Workspace.sessionOf?, tracked]
    obtain ⟨session, registered⟩ := placed.attended file _ held
    rcases Session.trackedContext?_effect tracked runs with
      ⟨context, same, done, attached, known, drift⟩ | ⟨_, bereft, _⟩
    · exact ⟨drift, .inr ⟨context, _, same, done, attached, held, known⟩⟩
    · have gone := bereft session registered
      rw [served _ session registered] at gone
      cases gone

theorem Placed.saved (placed : Placed world) (served : world.Served last) {name : DocumentName}
    {outcome : Outcome Unit}
    (runs : Job.Runs host thread (Editor.documentSaved name) world outcome last) :
    Placed last ∧ World.Settled world last := by
  rcases Job.Runs.of_bind runs with ⟨failure, rfl, looking⟩ | ⟨found, here, looking, rest⟩
  · exact placed.idle (placed.trackedContext? served looking).1
  have within : world.Served here :=
    fun key session registered => Script.Runs.alive rest (served key session registered)
  obtain ⟨drift, found⟩ := placed.trackedContext? within looking
  have ready := placed.undisturbed drift
  rcases found with none | ⟨context, key, session, some, held, tracked, registered⟩
  · cases none
    simp only at rest
    exact placed.idle (drift.trans rest.of_pure.2)
  · cases some
    simp only at rest
    rw [← drift.workspace] at tracked
    rw [← drift.sessions] at registered
    obtain ⟨told, informed, about⟩ := Context.didSave_informed held rest
    obtain ⟨unique, same⟩ := Context.didSave_sessionOf? held rest
    have after : Placed last := by
      refine ready.kept informed (unique ready.unique) same fun entry member => ?_
      obtain ⟨uri, named, saved⟩ := about entry member
      exact ⟨name.file, uri, ⟨key, session, tracked, registered, rfl⟩, named, .inl saved⟩
    exact ⟨after, after.settled fun other key tracked => by rwa [same, drift.workspace] at tracked⟩

/-- While the server of its session is there, a tracked file is closed on it. -/
theorem Placed.didClose (placed : Placed world) {context : Context} {session : Session}
    (held : context.session = some session) (tracked : world.workspace.sessionOf? file = some key)
    (registered : world.sessions.get? key = some session)
    (alive : last.isAlive session.peer = true) {outcome : Outcome Nat}
    (runs : Job.Runs host thread (context.didClose file) world outcome last) :
    Placed last ∧ ∀ other, last.workspace.sessionOf? other =
      if file = other then none else world.workspace.sessionOf? other := by
  obtain ⟨uri, named⟩ := placed.named file key tracked
  cases Context.didClose_effect held runs with
  | forgotten _ silent _ =>
    exfalso
    rcases silent with untracked | gone | ⟨failure, failed⟩
    · simp [Workspace.sessionOf?, untracked] at tracked
    · rw [gone] at alive
      cases alive
    · rw [named] at failed
      cases failed
  | told erased again _ told =>
    rw [named] at again
    cases again
    have track (other : String) : last.workspace.sessionOf? other =
        if file = other then none else world.workspace.sessionOf? other := by
      rw [told.workspace]
      exact Workspace.sessionOf?_erase erased
    refine ⟨placed.closed tracked registered named ?_ ?_ track, track⟩
    · exact World.informed_of_notified (context.didClose_unsaving file) runs told
    · rw [told.workspace, erased]
      exact Table.nodup_keys_erase placed.unique file

theorem Placed.left (placed : Placed world) (served : world.Served last) {name : DocumentName}
    {outcome : Outcome Unit}
    (runs : Job.Runs host thread (Editor.documentClosed name) world outcome last) :
    Placed last ∧ World.Settled world last := by
  rcases Job.Runs.of_bind runs with ⟨failure, rfl, looking⟩ | ⟨found, here, looking, rest⟩
  · exact placed.idle (placed.trackedContext? served looking).1
  have within : world.Served here :=
    fun key session registered => Script.Runs.alive rest (served key session registered)
  obtain ⟨drift, found⟩ := placed.trackedContext? within looking
  have ready := placed.undisturbed drift
  rcases found with none | ⟨context, key, session, some, held, tracked, registered⟩
  · cases none
    simp only at rest
    exact placed.idle (drift.trans rest.of_pure.2)
  cases some
  simp only at rest
  have alive := served key session registered
  rw [← drift.workspace] at tracked
  rw [← drift.sessions] at registered
  have settled {after : World} (placed : Placed after) (track : ∀ other,
      after.workspace.sessionOf? other =
        if name.file = other then none else here.workspace.sessionOf? other) :
      World.Settled world after := by
    refine placed.settled fun other twin kept => ?_
    rw [track] at kept
    split at kept
    · cases kept
    · rwa [drift.workspace] at kept
  rcases rest.of_bind with ⟨failure, rfl, closing⟩ | ⟨remaining, there, closing, rest⟩
  · obtain ⟨after, track⟩ := ready.didClose held tracked registered alive closing
    exact ⟨after, settled after track⟩
  have beside := Script.Runs.alive rest alive
  obtain ⟨after, track⟩ := ready.didClose held tracked registered beside closing
  split at rest
  · rename_i zero
    have none : there.workspace.documentsOf session.key = [] :=
      List.eq_nil_of_length_eq_zero ((Context.didClose_closing held closing).count.symm.trans zero)
    rw [Context.attached_eq held, pure_bind] at rest
    have out : ({ there with sessions := there.sessions.erase session.key } : World).Undisturbed
        last := by
      rcases rest.of_bind with ⟨failure, _, ending⟩ | ⟨_, later, ending, rest⟩
      · exact (Session.close_effect ending).2
      · exact (Session.close_effect ending).2.trans rest.of_pure.2
    have final := (after.emptied none).undisturbed out
    exact ⟨final, settled final fun other => by rw [out.workspace, track]⟩
  · have idle := rest.of_pure.2
    have final := after.undisturbed idle
    exact ⟨final, settled final fun other => by rw [idle.workspace, track]⟩

theorem World.Bereft.absent (bereft : world.Bereft key last) (served : world.Served last) :
    world.sessions.get? key = none := by
  by_contra some
  obtain ⟨session, registered⟩ := Option.ne_none_iff_exists'.mp some
  have gone := bereft session registered
  rw [served key session registered] at gone
  cases gone

/-- Nothing is tracked for a key without a session. -/
theorem Placed.documentsOf (placed : Placed world) (absent : world.sessions.get? key = none) :
    world.workspace.documentsOf key = [] := by
  refine (Workspace.documentsOf_eq_nil_iff placed.unique key).mpr fun file tracked => ?_
  obtain ⟨session, registered⟩ := placed.attended file key tracked
  rw [absent] at registered
  cases registered

/-- A server of a session for which nothing is tracked yet is told of no document. -/
theorem Placed.connected (placed : Placed world) (absent : world.sessions.get? key = none)
    {setup : Setup} {outcome : Outcome Session} {done : List (String × Document)}
    (runs : Job.Runs host thread (Session.start setup key) world outcome last)
    (part : done <+: world.workspace.documentsOf key)
    (told : World.Notified (world.connect key.language).2 (done.filterMap Notice.opening?)
      (world.connect key.language).1 last) : Placed last := by
  rw [placed.documentsOf absent, List.prefix_nil] at part
  subst part
  have silent (server : ServerId) : last.toldTo server = world.toldTo server := by
    have received := World.toldTo_of_noticesTo (Session.start_unsaving setup key) runs told.received
      server
    simpa using received
  refine placed.rearranged ?_ told.workspace silent fun file other _ => by rw [told.sessions]; rfl
  exact placed.enrolled.connected told.sessions told.connected silent

theorem Placed.joined (placed : Placed world) (served : world.Served last) {setup : Setup}
    {outcome : Outcome Session}
    (runs : Job.Runs host thread (Session.getOrStart key (Session.start setup key)) world outcome
      last) : Placed last ∧ World.Settled world last := by
  have settled {between : World} (placed : Placed last)
      (former : between.workspace = world.workspace)
      (latter : last.workspace = between.workspace) : World.Settled world last :=
    placed.settled fun file key tracked => by rwa [latter, former] at tracked
  cases Session.getOrStart_effect runs with
  | found _ drift => exact placed.idle drift
  | @failed before after _ failure bereft drift starting rest =>
    have within : world.Served before := fun key session registered =>
      Script.Runs.alive starting (rest.dead _ (served key session registered))
    have absent := bereft.absent within
    rw [Table.erase_of_absent absent] at drift
    have ready := placed.undisturbed drift
    rw [← drift.sessions] at absent
    cases Session.start_effect starting with
    | refused _ idle => exact placed.idle ((drift.trans idle).trans rest)
    | begun part told =>
      have final := (ready.connected absent starting part told).undisturbed rest
      exact ⟨final, settled final drift.workspace (rest.workspace.trans told.workspace)⟩
  | @started before after _ session bereft drift starting rest =>
    have within : world.Served before := fun key session registered =>
      Script.Runs.alive starting (rest.dead _ (served key session registered))
    have absent := bereft.absent within
    rw [Table.erase_of_absent absent] at drift
    have ready := placed.undisturbed drift
    rw [← drift.sessions] at absent
    cases Session.start_effect starting with
    | refused failed => cases failed
    | begun part told known =>
      obtain ⟨own, new, _⟩ := known session rfl
      rw [← own] at rest
      have begun := ready.connected absent starting part told
      have counted : session.server.number ≤
          (after.connected.get? session.server.language).getD 0 := by
        rw [new, told.connected]
        simp [World.connect]
      have unused (other : SessionKey) (twin : Session)
          (here : after.sessions.get? other = some twin) : twin.server ≠ session.server := by
        intro same
        rw [told.sessions] at here
        have bounded := ready.enrolled.counted other twin here
        rw [same, new] at bounded
        exact Nat.not_succ_le_self _ bounded
      have used : Placed { after with sessions := after.sessions.insert session.key session } := by
        refine begun.rearranged (begun.enrolled.registered counted unused) rfl (fun _ => rfl) ?_
        intro file other tracked
        have apart : session.key ≠ other := by
          rintro rfl
          obtain ⟨former, here⟩ := begun.attended file _ tracked
          rw [own, told.sessions] at here
          cases absent.symm.trans here
        simp [apart]
      have final := used.undisturbed rest
      exact ⟨final, settled final drift.workspace (rest.workspace.trans told.workspace)⟩

end LanguageBridge
