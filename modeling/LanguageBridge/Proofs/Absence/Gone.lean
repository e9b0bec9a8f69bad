import LanguageBridge.Proofs.Absence.Sparing
import LanguageBridge.Proofs.Absence.Threads
import LanguageBridge.Proofs.Document.Upkeep
import LanguageBridge.Proofs.Script.Performed
import LanguageBridge.Proofs.Script.Courses
import LanguageBridge.Proofs.Script.Idle

/-!
What becomes of a file that the editor closes, among other threads that leave it alone. It is
forgotten when the session that tracks it is in use and its server there, and nothing but that is
done: content that waits in the queue stays, and so does a document whose session is gone.
-/
namespace LanguageBridge

variable {file : String} {host : Host} {thread : Nat}

/-- A file that is not tracked and for which no content is queued. -/
structure World.Without (file : String) (world : World) : Prop where
  untracked : world.workspace.documents.get? file = none
  unqueued : Unqueued file world.queue

/-- If the file is tracked, then by a session that is in use and whose server is there. -/
def World.Attends (world : World) (file : String) : Prop :=
  ∀ document, world.workspace.documents.get? file = some document →
    ∃ session, world.sessions.get? document.session = some session ∧
      world.isAlive session.peer = true

/-- A file, the content that is queued for it, and the session that tracks it are left alone. -/
structure World.Leaves (file : String) (before after : World) : Prop where
  document : after.workspace.documents.get? file = before.workspace.documents.get? file
  queue : Unqueued file after.queue ↔ Unqueued file before.queue
  session : ∀ document, before.workspace.documents.get? file = some document →
    after.sessions.get? document.session = before.sessions.get? document.session
  alive : ∀ document session, before.workspace.documents.get? file = some document →
    before.sessions.get? document.session = some session →
    after.isAlive session.peer = before.isAlive session.peer

namespace World.Leaves

variable {before middle after : World}

theorem refl (world : World) : Leaves file world world :=
  ⟨rfl, .rfl, fun _ _ => rfl, fun _ _ _ _ => rfl⟩

theorem trans (first : Leaves file before middle) (second : Leaves file middle after) :
    Leaves file before after where
  document := second.document.trans first.document
  queue := second.queue.trans first.queue
  session := fun document tracked =>
    (second.session document (first.document.trans tracked)).trans (first.session document tracked)
  alive := fun document session tracked registered =>
    (second.alive document session (first.document.trans tracked)
      ((first.session document tracked).trans registered)).trans
      (first.alive document session tracked registered)

end World.Leaves

/-- What a file is tracked as, and whether content for it is queued. -/
structure World.Faces (file : String) (tracked : Option Document) (unqueued : Prop)
    (world : World) : Prop where
  document : world.workspace.documents.get? file = tracked
  queue : Unqueued file world.queue ↔ unqueued

namespace World

variable {tracked : Option Document} {unqueued : Prop} {start before after : World}

theorem Faces.leaves (faces : before.Faces file tracked unqueued)
    (leaves : Leaves file before after) : after.Faces file tracked unqueued :=
  ⟨leaves.document.trans faces.document, leaves.queue.trans faces.queue⟩

theorem Faces.stable : Script.Stable (Leaves file) (Faces file tracked unqueued) :=
  fun _ _ leaves faces => faces.leaves leaves

theorem Leaves.stable : Script.Stable (Leaves file) (Leaves file start) :=
  fun _ _ leaves kept => kept.trans leaves

theorem Leaves.faces (leaves : Leaves file start after) :
    after.Faces file (start.workspace.documents.get? file) (Unqueued file start.queue) :=
  ⟨leaves.document, leaves.queue⟩

theorem Faces.without_iff (faces : after.Faces file tracked unqueued) :
    after.Without file ↔ tracked = none ∧ unqueued := by
  rw [← faces.document, ← faces.queue]
  exact ⟨fun ⟨untracked, clear⟩ => ⟨untracked, clear⟩, fun ⟨untracked, clear⟩ => ⟨untracked, clear⟩⟩

end World

/-- An operation that sets neither documents nor queue. -/
def Operation.Quiet : Operation → Prop
  | .setWorkspace _ | .setQueue _ => False
  | _ => True

namespace World

variable {tracked : Option Document} {unqueued : Prop} {before after : World}
  {operation : Operation} {answer : operation.Answer}

theorem Faces.perform (faces : before.Faces file tracked unqueued) (quiet : operation.Quiet)
    (performed : before.perform host thread operation = some (after, answer)) :
    after.Faces file tracked unqueued := by
  have effect := World.performed performed
  have workspace : operation.workspaceAfter before.workspace = before.workspace := by
    apply Operation.workspaceAfter_of_ne
    rintro changed rfl
    exact quiet
  have queue : operation.queueAfter before.queue = before.queue := by
    apply Operation.queueAfter_of_ne
    rintro changed rfl
    exact quiet
  constructor
  · rw [effect.workspace, workspace]
    exact faces.document
  · rw [effect.queue, queue]
    exact faces.queue

end World

section Handling

variable {α β : Type} {tracked middle last : Option Document} {unqueued : Prop} {start : World}

/-- A script that finds a file as it is told and leaves it as it says, among others who leave it
alone. -/
def Script.Brings (host : Host) (thread : Nat) (file : String) (unqueued : Prop)
    (script : Script α) (tracked last : Option Document) : Prop :=
  script.Assures host thread (World.Leaves file) (World.Faces file tracked unqueued)
    fun _ => World.Faces file last unqueued

namespace Script.Brings

theorem done (value : α) :
    (Script.done value).Brings host thread file unqueued tracked tracked :=
  Script.Assures.done World.Faces.stable fun _ faces => faces

theorem quiet {operation : Operation} {next : operation.Answer → Script α}
    (quiet : operation.Quiet)
    (rest : ∀ answer, (next answer).Brings host thread file unqueued tracked last) :
    (Script.step operation next).Brings host thread file unqueued tracked last := by
  refine Script.Assures.step _ World.Faces.stable ?_ rest
  exact fun _ _ _ faces performed => faces.perform quiet performed

theorem bind {script : Script α} {next : α → Script β}
    (first : script.Brings host thread file unqueued tracked middle)
    (second : ∀ value, (next value).Brings host thread file unqueued middle last) :
    (script.bind next).Brings host thread file unqueued tracked last :=
  Script.Assures.bind first second

end Script.Brings

/-- A job that finds a file as it is told and leaves it as it says, whatever comes of it. -/
def Job.Brings (host : Host) (thread : Nat) (file : String) (unqueued : Prop) (job : Job α)
    (tracked last : Option Document) : Prop :=
  job.run.Brings host thread file unqueued tracked last

namespace Job.Brings

theorem pure (value : α) :
    (Pure.pure value : Job α).Brings host thread file unqueued tracked tracked :=
  Script.Brings.done _

/-- Once the file is as it is to be, whatever fails leaves it so. -/
theorem bind {job : Job α} {next : α → Job β}
    (first : job.Brings host thread file unqueued tracked last)
    (second : ∀ value, (next value).Brings host thread file unqueued last last) :
    (job >>= next).Brings host thread file unqueued tracked last := by
  apply Script.Brings.bind first
  intro outcome
  cases outcome with
  | ok value => exact second value
  | error failure => exact Script.Brings.done _

/-- Locks are nothing that is tracked or queued. -/
theorem holding {lock : Lock} {mode : LockMode} {job : Job α}
    (inside : job.Brings host thread file unqueued tracked last) :
    (Job.holding lock mode job).Brings host thread file unqueued tracked last := by
  have leaving (outcome : Outcome α) :
      (Script.step (.release lock) fun _ => .done outcome).Brings host thread file unqueued last
        last :=
    .quiet trivial fun _ => .done outcome
  have within := Script.Brings.bind inside leaving
  exact Script.Brings.quiet trivial fun _ => within

theorem quiet_bind {operation : Operation} {next : operation.Answer → Job β}
    (quiet : operation.Quiet)
    (rest : ∀ answer, (next answer).Brings host thread file unqueued tracked last) :
    (Job.ask operation >>= next).Brings host thread file unqueued tracked last :=
  Script.Brings.quiet quiet rest

theorem setWorkspace_bind {changed : Workspace} {next : Unit → Job β}
    (rest : (next ()).Brings host thread file unqueued (changed.documents.get? file) last) :
    (Job.ask (.setWorkspace changed) >>= next).Brings host thread file unqueued tracked last := by
  refine Script.Assures.step _ World.Faces.stable ?_ fun _ => rest
  intro before after answer faces performed
  have effect := World.performed performed
  exact ⟨by rw [effect.workspace]; rfl, by rw [effect.queue]; exact faces.queue⟩

theorem notify (peer : Peer) (method : String) (params : Json) :
    (Job.notify peer method params).Brings host thread file unqueued tracked tracked :=
  Script.Brings.quiet trivial fun _ => Script.Brings.done _

theorem ofOutcome (outcome : Outcome α) :
    (Job.ofOutcome outcome).Brings host thread file unqueued tracked tracked :=
  Script.Brings.done _

end Job.Brings

/-- Closing a file in a session takes it from what is tracked, whatever comes of telling. -/
theorem Context.didClose_brings {context : Context} {session : Session}
    (held : context.session = some session) (tracked : Option Document) :
    (context.didClose file).Brings host thread file unqueued tracked none := by
  have erased (workspace : Workspace) : (workspace.documents.erase file).get? file = none := by simp
  have forgetting (workspace : Workspace) (tracked : Option Document) (count : Nat) :
      (Job.ask (.setWorkspace ⟨workspace.documents.erase file,
        workspace.diagnostics.erase file⟩) >>= fun _ => (pure count : Job Nat)).Brings host thread
          file unqueued tracked none :=
    .setWorkspace_bind (by rw [erased]; exact .pure _)
  unfold didClose
  rw [attached_eq held, pure_bind]
  apply Job.Brings.holding
  refine Job.Brings.quiet_bind trivial fun (workspace : Workspace) => ?_
  dsimp only
  split
  · refine Job.Brings.setWorkspace_bind ?_
    rw [erased]
    refine (Job.Brings.ofOutcome _).bind fun uri => ?_
    exact (Job.Brings.notify _ _ _).bind fun _ => forgetting workspace _ _
  · exact forgetting workspace _ _

theorem Session.close_brings (key : SessionKey) :
    (Session.close key).Brings host thread file unqueued tracked tracked := by
  refine Job.Brings.quiet_bind trivial fun found => ?_
  split
  · exact .pure _
  · exact Job.Brings.quiet_bind trivial fun _ => .pure _

theorem World.attends_iff {world : World} {document : Document}
    (held : world.workspace.documents.get? file = some document) :
    world.Attends file ↔ ∃ session, world.sessions.get? document.session = some session ∧
      world.isAlive session.peer = true := by
  constructor
  · exact fun attends => attends document held
  · intro attended other tracked
    rw [held] at tracked
    cases tracked
    exact attended

/-- A session is found when the server of the one that tracks the file is there, and only then. -/
theorem Session.live?_assures {document : Document}
    (held : start.workspace.documents.get? file = some document) :
    (live? document.session).Assures host thread (World.Leaves file) (World.Leaves file start)
      fun outcome after =>
        after.Faces file (some document) (Unqueued file start.queue) ∧
          ∃ found, outcome = .ok found ∧ (found.isSome = true ↔ start.Attends file) := by
  have faces {after : World} (leaves : World.Leaves file start after) :
      after.Faces file (some document) (Unqueued file start.queue) := held ▸ leaves.faces
  rw [World.attends_iff held]
  refine Job.Assures.ask_bind (fun found after => World.Leaves file start after ∧
    found = start.sessions.get? document.session) World.Leaves.stable ?_ fun found =>
      Script.Assures.given fun same => ?_
  · intro before after answer leaves performed
    cases performed
    exact ⟨leaves, leaves.session document held⟩
  cases found with
  | none =>
    refine Script.Assures.done World.Leaves.stable fun world leaves => ?_
    exact ⟨faces leaves, none, rfl, by simp [← same]⟩
  | some session =>
    refine Job.Assures.ask_bind (fun alive after => World.Leaves file start after ∧
      alive = start.isAlive session.peer) World.Leaves.stable ?_ fun (alive : Bool) =>
        Script.Assures.given fun known => ?_
    · intro before after answer leaves performed
      cases performed
      exact ⟨leaves, leaves.alive document session held same.symm⟩
    cases alive with
    | true =>
      refine Script.Assures.done World.Leaves.stable fun world leaves => ?_
      exact ⟨faces leaves, some session, rfl, by simp [← same, ← known]⟩
    | false =>
      refine Job.Assures.ask_bind (fun _ after =>
        after.Faces file (some document) (Unqueued file start.queue)) World.Leaves.stable ?_
          fun _ => ?_
      · intro before after answer leaves performed
        exact (faces leaves).perform (by trivial) performed
      · refine Script.Assures.done World.Faces.stable fun world kept => ?_
        exact ⟨kept, none, rfl, by simp [← same, ← known]⟩

/-- The context of a tracked file is found when its session is attended, and only then. -/
theorem Session.trackedContext?_assures :
    (trackedContext? file).Assures host thread (World.Leaves file) (World.Leaves file start)
      fun outcome after =>
        after.Faces file (start.workspace.documents.get? file) (Unqueued file start.queue) ∧
          ∃ found, outcome = .ok found ∧
            (found.isSome = true ↔
              start.workspace.documents.get? file ≠ none ∧ start.Attends file) ∧
            ∀ context, found = some context → ∃ session, context.session = some session := by
  refine Job.Assures.ask_bind (fun (workspace : Workspace) after => World.Leaves file start after ∧
    workspace.documents.get? file = start.workspace.documents.get? file) World.Leaves.stable ?_
      fun (workspace : Workspace) => Script.Assures.given fun same => ?_
  · intro before after answer leaves performed
    simp only [World.perform] at performed
    split at performed <;> cases performed
    exact ⟨leaves, leaves.document⟩
  rw [same]
  cases held : start.workspace.documents.get? file with
  | none =>
    refine Script.Assures.done World.Leaves.stable fun world leaves => ?_
    exact ⟨held ▸ leaves.faces, none, rfl, by simp, by simp⟩
  | some document =>
    refine Job.Assures.bind (live?_assures held) ?_ ?_ fun found => Script.Assures.given ?_
    · rintro _ _ _ moved ⟨kept, found⟩
      exact ⟨kept.leaves moved, found⟩
    · rintro failure world ⟨_, _, impossible, _⟩
      cases impossible
    · rintro ⟨_, ⟨⟩, attended⟩
      cases found with
      | none =>
        refine Script.Assures.done World.Faces.stable fun world kept => ?_
        exact ⟨kept, none, rfl, by simpa using attended, by simp⟩
      | some session =>
        refine Script.Assures.done World.Faces.stable fun world kept => ?_
        refine ⟨kept, _, rfl, by simpa using attended, ?_⟩
        rintro context ⟨⟩
        exact ⟨session, rfl⟩

/-- A file is closed for good when its session is attended and nothing is queued for it, and only
then. -/
theorem Editor.documentClosed_assures (name : DocumentName) :
    (documentClosed name).Assures host thread (World.Leaves name.file)
      (World.Leaves name.file start) fun _ after =>
        after.Without name.file ↔ start.Attends name.file ∧ Unqueued name.file start.queue := by
  refine Job.Assures.bind Session.trackedContext?_assures ?_ ?_ fun found =>
    Script.Assures.given ?_
  · exact fun _ _ _ moved ⟨kept, found⟩ => ⟨kept.leaves moved, found⟩
  · rintro failure world ⟨_, _, impossible, _⟩
    cases impossible
  rintro ⟨_, ⟨⟩, attended, sessions⟩
  cases found with
  | none =>
    refine Script.Assures.done World.Faces.stable fun world kept => ?_
    rw [kept.without_iff]
    have unattended : start.workspace.documents.get? name.file ≠ none → ¬ start.Attends name.file :=
      fun tracked attends => by simpa using attended.mpr ⟨tracked, attends⟩
    constructor
    · rintro ⟨untracked, clear⟩
      refine ⟨fun document tracked => ?_, clear⟩
      rw [untracked] at tracked
      cases tracked
    · rintro ⟨attends, clear⟩
      exact ⟨Classical.not_not.mp fun tracked => unattended tracked attends, clear⟩
  | some context =>
    obtain ⟨session, held⟩ := sessions context rfl
    have closing : Job.Brings host thread name.file (Unqueued name.file start.queue) (do
        let remaining ← context.didClose name.file
        if remaining = 0 then
          let session ← context.attached
          let _ ← Session.close session.key)
        (start.workspace.documents.get? name.file) none := by
      refine (Context.didClose_brings held _).bind fun remaining => ?_
      split
      · rw [Context.attached_eq held, pure_bind]
        exact (Session.close_brings _).bind fun _ => .pure _
      · exact .pure _
    refine Script.Assures.mono closing fun _ world kept => ?_
    rw [kept.without_iff]
    have attends := (attended.mp rfl).2
    simp [attends]

end Handling

end LanguageBridge

/-!
Once nobody has anything of a file, no server is told of it until content for it comes: that is so
on every course that the program may take after the file was closed.
-/
namespace LanguageBridge

variable {file : String} {setup : Setup}

/-- Whether what the surroundings do brings nothing of a file: no content for it from the editor,
and no edit of it from a server. -/
def Happening.Spares (file : String) : Happening → Prop
  | .answer _ outcome => ∀ json, outcome = .ok json → ¬ json.Edits file
  | .deliver peer message => ¬ message.Concerns peer file
  | _ => True

/-- Nobody has anything of a file: neither those who wait for their turn nor the threads. -/
structure System.Lacks (file : String) (system : System) : Prop where
  world : system.world.Lacks file
  threads : ∀ script ∈ system.threads, script.Spares file fun _ => True

theorem World.Lacks.occur {world : World} (threads : List (Script (Outcome Json)))
    (lacks : world.Lacks file) {happening : Happening} (spares : happening.Spares file) :
    (System.occur ⟨world, threads⟩ happening).world.Lacks file ∧
      (System.occur ⟨world, threads⟩ happening).world.traffic = world.traffic := by
  cases happening with
  | answer ticket outcome =>
    simp only [System.occur]
    split
    · exact ⟨lacks, rfl⟩
    · refine ⟨⟨lacks.untracked, lacks.unqueued, lacks.inbox, ?_, lacks.forked⟩, rfl⟩
      intro other json found
      rw [Table.get?_insert] at found
      split at found
      · exact spares json (Option.some.inj found)
      · exact lacks.answers other json found
  | deliver peer message =>
    refine ⟨⟨lacks.untracked, lacks.unqueued, ?_, lacks.answers, lacks.forked⟩, rfl⟩
    intro other messages found letter member
    simp only [System.occur, Table.get?_insert] at found
    split at found
    · rename_i same
      cases found
      subst same
      rcases List.mem_append.mp member with before | last
      · cases waiting : world.inbox.get? peer with
        | none => simp [waiting] at before
        | some letters =>
          rw [waiting] at before
          exact lacks.inbox peer letters waiting letter before
      · rw [List.mem_singleton.mp last]
        exact spares
    · exact lacks.inbox other messages found letter member
  | endInput | disconnect | change =>
    exact ⟨⟨lacks.untracked, lacks.unqueued, lacks.inbox, lacks.answers, lacks.forked⟩, rfl⟩

namespace System.Lacks

variable {system later : System}

theorem happen (lacks : system.Lacks file) {happening : Happening}
    (spares : happening.Spares file) :
    (system.occur happening).Lacks file ∧
      World.Adds file system.world (system.occur happening).world := by
  obtain ⟨world, same⟩ := World.Lacks.occur system.threads lacks.world spares
  refine ⟨⟨world, ?_⟩, [], by simpa using same, by simp⟩
  cases happening with
  | answer => simp only [System.occur]; split <;> exact lacks.threads
  | _ => exact lacks.threads

theorem step (lacks : system.Lacks file) {thread : Nat}
    (moved : Program.step setup system thread = some later) :
    later.Lacks file ∧ World.Adds file system.world later.world := by
  obtain ⟨_, _, rfl⟩ | ⟨operation, next, world, answer, here, performed, rfl⟩ :=
    Program.step_cases moved
  · have world := lacks.world
    refine ⟨⟨?_, lacks.threads⟩, [], by simp, by simp⟩
    exact ⟨world.untracked, world.unqueued, world.inbox, world.answers, world.forked⟩
  · obtain ⟨spares, onward⟩ := lacks.threads _ (List.mem_of_getElem? here)
    obtain ⟨after, admits, adds⟩ := lacks.world.perform spares performed
    refine ⟨⟨?_, ?_⟩, adds⟩
    · exact ⟨after.untracked, after.unqueued, after.inbox, after.answers, by simp [startForked]⟩
    · intro script member
      rcases List.mem_append.mp member with old | new
      · rcases List.mem_or_eq_of_mem_set old with before | own
        · exact lacks.threads script before
        · exact own ▸ onward answer admits
      · obtain ⟨work, forked, rfl⟩ := List.mem_map.mp new
        exact Program.scriptOf_spares (after.forked work forked)

/-- As long as nothing of a file comes from outside, nobody has anything of it, and no server is
told that it is open. -/
theorem course (lacks : system.Lacks file)
    (course : Course setup (Happening.Spares file) system later) :
    later.Lacks file ∧ World.Adds file system.world later.world := by
  induction course with
  | refl => exact ⟨lacks, .refl _⟩
  | tail _ advance ih =>
    obtain ⟨before, added⟩ := ih
    cases advance with
    | step moved =>
      obtain ⟨after, more⟩ := before.step moved
      exact ⟨after, added.trans more⟩
    | happen happening spares =>
      obtain ⟨after, more⟩ := before.happen spares
      exact ⟨after, added.trans more⟩

end System.Lacks

/-- The editor's closing of a file is handled by a thread; others may do anything meanwhile, as long
as they leave the file and its session alone. -/
def Closes (host : Host) (file : String) (world closed : World) : Prop :=
  ∃ thread params name outcome, DocumentName.read params = .ok name ∧ name.file = file ∧
    (Editor.handleEvent "textDocument/didClose" params).run.Amid host thread (World.Leaves file)
      world outcome closed

/-- A closed file is neither tracked nor queued for exactly if its session, when it has one, was in
use with its server there, and nothing was queued for it. From then on, as long as nobody else has
anything of it and nothing of it comes from the editor or in a server's edit, that stays so, and no
server is told that it is open. -/
theorem closed_document_is_gone_iff {world closed : World}
    (closes : Closes setup.host file world closed) :
    (closed.Without file ↔ world.Attends file ∧ Unqueued file world.queue) ∧
      ∀ system later, system.world = closed → system.Lacks file →
        Course setup (Happening.Spares file) system later →
          later.world.Without file ∧ World.Adds file closed later.world := by
  obtain ⟨thread, params, name, outcome, read, rfl, handled⟩ := closes
  rw [Editor.handleEvent_didClose read] at handled
  refine ⟨Editor.documentClosed_assures name world outcome closed (.refl _) handled, ?_⟩
  rintro system later rfl lacks course
  obtain ⟨after, adds⟩ := lacks.course course
  exact ⟨⟨after.world.untracked, after.world.unqueued⟩, adds⟩

/-- What the editor says of a document without its text. -/
def namingDocument : Json := .obj [("text_document", .str "/a.go"), ("language_id", .str "go")]

/-- A document that is tracked in a session. -/
def trackedDocument : World where
  workspace := { documents := .ofList [("/a.go", .ofText ⟨"go", "/"⟩ "x".toList)] }
  sessions := .ofList [(⟨"go", "/"⟩, { key := ⟨"go", "/"⟩, server := ⟨"go", 1⟩ })]

/-- The document is closed, and the editor's next messages bring it back only when they are about
it. -/
theorem attended_document_is_gone : ∃ closed,
    Closes soleServer.host "/a.go" trackedDocument closed ∧ closed.Without "/a.go" ∧
    ∀ later, Course soleServer (Happening.Spares "/a.go")
      ⟨closed, [Program.scriptOf soleServer .serveEditor]⟩ later → later.world.Without "/a.go" := by
  have ran : ((Editor.handleEvent "textDocument/didClose" namingDocument).run.run? soleServer.host 0
      trackedDocument).map (fun result => (result.2.inbox.entries.length,
        result.2.answers.entries.length, result.2.forked.all fun
          | .stopSession _ => true
          | _ => false)) = some (0, 0, true) := by decide +kernel
  obtain ⟨⟨outcome, closed⟩, handled, facts⟩ := Option.map_eq_some_iff.mp ran
  simp only [Prod.mk.injEq, List.length_eq_zero_iff, List.all_eq_true] at facts
  obtain ⟨inbox, answers, forked⟩ := facts
  have read : DocumentName.read namingDocument = .ok ⟨"/a.go", "go"⟩ := by rfl
  have closes : Closes soleServer.host "/a.go" trackedDocument closed :=
    ⟨0, _, _, outcome, read, rfl, Script.amid_of_run? handled⟩
  have attends : trackedDocument.Attends "/a.go" := by
    rintro document ⟨⟩
    exact ⟨_, rfl, rfl⟩
  have unqueued : Unqueued "/a.go" trackedDocument.queue := by
    rintro key contents ⟨⟩
  obtain ⟨gone, stays⟩ := closed_document_is_gone_iff closes
  have without := gone.mpr ⟨attends, unqueued⟩
  refine ⟨closed, closes, without, fun later course => ?_⟩
  refine (stays _ _ rfl ⟨⟨without.untracked, without.unqueued, ?_, ?_, ?_⟩, ?_⟩ course).1
  · intro peer messages found
    simp [Table.get?, inbox, Table.find?] at found
  · intro ticket json found
    simp [Table.get?, answers, Table.find?] at found
  · intro work member
    have kind := forked work member
    cases work with
    | stopSession => trivial
    | _ => cases kind
  · intro script member
    rw [List.mem_singleton.mp member]
    exact Program.scriptOf_spares (by trivial)

/-- What the editor says of a document that it opens. -/
def openingDocument : Json :=
  .obj [("text_document", .str "/a.go"), ("language_id", .str "go"), ("text", .str "x")]

/-- A document that was opened, while its server is being started. -/
def queuedDocument : System :=
  Program.settleWithin soleServer 60 ((listening soleServer ⟨[], []⟩).occur
    (.deliver .editor (.notification true "textDocument/didOpen" (Params.ofJson openingDocument))))

/-- The document once the server has started and has gone away. -/
def orphanedDocument : System :=
  (Program.settleWithin soleServer 60
    (queuedDocument.occur (.answer 0 (.ok (.obj [("capabilities", .obj [])]))))).occur
      (.disconnect (.server ⟨"go", 1⟩))

/-- A document whose server has gone stays tracked when it is closed, and what is queued for one
whose server is being started stays queued. -/
theorem closed_document_may_stay :
    (¬ ∀ (setup : Setup) (tree : FileTree) (system : System) (file : String) (closed : World),
      Course setup (fun _ => True) (listening setup tree) system →
      Closes setup.host file system.world closed →
      closed.workspace.documents.get? file = none) ∧
    ¬ ∀ (setup : Setup) (tree : FileTree) (system : System) (file : String) (closed : World),
      Course setup (fun _ => True) (listening setup tree) system →
      Closes setup.host file system.world closed → Unqueued file closed.queue := by
  have begun : Course soleServer (fun _ => True) (listening soleServer ⟨[], []⟩) queuedDocument :=
    Course.settle (Course.happen .refl _ trivial) 60
  have started : Course soleServer (fun _ => True) (listening soleServer ⟨[], []⟩)
      orphanedDocument :=
    Course.happen (Course.settle (Course.happen begun _ trivial) 60) _ trivial
  have read : DocumentName.read namingDocument = .ok ⟨"/a.go", "go"⟩ := by rfl
  constructor
  · intro claimed
    have ran : ((Editor.handleEvent "textDocument/didClose" namingDocument).run.run?
        soleServer.host 9 orphanedDocument.world).map
          (fun result => (result.2.workspace.documents.get? "/a.go").isSome) = some true := by
      decide +kernel
    obtain ⟨⟨outcome, closed⟩, handled, tracked⟩ := Option.map_eq_some_iff.mp ran
    have closes : Closes soleServer.host "/a.go" orphanedDocument.world closed :=
      ⟨9, _, _, outcome, read, rfl, Script.amid_of_run? handled⟩
    have gone := claimed _ _ _ _ _ started closes
    simp [gone] at tracked
  · intro claimed
    have ran : ((Editor.handleEvent "textDocument/didClose" namingDocument).run.run?
        soleServer.host 9 queuedDocument.world).map
          (fun result => (result.2.queue.get? ⟨"go", "/"⟩).map (·.map (·.file))) =
            some (some ["/a.go"]) := by
      decide +kernel
    obtain ⟨⟨outcome, closed⟩, handled, queued⟩ := Option.map_eq_some_iff.mp ran
    obtain ⟨contents, waiting, files⟩ := Option.map_eq_some_iff.mp queued
    have closes : Closes soleServer.host "/a.go" queuedDocument.world closed :=
      ⟨9, _, _, outcome, read, rfl, Script.amid_of_run? handled⟩
    have clear := claimed _ _ _ _ _ begun closes
    obtain ⟨content, member, same⟩ := List.mem_map.mp (files ▸ List.mem_singleton.mpr rfl)
    exact clear _ contents waiting content member same

end LanguageBridge
