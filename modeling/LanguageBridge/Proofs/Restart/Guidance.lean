import LanguageBridge.Proofs.Document.Mirror
import LanguageBridge.Proofs.Document.Notice
import LanguageBridge.Proofs.Script.Courses
import LanguageBridge.Proofs.Script.Guided
import LanguageBridge.Proofs.Script.Idle

/-!
A session that is started again while threads still hold contexts of the one before it. Every thread
has a footing: how far the start of the session is, or how a thread has the documents and whether
it failed to tell its server of a change.
-/
namespace LanguageBridge

/-- A thread that holds a context and brings its server up to date with a file. -/
structure Straggler where
  context : Context
  file : String
  text : Text

/-- What the thread does; it ends with the version that its server has. -/
def Straggler.script (straggler : Straggler) : Script (Outcome Json) :=
  (straggler.context.sync straggler.file straggler.text >>= fun version =>
    (pure (.nat version) : Job Json)).run

/-- The session of a key is to be got or started in a world, and there are threads that hold
contexts of it. -/
structure Restart where
  setup : Setup
  key : SessionKey
  stragglers : List Straggler
  world : World

namespace Restart

/-- The thread that gets the session or starts it. -/
def starter (restart : Restart) : Script (Outcome Json) :=
  (Session.getOrStart restart.key (Session.start restart.setup restart.key) >>= fun _ =>
    (pure .null : Job Json)).run

/-- The threads and the world to begin with; the session is got or started by the first thread. -/
def system (restart : Restart) : System where
  world := { restart.world with begun := restart.stragglers.length + 1 }
  threads := restart.starter :: restart.stragglers.map Straggler.script

/-- The number of servers of the language that were started before. -/
def count (restart : Restart) : Nat :=
  (restart.world.connected.get? restart.key.language).getD 0

/-- The server that is started next. -/
def server (restart : Restart) : ServerId := ⟨restart.key.language, restart.count + 1⟩

/-- The straggler of a thread, if it is one. -/
def straggler? (restart : Restart) : Nat → Option Straggler
  | 0 => none
  | thread + 1 => restart.stragglers[thread]?

end Restart

/-- A message asks for an edit. -/
def Message.AsksEdit (message : Message) : Prop := message.method = "workspace/applyEdit"

/-- Servers ask for no edits. -/
def Happening.Editless : Happening → Prop
  | .deliver (.server _) message => ¬ message.AsksEdit
  | _ => True

/-- How a thread has the documents: not at all, or alone. Then it has not looked, or knows what is
tracked; `offered` means that it has opened a file on its server that is still to be tracked, and
`changed` that it has changed a document of which its server is still to be told. -/
inductive Tenure
  | free
  | entered
  | reading (workspace : Workspace)
  | offered (workspace : Workspace)
  | changed

/-- A thread that has looked at the documents knows what is tracked. -/
def Tenure.Knows (workspace : Workspace) : Tenure → Prop
  | .reading seen | .offered seen => workspace = seen
  | _ => True

/-- How a thread has the documents, and whether it has failed to tell its server of a change. -/
structure Footing where
  tenure : Tenure := .free
  failed : Bool := false

/-- A thread has changed a document without its server being told. -/
def Footing.Strayed (footing : Footing) : Prop :=
  footing.tenure = .changed ∨ footing.failed = true

/-- How far the start of a session is: the session that was there is being looked for, it was found
and may still be alive, it is gone, the new server runs, the documents are being opened on it, or
all are open. At the end nothing is registered any more. -/
inductive Restart.Stage
  | looking
  | found (session : Session)
  | gone
  | begun
  | opening (left : List (String × Document))
  | opened
  | ended

/-- Operations that neither change documents and sessions nor lock anything, and by which a server
hears nothing of documents. -/
def Operation.Calm (server : ServerId) : Operation → Prop
  | .acquire .. | .release _ | .setWorkspace _ | .dropIfDead _ | .register .. | .unregister _
  | .drain | .spawn .. | .connect _ => False
  | .notify peer method params => peer = .server server → Notice.read? method params = none
  | .fork (.serveSession _) => True
  | .fork _ => False
  | _ => True

namespace Straggler

/-- What a thread may be answered: a server asks for no edits, and what is said to a peer that is
gone is said in vain. -/
def Expects : (operation : Operation) → operation.Answer → Prop
  | .receive (.server _), received => ∀ message : Message, received = some message →
    ¬ message.AsksEdit
  | .notify .., outcome => ∀ failure : Failure, outcome = Except.error failure →
    failure = .terminated
  | _, _ => True

/-- How an operation changes the footing of a thread, which may be a straggler. -/
inductive Turns (server : ServerId) (straggler? : Option Straggler) (footing : Footing) :
    (operation : Operation) → operation.Answer → Footing → Prop
  | calm {operation : Operation} {answer : operation.Answer} (calm : operation.Calm server) :
      Turns server straggler? footing operation answer footing
  | enter (free : footing.tenure = .free) :
      Turns server straggler? footing (.acquire .documents .exclusive) ()
        { footing with tenure := .entered }
  | look {workspace : Workspace} (entered : footing.tenure = .entered) :
      Turns server straggler? footing .workspace workspace
        { footing with tenure := .reading workspace }
  | keep {workspace changed : Workspace} (reading : footing.tenure = .reading workspace)
      (same : changed.documents = workspace.documents) :
      Turns server straggler? footing (.setWorkspace changed) ()
        { footing with tenure := .reading changed }
  | change {straggler : Straggler} {session : Session} {workspace : Workspace}
      {document : Document} (self : straggler? = some straggler)
      (holds : straggler.context.session = some session)
      (reading : footing.tenure = .reading workspace)
      (owned : workspace.ownedBy? session.key straggler.file = some document)
      (differs : straggler.text.splitLines ≠ document.lines) :
      Turns server straggler? footing
        (.setWorkspace (workspace.track straggler.file (document.update straggler.text).1)) ()
        { footing with tenure := .changed }
  | tell {straggler : Straggler} {session : Session} {method : String} {params : Json}
      (self : straggler? = some straggler) (holds : straggler.context.session = some session)
      (changed : footing.tenure = .changed) :
      Turns server straggler? footing (.notify session.peer method params) (.ok ())
        { footing with tenure := .entered }
  | fail {peer : Peer} {method : String} {params : Json} (changed : footing.tenure = .changed) :
      Turns server straggler? footing (.notify peer method params) (.error .terminated)
        { tenure := .entered, failed := true }
  | offer {straggler : Straggler} {session : Session} {workspace : Workspace} {method : String}
      {params : Json} (self : straggler? = some straggler)
      (holds : straggler.context.session = some session)
      (reading : footing.tenure = .reading workspace) :
      Turns server straggler? footing (.notify session.peer method params) (.ok ())
        { footing with tenure := .offered workspace }
  | track {file : String} {document : Document} {workspace : Workspace}
      (offered : footing.tenure = .offered workspace) :
      Turns server straggler? footing (.setWorkspace (workspace.track file document)) ()
        { footing with tenure := .entered }
  | leave (told : footing.tenure ≠ .changed) :
      Turns server straggler? footing (.release .documents) ()
        { footing with tenure := .free }

/-- The rules for stragglers and for the threads that take the messages of the new server. -/
def rules (server : ServerId) (straggler? : Option Straggler) : Rules Footing where
  expects _ := Expects
  turns := Turns server straggler?

end Straggler

namespace Restart

/-- What the thread that starts the session may be answered: once the session before is known to be
gone, the server that is started is the next one. -/
def Expects (restart : Restart) (stage : Stage) : (operation : Operation) → operation.Answer → Prop
  | .spawn language .., spawned => ∀ server : ServerId, spawned = Except.ok server →
    stage = .gone → language = restart.key.language → server = restart.server
  | _, _ => True

/-- How an operation takes the start of the session further. -/
inductive Turns (restart : Restart) :
    Stage → (operation : Operation) → operation.Answer → Stage → Prop
  | calm {stage : Stage} {operation : Operation} {answer : operation.Answer}
      (calm : operation.Calm restart.server) : Turns restart stage operation answer stage
  | lock {stage : Stage} {lock : Lock} {mode : LockMode} :
      Turns restart stage (.acquire lock mode) () stage
  | unlock {stage : Stage} {lock : Lock} : Turns restart stage (.release lock) () stage
  | unheard {stage : Stage} {peer : Peer} {method : String} {params : Json} {failure : Failure} :
      Turns restart stage (.notify peer method params) (.error failure) stage
  | missing : Turns restart .looking (.session restart.key) none .gone
  | found {session : Session} :
      Turns restart .looking (.session restart.key) (some session) (.found session)
  | alive {session : Session} :
      Turns restart (.found session) (.isAlive session.peer) true .ended
  | dead {session : Session} :
      Turns restart (.found session) (.isAlive session.peer) false .gone
  | drop : Turns restart .gone (.dropIfDead restart.key) () .gone
  | refused {stage : Stage} {language directory program : String} {arguments : List String}
      {error : SystemError} :
      Turns restart stage (.spawn language directory program arguments) (.error error) stage
  | spawn {directory program : String} {arguments : List String} :
      Turns restart .gone (.spawn restart.key.language directory program arguments)
        (.ok restart.server) .begun
  | read {workspace : Workspace} :
      Turns restart .begun .workspace workspace
        (.opening (workspace.documentsOf restart.key))
  | tell {entry : String × Document} {left : List (String × Document)} {uri : Uri}
      (named : Uri.ofFileName entry.1 = .ok uri) :
      Turns restart (.opening (entry :: left))
        (.notify (.server restart.server) "textDocument/didOpen" (entry.2.openParams uri)) (.ok ())
        (.opening left)
  | finish : Turns restart (.opening []) (.release .documents) () .opened
  | register {session : Session} (keyed : session.key = restart.key)
      (new : session.server = restart.server) :
      Turns restart .opened (.register restart.key session) () .opened

/-- The rules for the thread that gets or starts the session. -/
def rules (restart : Restart) : Rules Stage where
  expects := restart.Expects
  turns := restart.Turns

end Restart

end LanguageBridge

/-!
All threads go by their rules: those that hold contexts of the session before, the one that starts
the session anew, and those that take the messages of the new server.
-/
namespace LanguageBridge

variable {α : Type} {server : ServerId} {straggler? : Option Straggler} {footing : Footing}

/-- What the editor hears, no server does. -/
theorem Operation.Calm.toEditor (method : String) (params : Json) :
    (Operation.notify .editor method params).Calm server := by
  rintro ⟨⟩

namespace Straggler

theorem keeps_of_calm {operation : Operation} (calm : operation.Calm server) :
    (rules server straggler?).Keeps footing operation :=
  fun _ _ => .calm calm

/-- A calm job leaves every footing as it is. -/
theorem keeps_calm {job : Job α} (calm : job.Each (Operation.Calm server)) :
    job.Each ((rules server straggler?).Keeps footing) :=
  Script.Each.mono calm fun _ => keeps_of_calm

theorem syncHeld_guided {straggler : Straggler} {session : Session} (uri : Uri)
    (holds : straggler.context.session = some session) (other : session.server ≠ server) :
    (session.syncHeld uri straggler.file straggler.text).Guided (rules server (some straggler))
      { tenure := .entered } fun outcome after =>
        after.tenure ≠ .changed ∧ (after.failed = true → outcome = .error .terminated) := by
  have elsewhere : session.peer ≠ .server server := fun same => other (Peer.server.inj same)
  refine .ask_bind fun (workspace : Workspace) _ => ⟨_, .look rfl, ?_⟩
  split
  · rename_i document owned
    by_cases same : straggler.text.splitLines = document.lines
    · rw [Document.update, if_pos same]
      simp
    · have updated := Document.update_of_ne same
      rw [Document.update, if_neg same]
      refine .ask_bind fun _ _ => ⟨{ tenure := .changed }, ?_, ?_⟩
      · rw [← updated]
        exact .change rfl holds rfl owned same
      · refine .notify_bind fun (outcome : Outcome Unit) expected => ?_
        cases outcome with
        | ok _ => exact ⟨_, .tell rfl holds rfl, by simp⟩
        | error failure =>
          obtain rfl : failure = .terminated := expected failure rfl
          exact ⟨_, .fail rfl, by simp⟩
  · refine .notify_bind fun (outcome : Outcome Unit) _ => ?_
    cases outcome with
    | ok _ =>
      refine ⟨_, .offer rfl holds rfl, .ask_bind fun _ _ => ⟨_, .track rfl, by simp⟩⟩
    | error failure => exact ⟨_, .calm fun same => absurd same elsewhere, by simp⟩

/-- A thread that fails to tell its server of a change ends with that failure. -/
theorem script_guided {straggler : Straggler} {session : Session}
    (holds : straggler.context.session = some session) (other : session.server ≠ server) :
    straggler.script.Guided (rules server (some straggler)) {} fun outcome after =>
      after.Strayed → outcome = .error .terminated := by
  have syncing : (straggler.context.sync straggler.file straggler.text).Guided
      (rules server (some straggler)) {} fun outcome after =>
        after.Strayed → outcome = .error .terminated := by
    rw [Context.sync, Context.attached_eq holds, pure_bind]
    refine .ofOutcome_bind (by simp [Footing.Strayed]) fun uri _ => .holding (.enter rfl) ?_
    refine (syncHeld_guided uri holds other).mono ?_
    rintro outcome after ⟨told, fails⟩
    exact ⟨_, .leave told, fun strayed => fails (strayed.resolve_left (by simp))⟩
  refine Job.Guided.bind syncing ?_ fun version after fails => ?_
  · rintro failure after fails strayed
    exact congrArg _ (Except.error.inj (fails strayed))
  · exact fun strayed => by cases fails strayed

end Straggler

namespace Server

open Straggler (rules keeps_calm)

variable (setup : Setup) (session : Session)

/-- Published diagnostics leave the documents alone. -/
theorem publish_guided (published : PublishedDiagnostics) :
    (publish setup published).Guided (rules server none) {} fun _ after => after = {} := by
  refine .ofOutcome_bind (fun _ _ => rfl) fun file _ => ?_
  have keeping : (Job.holding .documents .exclusive do
      let workspace ← Job.ask .workspace
      let _ ← Job.ask (.setWorkspace { workspace with
        diagnostics := workspace.diagnostics.insert file published.diagnostics })
      let tree ← Job.ask .disk
      return workspace.linesOrNone tree file).Guided (rules server none) {}
        fun _ after => after = {} := by
    refine .holding (.enter rfl) (.ask_bind fun (workspace : Workspace) _ => ⟨_, .look rfl, ?_⟩)
    refine .ask_bind fun _ _ => ⟨_, .keep rfl rfl, ?_⟩
    exact .ask_bind fun _ _ => ⟨_, .calm trivial, _, .leave (by simp), rfl⟩
  refine keeping.bind (fun _ _ same => same) ?_
  rintro lines _ rfl
  split
  · exact Script.Each.guided (keeps_calm (Job.Each.notify (.toEditor _ _)))
  · rfl

theorem handleNotification_guided (method : String) (params : Json) :
    (handleNotification setup session method params).Guided (rules server none) {}
      fun _ after => after = {} := by
  unfold handleNotification
  split
  · exact .ofOutcome_bind (fun _ _ => rfl) fun notice _ =>
      .ask_bind fun _ _ => ⟨_, .calm trivial, rfl⟩
  split
  · exact .ofOutcome_bind (fun _ _ => rfl) fun published _ => publish_guided setup published
  split
  · refine .ofOutcome_bind (fun _ _ => rfl) fun progress _ => ?_
    split
    · exact Script.Each.guided (keeps_calm (Job.Each.notify (.toEditor _ _)))
    · rfl
  split
  · exact .ofOutcome_bind (fun _ _ => rfl) fun notice _ =>
      Script.Each.guided (keeps_calm (Job.Each.notify (.toEditor _ _)))
  · rfl

/-- Messages that ask for no edits are handled without documents being changed. -/
theorem handle_guided {message : Message} (editless : ¬ message.AsksEdit) :
    (handle setup session message).Guided (rules server none) {} fun _ after => after = {} := by
  have looking : (handlerFor message.method).Each (Operation.Calm server) :=
    Job.Each.ask_bind trivial fun _ => trivial
  have calling (handler : String) (params : Json) :
      (Editor.callHandler handler params).Each (Operation.Calm server) :=
    Job.Each.notify (.toEditor _ _)
  have replying (id : RequestId) (result : Json) :
      (Job.reply session.peer id result).Each (Operation.Calm server) := ⟨trivial, fun _ => trivial⟩
  refine .keeping_bind (keeps_calm looking) (fun _ => rfl) fun handler => ?_
  cases message with
  | call versioned id method params =>
    have other : method ≠ "workspace/applyEdit" := editless
    have nothing : resultOf session method params.toJson = pure Json.null := by
      rw [resultOf, if_neg other]
    dsimp only
    rw [nothing]
    cases handler with
    | some name =>
      exact Script.Each.guided (keeps_calm ((calling name _).attempt.bind fun _ => replying id _))
    | none => exact Script.Each.guided (keeps_calm (replying id _))
  | notification versioned method params =>
    refine (handleNotification_guided setup session method _).bind (fun _ _ same => same) ?_
    rintro _ _ rfl
    cases handler with
    | some name => exact Script.Each.guided (keeps_calm (calling name _))
    | none => rfl
  | response answer => rfl

end Server

namespace Program

open Straggler (rules)

/-- Nor does a thread change documents that takes a server's messages. -/
theorem serveSession_guided (setup : Setup) (session : Session) :
    (scriptOf setup (.serveSession session)).Guided (rules server none) {}
      fun _ after => after = {} := by
  have serving : (serveSession setup session).Guided (rules server none) {}
      fun _ after => after = {} := by
    refine fun (received : Option Message) expected => ⟨{}, .calm trivial, ?_⟩
    cases received with
    | none => rfl
    | some message =>
      change Script.Guided _ (Script.bind (Server.handle setup session message).run _) _ _
      refine Script.Guided.bind (Server.handle_guided setup session (expected message rfl)) ?_
      rintro _ _ rfl
      exact fun _ _ => ⟨{}, .calm trivial, rfl⟩
  exact Script.Guided.bind serving fun _ _ same => same

end Program

namespace Restart

variable (restart : Restart) {stage : Stage} {session : Session}

theorem keeps_calm {job : Job α} (calm : job.Each (Operation.Calm restart.server)) :
    job.Each (restart.rules.Keeps stage) :=
  Script.Each.mono calm fun _ calm _ _ => .calm calm

/-- When no session is found, the one before is known to be gone. -/
theorem live?_guided (early : stage = .looking ∨ stage = .gone) :
    (Session.live? restart.key).Guided restart.rules stage fun outcome after =>
      ∃ found, outcome = .ok found ∧ (found = none → after = .gone) := by
  rcases early with rfl | rfl
  · refine .ask_bind fun (found : Option Session) _ => ?_
    cases found with
    | none => exact ⟨_, .missing, none, rfl, fun _ => rfl⟩
    | some session =>
      refine ⟨_, .found, .ask_bind fun (alive : Bool) _ => ?_⟩
      cases alive with
      | true => exact ⟨_, .alive, some session, rfl, by simp⟩
      | false => exact ⟨_, .dead, .ask_bind fun _ _ => ⟨_, .drop, none, rfl, fun _ => rfl⟩⟩
  · refine .ask_bind fun (found : Option Session) _ => ⟨_, .calm trivial, ?_⟩
    cases found with
    | none => exact ⟨none, rfl, fun _ => rfl⟩
    | some session =>
      refine .ask_bind fun (alive : Bool) _ => ⟨_, .calm trivial, ?_⟩
      cases alive with
      | true => exact ⟨some session, rfl, by simp⟩
      | false => exact .ask_bind fun _ _ => ⟨_, .drop, none, rfl, fun _ => rfl⟩

/-- Documents are opened one after the other, and all of them unless one fails. -/
theorem openAll_guided (new : session.server = restart.server)
    (left : List (String × Document)) :
    (left.forM fun entry => session.sendOpen entry.1 entry.2).Guided restart.rules (.opening left)
      fun outcome after => outcome = .ok () → after = .opening [] := by
  induction left with
  | nil => exact fun _ => rfl
  | cons entry left ih =>
    have opening : (session.sendOpen entry.1 entry.2).Guided restart.rules
        (.opening (entry :: left)) fun outcome after =>
          outcome = .ok () → after = .opening left := by
      refine .ofOutcome_bind (by simp) fun uri named => ?_
      refine fun (outcome : Outcome Unit) _ => ?_
      cases outcome with
      | ok _ =>
        have peer : session.peer = .server restart.server := congrArg Peer.server new
        rw [peer]
        exact ⟨_, .tell named, fun _ => rfl⟩
      | error failure => exact ⟨_, .unheard, by rintro ⟨⟩⟩
    refine Job.Guided.bind opening (by simp) fun _ after opened => ?_
    rw [opened rfl]
    exact ih

theorem reopen_guided (keyed : session.key = restart.key)
    (new : session.server = restart.server) :
    session.reopen.Guided restart.rules .begun fun outcome after =>
      outcome = .ok () → after = .opened := by
  refine .holding .lock (.ask_bind fun (workspace : Workspace) _ => ⟨_, .read, ?_⟩)
  rw [keyed]
  refine (restart.openAll_guided new _).mono fun outcome after opened => ?_
  cases outcome with
  | ok _ =>
    rw [opened rfl]
    exact ⟨_, .finish, fun _ => rfl⟩
  | error failure => exact ⟨_, .unlock, by simp⟩

/-- A server that got so far was told of all documents. -/
theorem introduceAll_guided (keyed : session.key = restart.key)
    (new : session.server = restart.server) :
    (Session.introduceAll restart.setup session).Guided restart.rules .begun fun outcome after =>
      ∀ given, outcome = .ok given →
        after = .opened ∧ given.key = restart.key ∧ given.server = restart.server := by
  have introducing (options : Option Json) : (do
      let capabilities ← session.introduce restart.setup options
      session.confirm
      return capabilities : Job Json).Each (Operation.Calm restart.server) := by
    have calling : (session.introduce restart.setup options).Each
        (Operation.Calm restart.server) :=
      (Job.Each.ofOutcome _).bind fun _ => Job.Each.call _ trivial fun _ => trivial
    exact calling.bind fun _ => (Job.Each.notify fun _ => rfl).bind fun _ => trivial
  have ending (stage : Stage) (failure : Failure) :
      (session.endProcess >>= fun _ => (throw failure : Job Session)).Guided restart.rules stage
        fun outcome after => ∀ given, outcome = .ok given →
          after = .opened ∧ given.key = restart.key ∧ given.server = restart.server := by
    have calm : session.endProcess.Each (Operation.Calm restart.server) := by
      unfold Session.endProcess
      split
      · exact Job.Each.ask_bind trivial fun _ => trivial
      · trivial
    exact .keeping_bind (restart.keeps_calm calm) (by simp) fun _ => by rintro _ ⟨⟩
  refine .attempt_bind (Script.Each.guided (restart.keeps_calm (introducing _))) ?_
  rintro introduced _ rfl
  cases introduced with
  | error failure => exact ending _ _
  | ok capabilities =>
    refine .attempt_bind (restart.reopen_guided keyed new) fun opened after all => ?_
    cases opened with
    | error failure => exact ending _ _
    | ok _ =>
      rw [all rfl]
      rintro given ⟨⟩
      exact ⟨rfl, keyed, new⟩

theorem start_guided :
    (Session.start restart.setup restart.key).Guided restart.rules .gone fun outcome after =>
      ∀ session, outcome = .ok session →
        after = .opened ∧ session.key = restart.key ∧ session.server = restart.server := by
  refine .ask_bind fun extensions _ => ⟨_, .calm trivial, ?_⟩
  split
  · rintro _ ⟨⟩
  · rintro _ ⟨⟩
  split
  · rintro _ ⟨⟩
  refine .ask_bind fun (spawned : Except SystemError ServerId) expected => ?_
  cases spawned with
  | error error => exact ⟨_, .refused, by simp⟩
  | ok server =>
    obtain rfl : server = restart.server := expected server rfl rfl rfl
    refine ⟨_, .spawn, .ask_bind fun _ _ => ⟨_, .calm trivial, ?_⟩⟩
    exact restart.introduceAll_guided rfl rfl

/-- A session is registered only when all documents have been opened on its server. -/
theorem starter_guided :
    restart.starter.Guided restart.rules .looking fun _ _ => True := by
  have starting : (Session.startHeld restart.key
      (Session.start restart.setup restart.key)).Guided restart.rules .gone fun _ _ => True := by
    refine (restart.live?_guided (.inr rfl)).bind (fun _ _ _ => trivial) ?_
    rintro found after ⟨_, ⟨⟩, none⟩
    cases found with
    | some session => trivial
    | none =>
      rw [none rfl]
      refine restart.start_guided.bind (fun _ _ _ => trivial) fun session after ready => ?_
      obtain ⟨rfl, keyed, new⟩ := ready session rfl
      exact .ask_bind fun _ _ => ⟨_, .register keyed new, trivial⟩
  have getting : (Session.getOrStart restart.key
      (Session.start restart.setup restart.key)).Guided restart.rules .looking
        fun _ _ => True := by
    refine (restart.live?_guided (.inl rfl)).bind (fun _ _ _ => trivial) ?_
    rintro found after ⟨_, ⟨⟩, none⟩
    cases found with
    | some session => trivial
    | none =>
      rw [none rfl]
      exact .holding .lock (starting.mono fun _ _ _ => ⟨_, .unlock, trivial⟩)
  exact getting.bind (fun _ _ _ => trivial) fun _ _ _ => trivial

end Restart

end LanguageBridge
