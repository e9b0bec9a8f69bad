import LanguageBridge.Proofs.Shutdown.Charges

/-!
Every thread of the program goes by the rules about servers that are started and stopped, and has
nothing in hand when it comes to its end.
-/
namespace LanguageBridge

variable {α : Type} {work : Work} {setup : Setup} {workspace : Workspace} {file : String}
  {uri : Uri} {key : SessionKey} {session : Session}

namespace Workspace.Named

theorem track (named : workspace.Named) (name : Uri.ofFileName file = .ok uri)
    (document : Document) : (workspace.track file document).Named := by
  intro entry member
  rcases Table.mem_put member with rfl | old
  · exact ⟨uri, name⟩
  · exact named entry old

theorem modify (named : workspace.Named) (file : String) (change : Document → Document) :
    ({ workspace with documents := workspace.documents.modify file change } :
      Workspace).Named := by
  intro entry member
  dsimp only [Table.modify] at member
  split at member
  · rename_i document found
    obtain ⟨uri, name⟩ := named _ (Table.mem_of_find? found)
    exact named.track name (change document) entry member
  · exact named entry member

theorem erase (named : workspace.Named) (file : String) :
    ({ workspace with documents := workspace.documents.erase file } : Workspace).Named :=
  fun entry member => named entry (List.mem_filter.mp member).1

end Workspace.Named

/-- A document is tracked under a name that its server is told. -/
theorem Session.syncHeld_steady (session : Session) (name : Uri.ofFileName file = .ok uri)
    (text : Text) : (session.syncHeld uri file text).Steady work := by
  refine .workspace_bind fun workspace named => ?_
  split
  · split
    · exact .setWorkspace_bind (named.track name _) <|
        (Job.Steady.notify (by decide)).bind fun _ => .pure _
    · exact .pure _
  · exact (Job.Steady.notify (by decide)).bind fun _ =>
      .setWorkspace_bind (named.track name _) (.pure _)

namespace Context

variable (context : Context)

theorem attached_steady : context.attached.Steady work := by
  unfold attached
  split
  · exact .pure _
  · exact .throw _

theorem sync_steady (file : String) (text : Text) : (context.sync file text).Steady work := by
  refine context.attached_steady.bind fun session => ?_
  cases name : Uri.ofFileName file with
  | error failure => exact .throw _
  | ok uri => exact .holding trivial trivial (session.syncHeld_steady name text)

theorem didSave_steady (file : String) : (context.didSave file).Steady work := by
  refine context.attached_steady.bind fun session => .holding trivial trivial ?_
  refine .workspace_bind fun workspace named => ?_
  split
  · exact .pure _
  · exact .setWorkspace_bind (named.modify file _) <|
      (Job.Steady.ofOutcome _).bind fun _ => .notify (by decide)

theorem didClose_steady (file : String) : (context.didClose file).Steady work := by
  refine context.attached_steady.bind fun session => .holding trivial trivial ?_
  refine .workspace_bind fun workspace named => ?_
  have forgetting (count : Nat) (diagnostics : Table String (List Diagnostic)) :
      (Job.ask (.setWorkspace { documents := workspace.documents.erase file, diagnostics }) >>=
        fun _ => (pure count : Job Nat)).Steady work :=
    .setWorkspace_bind (named.erase file) (.pure _)
  dsimp only
  split
  · refine .setWorkspace_bind (named.erase file) ((Job.Steady.ofOutcome _).bind fun _ => ?_)
    exact (Job.Steady.notify (by decide)).bind fun _ => forgetting _ _
  · exact forgetting _ _

end Context

namespace Editor

theorem markDirty_steady (file : String) : (markDirty file).Steady work :=
  .holding trivial trivial <| .workspace_bind fun _ named =>
    .setWorkspace_bind (named.modify file _) (.pure _)

theorem writeFile_steady (context : Context) (planned : PlannedFile) :
    (writeFile context planned).Steady work := by
  refine (Job.Steady.of_ordinary none (loadBuffer_ordinary _)).bind fun buffer => ?_
  have setting : (setBufferLines buffer planned.file planned.applied.lines).Each
      (Operation.Ordinary none) := Job.Each.notify (by simp [Operation.Ordinary])
  refine (Job.Steady.of_ordinary _ setting).bind fun _ => ?_
  exact (context.sync_steady _ _).bind fun _ => markDirty_steady _

theorem applyEdit_steady (context : Context) (edit : WorkspaceEdit)
    (cursor : Option CursorPlace) : (applyEdit context edit cursor).Steady work := by
  refine (Job.Steady.ofOutcome _).bind fun files => ?_
  split
  · exact .pure _
  refine .workspace_bind fun workspace _ => .ask_bind trivial fun tree => ?_
  refine (Job.Steady.ofOutcome _).bind fun planned => ?_
  refine (Job.Steady.forM (writeFile_steady context) _).bind fun _ => ?_
  split
  · exact .pure _
  · split
    · exact .of_ordinary none (execute_ordinary _)
    · exact .pure _

end Editor

/-! The start of a session. -/

namespace Session

theorem live?_steady (key : SessionKey) : (live? key).Steady work := by
  refine .ask_bind trivial fun (found : Option Session) => ?_
  cases found with
  | none => exact .pure _
  | some session =>
    refine .ask_bind trivial fun (alive : Bool) => ?_
    cases alive with
    | true => exact .pure _
    | false => exact .ask_bind trivial fun _ => .pure _

/-- Under the lock of a key's starts a thread finds out that there is a session, or that there is
none whose server is there. -/
theorem live?_entered (key : SessionKey) :
    (live? key).Guided (Charge.rules work) { launch := .entered key } fun outcome after =>
      (∃ session, outcome = .ok (some session) ∧ after = { launch := .seen key session }) ∨
        outcome = .ok none ∧ after = { launch := .vacant key } := by
  refine .ask_bind fun (found : Option Session) _ => ?_
  cases found with
  | none => exact ⟨_, .miss rfl, .inr ⟨rfl, rfl⟩⟩
  | some session =>
    refine ⟨_, .find rfl, .ask_bind fun (alive : Bool) _ => ?_⟩
    cases alive with
    | true => exact ⟨_, .aside trivial, .inl ⟨session, rfl, rfl⟩⟩
    | false =>
      exact ⟨_, .gone rfl, .ask_bind fun _ _ => ⟨_, .aside trivial, .inr ⟨rfl, rfl⟩⟩⟩

end Session

/-- How a job on a server that is being started leaves it: it was told that it is initialized, or
the job fails and it cannot be told any more or was not told. -/
def Charge.Starts (key : SessionKey) (server : ServerId) : Outcome α → Charge → Prop
  | .ok _, after => after = { launch := .told key server }
  | .error _, after => after = { launch := .spawned key server }

/-- How the start of a session leaves what a thread has in hand: a session that was started is to be
put in use, and otherwise nothing is. -/
def Charge.Launches (key : SessionKey) : Outcome Session → Charge → Prop
  | .ok session, after => after = { launch := .told key session.server }
  | .error _, after => ∃ launch : Launch, after = { launch } ∧ launch.key? = some key ∧ launch.Over

namespace Session

theorem confirm_starts :
    session.confirm.Guided (Charge.rules work) { launch := .spawned key session.server }
      (Charge.Starts key session.server) := by
  intro (outcome : Outcome Unit) _
  cases outcome with
  | ok _ => exact ⟨_, .confirm rfl, rfl⟩
  | error failure => exact ⟨_, .unheard, rfl⟩

theorem introduced_starts (options : Option Json) : Job.Guided (Charge.rules work) (do
      let capabilities ← session.introduce setup options
      session.confirm
      return capabilities) { launch := .spawned key session.server }
    (Charge.Starts key session.server) := by
  have calling : (session.introduce setup options).Each Operation.Aside :=
    (Job.Each.ofOutcome _).bind fun _ => Job.Each.call _ (by decide : _ ≠ _) fun _ => trivial
  refine .keeping_bind (calling.mono fun _ => Charge.keeps_of_aside) (fun _ => rfl) ?_
  intro capabilities
  exact .bind confirm_starts (fun _ _ left => left) fun _ _ left => left

theorem openAll_starts {entries : List (String × Document)}
    (named : ∀ entry ∈ entries, ∃ uri, Uri.ofFileName entry.1 = .ok uri) :
    (entries.forM fun entry => session.sendOpen entry.1 entry.2).Guided (Charge.rules work)
      { launch := .told key session.server } (Charge.Starts key session.server) := by
  induction entries with
  | nil => rfl
  | cons entry rest ih =>
    obtain ⟨⟨uri, name⟩, others⟩ := List.forall_mem_cons.mp named
    have opening : (session.sendOpen entry.1 entry.2).Guided (Charge.rules work)
        { launch := .told key session.server } (Charge.Starts key session.server) := by
      refine .ofOutcome_bind (fun failure failed => ?_) fun uri _ => ?_
      · rw [name] at failed
        cases failed
      intro (outcome : Outcome Unit) _
      cases outcome with
      | ok _ => exact ⟨_, .aside (by decide : _ ∧ _), rfl⟩
      | error failure => exact ⟨_, .lose rfl, rfl⟩
    refine .bind opening (fun _ _ left => left) ?_
    rintro _ _ rfl
    exact ih others

/-- Documents that are found have names, so that opening them fails only when the server is gone. -/
theorem reopen_starts : session.reopen.Guided (Charge.rules work)
    { launch := .told key session.server } (Charge.Starts key session.server) := by
  refine .holding (.aside trivial) (.ask_bind fun workspace named => ⟨_, .aside trivial, ?_⟩)
  refine .mono (openAll_starts fun entry member => named entry (List.mem_filter.mp member).1) ?_
  exact fun outcome after left => ⟨after, .aside trivial, left⟩

theorem giveUp_launches {server : ServerId} (failure : Failure) :
    (session.endProcess >>= fun _ => (throw failure : Job Session)).Guided (Charge.rules work)
      { launch := .spawned key server } (Charge.Launches key) := by
  have ending : session.endProcess.Each
      ((Charge.rules work).Keeps { launch := .spawned key server }) :=
    session.endProcess_ordinary.mono fun _ ordinary =>
      Charge.keeps_of_aside (.of_ordinary none ordinary)
  have left (failure : Failure) :
      Charge.Launches key (.error failure) { launch := .spawned key server } :=
    ⟨_, rfl, rfl, trivial⟩
  exact .keeping_bind ending left fun _ => left failure

theorem introduceAll_launches : (introduceAll setup session).Guided (Charge.rules work)
    { launch := .spawned key session.server } (Charge.Launches key) := by
  refine .attempt_bind (introduced_starts _) fun introduced after started => ?_
  cases introduced with
  | error failure =>
    cases started
    exact giveUp_launches _
  | ok capabilities =>
    cases started
    refine .attempt_bind reopen_starts fun reopened after started => ?_
    cases reopened with
    | error failure =>
      cases started
      exact giveUp_launches _
    | ok _ =>
      cases started
      rfl

theorem start_launches : (start setup key).Guided (Charge.rules work) { launch := .vacant key }
    (Charge.Launches key) := by
  have refused (failure : Failure) : Job.Guided (Charge.rules work) (throw failure)
      { launch := .vacant key } (Charge.Launches key) := ⟨_, rfl, rfl, trivial⟩
  refine .ask_bind fun (extensions : Extensions) _ => ⟨_, .aside trivial, ?_⟩
  split
  · exact refused _
  · exact refused _
  split
  · exact refused _
  refine .ask_bind fun (spawned : Except SystemError ServerId) _ => ?_
  cases spawned with
  | error error => exact ⟨_, .refuse, refused _⟩
  | ok server =>
    exact ⟨_, .spawn rfl, .ask_bind fun _ _ => ⟨_, .aside trivial, introduceAll_launches⟩⟩

/-- A thread lets go of the lock of a key's starts only when no server is left that was told that it
is initialized and is not in use. -/
theorem getOrStart_steady (setup : Setup) (key : SessionKey) :
    (getOrStart key (start setup key)).Steady work := by
  refine (live?_steady key).bind fun found => ?_
  cases found with
  | some session => exact .pure _
  | none =>
    have leaving {launch : Launch} (held : launch.key? = some key)
        (past : launch.Over) : ∃ freed, (Charge.rules work).turns { launch }
          (.release (.starting key)) () freed ∧ freed = ({} : Charge) :=
      ⟨_, .leave held past, rfl⟩
    refine Job.Guided.holding (.enter rfl) (.bind (live?_entered key) ?_ ?_)
    · rintro failure after (⟨_, impossible, _⟩ | ⟨impossible, _⟩) <;> cases impossible
    rintro _ _ (⟨session, ⟨⟩, rfl⟩ | ⟨⟨⟩, rfl⟩)
    · exact leaving rfl trivial
    refine .bind start_launches ?_ ?_
    · rintro failure _ ⟨launch, rfl, held, past⟩
      exact leaving held past
    · rintro session _ rfl
      exact .ask_bind fun _ _ => ⟨_, .register rfl, leaving rfl trivial⟩

/-- What is queued is sent without starting anything. -/
theorem sendAll_steady (session : Session) (contents : List BufferContent) :
    (session.sendAll contents).Steady work := by
  induction contents with
  | nil => exact .pure _
  | cons content rest ih =>
    refine (Context.sync_steady _ content.file content.text).attempt.bind fun sent => ?_
    cases sent with
    | ok _ => exact ih
    | error failure =>
      exact (Job.Steady.of_ordinary none
        (Job.Each.ofScript (Editor.report_ordinary failure))).bind fun _ => ih

theorem flushQueue_steady (session : Session) : session.flushQueue.Steady work := by
  refine .holding trivial trivial (.ask_bind trivial fun queued => ?_)
  split
  · exact .pure _
  · exact .ask_bind trivial fun _ => session.sendAll_steady _

theorem startQueued_steady (setup : Setup) (key : SessionKey) :
    (startQueued setup key).Steady work := by
  refine (getOrStart_steady setup key).attempt.bind fun started => ?_
  cases started with
  | ok session => exact session.flushQueue_steady
  | error failure =>
    exact .of_ordinary none <| (discardQueue_ordinary key).bind fun _ =>
      Job.Each.ofScript (Editor.report_ordinary failure)

theorem takeIn_steady (key : SessionKey) (content : BufferContent) :
    (takeIn key content).Steady work := by
  refine .holding trivial trivial (.ask_bind trivial fun queued => ?_)
  split
  · exact .ask_bind trivial fun _ => .pure _
  · refine (live?_steady key).bind fun found => ?_
    split
    · exact (Context.sync_steady _ _ _).bind fun _ => .pure _
    · exact .ask_bind trivial fun _ => .pure _

theorem keyOf_steady (language file : String) : (keyOf language file).Steady work :=
  .of_ordinary none (keyOf_ordinary _ _)

theorem syncContent_steady (content : BufferContent) : (syncContent content).Steady work := by
  refine (keyOf_steady _ _).bind fun key => (takeIn_steady key content).bind fun fresh => ?_
  split
  · exact .ask_bind trivial fun _ => .pure _
  · exact .pure _

theorem contextFor_steady (setup : Setup) (context : Context) :
    (contextFor setup context).Steady work :=
  (keyOf_steady _ _).bind fun key => (getOrStart_steady setup key).bind fun session =>
    session.flushQueue_steady.bind fun _ => .pure _

theorem trackedContext?_steady (file : String) : (trackedContext? file).Steady work := by
  refine .ask_bind trivial fun (workspace : Workspace) => ?_
  split
  · exact .pure _
  · refine (live?_steady _).bind fun found => ?_
    split <;> exact .pure _

/-- A thread for the editor that takes a session out of use leaves it to one that stops it. -/
theorem close_steady (key : SessionKey) : (close key).Steady .serveEditor := by
  refine Job.Guided.ask_bind fun (found : Option Session) _ => ⟨_, .take rfl, ?_⟩
  cases found with
  | none => rfl
  | some session => exact fun _ _ => ⟨_, .stop rfl, rfl⟩

theorem stopAll_guided (sessions : List Session) :
    (stopAll sessions).Guided (Charge.rules work) { debts := sessions }
      fun _ after => after = {} := by
  induction sessions with
  | nil => rfl
  | cons session rest ih =>
    refine .ask_bind fun thread _ => ⟨_, .stop rfl, .bind ih (fun _ _ left => left) ?_⟩
    exact fun _ _ left => left

theorem shutdownAll_steady : shutdownAll.Steady .serveEditor := by
  refine Job.Guided.ask_bind fun (sessions : List Session) _ => ⟨_, .drain rfl, ?_⟩
  refine .bind (stopAll_guided sessions) (fun _ _ left => left) ?_
  rintro threads _ rfl
  have joining (thread : Nat) : (Operation.join thread).Aside := trivial
  exact Job.Steady.forM (fun thread => .ask_bind (joining thread) fun _ => .pure _) threads

end Session

namespace Editor

theorem asking_steady {cursor : CursorPlace} {next : Context → Job Unit}
    (rest : ∀ context, (next context).Steady work) :
    (cursorContext setup cursor >>= next).Steady work := by
  refine .bind ((Session.contextFor_steady setup _).bind fun context => ?_) rest
  split
  · exact (context.sync_steady _ _).bind fun _ => .pure _
  · exact .pure _

theorem goToDefinition_steady (cursor : CursorPlace) :
    (goToDefinition setup cursor).Steady work := by
  refine asking_steady fun context => .of_ordinary _ <| (context.definition_ordinary cursor).bind ?_
  intro found
  split
  · trivial
  · split
    · trivial
    · exact (jumpTarget_ordinary _).bind fun _ => execute_ordinary _
    · exact showLocations_ordinary _ _

theorem listReferences_steady (cursor : CursorPlace) :
    (listReferences setup cursor).Steady work :=
  asking_steady fun context => .of_ordinary _ <| (context.references_ordinary cursor).bind fun _ =>
    showLocations_ordinary _ _

theorem hover_steady (cursor : CursorPlace) : (hover setup cursor).Steady work := by
  refine .ask_bind trivial fun (again : Option (List FloatEffect)) => ?_
  cases again with
  | some effects => exact .of_ordinary none (carryOutAll_ordinary effects)
  | none =>
    refine asking_steady fun context => .of_ordinary _ <| (context.hover_ordinary cursor).bind ?_
    intro found
    split
    · trivial
    · exact showHover_ordinary cursor _

theorem rename_steady (request : RenameRequest) : (rename setup request).Steady work := by
  refine asking_steady fun context => ?_
  refine (Job.Steady.of_ordinary _ (context.rename_ordinary request)).bind fun found => ?_
  split
  · exact applyEdit_steady context _ _
  · exact .pure _

theorem listDocumentSymbols_steady (cursor : CursorPlace) :
    (listDocumentSymbols setup cursor).Steady work := by
  refine asking_steady fun context => .of_ordinary _ <|
    (context.documentSymbols_ordinary cursor.file).bind fun found => ?_
  split
  · trivial
  · exact (Job.Each.ofOutcome _).bind fun _ => showLocations_ordinary _ _

theorem listWorkspaceSymbols_steady (search : SymbolSearch) :
    (listWorkspaceSymbols setup search).Steady work :=
  asking_steady fun context => .of_ordinary _ <|
    (context.workspaceSymbols_ordinary search.query).bind fun _ => showLocations_ordinary _ _

/-- An action whose params are read first. -/
theorem reading_steady {shaped : Shaped α} {job : α → Job Unit}
    (steady : ∀ value, (job value).Steady work) :
    (do job (← Job.ofShaped shaped); return Json.null : Job Json).Steady work :=
  (Job.Steady.ofOutcome _).bind fun value => (steady value).bind fun _ => .pure _

theorem act_steady (method : String) (params : Json) : (act setup method params).Steady work := by
  unfold act
  split
  · exact reading_steady goToDefinition_steady
  split
  · exact reading_steady listReferences_steady
  split
  · exact reading_steady hover_steady
  split
  · exact reading_steady rename_steady
  split
  · exact reading_steady listDocumentSymbols_steady
  split
  · exact reading_steady listWorkspaceSymbols_steady
  split
  · exact reading_steady fun cursor => .of_ordinary none (explain_ordinary cursor)
  split
  · exact (Job.Steady.ofOutcome _).bind fun _ => .ask_bind trivial fun _ => .pure _
  split
  · exact (Job.Steady.ofOutcome _).bind fun _ => .ask_bind trivial fun _ => .pure _
  · exact .pure _

theorem documentSaved_steady (name : DocumentName) : (documentSaved name).Steady work := by
  refine (Session.trackedContext?_steady _).bind fun found => ?_
  split
  · exact Context.didSave_steady _ _
  · exact .pure _

theorem documentClosed_steady (name : DocumentName) :
    (documentClosed name).Steady .serveEditor := by
  refine (Session.trackedContext?_steady _).bind fun found => ?_
  split
  · exact .pure _
  · refine (Context.didClose_steady _ _).bind fun remaining => ?_
    split
    · exact (Context.attached_steady _).bind fun session =>
        (Session.close_steady _).bind fun _ => .pure _
    · exact .pure _

theorem handleEvent_steady (method : String) (params : Json) :
    (handleEvent method params).Steady .serveEditor := by
  have floating (shaped : Shaped FloatEvent) : Job.Steady .serveEditor (do
      takeFloatEvent (← Job.ofShaped shaped)) :=
    (Job.Steady.ofOutcome _).bind fun event =>
      .of_ordinary none (takeFloatEvent_ordinary event)
  unfold handleEvent
  split
  · exact (Job.Steady.ofOutcome _).bind Session.syncContent_steady
  split
  · exact (Job.Steady.ofOutcome _).bind documentSaved_steady
  split
  · exact (Job.Steady.ofOutcome _).bind documentClosed_steady
  split
  · exact floating _
  split
  · exact floating _
  split
  · exact floating _
  split
  · exact Session.shutdownAll_steady
  · exact .pure _

end Editor

namespace Server

theorem publish_steady (published : PublishedDiagnostics) :
    (publish setup published).Steady work := by
  refine (Job.Steady.ofOutcome _).bind fun file => .bind ?_ fun lines => ?_
  · exact .holding trivial trivial <| .workspace_bind fun workspace named =>
      .setWorkspace_bind named <| .ask_bind trivial fun _ => .pure _
  · split
    · exact .of_ordinary none (Job.Each.notify (by simp [Operation.Ordinary]))
    · exact .pure _

theorem handleNotification_steady (method : String) (params : Json) :
    (handleNotification setup session method params).Steady work := by
  unfold handleNotification
  split
  · exact (Job.Steady.ofOutcome _).bind fun notice => .ask_bind trivial fun _ => .pure _
  split
  · exact (Job.Steady.ofOutcome _).bind fun published => publish_steady published
  split
  · refine (Job.Steady.ofOutcome _).bind fun progress => ?_
    split
    · exact .of_ordinary none (Editor.showMessage_ordinary _ _)
    · exact .pure _
  split
  · exact (Job.Steady.ofOutcome _).bind fun notice =>
      .of_ordinary none (Editor.showMessage_ordinary _ _)
  · exact .pure _

theorem resultOf_steady (method : String) (params : Json) :
    (resultOf session method params).Steady work := by
  unfold resultOf
  split
  · split
    · refine Script.Steady.bind (Editor.applyEdit_steady (Context.ofSession session) _ none) ?_
      intro outcome
      cases outcome with
      | ok _ => rfl
      | error failure =>
        exact .of_ordinary none ((Editor.report_ordinary failure).bind fun _ => trivial)
    · rfl
  · rfl

theorem handle_steady (message : Message) : (handle setup session message).Steady work := by
  have calling (handler : String) (params : Json) :
      (Editor.callHandler handler params).Steady work :=
    Script.Steady.of_aside ⟨trivial, fun _ => trivial⟩
  refine .ask_bind trivial fun (extensions : Extensions) => ?_
  cases message with
  | call versioned id method params =>
    refine .bind (Script.Steady.bind (resultOf_steady method _) fun _ => rfl) fun result => ?_
    have replying : (Job.reply session.peer id result).Steady work :=
      Script.Steady.of_aside ⟨trivial, fun _ => trivial⟩
    split
    · exact (calling _ _).attempt.bind fun _ => replying
    · exact replying
  | notification versioned method params =>
    refine (handleNotification_steady method _).bind fun _ => ?_
    split
    · exact calling _ _
    · exact .pure _
  | response answer => exact .pure _

end Server

namespace Program

theorem runAction_steady (id : Option RequestId) (method : String) (params : Json) :
    (runAction setup id method params).Steady work := by
  refine Script.Steady.bind (Editor.act_steady method params) fun outcome => ?_
  cases outcome with
  | ok result => exact .of_ordinary none (replyToEditor_ordinary id result)
  | error failure => exact .of_ordinary none (conceding_ordinary id failure)

theorem dispatch_steady (id : Option RequestId) (method : String) (params : Json) :
    (dispatch id method params).Steady .serveEditor := by
  unfold dispatch
  split
  · refine Script.Steady.bind (Editor.handleEvent_steady method params) fun outcome => ?_
    cases outcome with
    | ok _ => exact .of_ordinary none (replyToEditor_ordinary id _)
    | error failure => exact .of_ordinary none (conceding_ordinary id failure)
  · exact .of_aside ⟨trivial, fun _ => trivial⟩

theorem serveEditor_steady : serveEditor.Steady .serveEditor := by
  have onward : Script.Steady .serveEditor (do
      let _ ← Script.ask (.fork .serveEditor)
      return ()) := .of_aside ⟨trivial, fun _ => trivial⟩
  refine fun (received : Option Message) _ => ⟨_, .aside trivial, ?_⟩
  cases received with
  | none =>
    change Script.Steady _ (Session.shutdownAll.run.bind _)
    exact Script.Steady.bind Session.shutdownAll_steady fun _ => rfl
  | some message =>
    cases message with
    | call versioned id method params => exact (dispatch_steady _ _ _).bind fun _ => onward
    | notification versioned method params => exact (dispatch_steady _ _ _).bind fun _ => onward
    | response answer => exact onward

theorem serveSession_steady : (serveSession setup session).Steady work := by
  refine fun (received : Option Message) _ => ⟨_, .aside trivial, ?_⟩
  cases received with
  | none => rfl
  | some message =>
    change Script.Steady _ ((Server.handle setup session message).run.bind _)
    exact Script.Steady.bind (Server.handle_steady message) fun _ =>
      .of_aside ⟨trivial, fun _ => trivial⟩

/-- A thread that stops a server may tell it to end. -/
theorem stop_steady (session : Session) : session.stop.Steady (.stopSession session) := by
  let keeps := (Charge.rules (.stopSession session)).Keeps {}
  have stops : (Work.stopSession session).Stops session.server := ⟨session, rfl, rfl⟩
  have asking : (Context.ofSession session).shutdown.Each keeps := by
    refine (Context.attached_bind_each fun _ held => ?_).bind fun _ => trivial
    cases held
    exact Job.Each.call _ (fun _ _ => .shutDown stops) fun _ _ _ => .aside trivial
  have telling : (Context.ofSession session).exit.Each keeps := by
    refine Context.attached_bind_each fun _ held => ?_
    cases held
    exact Job.Each.notify fun _ _ => .exit stops
  refine .bind (.attempt (Script.Each.guided (asking.bind fun _ => telling))) fun _ => ?_
  exact .of_ordinary none session.endProcess_ordinary

/-- Every thread has nothing in hand when it begins and when it comes to its end. -/
theorem scriptOf_steady (setup : Setup) (work : Work) : (scriptOf setup work).Steady work := by
  cases work with
  | serveEditor => exact serveEditor_steady.bind fun _ => rfl
  | runAction id method params => exact (runAction_steady id method params).bind fun _ => rfl
  | startQueued key => exact Script.Steady.bind (Session.startQueued_steady setup key) fun _ => rfl
  | serveSession session => exact serveSession_steady.bind fun _ => rfl
  | stopSession session => exact Script.Steady.bind (stop_steady session) fun _ => rfl

end Program

end LanguageBridge
