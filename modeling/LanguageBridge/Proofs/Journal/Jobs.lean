import LanguageBridge.Proofs.Journal.Postures

/-!
The jobs with documents, sessions, servers and the editor go by any licence: whatever they do, they
hold the documents only for what is prompt, start a thread for the messages of every server they
start, and show failures only about what was queued.
-/
namespace LanguageBridge

variable {licence : Licence} {queue : Bool} (setup : Setup) (session : Session) (key : SessionKey)
  (context : Context)

namespace Context

theorem attached_behaves : context.attached.Behaves licence queue := by
  unfold attached
  split
  · exact .pure _
  · exact .throw _

theorem positionMembers_behaves (file : String) (position : EditorPosition) :
    (positionMembers file position).Behaves licence queue :=
  (Job.Behaves.ofOutcome _).bind fun _ =>
    .ask_bind trivial (fun _ => rfl) fun _ => .pure _

theorem request_behaves {α : Type} (method : String) (params : Json) (read : Json → Shaped α) :
    (context.request method params read).Behaves licence queue :=
  context.attached_behaves.bind fun _ => .call_server read

theorem definition_behaves (cursor : CursorPlace) :
    (context.definition cursor).Behaves licence queue :=
  (positionMembers_behaves ..).bind fun _ => context.request_behaves ..

theorem references_behaves (cursor : CursorPlace) :
    (context.references cursor).Behaves licence queue :=
  (positionMembers_behaves ..).bind fun _ => (context.request_behaves ..).bind fun _ => .pure _

theorem hover_behaves (cursor : CursorPlace) : (context.hover cursor).Behaves licence queue :=
  (positionMembers_behaves ..).bind fun _ => context.request_behaves ..

theorem rename_behaves (request : RenameRequest) :
    (context.rename request).Behaves licence queue :=
  (positionMembers_behaves ..).bind fun _ => context.request_behaves ..

theorem documentSymbols_behaves (file : String) :
    (context.documentSymbols file).Behaves licence queue :=
  (Job.Behaves.ofOutcome _).bind fun _ => context.request_behaves ..

theorem workspaceSymbols_behaves (query : String) :
    (context.workspaceSymbols query).Behaves licence queue :=
  (context.request_behaves ..).bind fun _ => .pure _

theorem shutdown_behaves : context.shutdown.Behaves licence queue :=
  (context.request_behaves ..).bind fun _ => .pure _

theorem exit_behaves : context.exit.Behaves licence queue :=
  context.attached_behaves.bind fun _ => .notify_server _ _ _

theorem syncHeld_prompt (uri : Uri) (file : String) (text : Text) :
    (session.syncHeld uri file text).Each (Operation.Prompt .exclusive) := by
  refine Job.Each.ask_bind trivial fun workspace => ?_
  split
  · split
    · exact Job.Each.ask_bind rfl fun _ => (Job.Each.notify trivial).bind fun _ => trivial
    · trivial
  · exact (Job.Each.notify trivial).bind fun _ => Job.Each.ask_bind rfl fun _ => trivial

theorem sync_behaves (file : String) (text : Text) :
    (context.sync file text).Behaves licence queue :=
  context.attached_behaves.bind fun session => (Job.Behaves.ofOutcome _).bind fun uri =>
    .holding_documents (syncHeld_prompt session uri file text)

theorem didSave_behaves (file : String) : (context.didSave file).Behaves licence queue := by
  refine context.attached_behaves.bind fun session => .holding_documents ?_
  refine Job.Each.ask_bind trivial fun workspace => ?_
  split
  · trivial
  · exact Job.Each.ask_bind rfl fun _ => (Job.Each.ofOutcome _).bind fun _ =>
      Job.Each.notify trivial

theorem didClose_behaves (file : String) : (context.didClose file).Behaves licence queue := by
  refine context.attached_behaves.bind fun session => .holding_documents ?_
  refine Job.Each.ask_bind trivial fun workspace => ?_
  have forgetting (changed : Workspace) (count : Nat) :
      (Job.ask (.setWorkspace changed) >>= fun _ => (pure count : Job Nat)).Each
        (Operation.Prompt .exclusive) :=
    Job.Each.ask_bind rfl fun _ => trivial
  dsimp only
  split
  · refine Job.Each.ask_bind rfl fun _ => (Job.Each.ofOutcome _).bind fun _ => ?_
    exact (Job.Each.notify trivial).bind fun _ => forgetting ..
  · exact forgetting ..

end Context

namespace Editor

theorem execute_behaves (commands : List Command) : (execute commands).Behaves licence queue :=
  (Job.Behaves.call _ rfl).bind fun _ => .pure _

theorem jump_behaves (target : FilePosition) : (jump context target).Behaves licence queue :=
  execute_behaves _

theorem notify_behaves {method : String} (params : Json) (other : method ≠ "vim#show_message") :
    (Job.notify .editor method params).Behaves licence queue := by
  refine .notify fun alarms => ?_
  rw [Operation.alarm?_of_ne params other] at alarms
  cases alarms

theorem showScratch_behaves (preview : Preview) : (showScratch preview).Behaves licence queue :=
  notify_behaves _ (by decide)

theorem showLocations_behaves (title : String) (locations : List Location) :
    (showLocations setup title locations).Behaves licence queue := by
  unfold showLocations
  split
  · exact .pure _
  · refine .ask_bind trivial (fun _ => rfl) fun workspace =>
      .ask_bind trivial (fun _ => rfl) fun tree => ?_
    exact (Job.Behaves.ofOutcome _).bind fun items => notify_behaves _ (by decide)

theorem jumpTarget_behaves (location : Location) :
    (jumpTarget location).Behaves licence queue :=
  .ask_bind trivial (fun _ => rfl) fun _ => .ask_bind trivial (fun _ => rfl) fun _ => .ofOutcome _

theorem carryOut_behaves (effect : FloatEffect) : (carryOut effect).Behaves licence queue := by
  cases effect with
  | destroy surface => exact notify_behaves _ (by decide)
  | wipe buffer => exact execute_behaves _
  | focus window => exact execute_behaves _

/-- A thread that has an effect to carry out does so. -/
theorem carryOut_carries (effect : FloatEffect) :
    (carryOut effect).Guided licence.rules { queue, effect := some effect } fun _ after =>
      after = .calm queue := by
  have executing (command : Command)
      (tells : effect.telling = .call .editor "execute" (.arr [command.toJson])) :
      (execute [command]).Guided licence.rules { queue, effect := some effect } fun _ after =>
        after = .calm queue := by
    refine Job.Guided.bind (Job.Behaves.called _ rfl (.carry tells)) ?_ ?_
    · rintro failure _ rfl
      rfl
    · rintro result _ rfl
      rfl
  cases effect with
  | destroy surface => exact fun _ _ => ⟨_, ⟨.carry rfl, rfl⟩, rfl⟩
  | wipe buffer => exact executing _ rfl
  | focus window => exact executing _ rfl

/-- A thread that has effects to carry out begins with the first. -/
theorem carryOutAll_carries (effects : List FloatEffect) :
    (carryOutAll effects).Guided licence.rules { queue, effect := effects.head? } fun _ after =>
      after = .calm queue := by
  cases effects with
  | nil => rfl
  | cons effect rest =>
    refine Job.Guided.bind (carryOut_carries effect) ?_ ?_
    · rintro failure _ rfl
      rfl
    · rintro _ _ rfl
      exact Job.Behaves.forM carryOut_behaves rest

theorem loadBuffer_behaves (file : String) : (loadBuffer file).Behaves licence queue := by
  refine (Job.Behaves.call _ rfl).bind fun buffer => ?_
  split
  · exact (Job.Behaves.throw _).bind fun _ => .pure _
  · exact .pure _

theorem setBufferLines_behaves (buffer : Nat) (file : String) (lines : List Text) :
    (setBufferLines buffer file lines).Behaves licence queue :=
  notify_behaves _ (by decide)

theorem showDiagnostics_behaves (file : String) (shown : List ShownDiagnostic) :
    (showDiagnostics setup file shown).Behaves licence queue :=
  notify_behaves _ (by decide)

theorem callHandler_behaves (handler : String) (params : Json) :
    (callHandler handler params).Behaves licence queue :=
  notify_behaves _ (by decide)

/-- Messages to the user are failures at most under a licence. -/
theorem showMessage_behaves (level : MessageLevel) (message : String)
    (reports : licence.reports = true ∨ queue = true) :
    (showMessage level message).Behaves licence queue :=
  .notify fun _ => reports

theorem report_behaves (failure : Failure) (reports : licence.reports = true ∨ queue = true) :
    (report failure).Behaves licence queue :=
  Script.Behaves.bind (showMessage_behaves _ _ reports) fun _ => rfl

theorem takeFloatEvent_behaves (event : FloatEvent) :
    (takeFloatEvent event).Behaves licence queue :=
  fun effects _ => ⟨_, ⟨.free trivial, rfl⟩, carryOutAll_carries effects⟩

theorem markDirty_behaves (file : String) : (markDirty file).Behaves licence queue :=
  .holding_documents <| Job.Each.ask_bind trivial fun _ => Job.Each.ask_bind rfl fun _ => trivial

theorem writeFile_behaves (planned : PlannedFile) :
    (writeFile context planned).Behaves licence queue :=
  (loadBuffer_behaves _).bind fun _ => (setBufferLines_behaves _ _ _).bind fun _ =>
    (context.sync_behaves ..).bind fun _ => markDirty_behaves _

theorem applyEdit_behaves (edit : WorkspaceEdit) (cursor : Option CursorPlace) :
    (applyEdit context edit cursor).Behaves licence queue := by
  refine (Job.Behaves.ofOutcome _).bind fun files => ?_
  split
  · exact .pure _
  refine .ask_bind trivial (fun _ => rfl) fun workspace =>
    .ask_bind trivial (fun _ => rfl) fun tree => (Job.Behaves.ofOutcome _).bind fun planned => ?_
  refine (Job.Behaves.forM (writeFile_behaves context) _).bind fun _ => ?_
  split
  · exact .pure _
  · split
    · exact execute_behaves _
    · exact .pure _

end Editor

namespace Session

theorem live?_behaves : (live? key).Behaves licence queue := by
  refine .ask_bind trivial (fun _ => rfl) fun found => ?_
  cases found with
  | none => exact .pure _
  | some session =>
    refine .ask_bind trivial (fun _ => rfl) fun alive => ?_
    split
    · exact .pure _
    · exact .ask_bind trivial (fun _ => rfl) fun _ => .pure _

theorem getOrStart_behaves {start : Job Session} (starts : start.Behaves licence queue) :
    (getOrStart key start).Behaves licence queue := by
  refine (live?_behaves key).bind fun found => ?_
  cases found with
  | some session => exact .pure _
  | none =>
    refine .holding_start ((live?_behaves key).bind fun again => ?_)
    cases again with
    | some session => exact .pure _
    | none => exact starts.bind fun session => .ask_bind trivial (fun _ => rfl) fun _ => .pure _

theorem reopen_behaves : session.reopen.Behaves licence queue :=
  .holding_documents <| Job.Each.ask_bind trivial fun _ => Job.Each.forM fun _ _ =>
    (Job.Each.ofOutcome _).bind fun _ => Job.Each.notify trivial

theorem endProcess_behaves : session.endProcess.Behaves licence queue := by
  unfold endProcess
  split
  · exact .ask_bind trivial (fun _ => rfl) fun _ => .pure _
  · exact .pure _

theorem introduce_behaves (options : Option Json) :
    (session.introduce setup options).Behaves licence queue :=
  (Job.Behaves.ofOutcome _).bind fun _ => .call_server _

theorem introduceAll_behaves : (introduceAll setup session).Behaves licence queue := by
  refine Job.Behaves.bind ?_ fun introduced => ?_
  · refine Job.Behaves.attempt ((introduce_behaves setup session _).bind fun capabilities => ?_)
    exact (Job.Behaves.notify_server _ _ _).bind fun _ => .pure capabilities
  cases introduced with
  | error failure => exact session.endProcess_behaves.bind fun _ => .throw _
  | ok capabilities =>
    refine session.reopen_behaves.attempt.bind fun reopened => ?_
    cases reopened with
    | error failure => exact session.endProcess_behaves.bind fun _ => .throw _
    | ok _ => exact .pure _

/-- A server that was started gets a thread for its messages, and then is told of its project. -/
theorem start_behaves : (start setup key).Behaves licence queue := by
  refine .ask_bind trivial (fun _ => rfl) fun extensions => ?_
  split
  · exact .throw _
  · exact .throw _
  · split
    · exact .throw _
    · rename_i program _
      intro spawned _
      refine ⟨_, ⟨.free trivial, rfl⟩, ?_⟩
      cases spawned with
      | error error => rfl
      | ok server =>
        exact fun _ _ => ⟨.calm queue, ⟨.serve rfl, rfl⟩, introduceAll_behaves setup _⟩

theorem keyOf_behaves (language file : String) :
    (keyOf language file).Behaves licence queue :=
  .ask_bind trivial (fun _ => rfl) fun _ => .ofOutcome _

theorem trackedContext?_behaves (file : String) :
    (trackedContext? file).Behaves licence queue := by
  refine .ask_bind trivial (fun _ => rfl) fun workspace => ?_
  split
  · exact .pure _
  · refine (live?_behaves _).bind fun found => ?_
    cases found <;> exact .pure _

theorem close_behaves : (close key).Behaves licence queue := by
  refine .ask_bind trivial (fun _ => rfl) fun found => ?_
  cases found with
  | none => exact .pure _
  | some session => exact .ask_bind trivial (fun _ => rfl) fun _ => .pure _

theorem shutdownAll_behaves : shutdownAll.Behaves licence queue := by
  have stopping (sessions : List Session) : (stopAll sessions).Behaves licence queue := by
    induction sessions with
    | nil => exact .pure _
    | cons session rest ih =>
      exact .ask_bind trivial (fun _ => rfl) fun _ => ih.bind fun _ => .pure _
  refine .ask_bind trivial (fun _ => rfl) fun sessions => (stopping sessions).bind fun threads => ?_
  refine .forM (fun thread => ?_) threads
  have permitted : licence.Permits queue (.join thread) := trivial
  exact .ask_bind permitted (fun _ => rfl) fun _ => .pure _

theorem stop_behaves : session.stop.Behaves licence queue := by
  refine Job.Behaves.bind (.attempt ?_) fun _ => session.endProcess_behaves
  exact (Context.shutdown_behaves _).bind fun _ => Context.exit_behaves _

/-- What was queued is sent while the queue is held, and so are failures shown. -/
theorem sendAll_behaves (contents : List BufferContent) :
    (session.sendAll contents).Behaves licence true := by
  induction contents with
  | nil => exact .pure _
  | cons content rest ih =>
    refine (Context.sync_behaves _ _ _).attempt.bind fun sent => ?_
    cases sent with
    | ok _ => exact ih
    | error failure =>
      exact (Job.Behaves.ofScript (Editor.report_behaves failure (.inr rfl))).bind fun _ => ih

theorem flushQueue_behaves : session.flushQueue.Behaves licence false := by
  refine .holding_queue (.ask_bind trivial (fun _ => rfl) fun queued => ?_)
  split
  · exact .pure _
  · exact .ask_bind trivial (fun _ => rfl) fun _ => session.sendAll_behaves _

theorem discardQueue_behaves : (discardQueue key).Behaves licence false :=
  .holding_queue <| .ask_bind trivial (fun _ => rfl) fun _ =>
    .ask_bind trivial (fun _ => rfl) fun _ => .pure _

theorem startQueued_behaves (reports : licence.reports = true) :
    (startQueued setup key).Behaves licence false := by
  refine (getOrStart_behaves key (start_behaves setup key)).attempt.bind fun started => ?_
  cases started with
  | ok session => exact session.flushQueue_behaves
  | error failure =>
    exact (discardQueue_behaves key).bind fun _ =>
      .ofScript (Editor.report_behaves failure (.inl reports))

theorem takeIn_behaves (content : BufferContent) :
    (takeIn key content).Behaves licence false := by
  refine .holding_queue (.ask_bind trivial (fun _ => rfl) fun queued => ?_)
  split
  · exact .ask_bind trivial (fun _ => rfl) fun _ => .pure _
  · refine (live?_behaves key).bind fun found => ?_
    split
    · exact (Context.sync_behaves _ _ _).bind fun _ => .pure _
    · exact .ask_bind trivial (fun _ => rfl) fun _ => .pure _

theorem syncContent_behaves (content : BufferContent) :
    (syncContent content).Behaves licence false := by
  refine (keyOf_behaves _ _).bind fun key => (takeIn_behaves key content).bind fun fresh => ?_
  split
  · exact .ask_bind trivial (fun _ => rfl) fun _ => .pure _
  · exact .pure _

theorem contextFor_behaves : (contextFor setup context).Behaves licence false :=
  (keyOf_behaves _ _).bind fun key =>
    (getOrStart_behaves key (start_behaves setup key)).bind fun session =>
      session.flushQueue_behaves.bind fun _ => .pure _

end Session

end LanguageBridge
