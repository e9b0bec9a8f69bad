import LanguageBridge.Proofs.Absence.Jobs
import LanguageBridge.Proofs.Edit.Gathering

/-!
The threads of the program spare a file that nobody has anything of, unless they are given content
for it or an edit of it.
-/
namespace LanguageBridge

variable {file : String} {setup : Setup} {session : Session} {context : Context}

section Sessions

theorem Unqueued.erase {queue : Table SessionKey (List BufferContent)}
    (unqueued : Unqueued file queue) (key : SessionKey) : Unqueued file (queue.erase key) := by
  intro other contents found
  rw [Table.get?_erase] at found
  split at found
  · cases found
  · exact unqueued other contents found

theorem Unqueued.insert {queue : Table SessionKey (List BufferContent)}
    (unqueued : Unqueued file queue) {contents : List BufferContent}
    (others : ∀ content ∈ contents, content.file ≠ file) (key : SessionKey) :
    Unqueued file (queue.insert key contents) := by
  intro other given found
  rw [Table.get?_insert] at found
  split at found
  · cases found
    exact others
  · exact unqueued other given found

namespace Session

theorem live?_passes (key : SessionKey) : (live? key).Passes file := by
  refine Job.Spares.ask_bind trivial fun found _ => ?_
  split
  · exact .pure trivial
  · refine Job.Spares.ask_bind trivial fun (alive : Bool) _ => ?_
    cases alive with
    | true => exact .pure trivial
    | false => exact Job.Spares.ask_bind trivial fun _ _ => .pure trivial

theorem getOrStart_passes (key : SessionKey) {start : Job Session} (starts : start.Passes file) :
    (getOrStart key start).Passes file := by
  apply (live?_passes key).bind
  intro found _
  split
  · exact .pure trivial
  · apply Job.Spares.holding
    apply (live?_passes key).bind
    intro found _
    split
    · exact .pure trivial
    · exact starts.bind fun session _ => Job.Spares.ask_bind trivial fun _ _ => .pure trivial

theorem introduceAll_passes (setup : Setup) (session : Session) :
    (introduceAll setup session).Passes file := by
  have introducing (options : Option Json) : Job.Passes file (Job.attempt (do
      let capabilities ← session.introduce setup options
      session.confirm
      return capabilities)) :=
    (((session.introduce_idle setup options).bind fun _ =>
      session.confirm_idle.bind fun _ => Job.Idle.pure _).attempt).passes
  apply (introducing _).bind
  intro introduced _
  split
  · exact session.endProcess_idle.passes.bind fun _ _ => .throw
  · apply (Job.Spares.attempt session.reopen_passes).bind
    intro opened _
    split
    · exact session.endProcess_idle.passes.bind fun _ _ => .throw
    · exact .pure trivial

theorem start_passes (setup : Setup) (key : SessionKey) : (start setup key).Passes file := by
  unfold start
  refine Job.Spares.ask_bind trivial fun (extensions : Extensions) _ => ?_
  split
  · exact .throw
  · exact .throw
  split
  · exact .throw
  refine Job.Spares.ask_bind trivial fun spawned _ => ?_
  split
  · exact .throw
  · refine Job.Spares.ask_bind trivial fun _ _ => ?_
    exact introduceAll_passes setup _

theorem sendAll_passes {contents : List BufferContent}
    (others : ∀ content ∈ contents, content.file ≠ file) :
    (session.sendAll contents).Passes file := by
  induction contents with
  | nil => exact .pure trivial
  | cons content rest ih =>
    have later := ih fun other member => others other (List.mem_cons_of_mem _ member)
    have sending : ((Context.ofSession session).sync content.file content.text).Passes file :=
      Context.sync_passes (others content List.mem_cons_self) content.text
    apply (Job.Spares.attempt sending).bind
    intro outcome _
    split
    · exact later
    · apply (Job.Spares.ofScript (Editor.report_idle _).spares).bind
      exact fun _ _ => later

theorem flushQueue_passes (session : Session) : session.flushQueue.Passes file := by
  apply Job.Spares.holding
  refine Job.Spares.ask_bind trivial fun (queue : Table SessionKey (List BufferContent)) held => ?_
  have unqueued : Unqueued file queue := held
  split
  · exact .pure trivial
  · rename_i contents found
    refine Job.Spares.ask_bind (unqueued.erase session.key) fun _ _ => ?_
    exact sendAll_passes (unqueued session.key contents found)

theorem discardQueue_passes (key : SessionKey) : (discardQueue key).Passes file := by
  apply Job.Spares.holding
  refine Job.Spares.ask_bind trivial fun (queue : Table SessionKey (List BufferContent)) held => ?_
  exact Job.Spares.ask_bind (Unqueued.erase held key) fun _ _ => .pure trivial

theorem startQueued_passes (setup : Setup) (key : SessionKey) :
    (startQueued setup key).Passes file := by
  apply (Job.Spares.attempt (getOrStart_passes key (start_passes setup key))).bind
  intro started _
  split
  · exact flushQueue_passes _
  · apply (discardQueue_passes key).bind
    exact fun _ _ => .ofScript (Editor.report_idle _).spares

theorem keyOf_passes (language other : String) : (keyOf language other).Passes file :=
  Job.Spares.ask_bind trivial fun _ _ => (Job.Idle.ofOutcome _).passes

theorem takeIn_passes (key : SessionKey) {content : BufferContent} (other : content.file ≠ file) :
    (takeIn key content).Passes file := by
  apply Job.Spares.holding
  refine Job.Spares.ask_bind trivial fun (queue : Table SessionKey (List BufferContent)) held => ?_
  have unqueued : Unqueued file queue := held
  split
  · rename_i contents found
    refine Job.Spares.ask_bind (unqueued.insert ?_ key) fun _ _ => .pure trivial
    intro entry member
    rcases List.mem_append.mp member with before | last
    · exact unqueued key contents found entry before
    · rw [List.mem_singleton.mp last]
      exact other
  · apply (live?_passes key).bind
    intro found _
    split
    · exact (Context.sync_passes other content.text).bind fun _ _ => .pure trivial
    · refine Job.Spares.ask_bind (unqueued.insert ?_ key) fun _ _ => .pure trivial
      intro entry member
      rw [List.mem_singleton.mp member]
      exact other

theorem syncContent_passes {content : BufferContent} (other : content.file ≠ file) :
    (syncContent content).Passes file := by
  apply (keyOf_passes _ _).bind
  intro key _
  apply (takeIn_passes key other).bind
  intro first _
  split
  · exact Job.Spares.ask_bind trivial fun _ _ => .pure trivial
  · exact .pure trivial

theorem contextFor_passes (setup : Setup) (context : Context) :
    (contextFor setup context).Passes file := by
  apply (keyOf_passes _ _).bind
  intro key _
  apply (getOrStart_passes key (start_passes setup key)).bind
  intro session _
  exact (flushQueue_passes session).bind fun _ _ => .pure trivial

theorem trackedContext?_passes (other : String) : (trackedContext? other).Passes file := by
  refine Job.Spares.ask_bind trivial fun (workspace : Workspace) _ => ?_
  split
  · exact .pure trivial
  · apply (live?_passes _).bind
    intro found _
    split <;> exact .pure trivial

theorem shutdownAll_passes : shutdownAll.Passes file := by
  have stopping (sessions : List Session) : (stopAll sessions).Passes file := by
    induction sessions with
    | nil => exact .pure trivial
    | cons session rest ih =>
      refine Job.Spares.ask_bind trivial fun _ _ => ?_
      exact ih.bind fun _ _ => .pure trivial
  refine Job.Spares.ask_bind trivial fun sessions _ => ?_
  apply (stopping sessions).bind
  intro threads _
  exact .forM fun thread _ => Job.Spares.ask_bind trivial fun _ _ => .pure trivial

end Session

end Sessions

section Editing

namespace Editor

theorem markDirty_passes (other : String) : (markDirty other).Passes file := by
  apply Job.Spares.holding
  refine Job.Spares.ask_bind trivial fun (workspace : Workspace) absent => ?_
  exact Job.Spares.ask_bind (Workspace.get?_modify_of_absent absent _) fun _ _ => .pure trivial

theorem writeFile_passes {planned : PlannedFile} (other : planned.file ≠ file) :
    (writeFile context planned).Passes file := by
  apply (loadBuffer_idle _).passes.bind
  intro buffer _
  apply (Job.Idle.notify_editor _ _).passes.bind
  intro _ _
  exact (Context.sync_passes other _).bind fun _ _ => markDirty_passes _

theorem applyEdit_passes {edit : WorkspaceEdit} (elsewhere : ¬ edit.Touches file)
    (context : Context) (cursor : Option CursorPlace) :
    (applyEdit context edit cursor).Passes file := by
  apply (Job.Spares.ofOutcome fun files given => given).bind
  intro files collected
  split
  · exact .pure trivial
  refine Job.Spares.ask_bind trivial fun (workspace : Workspace) _ => ?_
  refine Job.Spares.ask_bind trivial fun (tree : FileTree) _ => ?_
  apply (Job.Spares.ofOutcome fun planned given => given).bind
  intro planned done
  have others : ∀ entry ∈ planned, entry.file ≠ file := by
    intro entry member same
    have inside : entry.file ∈ files.map (·.file) := by
      rw [← plan_files done]
      exact List.mem_map_of_mem member
    obtain ⟨edits, there, named⟩ := List.mem_map.mp inside
    exact elsewhere ⟨files, collected, edits, there, named.trans same⟩
  have writing : ((writingOrder cursor planned).forM (writeFile context)).Passes file := by
    apply Job.Spares.forM
    intro entry member
    apply writeFile_passes
    apply others
    rcases List.mem_append.mp member with inside | inside <;>
      exact (List.mem_filter.mp inside).1
  apply writing.bind
  intro _ _
  split
  · exact .pure trivial
  · split
    · exact (execute_idle _).passes
    · exact .pure trivial

theorem takeFloatEvent_passes (event : FloatEvent) : (takeFloatEvent event).Passes file :=
  (takeFloatEvent_idle event).passes

theorem documentSaved_passes (name : DocumentName) : (documentSaved name).Passes file := by
  apply (Session.trackedContext?_passes _).bind
  intro found _
  split
  · exact Context.didSave_passes _ _
  · exact .pure trivial

theorem close_passes (key : SessionKey) : (Session.close key).Passes file := by
  refine Job.Spares.ask_bind trivial fun found _ => ?_
  split
  · exact .pure trivial
  · exact Job.Spares.ask_bind trivial fun _ _ => .pure trivial

theorem documentClosed_passes (name : DocumentName) : (documentClosed name).Passes file := by
  apply (Session.trackedContext?_passes _).bind
  intro found _
  split
  · exact .pure trivial
  · apply (Context.didClose_passes _ _).bind
    intro remaining _
    split
    · apply (Context.attached_idle _).passes.bind
      intro session _
      exact (close_passes _).bind fun _ _ => .pure trivial
    · exact .pure trivial

/-- An event is handled without content for the file. -/
theorem handleEvent_passes {method : String} {params : Json}
    (others : ∀ content, contentOf method params = some content → content.file ≠ file) :
    (handleEvent method params).Passes file := by
  unfold handleEvent
  split
  · rename_i opens
    apply (Job.Spares.ofShaped fun content given => given).bind
    intro content read
    apply Session.syncContent_passes
    apply others
    rw [contentOf, if_pos opens, read]
    rfl
  split
  · exact (Job.Idle.ofShaped _).passes.bind fun name _ => documentSaved_passes name
  split
  · exact (Job.Idle.ofShaped _).passes.bind fun name _ => documentClosed_passes name
  split
  · exact (Job.Idle.ofShaped _).passes.bind fun event _ => takeFloatEvent_passes event
  split
  · exact (Job.Idle.ofShaped _).passes.bind fun event _ => takeFloatEvent_passes event
  split
  · exact (Job.Idle.ofShaped _).passes.bind fun event _ => takeFloatEvent_passes event
  split
  · exact Session.shutdownAll_passes
  · exact .pure trivial

theorem cursorContext_passes {cursor : CursorPlace}
    (others : ∀ content, cursor.content? = some content → content.file ≠ file) :
    (cursorContext setup cursor).Passes file := by
  apply (Session.contextFor_passes setup _).bind
  intro context _
  split
  · rename_i text carried
    have apart : cursor.file ≠ file := others ⟨cursor.file, text, cursor.language⟩ (by
      simp [CursorPlace.content?, carried])
    exact (Context.sync_passes apart text).bind fun _ _ => .pure trivial
  · exact .pure trivial

theorem rename_spares (context : Context) (request : RenameRequest) :
    (context.rename request).Spares file fun answer =>
      ∀ edit, answer = some edit → ¬ edit.Touches file := by
  apply (Context.positionMembers_idle _ _).passes.bind
  intro members _
  apply context.attached_idle.passes.bind
  intro session _
  apply Job.Spares.call
  rintro json answer plain read edit rfl touches
  exact plain ⟨edit, read, touches⟩

section Acting

variable {cursor : CursorPlace}
  (others : ∀ content, cursor.content? = some content → content.file ≠ file)

include others

theorem Asks.passes {job : Job Unit} (asks : Asks setup cursor job) : job.Passes file := by
  obtain ⟨next, rfl, idle⟩ := asks
  exact (cursorContext_passes others).bind fun context _ => (idle context).passes

theorem hover_passes : (hover setup cursor).Passes file := by
  obtain ⟨asking, asks, same⟩ := hover_asks setup cursor
  rw [same]
  refine Job.Spares.ask_bind trivial fun (entered : Option (List FloatEffect)) _ => ?_
  cases entered with
  | some effects => exact (carryOutAll_idle effects).passes
  | none => exact asks.passes others

omit others

theorem rename_passes {request : RenameRequest}
    (others : ∀ content, request.cursor.content? = some content → content.file ≠ file) :
    (rename setup request).Passes file := by
  apply (cursorContext_passes others).bind
  intro context _
  apply (rename_spares context request).bind
  intro answer elsewhere
  split
  · rename_i edit
    exact applyEdit_passes (elsewhere edit rfl) context _
  · exact .pure trivial

/-- An action on parameters of a shape. -/
theorem reading_passes {α : Type} {shaped : Shaped α} {action : α → Job Unit}
    (each : ∀ value, shaped = .ok value → (action value).Passes file) :
    Job.Passes file (do
      action (← Job.ofShaped shaped)
      return Json.null) :=
  (Job.Spares.ofShaped each).bind fun _ passes => passes.bind fun _ _ => .pure trivial

/-- What the editor asks for without content for the file is done without any. -/
theorem act_passes {method : String} {params : Json}
    (others : ∀ content, contentOf method params = some content → content.file ≠ file) :
    (act setup method params).Passes file := by
  unfold act
  split
  · rename_i named
    refine reading_passes fun cursor given => goToDefinition_asks.passes ?_
    simpa [contentOf, named, given, Except.toOption] using others
  split
  · rename_i named
    refine reading_passes fun cursor given => listReferences_asks.passes ?_
    simpa [contentOf, named, given, Except.toOption] using others
  split
  · rename_i named
    refine reading_passes fun cursor given => hover_passes ?_
    simpa [contentOf, named, given, Except.toOption] using others
  split
  · rename_i named
    refine reading_passes fun request given => rename_passes ?_
    simpa [contentOf, named, given, Except.toOption] using others
  split
  · rename_i named
    refine reading_passes fun cursor given => listDocumentSymbols_asks.passes ?_
    simpa [contentOf, named, given, Except.toOption] using others
  split
  · rename_i named
    refine reading_passes fun search given => (listWorkspaceSymbols_asks search).passes ?_
    simpa [contentOf, named, given, Except.toOption] using others
  split
  · exact reading_passes fun cursor _ => (explain_idle cursor).passes
  split
  · refine (Job.Idle.ofShaped _).passes.bind fun mapping _ => ?_
    exact Job.Spares.ask_bind trivial fun _ _ => .pure trivial
  split
  · refine (Job.Idle.ofShaped _).passes.bind fun mapping _ => ?_
    exact Job.Spares.ask_bind trivial fun _ _ => .pure trivial
  · exact .pure trivial

end Acting

end Editor

end Editing

section Serving

variable {session : Session}

namespace Server

theorem publish_passes (published : PublishedDiagnostics) :
    (publish setup published).Passes file := by
  apply (Job.Idle.ofOutcome _).passes.bind
  intro name _
  have keeping : (Job.holding .documents .exclusive (do
      let workspace ← Job.ask .workspace
      let _ ← Job.ask (.setWorkspace { workspace with
        diagnostics := workspace.diagnostics.insert name published.diagnostics })
      let tree ← Job.ask .disk
      return workspace.linesOrNone tree name)).Passes file := by
    apply Job.Spares.holding
    refine Job.Spares.ask_bind trivial fun (workspace : Workspace) absent => ?_
    refine Job.Spares.ask_bind absent fun _ _ => ?_
    exact Job.Spares.ask_bind trivial fun _ _ => .pure trivial
  apply keeping.bind
  intro lines _
  split
  · exact (Job.Idle.notify_editor _ _).passes
  · exact .pure trivial

theorem handleNotification_passes (method : String) (params : Json) :
    (handleNotification setup session method params).Passes file := by
  unfold handleNotification
  split
  · refine (Job.Idle.ofShaped _).passes.bind fun notice _ => ?_
    exact Job.Spares.ask_bind trivial fun _ _ => .pure trivial
  split
  · exact (Job.Idle.ofShaped _).passes.bind fun published _ => publish_passes published
  split
  · apply (Job.Idle.ofShaped _).passes.bind
    intro progress _
    split
    · exact (Job.Idle.notify_editor _ _).passes
    · exact .pure trivial
  split
  · exact (Job.Idle.ofShaped _).passes.bind fun notice _ => (Job.Idle.notify_editor _ _).passes
  · exact .pure trivial

theorem applyRequested_spares {edit : WorkspaceEdit} (elsewhere : ¬ edit.Touches file) :
    (applyRequested session edit).Spares file fun _ => True := by
  apply (Editor.applyEdit_passes elsewhere (Context.ofSession session) none).run_bind
  intro outcome
  split
  · exact trivial
  · exact (Editor.report_idle _).spares.bind fun _ _ => trivial

theorem resultOf_spares {method : String} {params : Json}
    (elsewhere : ∀ edit, method = "workspace/applyEdit" → readEditRequest params = .ok edit →
      ¬ edit.Touches file) :
    (resultOf session method params).Spares file fun _ => True := by
  unfold resultOf
  split
  · rename_i asked
    split
    · rename_i edit read
      exact applyRequested_spares (elsewhere edit asked read)
    · exact trivial
  · exact trivial

/-- A server's message is handled without anything of the file, unless it asks for an edit of it. -/
theorem handle_passes {message : Message} (calm : ¬ message.Concerns session.peer file) :
    (handle setup session message).Passes file := by
  unfold handle
  have handler : (handlerFor message.method).Idle :=
    Job.Idle.ask_bind trivial fun _ => Job.Idle.pure _
  apply handler.passes.bind
  intro handler _
  cases message with
  | call versioned id method params =>
    have result : (resultOf session method params.toJson).Spares file fun _ => True := by
      apply resultOf_spares
      rintro edit rfl read touches
      exact calm ⟨versioned, id, params, edit, rfl, read, touches⟩
    apply (Job.Spares.ofScript result).bind
    intro result _
    split
    · apply (Job.Idle.attempt (Job.Idle.notify_editor _ _)).passes.bind
      exact fun _ _ => (Job.Idle.reply ..).passes
    · exact (Job.Idle.reply ..).passes
  | notification versioned method params =>
    apply (handleNotification_passes method _).bind
    intro _ _
    split
    · exact (Job.Idle.notify_editor _ _).passes
    · exact .pure trivial
  | response answer => exact .pure trivial

end Server

namespace Program

variable {id : Option RequestId} {method : String} {params : Json}

theorem replyToEditor_spares (id : Option RequestId) (result : Json) :
    (replyToEditor id result).Spares file fun _ => True :=
  (replyToEditor_idle id result).spares

theorem failing_spares (id : Option RequestId) (failure : Failure) : Script.Spares file
    (fun _ => True) (do
      Editor.report failure
      replyToEditor id .null) :=
  (Editor.report_idle failure).spares.bind fun _ _ => replyToEditor_spares id _

theorem runAction_spares
    (others : ∀ content, contentOf method params = some content → content.file ≠ file) :
    (runAction setup id method params).Spares file fun _ => True := by
  apply (Editor.act_passes others).run_bind
  intro outcome
  split
  · exact replyToEditor_spares id _
  · exact failing_spares id _

theorem runEvent_spares
    (others : ∀ content, contentOf method params = some content → content.file ≠ file) :
    (runEvent id method params).Spares file fun _ => True := by
  apply (Editor.handleEvent_passes others).run_bind
  intro outcome
  split
  · exact replyToEditor_spares id _
  · exact failing_spares id _

theorem dispatch_spares
    (others : ∀ content, contentOf method params = some content → content.file ≠ file) :
    (dispatch id method params).Spares file fun _ => True := by
  unfold dispatch
  split
  · exact runEvent_spares others
  · exact ⟨others, fun _ _ => trivial⟩

theorem serveEditor_spares : serveEditor.Spares file fun _ => True := by
  refine ⟨trivial, fun (received : Option Message) calm => ?_⟩
  cases received with
  | none => exact Session.shutdownAll_passes.run_bind fun _ => trivial
  | some message =>
    have others : ∀ content, message.content? = some content → content.file ≠ file :=
      fun content carried same => calm message rfl ⟨content, carried, same⟩
    have onward : Script.Spares file (fun _ => True) (do
        let _ ← Script.ask (.fork .serveEditor)
        return ()) := ⟨trivial, fun _ _ => trivial⟩
    cases message with
    | call versioned id method params =>
      exact (dispatch_spares others).bind fun _ _ => onward
    | notification versioned method params =>
      exact (dispatch_spares others).bind fun _ _ => onward
    | response answer => exact onward

theorem serveSession_spares (session : Session) :
    (serveSession setup session).Spares file fun _ => True := by
  refine ⟨trivial, fun (received : Option Message) calm => ?_⟩
  cases received with
  | none => exact trivial
  | some message =>
    apply (Server.handle_passes (calm message rfl)).run_bind
    exact fun _ => ⟨trivial, fun _ _ => trivial⟩

/-- Every thread spares a file that its work brings no content for. -/
theorem scriptOf_spares {work : Work} (spares : work.Spares file) :
    (scriptOf setup work).Spares file fun _ => True := by
  cases work with
  | serveEditor => exact serveEditor_spares.bind fun _ _ => trivial
  | runAction id method params => exact (runAction_spares spares).bind fun _ _ => trivial
  | startQueued key => exact (Session.startQueued_passes setup key).run_bind fun _ => trivial
  | serveSession session => exact (serveSession_spares session).bind fun _ _ => trivial
  | stopSession session => exact session.stop_idle.passes.run_bind fun _ => trivial

end Program

end Serving

end LanguageBridge
