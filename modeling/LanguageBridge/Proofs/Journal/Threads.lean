import LanguageBridge.Proofs.Journal.Jobs

/-!
Every thread goes by the licence of its work: those that take messages reply to whom they come from,
and only actions open windows.
-/
namespace LanguageBridge

/-- What the threads of a work may do. -/
def Work.licence : Work → Licence
  | .serveEditor =>
    { takes := some .editor, delegates := true, replies := some .editor, reports := true }
  | .runAction .. => { replies := some .editor, reports := true, floats := true }
  | .startQueued _ => { reports := true }
  | .serveSession session =>
    { takes := some session.peer, replies := some session.peer, reports := true }
  | .stopSession _ => {}

/-- Whether a message asks for a reply. -/
def Message.isCall : Message → Bool
  | .call .. => true
  | _ => false

variable {licence : Licence} {queue : Bool} (setup : Setup) (session : Session)

namespace Editor

/-- Once the editor has opened a window, all that comes next is to record it. -/
theorem openFloat_guided (preview : Preview) (floats : licence.floats = true) :
    (openFloat preview).Guided licence.rules (.calm queue) fun outcome after =>
      after = { queue, calling :=
        match outcome with
        | .ok (some surface) => .opened surface
        | _ => .idle } := by
  refine Job.Guided.bind (Job.Behaves.calls (.free fun _ => floats)) ?_ ?_
  · rintro failure _ rfl
    rfl
  rintro ticket _ rfl
  refine Job.Guided.bind (Job.Behaves.awaits .editor ticket true) ?_ ?_
  · rintro failure _ rfl
    rfl
  rintro result _ rfl
  simp only [Calling.answered, Surface.opened?]
  cases Json.readOption Surface.read result with
  | error error => rfl
  | ok found => cases found <;> rfl

theorem showHover_behaves (cursor : CursorPlace) (preview : Preview)
    (floats : licence.floats = true) :
    (showHover setup cursor preview).Behaves licence queue := by
  unfold showHover
  split
  · exact showScratch_behaves preview
  · refine Job.Guided.bind (openFloat_guided preview floats) ?_ ?_
    · rintro failure _ rfl
      rfl
    · rintro found _ rfl
      cases found with
      | none => exact showScratch_behaves preview
      | some surface => exact fun effects _ => ⟨_, ⟨.reveal, rfl⟩, carryOutAll_carries effects⟩

theorem cursorContext_behaves (cursor : CursorPlace) :
    (cursorContext setup cursor).Behaves licence false := by
  refine (Session.contextFor_behaves setup _).bind fun context => ?_
  split
  · exact (context.sync_behaves _ _).bind fun _ => .pure _
  · exact .pure _

/-- What is asked for at a cursor and then only talked about. -/
theorem asking_behaves {cursor : CursorPlace} {next : Context → Job Unit}
    (rest : ∀ context, (next context).Behaves licence false) :
    (cursorContext setup cursor >>= next).Behaves licence false :=
  (cursorContext_behaves setup cursor).bind rest

theorem goToDefinition_behaves (cursor : CursorPlace) :
    (goToDefinition setup cursor).Behaves licence false := by
  refine asking_behaves setup fun context => (context.definition_behaves cursor).bind fun found => ?_
  split
  · exact .pure _
  · split
    · exact .pure _
    · exact (jumpTarget_behaves _).bind fun _ => jump_behaves _ _
    · exact showLocations_behaves _ _ _

theorem listReferences_behaves (cursor : CursorPlace) :
    (listReferences setup cursor).Behaves licence false :=
  asking_behaves setup fun context =>
    (context.references_behaves cursor).bind fun _ => showLocations_behaves _ _ _

theorem hover_behaves (cursor : CursorPlace) (floats : licence.floats = true) :
    (hover setup cursor).Behaves licence false := by
  intro again _
  refine ⟨_, ⟨.free trivial, rfl⟩, ?_⟩
  cases again with
  | some effects => exact carryOutAll_carries effects
  | none =>
    refine asking_behaves setup fun context => (context.hover_behaves cursor).bind fun found => ?_
    split
    · exact .pure _
    · exact showHover_behaves setup cursor _ floats

theorem rename_behaves (request : RenameRequest) :
    (rename setup request).Behaves licence false := by
  refine asking_behaves setup fun context => (context.rename_behaves request).bind fun found => ?_
  split
  · exact applyEdit_behaves _ _ _
  · exact .pure _

theorem listDocumentSymbols_behaves (cursor : CursorPlace) :
    (listDocumentSymbols setup cursor).Behaves licence false := by
  refine asking_behaves setup fun context =>
    (context.documentSymbols_behaves cursor.file).bind fun found => ?_
  split
  · exact .pure _
  · exact (Job.Behaves.ofOutcome _).bind fun _ => showLocations_behaves _ _ _

theorem listWorkspaceSymbols_behaves (search : SymbolSearch) :
    (listWorkspaceSymbols setup search).Behaves licence false :=
  asking_behaves setup fun context =>
    (context.workspaceSymbols_behaves search.query).bind fun _ => showLocations_behaves _ _ _

theorem explain_behaves (cursor : CursorPlace) : (explain cursor).Behaves licence queue := by
  refine .ask_bind trivial (fun _ => rfl) fun workspace => ?_
  dsimp only
  split
  · exact .pure _
  · exact showScratch_behaves _

/-- An action whose params are read first. -/
theorem reading_behaves {α : Type} {shaped : Shaped α} {job : α → Job Unit}
    (each : ∀ value, (job value).Behaves licence queue) :
    (do job (← Job.ofShaped shaped); return Json.null : Job Json).Behaves licence queue :=
  (Job.Behaves.ofOutcome _).bind fun value => (each value).bind fun _ => .pure _

/-- Actions may open windows; failures they show only about what was queued. -/
theorem act_behaves (method : String) (params : Json) (floats : licence.floats = true) :
    (act setup method params).Behaves licence false := by
  unfold act
  split
  · exact reading_behaves (goToDefinition_behaves setup)
  split
  · exact reading_behaves (listReferences_behaves setup)
  split
  · exact reading_behaves fun cursor => hover_behaves setup cursor floats
  split
  · exact reading_behaves (rename_behaves setup)
  split
  · exact reading_behaves (listDocumentSymbols_behaves setup)
  split
  · exact reading_behaves (listWorkspaceSymbols_behaves setup)
  split
  · exact reading_behaves explain_behaves
  split
  · exact (Job.Behaves.ofOutcome _).bind fun mapping =>
      .ask_bind trivial (fun _ => rfl) fun results => .pure _
  split
  · exact (Job.Behaves.ofOutcome _).bind fun mapping =>
      .ask_bind trivial (fun _ => rfl) fun results => .pure _
  · exact .pure _

theorem documentSaved_behaves (name : DocumentName) :
    (documentSaved name).Behaves licence queue := by
  refine (Session.trackedContext?_behaves _).bind fun found => ?_
  split
  · exact Context.didSave_behaves _ _
  · exact .pure _

theorem documentClosed_behaves (name : DocumentName) :
    (documentClosed name).Behaves licence queue := by
  refine (Session.trackedContext?_behaves _).bind fun found => ?_
  split
  · exact .pure _
  · refine (Context.didClose_behaves _ _).bind fun remaining => ?_
    split
    · exact (Context.attached_behaves _).bind fun session =>
        (Session.close_behaves _).bind fun _ => .pure _
    · exact .pure _

/-- Events need no licence: they show no failures of their own accord and open no windows. -/
theorem handleEvent_behaves (method : String) (params : Json) :
    (handleEvent method params).Behaves licence false := by
  have floating (shaped : Shaped FloatEvent) : Job.Behaves licence false (do
      takeFloatEvent (← Job.ofShaped shaped)) :=
    (Job.Behaves.ofOutcome _).bind takeFloatEvent_behaves
  unfold handleEvent
  split
  · exact (Job.Behaves.ofOutcome _).bind Session.syncContent_behaves
  split
  · exact (Job.Behaves.ofOutcome _).bind documentSaved_behaves
  split
  · exact (Job.Behaves.ofOutcome _).bind documentClosed_behaves
  split
  · exact floating _
  split
  · exact floating _
  split
  · exact floating _
  split
  · exact Session.shutdownAll_behaves
  · exact .pure _

end Editor

namespace Server

theorem publish_behaves (published : PublishedDiagnostics) :
    (publish setup published).Behaves licence queue := by
  refine (Job.Behaves.ofOutcome _).bind fun file => Job.Behaves.bind ?_ fun lines => ?_
  · exact .holding_documents <| Job.Each.ask_bind trivial fun _ => Job.Each.ask_bind rfl fun _ =>
      Job.Each.ask_bind trivial fun _ => trivial
  · split
    · exact Editor.showDiagnostics_behaves setup _ _
    · exact .pure _

theorem handleNotification_behaves (method : String) (params : Json)
    (reports : licence.reports = true) :
    (handleNotification setup session method params).Behaves licence queue := by
  unfold handleNotification
  split
  · exact (Job.Behaves.ofOutcome _).bind fun notice =>
      .ask_bind trivial (fun _ => rfl) fun _ => .pure _
  split
  · exact (Job.Behaves.ofOutcome _).bind fun published => publish_behaves setup published
  split
  · refine (Job.Behaves.ofOutcome _).bind fun progress => ?_
    split
    · exact Editor.showMessage_behaves _ _ (.inl reports)
    · exact .pure _
  split
  · exact (Job.Behaves.ofOutcome _).bind fun notice =>
      Editor.showMessage_behaves _ _ (.inl reports)
  · exact .pure _

theorem resultOf_behaves (method : String) (params : Json) (reports : licence.reports = true) :
    (resultOf session method params).Behaves licence queue := by
  unfold resultOf
  split
  · split
    · refine Script.Behaves.bind (Editor.applyEdit_behaves _ _ none) fun outcome => ?_
      cases outcome with
      | ok _ => exact .done _
      | error failure =>
        exact Script.Behaves.bind (Editor.report_behaves failure (.inl reports)) fun _ => .done _
    · exact .done _
  · exact .done _

/-- All that is done about a call before it gets its reply. -/
def prepare (method : String) (params : Json) : Job Json := do
  let handler ← handlerFor method
  let result ← Job.ofScript (resultOf session method params)
  match handler with
  | some handler =>
    let _ ← Job.attempt (Editor.callHandler handler params)
    return result
  | none => return result

/-- The last that is done about a call is to reply. -/
theorem handle_call (versioned : Bool) (id : RequestId) (method : String) (params : Params) :
    handle setup session (.call versioned id method params) =
      prepare session method params.toJson >>= Job.reply session.peer id := by
  simp only [handle, prepare, bind_assoc]
  congr 1
  funext handler
  congr 1
  funext result
  cases handler with
  | none => rw [pure_bind]
  | some handler => simp only [bind_assoc, pure_bind]

theorem handlerFor_behaves (method : String) : (handlerFor method).Behaves licence queue :=
  .ask_bind trivial (fun _ => rfl) fun _ => .pure _

theorem prepare_behaves (method : String) (params : Json) (reports : licence.reports = true) :
    (prepare session method params).Behaves licence queue := by
  refine (handlerFor_behaves method).bind fun handler => ?_
  refine (Job.Behaves.ofScript (resultOf_behaves session method _ reports)).bind fun result => ?_
  split
  · exact (Editor.callHandler_behaves _ _).attempt.bind fun _ => .pure _
  · exact .pure _

/-- Only calls get a reply. -/
theorem handle_behaves (message : Message)
    (replies : message.isCall = true → licence.replies = some session.peer)
    (reports : licence.reports = true) :
    (handle setup session message).Behaves licence queue := by
  cases message with
  | call versioned id method params =>
    rw [handle_call]
    exact (prepare_behaves session method _ reports).bind fun result => .reply (replies rfl)
  | notification versioned method params =>
    refine (handlerFor_behaves method).bind fun handler => ?_
    refine (handleNotification_behaves setup session method _ reports).bind fun _ => ?_
    split
    · exact Editor.callHandler_behaves _ _
    · exact .pure _
  | response answer => exact (handlerFor_behaves _).bind fun _ => .pure _

end Server

namespace Program

theorem replyToEditor_behaves (id : Option RequestId) (result : Json)
    (replies : licence.replies = some .editor) :
    (replyToEditor id result).Behaves licence queue := by
  cases id with
  | none => exact .done _
  | some id => exact .step replies (fun _ => rfl) fun _ => .done _

/-- A failure is shown, and whoever waits gets a reply. -/
theorem conceding_behaves (id : Option RequestId) (failure : Failure)
    (replies : licence.replies = some .editor) (reports : licence.reports = true) :
    Script.Behaves licence queue (do
      Editor.report failure
      replyToEditor id .null) :=
  Script.Behaves.bind (Editor.report_behaves failure (.inl reports)) fun _ =>
    replyToEditor_behaves id _ replies

theorem dispatch_behaves (id : Option RequestId) (method : String) (params : Json)
    (delegates : licence.delegates = true) (replies : licence.replies = some .editor)
    (reports : licence.reports = true) : (dispatch id method params).Behaves licence false := by
  unfold dispatch
  split
  · refine Script.Behaves.bind (Editor.handleEvent_behaves method params) fun outcome => ?_
    cases outcome with
    | ok _ => exact replyToEditor_behaves id _ replies
    | error failure => exact conceding_behaves id failure replies reports
  · exact .step delegates (fun _ => rfl) fun _ => .done _

end Program

namespace Work

/-- What is done about a message that was taken. -/
def handling (work : Work) (setup : Setup) (message : Message) : Script Unit :=
  match work with
  | .serveEditor =>
    match message with
    | .call _ id method params => Program.dispatch (some id) method params.toJson
    | .notification _ method params => Program.dispatch none method params.toJson
    | .response _ => .done ()
  | .serveSession session => (Server.handle setup session message).run.bind fun _ => .done ()
  | _ => .done ()

/-- What is done when no more messages come. -/
def ending : Work → Script (Outcome Json)
  | .serveEditor => Session.shutdownAll.run.bind fun _ => .done Program.quiet
  | _ => .done Program.quiet

/-- A thread that has handled its message hands over to another for the next. -/
def handOver (work : Work) : Script (Outcome Json) := .step (.fork work) fun _ => .done Program.quiet

end Work

namespace Program

/-- A thread for a peer's messages takes one, handles it and hands over. -/
theorem scriptOf_of_peer? {work : Work} {peer : Peer} (takes : work.peer? = some peer) :
    scriptOf setup work = .step (.receive peer) fun received =>
      match (received : Option Message) with
      | none => work.ending
      | some message => (work.handling setup message).bind fun _ => work.handOver := by
  cases work with
  | serveEditor =>
    cases takes
    refine congrArg (Script.step _) (funext fun (received : Option Message) => ?_)
    have onward (script : Script Unit) := Script.bind_assoc script
      (fun _ => .step (.fork .serveEditor) fun _ => .done ()) fun _ => Script.done quiet
    cases received with
    | none => exact Script.bind_assoc Session.shutdownAll.run (fun _ => .done ()) fun _ => .done quiet
    | some message =>
      cases message with
      | call | notification => exact onward _
      | response => rfl
  | serveSession session =>
    cases takes
    refine congrArg (Script.step _) (funext fun (received : Option Message) => ?_)
    cases received with
    | none => rfl
    | some message =>
      have onward (last : Unit → Script Unit) (next : Unit → Script (Outcome Json)) :=
        Script.bind_assoc (Server.handle setup session message).run (fun _ => last ()) next
      exact (onward (fun _ => .step (.fork (.serveSession session)) fun _ => .done ()) _).trans
        (onward .done fun _ => (Work.serveSession session).handOver).symm
  | _ => cases takes

theorem handOver_behaves {work : Work} {peer : Peer} (takes : work.peer? = some peer) :
    work.handOver.Behaves work.licence false := by
  cases work with
  | serveEditor | serveSession => exact .step rfl (fun _ => rfl) fun _ => .done _
  | _ => cases takes

/-- Whoever handles a message takes no other, and hands over to nobody. -/
theorem handling_behaves (work : Work) (message : Message) (takes : Option Peer) :
    (work.handling setup message).Behaves { work.licence with takes } false := by
  cases work with
  | serveEditor =>
    cases message with
    | call | notification => exact dispatch_behaves _ _ _ rfl rfl rfl
    | response => exact .done _
  | serveSession session =>
    exact Script.Behaves.bind (Server.handle_behaves setup session message (fun _ => rfl) rfl)
      fun _ => .done _
  | _ => exact .done _

theorem ending_behaves (licence : Licence) (work : Work) : work.ending.Behaves licence false := by
  cases work with
  | serveEditor => exact Script.Behaves.bind Session.shutdownAll_behaves fun _ => .done _
  | _ => exact .done _

theorem looping_behaves {work : Work} {peer : Peer} (takes : work.peer? = some peer)
    (permitted : work.licence.takes = some peer) :
    (scriptOf setup work).Behaves work.licence false := by
  rw [scriptOf_of_peer? setup takes]
  refine .step permitted (fun _ => rfl) fun (received : Option Message) => ?_
  cases received with
  | none => exact ending_behaves _ work
  | some message =>
    exact Script.Behaves.bind (handling_behaves setup work message _) fun _ => handOver_behaves takes

/-- Every thread goes by the licence of its work. -/
theorem scriptOf_behaves (work : Work) : (scriptOf setup work).Behaves work.licence false := by
  cases work with
  | serveEditor | serveSession => exact looping_behaves setup rfl rfl
  | runAction id method params =>
    refine Script.Behaves.bind ?_ fun _ => .done _
    refine Script.Behaves.bind (Editor.act_behaves setup method params rfl) fun outcome => ?_
    cases outcome with
    | ok result => exact replyToEditor_behaves id result rfl
    | error failure => exact conceding_behaves id failure rfl rfl
  | startQueued key =>
    exact Script.Behaves.bind (Session.startQueued_behaves setup key rfl) fun _ => .done _
  | stopSession session =>
    exact Script.Behaves.bind session.stop_behaves fun _ => .done _

end Program

end LanguageBridge
