import LanguageBridge.Program
import LanguageBridge.Proofs.Arrival.Conduct
import LanguageBridge.Proofs.Document.Effects

/-!
The threads of the program obey their stances: whoever takes a message of the editor does with its
text what the stance asks for, and comes to its end without debts.
-/
namespace LanguageBridge

variable {roots : Roots} (stance : Stance) {setup : Setup} {session : Session} {context : Context}
  {file : String}

namespace Workspace.SameLines

variable {workspace : Workspace}

/-- Diagnostics are no lines. -/
theorem diagnostics (diagnostics : Table String (List Diagnostic)) :
    workspace.SameLines { workspace with diagnostics } :=
  ⟨fun _ => rfl, fun entry member => ⟨entry, member, rfl⟩⟩

/-- Whether a document changed since it was saved is no matter of its lines. -/
theorem marked {changed : Document → Document}
    (same : ∀ document, (changed document).session = document.session ∧
      (changed document).lines = document.lines) :
    workspace.SameLines
      { workspace with documents := workspace.documents.modify file changed } := by
  unfold Table.modify
  cases found : workspace.documents.get? file with
  | none => exact refl workspace
  | some document =>
    constructor
    · intro other
      simp only [Table.get?_insert]
      split
      · rename_i here
        subst here
        simp [found, same]
      · rfl
    · intro entry member
      rcases Table.mem_put member with rfl | old
      · exact ⟨(file, document), Table.mem_of_find? found, (same document).1.symm⟩
      · exact ⟨entry, old, rfl⟩

end Workspace.SameLines

section Documents

theorem Editor.markDirty_returns (free : stance.documents = .free) :
    (markDirty file).Returns roots stance := by
  unfold markDirty
  apply Job.Keeps.holding
  intro _ news _
  refine ⟨_, _, _, .enter free, ?_⟩
  apply Job.Keeps.ask_bind
  intro (workspace : Workspace) news _
  refine ⟨_, _, _, .read rfl, ?_⟩
  apply Job.Keeps.ask_bind
  intro _ news _
  refine ⟨_, _, _, .retain rfl (.marked fun _ => ⟨rfl, rfl⟩), Job.Keeps.pure ?_⟩
  exact stance.leaves free _

theorem Context.didSave_returns (held : context.session = some session)
    (free : stance.documents = .free) : (context.didSave file).Returns roots stance := by
  unfold didSave
  rw [attached_eq held, pure_bind]
  apply Job.Keeps.holding
  intro _ news _
  refine ⟨_, _, _, .enter free, ?_⟩
  apply Job.Keeps.ask_bind
  intro (workspace : Workspace) news _
  refine ⟨_, _, _, .read rfl, ?_⟩
  cases owned : workspace.ownedBy? session.key file with
  | none =>
    simp only [owned]
    exact Job.Keeps.pure (stance.leaves free workspace)
  | some document =>
    simp only [owned]
    apply Job.Keeps.ask_bind
    intro _ news _
    refine ⟨_, _, _, .retain rfl (.marked fun _ => ⟨rfl, rfl⟩), ?_⟩
    apply Job.Idle.keeps
    · exact (Job.Idle.ofOutcome _).bind fun uri =>
        Job.Idle.notify_server (Notice.read?_saving uri)
    · exact fun _ => stance.leaves free _

/-- A file is written by a thread that may write any text. -/
theorem Editor.writeFile_returns (held : context.session = some session)
    (free : stance.documents = .free) (known : session ∈ stance.known)
    (edits : stance.edits = true) (planned : PlannedFile) :
    (writeFile context planned).Returns roots stance := by
  unfold writeFile
  apply (loadBuffer_idle planned.file).returns.bind
  intro buffer
  apply (Job.Idle.notify_editor _ _).returns.bind
  intro _
  apply (Context.sync_edits stance held free known edits).bind
  intro version
  exact markDirty_returns stance free

theorem Editor.applyEdit_returns (held : context.session = some session)
    (free : stance.documents = .free) (known : session ∈ stance.known)
    (edits : stance.edits = true) (edit : WorkspaceEdit) (cursor : Option CursorPlace) :
    (applyEdit context edit cursor).Returns roots stance := by
  unfold applyEdit
  apply (Job.Idle.ofOutcome edit.collect).returns.bind
  intro files
  split
  · exact Job.Keeps.pure rfl
  · refine Job.Keeps.harmless_bind trivial fun workspace => ?_
    refine Job.Keeps.harmless_bind trivial fun tree => ?_
    apply (Job.Idle.ofOutcome _).returns.bind
    intro planned
    dsimp only
    apply (Job.Returns.forM (writeFile_returns stance held free known edits) _).bind
    intro _
    split
    · exact Job.Keeps.pure rfl
    · split
      · exact (execute_idle _).returns
      · exact Job.Keeps.pure rfl

end Documents

section Actions

variable {cursor : CursorPlace}

/-- A thread that does an action with the text that came with it. -/
structure Stance.Acts (stance : Stance) (text : Option BufferContent) : Prop where
  worker : stance.editor = false
  early : stance.cleared = false
  documents : stance.documents = .free
  queue : stance.queue = .free
  idle : stance.starting = none
  owed : stance.debts.map (·.content) = text.toList
  plain : ∀ parcel ∈ stance.debts, parcel.event = false

/-- The text at a cursor is sent before the server is asked anything. -/
theorem Editor.cursorContext_keeps (acts : stance.Acts cursor.content?) :
    (cursorContext setup cursor).Keeps roots stance fun context after => ∃ session known,
      context.session = some session ∧ session ∈ known ∧
      after = { stance with cleared := true, debts := [], known } := by
  have own : ∀ parcel ∈ stance.debts, parcel.event = false ∧
      parcel.key roots = roots cursor.language cursor.file := by
    intro parcel member
    have content : parcel.content ∈ stance.debts.map (·.content) := List.mem_map_of_mem member
    rw [acts.owed, Option.mem_toList, CursorPlace.content?, Option.map_eq_some_iff] at content
    obtain ⟨text, _, same⟩ := content
    exact ⟨acts.plain parcel member, by rw [Parcel.key, ← same]⟩
  unfold cursorContext
  apply (Session.contextFor_keeps stance acts.worker acts.documents acts.queue acts.idle own).bind
  rintro context here ⟨session, known, held, member, rfl⟩
  have owed := acts.owed
  rw [CursorPlace.content?] at owed
  cases given : cursor.text with
  | none =>
    rw [given] at owed
    have clear : stance.debts = [] := List.map_eq_nil_iff.mp owed
    refine Job.Keeps.pure ⟨session, known, held, member, ?_⟩
    rw [← clear]
  | some text =>
    rw [given] at owed
    obtain ⟨parcel, single, content⟩ := List.map_eq_singleton_iff.mp owed
    have plain := acts.plain parcel (by simp [single])
    let there : Stance := { stance with cleared := true, known }
    have ready : there.Ready roots parcel := by simp [Stance.Ready, plain, there]
    have sending := Context.sync_settles there held acts.documents member single
      (.inr ⟨acts.worker, rfl⟩) ready
    rw [content] at sending
    apply sending.bind
    rintro version _ rfl
    exact Job.Keeps.pure ⟨session, known, held, member, rfl⟩

/-- An action that sends its text and then only talks to servers and the editor. -/
theorem Editor.Asks.keeps {job : Job Unit} (asks : Asks setup cursor job)
    (acts : stance.Acts cursor.content?) :
    job.Keeps roots stance fun _ after => after.Unbound := by
  obtain ⟨next, rfl, idle⟩ := asks
  apply (cursorContext_keeps stance acts).bind
  rintro context here ⟨session, known, _, _, rfl⟩
  exact (idle context).keeps fun _ => ⟨rfl, acts.documents⟩

/-- A hover that goes into a floating preview does nothing about its text. -/
theorem Editor.hover_keeps (acts : stance.Acts cursor.content?) :
    (hover setup cursor).Keeps roots stance fun _ after => after.Unbound := by
  obtain ⟨asking, asks, same⟩ := hover_asks setup cursor
  rw [same]
  apply Job.Keeps.ask_bind
  intro (entered : Option (List FloatEffect)) news _
  cases entered with
  | some effects =>
    exact ⟨_, _, _, .preview acts.plain acts.worker acts.early,
      (carryOutAll_idle effects).keeps fun _ => ⟨rfl, acts.documents⟩⟩
  | none => exact ⟨_, _, _, .hover, asks.keeps stance acts⟩

theorem Editor.rename_keeps {request : RenameRequest} (edits : stance.edits = true)
    (acts : stance.Acts request.cursor.content?) :
    (rename setup request).Keeps roots stance fun _ after => after.Unbound := by
  unfold rename
  apply (cursorContext_keeps stance acts).bind
  rintro context here ⟨session, known, held, member, rfl⟩
  apply (context.rename_idle request).returns.bind
  intro answer
  split
  · let there : Stance := { stance with cleared := true, debts := [], known }
    apply (applyEdit_returns there held acts.documents member edits _ _).mono
    rintro _ _ rfl
    exact ⟨rfl, acts.documents⟩
  · exact Job.Keeps.pure ⟨rfl, acts.documents⟩

/-- An action on parameters of a shape. -/
theorem Editor.reading_keeps {α : Type} {shaped : Shaped α} {action : α → Job Unit}
    (each : ∀ value, shaped = .ok value →
      (action value).Keeps roots stance fun _ after => after.Unbound) :
    Job.Keeps roots (do
      action (← Job.ofShaped shaped)
      return Json.null) stance fun _ after => after.Unbound := by
  have reading : (Job.ofShaped shaped).Keeps roots stance fun value after =>
      shaped = .ok value ∧ after = stance :=
    Job.Keeps.ofShaped fun value given => ⟨given, rfl⟩
  apply reading.bind
  rintro value _ ⟨given, rfl⟩
  apply (each value given).bind
  intro _ after unbound
  exact Job.Keeps.pure unbound

/-- Whatever the editor asks for, its text is sent before it is done. -/
theorem Editor.act_keeps {method : String} {params : Json} (action : isEvent method = false)
    (edits : stance.edits = decide (method = "textDocument/rename"))
    (acts : stance.Acts (contentOf method params)) :
    (act setup method params).Keeps roots stance fun _ after => after.Unbound := by
  have clear (nothing : contentOf method params = none) : stance.debts = [] := by
    have owed := acts.owed
    rw [nothing] at owed
    exact List.map_eq_nil_iff.mp owed
  unfold act
  by_cases definition : method = "textDocument/definition"
  · rw [if_pos definition]
    apply reading_keeps
    intro cursor given
    have text : contentOf method params = cursor.content? := by
      simp [contentOf, definition, given, Except.toOption]
    exact goToDefinition_asks.keeps stance (text ▸ acts)
  rw [if_neg definition]
  by_cases references : method = "textDocument/references"
  · rw [if_pos references]
    apply reading_keeps
    intro cursor given
    have text : contentOf method params = cursor.content? := by
      simp [contentOf, references, given, Except.toOption]
    exact listReferences_asks.keeps stance (text ▸ acts)
  rw [if_neg references]
  by_cases hover : method = "textDocument/hover"
  · rw [if_pos hover]
    apply reading_keeps
    intro cursor given
    have text : contentOf method params = cursor.content? := by
      simp [contentOf, hover, given, Except.toOption]
    exact hover_keeps stance (text ▸ acts)
  rw [if_neg hover]
  by_cases rename : method = "textDocument/rename"
  · rw [if_pos rename]
    apply reading_keeps
    intro request given
    have text : contentOf method params = request.cursor.content? := by
      simp [contentOf, rename, given, Except.toOption]
    exact rename_keeps stance (by simpa [rename] using edits) (text ▸ acts)
  rw [if_neg rename]
  by_cases symbols : method = "textDocument/documentSymbol"
  · rw [if_pos symbols]
    apply reading_keeps
    intro cursor given
    have text : contentOf method params = cursor.content? := by
      simp [contentOf, symbols, given, Except.toOption]
    exact listDocumentSymbols_asks.keeps stance (text ▸ acts)
  rw [if_neg symbols]
  by_cases search : method = "workspace/symbol"
  · rw [if_pos search]
    apply reading_keeps
    intro found given
    have text : contentOf method params = found.cursor.content? := by
      simp [contentOf, search, given, Except.toOption]
    exact (listWorkspaceSymbols_asks found).keeps stance (text ▸ acts)
  rw [if_neg search]
  have events : ¬ (method = "textDocument/didOpen" ∨ method = "textDocument/didChange") := by
    rintro (rfl | rfl) <;> simp [isEvent] at action
  have nothing : stance.Unbound := by
    refine ⟨clear ?_, acts.documents⟩
    simp [contentOf, events, definition, references, hover, rename, symbols, search]
  split
  · exact reading_keeps stance fun cursor _ => (explain_idle cursor).keeps fun _ => nothing
  · split
    · apply (Job.Idle.ofShaped _).returns.bind
      intro mapping
      exact Job.Keeps.harmless_bind trivial fun results => Job.Keeps.pure nothing
    · split
      · apply (Job.Idle.ofShaped _).returns.bind
        intro mapping
        exact Job.Keeps.harmless_bind trivial fun results => Job.Keeps.pure nothing
      · exact Job.Keeps.pure nothing

end Actions

section Events

variable {method : String} {params : Json}

/-- A thread that has taken a message of the editor. -/
structure Stance.Handles (stance : Stance) (method : String) (text : Option BufferContent) :
    Prop where
  token : stance.editor = true
  fresh : Editor.isEvent method = false → stance.fresh = some method
  documents : stance.documents = .free
  queue : stance.queue = .free
  owed : stance.debts.map (·.content) = text.toList
  kind : ∀ parcel ∈ stance.debts, parcel.event = Editor.isEvent method

theorem Stance.Handles.unbound (handles : stance.Handles method none) : stance.Unbound :=
  ⟨List.map_eq_nil_iff.mp handles.owed, handles.documents⟩

theorem Editor.documentSaved_keeps {name : DocumentName} (handles : stance.Handles method none) :
    (documentSaved name).Keeps roots stance fun _ after =>
      after.editor = true ∧ after.Unbound := by
  have tracked : (Session.trackedContext? name.file).Keeps roots stance fun found after =>
      ∃ known, after = { stance with known } ∧
        ∀ context, found = some context → ∃ session, context.session = some session := by
    unfold Session.trackedContext?
    refine Job.Keeps.harmless_bind trivial fun workspace => ?_
    split
    · exact Job.Keeps.pure ⟨stance.known, rfl, fun _ none => by cases none⟩
    · apply (Session.live?_keeps stance fun news => .miss).bind
      rintro found here (⟨session, rfl, _, rfl⟩ | ⟨rfl, rfl⟩)
      · refine Job.Keeps.pure ⟨session :: stance.known, rfl, fun context given => ?_⟩
        cases given
        exact ⟨session, rfl⟩
      · exact Job.Keeps.pure ⟨here.known, rfl, fun _ none => by cases none⟩
  unfold documentSaved
  apply tracked.bind
  rintro found here ⟨known, rfl, sessions⟩
  cases found with
  | none => exact Job.Keeps.pure ⟨handles.token, handles.unbound.debts, handles.documents⟩
  | some context =>
    obtain ⟨session, held⟩ := sessions context rfl
    apply (Context.didSave_returns { stance with known } held handles.documents).mono
    rintro _ _ rfl
    exact ⟨handles.token, handles.unbound.debts, handles.documents⟩

/-- What the editor tells of is done with before its next message is taken. -/
theorem Editor.handleEvent_keeps (event : isEvent method = true)
    (closes : method ≠ "textDocument/didClose") (ends : method ≠ "vlc/shutdown")
    (handles : stance.Handles method (contentOf method params)) :
    (handleEvent method params).Keeps roots stance fun _ after =>
      after.editor = true ∧ after.Unbound := by
  unfold handleEvent
  by_cases content : method = "textDocument/didOpen" ∨ method = "textDocument/didChange"
  · rw [if_pos content]
    have reading : (Job.ofShaped (BufferContent.read params)).Keeps roots stance fun value after =>
        BufferContent.read params = .ok value ∧ after = stance :=
      Job.Keeps.ofShaped fun value given => ⟨given, rfl⟩
    apply reading.bind
    rintro value here ⟨given, rfl⟩
    have owed := handles.owed
    rw [contentOf, if_pos content, given] at owed
    obtain ⟨parcel, single, same⟩ := List.map_eq_singleton_iff.mp owed
    have kind := (handles.kind parcel (by simp [single])).trans event
    subst same
    apply (Session.syncContent_keeps here handles.token handles.documents handles.queue single
      kind).mono
    rintro _ after ⟨known, rfl⟩
    exact ⟨handles.token, rfl, handles.documents⟩
  rw [if_neg content]
  have nothing : contentOf method params = none := by
    have others : method = "textDocument/didSave" ∨ method = "vlc/cursorMoved" ∨
        method = "vlc/bufEnter" ∨ method = "vlc/winClosed" := by
      simp only [isEvent, List.contains_eq_mem, List.mem_cons, List.not_mem_nil, or_false,
        decide_eq_true_eq] at event
      tauto
    rcases others with rfl | rfl | rfl | rfl <;> rfl
  rw [nothing] at handles
  have quiet {event : FloatEvent} : (takeFloatEvent event).Keeps roots stance fun _ after =>
      after.editor = true ∧ after.Unbound :=
    (takeFloatEvent_idle event).keeps fun _ => ⟨handles.token, handles.unbound⟩
  simp only [if_neg closes, if_neg ends]
  split
  · apply (Job.Idle.ofShaped _).returns.bind
    intro name
    exact documentSaved_keeps stance handles
  · split
    · exact (Job.Idle.ofShaped _).returns.bind fun _ => quiet
    · split
      · exact (Job.Idle.ofShaped _).returns.bind fun _ => quiet
      · split
        · exact (Job.Idle.ofShaped _).returns.bind fun _ => quiet
        · exact Job.Keeps.pure ⟨handles.token, handles.unbound⟩

end Events

namespace Server

/-- Published diagnostics are kept while the documents are held, and no lines change. -/
theorem publish_rests (free : stance.documents = .free) (published : PublishedDiagnostics) :
    (publish setup published).Rests roots stance := by
  unfold publish
  apply (Job.Idle.ofOutcome _).rests.bind
  intro file
  apply Job.Rests.bind
  · refine .inr fun _ news _ => ⟨_, _, _, .enter free, ?_⟩
    refine .inr fun (workspace : Workspace) news _ => ⟨_, _, _, .read rfl, ?_⟩
    refine .inr fun _ news _ => ⟨_, _, _, .retain rfl (.diagnostics _), ?_⟩
    refine .inr fun tree news _ => ⟨_, _, _, .harmless trivial, ?_⟩
    exact .inr (stance.leaves free _)
  · intro lines
    split
    · exact (Job.Idle.notify_editor _ _).rests
    · exact (Job.Idle.pure _).rests

theorem handleNotification_rests (free : stance.documents = .free) (method : String)
    (params : Json) : (handleNotification setup session method params).Rests roots stance := by
  unfold handleNotification
  split
  · apply (Job.Idle.ofShaped _).rests.bind
    intro notice
    apply Job.Idle.rests
    exact Job.Idle.ask_bind trivial fun _ => Job.Idle.pure _
  split
  · apply (Job.Idle.ofShaped _).rests.bind
    exact publish_rests stance free
  split
  · apply (Job.Idle.ofShaped _).rests.bind
    intro progress
    split
    · exact (Job.Idle.notify_editor _ _).rests
    · exact (Job.Idle.pure _).rests
  split
  · apply (Job.Idle.ofShaped _).rests.bind
    intro notice
    exact (Job.Idle.notify_editor _ _).rests
  · exact (Job.Idle.pure _).rests

/-- A server's message changes no lines, unless it asks for an edit. -/
theorem handle_rests {message : Message} (free : stance.documents = .free)
    (plain : message.method ≠ "workspace/applyEdit") :
    (handle setup session message).Rests roots stance := by
  have handler : (handlerFor message.method).Idle :=
    Job.Idle.ask_bind trivial fun _ => Job.Idle.pure _
  unfold handle
  apply handler.rests.bind
  intro handler
  cases message with
  | call origin id method params =>
    have quiet : resultOf session method params.toJson = return .null := if_neg plain
    dsimp only
    rw [quiet]
    have nothing : (Job.ofScript (return Json.null)).Idle := Job.Idle.ofScript trivial
    apply nothing.rests.bind
    intro result
    split
    · apply (Job.Idle.attempt (Job.Idle.notify_editor _ _)).rests.bind
      intro _
      exact (Job.Idle.reply ..).rests
    · exact (Job.Idle.reply ..).rests
  | notification origin method params =>
    apply (handleNotification_rests stance free method _).bind
    intro _
    split
    · exact (Job.Idle.notify_editor _ _).rests
    · exact (Job.Idle.pure _).rests
  | response answer => exact (Job.Idle.pure _).rests

end Server

namespace Program

variable {id : Option RequestId} {method : String} {params : Json} {post : Unit → Stance → Prop}

theorem replyToEditor_obeys (result : Json) (holds : post () stance) :
    (replyToEditor id result).Obeys roots stance post := by
  apply ((replyToEditor_idle id result).obeys stance).mono
  rintro _ _ rfl
  exact holds

theorem failing_fails (failure : Failure) : Script.Fails (do
    Editor.report failure
    replyToEditor id .null) :=
  Script.Fails.bind (Editor.report_fails failure) _

theorem dispatch_obeys (closes : method ≠ "textDocument/didClose") (ends : method ≠ "vlc/shutdown")
    (handles : stance.Handles method (contentOf method params)) :
    (dispatch id method params).Obeys roots stance fun _ after =>
      after.editor = true ∧ after.Unbound := by
  unfold dispatch
  split
  · rename_i event
    apply (Editor.handleEvent_keeps stance event closes ends handles).obeys
    · exact failing_fails
    · exact fun _ after holds => replyToEditor_obeys after .null holds
  · rename_i action
    have plain := Bool.eq_false_iff.mpr action
    have kind : ∀ parcel ∈ stance.debts, parcel.event = false := fun parcel member =>
      (handles.kind parcel member).trans plain
    refine .inr fun thread news _ => ?_
    exact ⟨_, _, _, .fork (.runAction (handles.fresh plain) plain handles.owed kind),
      handles.token, rfl, handles.documents⟩

/-- Every message is handled or given to a thread before the next one is taken. -/
theorem serveEditor_obeys :
    serveEditor.Obeys roots { editor := true } fun _ after => after.Unbound := by
  refine .inr fun (received : Option Message) news expected => ?_
  obtain ⟨message, rfl, closes, ends, content, kind⟩ := expected
  refine ⟨_, _, _, .receive rfl ⟨rfl, rfl⟩, ?_⟩
  have handles : Stance.Handles
      { editor := true
        fresh := if Editor.isEvent message.method then none else some message.method
        debts := news.parcel.toList }
      message.method message.content? := by
    refine ⟨rfl, by simp +contextual, rfl, rfl, ?_, ?_⟩
    · rw [content]
      cases news.parcel <;> rfl
    · exact fun parcel member => kind parcel (by simpa using member)
  have onward {after : Stance} (holds : after.editor = true ∧ after.Unbound) :
      Script.Obeys roots (do
        let _ ← Script.ask (.fork .serveEditor)
        return ()) after fun _ last => last.Unbound :=
    .inr fun thread news _ =>
      ⟨_, _, _, .fork (.serveEditor holds.1 holds.2.debts), holds.2.debts, holds.2.documents⟩
  cases message with
  | call origin id method params =>
    exact (dispatch_obeys _ closes ends handles).bind fun _ _ holds => onward holds
  | notification origin method params =>
    exact (dispatch_obeys _ closes ends handles).bind fun _ _ holds => onward holds
  | response answer => exact onward ⟨rfl, handles.unbound⟩

/-- An action owes nothing in the end. -/
theorem runAction_obeys {stance : Stance} (action : Editor.isEvent method = false)
    (edits : stance.edits = decide (method = "textDocument/rename"))
    (acts : stance.Acts (contentOf method params)) :
    (runAction setup id method params).Obeys roots stance fun _ after => after.Unbound := by
  apply (Editor.act_keeps stance action edits acts).obeys
  · exact failing_fails
  · exact fun result after unbound => replyToEditor_obeys after result unbound

theorem serveSession_obeys {stance : Stance} (unbound : stance.Unbound) :
    (serveSession setup session).Obeys roots stance fun _ after => after.Unbound := by
  refine .inr fun (received : Option Message) news expected => ?_
  refine ⟨_, _, _, .listen unbound, ?_⟩
  cases received with
  | none => exact unbound
  | some message =>
    apply Script.Obeys.bind (Server.handle_rests stance unbound.documents (expected message rfl))
    rintro _ _ rfl
    exact .inr fun thread news _ => ⟨_, _, _, .fork .serveSession, unbound⟩

/-- Every thread obeys the stance that it is started with, and owes nothing in the end. -/
theorem scriptOf_obeys {work : Work} {after child : Stance}
    (splits : stance.Splits work after child) :
    (scriptOf setup work).Obeys roots child fun _ last => last.Unbound := by
  cases splits with
  | serveEditor token clear => exact serveEditor_obeys.bind fun _ _ unbound => unbound
  | @runAction id method params fresh action owed plain =>
    have acts : Stance.Acts
        { debts := stance.debts, edits := decide (method = "textDocument/rename") }
        (contentOf method params) :=
      ⟨rfl, rfl, rfl, rfl, rfl, owed, plain⟩
    exact (runAction_obeys action rfl acts).bind fun _ _ unbound => unbound
  | startQueued =>
    apply Job.Keeps.obeys_of_sure (Session.startQueued_keeps {} rfl rfl rfl rfl rfl)
    · exact Session.startQueued_sure _ _
    · exact fun _ _ unbound => unbound
  | serveSession => exact (serveSession_obeys ⟨rfl, rfl⟩).bind fun _ _ unbound => unbound

end Program

end LanguageBridge
