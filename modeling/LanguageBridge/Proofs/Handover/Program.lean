import LanguageBridge.Program
import LanguageBridge.Script.Basic

/-!
Scripts that say on their way what becomes of content for sessions. Remarks are no operations: the
script without them is what the program does.
-/
namespace LanguageBridge

/-- What is remarked of content: it was given for a session, it was handed over to be brought to
the session's server, a start of the session has failed, and what was queued for it was dropped. -/
inductive Remark
  | given (key : SessionKey) (content : BufferContent)
  | handed (key : SessionKey) (content : BufferContent)
  | failed (key : SessionKey)
  | dropped (key : SessionKey) (contents : List BufferContent)
  deriving DecidableEq, Repr

/-- The session that a remark is about. -/
def Remark.key : Remark → SessionKey
  | .given key _ | .handed key _ | .failed key | .dropped key _ => key

/-- A script with remarks between its operations. -/
inductive Annotated (α : Type) where
  | done (value : α)
  | step (operation : Operation) (next : operation.Answer → Annotated α)
  | remark (said : Remark) (rest : Annotated α)

variable {α β : Type}

namespace Annotated

/-- An annotated script followed by the one that its value chooses. -/
def bind : Annotated α → (α → Annotated β) → Annotated β
  | .done value, rest => rest value
  | .step operation next, rest => .step operation fun answer => (next answer).bind rest
  | .remark said script, rest => .remark said (script.bind rest)

instance : Monad Annotated where
  pure := done
  bind := bind

/-- A single operation. -/
def ask (operation : Operation) : Annotated operation.Answer := .step operation .done

/-- A script with nothing to remark. -/
def plain : Script α → Annotated α
  | .done value => .done value
  | .step operation next => .step operation fun answer => plain (next answer)

/-- The script without its remarks. -/
def erase : Annotated α → Script α
  | .done value => .done value
  | .step operation next => .step operation fun answer => (next answer).erase
  | .remark _ rest => rest.erase

theorem erase_bind (script : Annotated α) (next : α → Annotated β) :
    (script.bind next).erase = script.erase.bind fun value => (next value).erase := by
  induction script with
  | done value => rfl
  | step operation onward ih => simp [bind, erase, Script.bind, ih]
  | remark said rest ih => exact ih

@[simp] theorem erase_plain (script : Script α) : (plain script).erase = script := by
  induction script with
  | done value => rfl
  | step operation next ih => simp [plain, erase, ih]

@[simp] theorem erase_bind_eq (script : Annotated α) (next : α → Annotated β) :
    (script >>= next).erase = script.erase >>= fun value => (next value).erase :=
  erase_bind script next

@[simp] theorem erase_pure (value : α) : (pure value : Annotated α).erase = pure value := rfl

@[simp] theorem erase_ask (operation : Operation) : (ask operation).erase = Script.ask operation :=
  rfl

end Annotated

/-- An annotated script that may fail. -/
abbrev AnnotatedJob (α : Type) := ExceptT Failure Annotated α

namespace AnnotatedJob

/-- A job with nothing to remark. -/
def plain (job : Job α) : AnnotatedJob α := ExceptT.mk (Annotated.plain job.run)

/-- A single operation. -/
def ask (operation : Operation) : AnnotatedJob operation.Answer :=
  ExceptT.lift (Annotated.ask operation)

/-- A remark by itself. -/
def remark (said : Remark) : AnnotatedJob Unit := ExceptT.mk (.remark said (.done (.ok ())))

/-- Does a job and goes on with its outcome, also when it fails. -/
def attempt (job : AnnotatedJob α) : AnnotatedJob (Outcome α) := ExceptT.lift job.run

/-- Does a job while holding a lock, and lets go of it whatever comes of the job. -/
def holding (lock : Lock) (mode : LockMode) (job : AnnotatedJob α) : AnnotatedJob α :=
  ExceptT.mk (do
    let _ ← Annotated.ask (.acquire lock mode)
    let outcome ← job.run
    let _ ← Annotated.ask (.release lock)
    return outcome)

/-- The job without its remarks. -/
def erase (job : AnnotatedJob α) : Job α := ExceptT.mk job.run.erase

@[simp] theorem run_erase (job : AnnotatedJob α) : job.run.erase = job.erase.run := rfl

@[simp] theorem erase_plain (job : Job α) : (plain job).erase = job :=
  Annotated.erase_plain job.run

@[simp] theorem erase_ask (operation : Operation) : (ask operation).erase = Job.ask operation := rfl

@[simp] theorem erase_pure (value : α) : (pure value : AnnotatedJob α).erase = pure value := rfl

@[simp] theorem erase_bind (job : AnnotatedJob α) (next : α → AnnotatedJob β) :
    (job >>= next).erase = job.erase >>= fun value => (next value).erase := by
  refine (Annotated.erase_bind job.run (ExceptT.bindCont next)).trans ?_
  refine congrArg (Script.bind job.erase.run) (funext fun outcome => ?_)
  cases outcome <;> rfl

@[simp] theorem erase_remark (said : Remark) : (remark said).erase = pure () := rfl

@[simp] theorem erase_attempt (job : AnnotatedJob α) :
    (attempt job).erase = Job.attempt job.erase :=
  Annotated.erase_bind ..

@[simp] theorem erase_holding (lock : Lock) (mode : LockMode) (job : AnnotatedJob α) :
    (holding lock mode job).erase = Job.holding lock mode job.erase :=
  congrArg (Script.step (.acquire lock mode)) (funext fun _ => Annotated.erase_bind job.run _)

end AnnotatedJob

end LanguageBridge

/-!
The program with remarks on content of the editor's events: where it is given, where it is handed
over to be brought to a server, and where it is dropped after a start that failed. Without its
remarks every thread does what it does in the program.
-/
namespace LanguageBridge.Remarked

open AnnotatedJob (plain ask remark holding)

/-- Sends content to the server one after the other. -/
def sendAll (session : Session) : List BufferContent → AnnotatedJob Unit
  | [] => return
  | content :: rest => do
    remark (.handed session.key content)
    match ← plain (Job.attempt ((Context.ofSession session).sync content.file content.text)) with
    | .ok _ => sendAll session rest
    | .error failure =>
      plain (Job.ofScript (Editor.report failure))
      sendAll session rest

/-- Sends what has been queued for a session. -/
def flushQueue (session : Session) : AnnotatedJob Unit :=
  holding .queue .exclusive do
    let queue ← ask .queue
    match queue.get? session.key with
    | none => return
    | some contents =>
      let _ ← ask (.setQueue (queue.erase session.key))
      sendAll session contents

/-- Forgets what has been queued for a key. -/
def discardQueue (key : SessionKey) : AnnotatedJob Unit :=
  holding .queue .exclusive do
    let queue ← ask .queue
    let _ ← ask (.setQueue (queue.erase key))
    remark (.dropped key ((queue.get? key).getD []))

/-- Starts a session for queued content and sends the content, or forgets it when the start
fails. -/
def startQueued (setup : Setup) (key : SessionKey) : AnnotatedJob Unit := do
  match ← plain (Job.attempt (Session.getOrStart key (Session.start setup key))) with
  | .ok session => flushQueue session
  | .error failure =>
    remark (.failed key)
    discardQueue key
    plain (Job.ofScript (Editor.report failure))

/-- What to do with content once the queue is held. -/
def takeIn (key : SessionKey) (content : BufferContent) : AnnotatedJob Bool :=
  holding .queue .exclusive do
    let queue ← ask .queue
    match queue.get? key with
    | some contents =>
      let _ ← ask (.setQueue (queue.insert key (contents ++ [content])))
      return false
    | none =>
      match ← plain (Session.live? key) with
      | some session =>
        remark (.handed key content)
        let _ ← plain ((Context.ofSession session).sync content.file content.text)
        return false
      | none =>
        let _ ← ask (.setQueue (queue.insert key [content]))
        return true

/-- Takes content of the editor without waiting for a server to start. -/
def syncContent (content : BufferContent) : AnnotatedJob Unit := do
  let key ← plain (Session.keyOf content.language content.file)
  remark (.given key content)
  if ← takeIn key content then
    let _ ← plain (Job.ask (.fork (.startQueued key)))

/-- The context of work on a file. -/
def contextFor (setup : Setup) (context : Context) : AnnotatedJob Context := do
  let key ← plain (Session.keyOf context.language context.file)
  let session ← plain (Session.getOrStart key (Session.start setup key))
  flushQueue session
  return { context with session := some session }

/-- The context of a request at a cursor, its buffer text sent. -/
def cursorContext (setup : Setup) (cursor : CursorPlace) : AnnotatedJob Context := do
  let context ← contextFor setup (Context.ofCursor cursor)
  match cursor.text with
  | some text =>
    let _ ← plain (context.sync cursor.file text)
  | none => pure ()
  return context

def goToDefinition (setup : Setup) (cursor : CursorPlace) : AnnotatedJob Unit := do
  let context ← cursorContext setup cursor
  plain do
    match ← context.definition cursor with
    | none => return
    | some definition =>
      match definition.locations with
      | [] => return
      | [location] => Editor.jump context (← Editor.jumpTarget location)
      | locations => Editor.showLocations setup "Definitions" locations

def listReferences (setup : Setup) (cursor : CursorPlace) : AnnotatedJob Unit := do
  let context ← cursorContext setup cursor
  plain do
    Editor.showLocations setup "References" (← context.references cursor)

def hover (setup : Setup) (cursor : CursorPlace) : AnnotatedJob Unit := do
  match ← ask (.hoverAgain cursor.buffer) with
  | some effects => plain (Editor.carryOutAll effects)
  | none =>
    let context ← cursorContext setup cursor
    plain do
      match (← context.hover cursor).bind Hover.preview? with
      | none => return
      | some preview => Editor.showHover setup cursor preview

def rename (setup : Setup) (request : RenameRequest) : AnnotatedJob Unit := do
  let context ← cursorContext setup request.cursor
  plain do
    match ← context.rename request with
    | some edit => Editor.applyEdit context edit (some request.cursor)
    | none => return

def listDocumentSymbols (setup : Setup) (cursor : CursorPlace) : AnnotatedJob Unit := do
  let context ← cursorContext setup cursor
  plain do
    match ← context.documentSymbols cursor.file with
    | none => return
    | some answer =>
      Editor.showLocations setup "Document symbols"
        (← Job.ofOutcome (Editor.symbolLocations cursor.file answer))

def listWorkspaceSymbols (setup : Setup) (search : SymbolSearch) : AnnotatedJob Unit := do
  let context ← cursorContext setup search.cursor
  plain do
    let symbols ← context.workspaceSymbols search.query
    Editor.showLocations setup "Workspace symbols" (symbols.map (·.location))

/-- Carries out what the editor asks for and gives the result; only what is done at a cursor may
send what is queued. -/
def act (setup : Setup) (method : String) (params : Json) : AnnotatedJob Json := do
  if method = "textDocument/definition" then
    goToDefinition setup (← plain (Job.ofShaped (CursorPlace.read params)))
    return .null
  else if method = "textDocument/references" then
    listReferences setup (← plain (Job.ofShaped (CursorPlace.read params)))
    return .null
  else if method = "textDocument/hover" then
    hover setup (← plain (Job.ofShaped (CursorPlace.read params)))
    return .null
  else if method = "textDocument/rename" then
    rename setup (← plain (Job.ofShaped (RenameRequest.read params)))
    return .null
  else if method = "textDocument/documentSymbol" then
    listDocumentSymbols setup (← plain (Job.ofShaped (CursorPlace.read params)))
    return .null
  else if method = "workspace/symbol" then
    listWorkspaceSymbols setup (← plain (Job.ofShaped (SymbolSearch.read params)))
    return .null
  else plain (Editor.act setup method params)

/-- Does what the editor asked for; a failure is shown to the user. -/
def runAction (setup : Setup) (id : Option RequestId) (method : String) (params : Json) :
    Annotated Unit := do
  let outcome ← (act setup method params).run
  Annotated.plain (match outcome with
    | .ok result => Program.replyToEditor id result
    | .error failure => do
      Editor.report failure
      Program.replyToEditor id .null)

/-- Handles an event of the editor. -/
def handleEvent (method : String) (params : Json) : AnnotatedJob Unit := do
  if method = "textDocument/didOpen" ∨ method = "textDocument/didChange" then
    syncContent (← plain (Job.ofShaped (BufferContent.read params)))
  else plain (Editor.handleEvent method params)

/-- Handles an event of the editor; a failure is shown to the user. -/
def runEvent (id : Option RequestId) (method : String) (params : Json) : Annotated Unit := do
  let outcome ← (handleEvent method params).run
  Annotated.plain (match outcome with
    | .ok _ => Program.replyToEditor id .null
    | .error failure => do
      Editor.report failure
      Program.replyToEditor id .null)

/-- Handles a message with a method, or leaves it to a thread of its own. -/
def dispatch (id : Option RequestId) (method : String) (params : Json) : Annotated Unit :=
  if Editor.isEvent method then runEvent id method params
  else Annotated.plain (Program.dispatch id method params)

/-- Takes the editor's next message, and then leaves the rest to a thread like itself. -/
def serveEditor : Annotated Unit := do
  match ← Annotated.ask (.receive .editor) with
  | none =>
    let _ ← Annotated.plain Session.shutdownAll.run
    return
  | some message =>
    match message with
    | .call _ id method params => dispatch (some id) method params.toJson
    | .notification _ method params => dispatch none method params.toJson
    | .response _ => pure ()
    let _ ← Annotated.ask (.fork .serveEditor)
    return

/-- What a thread does, with remarks. -/
def scriptOf (setup : Setup) (work : Work) : Annotated (Outcome Json) :=
  match work with
  | .serveEditor => do serveEditor; return Program.quiet
  | .runAction id method params => do runAction setup id method params; return Program.quiet
  | .startQueued key => do
    let _ ← (startQueued setup key).run
    return Program.quiet
  | .serveSession _ | .stopSession _ => Annotated.plain (Program.scriptOf setup work)

section Erasing

variable (setup : Setup) (session : Session) (key : SessionKey) (content : BufferContent)

theorem erase_sendAll (contents : List BufferContent) :
    (sendAll session contents).erase = session.sendAll contents := by
  induction contents with
  | nil => rfl
  | cons content rest ih =>
    simp only [sendAll, Session.sendAll, AnnotatedJob.erase_remark, AnnotatedJob.erase_bind,
      AnnotatedJob.erase_plain, pure_bind]
    refine congrArg _ (funext fun outcome => ?_)
    cases outcome with
    | ok _ => exact ih
    | error failure => simp [ih]

theorem erase_flushQueue : (flushQueue session).erase = session.flushQueue := by
  simp only [flushQueue, Session.flushQueue, AnnotatedJob.erase_holding, AnnotatedJob.erase_bind,
    AnnotatedJob.erase_ask]
  refine congrArg _ (congrArg _ (funext fun (queue : Table SessionKey (List BufferContent)) => ?_))
  cases queue.get? session.key <;> simp [erase_sendAll]

theorem erase_discardQueue : (discardQueue key).erase = Session.discardQueue key := by
  simp only [discardQueue, Session.discardQueue, AnnotatedJob.erase_holding,
    AnnotatedJob.erase_bind, AnnotatedJob.erase_ask]
  rfl

theorem erase_startQueued : (startQueued setup key).erase = Session.startQueued setup key := by
  simp only [startQueued, Session.startQueued, AnnotatedJob.erase_bind, AnnotatedJob.erase_plain]
  refine congrArg _ (funext fun outcome => ?_)
  cases outcome with
  | ok session => exact erase_flushQueue session
  | error failure => simp [erase_discardQueue]

theorem erase_takeIn : (takeIn key content).erase = Session.takeIn key content := by
  simp only [takeIn, Session.takeIn, AnnotatedJob.erase_holding, AnnotatedJob.erase_bind,
    AnnotatedJob.erase_ask]
  refine congrArg _ (congrArg _ (funext fun (queue : Table SessionKey (List BufferContent)) => ?_))
  cases queue.get? key with
  | some contents => simp
  | none =>
    simp only [AnnotatedJob.erase_bind, AnnotatedJob.erase_plain]
    refine congrArg _ (funext fun found => ?_)
    cases found <;> simp

theorem erase_syncContent : (syncContent content).erase = Session.syncContent content := by
  simp only [syncContent, Session.syncContent, AnnotatedJob.erase_bind, AnnotatedJob.erase_plain,
    AnnotatedJob.erase_remark, pure_bind, erase_takeIn]
  refine congrArg _ (funext fun key => congrArg _ (funext fun first => ?_))
  cases first <;> simp

theorem erase_contextFor (context : Context) :
    (contextFor setup context).erase = Session.contextFor setup context := by
  simp [contextFor, Session.contextFor, erase_flushQueue]

theorem erase_cursorContext (cursor : CursorPlace) :
    (cursorContext setup cursor).erase = Editor.cursorContext setup cursor := by
  simp only [cursorContext, Editor.cursorContext, AnnotatedJob.erase_bind, erase_contextFor]
  refine congrArg _ (funext fun context => ?_)
  cases cursor.text <;> simp

theorem erase_goToDefinition (cursor : CursorPlace) :
    (goToDefinition setup cursor).erase = Editor.goToDefinition setup cursor := by
  simp only [goToDefinition, AnnotatedJob.erase_bind, AnnotatedJob.erase_plain, erase_cursorContext]
  rfl

theorem erase_listReferences (cursor : CursorPlace) :
    (listReferences setup cursor).erase = Editor.listReferences setup cursor := by
  simp only [listReferences, AnnotatedJob.erase_bind, AnnotatedJob.erase_plain, erase_cursorContext]
  rfl

theorem erase_hover (cursor : CursorPlace) :
    (hover setup cursor).erase = Editor.hover setup cursor := by
  simp only [hover, Editor.hover, AnnotatedJob.erase_bind, AnnotatedJob.erase_ask]
  refine congrArg _ (funext fun (entered : Option (List FloatEffect)) => ?_)
  cases entered with
  | some effects => exact AnnotatedJob.erase_plain _
  | none =>
    rw [AnnotatedJob.erase_bind, erase_cursorContext]
    exact congrArg _ (funext fun _ => AnnotatedJob.erase_plain _)

theorem erase_rename (request : RenameRequest) :
    (rename setup request).erase = Editor.rename setup request := by
  simp only [rename, AnnotatedJob.erase_bind, AnnotatedJob.erase_plain, erase_cursorContext]
  rfl

theorem erase_listDocumentSymbols (cursor : CursorPlace) :
    (listDocumentSymbols setup cursor).erase = Editor.listDocumentSymbols setup cursor := by
  simp only [listDocumentSymbols, AnnotatedJob.erase_bind, AnnotatedJob.erase_plain,
    erase_cursorContext]
  rfl

theorem erase_listWorkspaceSymbols (search : SymbolSearch) :
    (listWorkspaceSymbols setup search).erase = Editor.listWorkspaceSymbols setup search := by
  simp only [listWorkspaceSymbols, AnnotatedJob.erase_bind, AnnotatedJob.erase_plain,
    erase_cursorContext]
  rfl

theorem erase_act (method : String) (params : Json) :
    (act setup method params).erase = Editor.act setup method params := by
  have reading {α : Type} (shaped : Shaped α) {annotated : α → AnnotatedJob Unit}
      {action : α → Job Unit} (erases : ∀ value, (annotated value).erase = action value) :
      AnnotatedJob.erase (do
        annotated (← plain (Job.ofShaped shaped))
        return Json.null) = (do
        action (← Job.ofShaped shaped)
        return Json.null) := by
    simp [erases]
  conv => rhs; unfold Editor.act
  unfold act
  split
  · exact reading _ (erase_goToDefinition setup)
  split
  · exact reading _ (erase_listReferences setup)
  split
  · exact reading _ (erase_hover setup)
  split
  · exact reading _ (erase_rename setup)
  split
  · exact reading _ (erase_listDocumentSymbols setup)
  split
  · exact reading _ (erase_listWorkspaceSymbols setup)
  · clear reading
    rw [AnnotatedJob.erase_plain, Editor.act]
    simp only [*, if_false]

theorem erase_runAction (id : Option RequestId) (method : String) (params : Json) :
    (runAction setup id method params).erase = Program.runAction setup id method params := by
  simp only [runAction, Annotated.erase_bind_eq, AnnotatedJob.run_erase, erase_act,
    Annotated.erase_plain]
  rfl

theorem erase_handleEvent (method : String) (params : Json) :
    (handleEvent method params).erase = Editor.handleEvent method params := by
  unfold handleEvent
  split
  · rename_i opens
    simp [Editor.handleEvent, opens, erase_syncContent]
  · exact AnnotatedJob.erase_plain _

theorem erase_runEvent (id : Option RequestId) (method : String) (params : Json) :
    (runEvent id method params).erase = Program.runEvent id method params := by
  simp only [runEvent, Annotated.erase_bind_eq, AnnotatedJob.run_erase, erase_handleEvent,
    Annotated.erase_plain]
  rfl

theorem erase_dispatch (id : Option RequestId) (method : String) (params : Json) :
    (dispatch id method params).erase = Program.dispatch id method params := by
  unfold dispatch
  split
  · rename_i event
    simp [Program.dispatch, event, erase_runEvent]
  · exact Annotated.erase_plain _

theorem erase_serveEditor : serveEditor.erase = Program.serveEditor := by
  simp only [serveEditor, Program.serveEditor, Annotated.erase_bind_eq, Annotated.erase_ask]
  refine congrArg _ (funext fun (received : Option Message) => ?_)
  cases received with
  | none => simp
  | some message => cases message <;> simp [erase_dispatch]

/-- Without its remarks a thread does what it does in the program. -/
theorem erase_scriptOf (work : Work) :
    (scriptOf setup work).erase = Program.scriptOf setup work := by
  cases work with
  | serveEditor => simp [scriptOf, Program.scriptOf, erase_serveEditor]
  | runAction id method params => simp [scriptOf, Program.scriptOf, erase_runAction]
  | startQueued key => simp [scriptOf, Program.scriptOf, erase_startQueued]
  | serveSession session => exact Annotated.erase_plain _
  | stopSession session => exact Annotated.erase_plain _

end Erasing

end LanguageBridge.Remarked
