import LanguageBridge.Proofs.Precedence.Sessions

/-!
Whoever takes the content from the editor queues it for its session or brings it to the session's
server, unless it is for another session; and whoever works on a file has a session whose queue was
sent.
-/
namespace LanguageBridge.Session

variable {letter : Letter} {bearing : Bearing} {setup : Setup} {key : SessionKey}
  {context : Context} {content : BufferContent} {queue : Table SessionKey (List BufferContent)}

/-- Other content may be taken at any time. -/
theorem takeIn_tame (key : SessionKey) (content : BufferContent) :
    (takeIn key content).Tame letter := by
  intro bearing documents free
  refine Job.Fits.holding (fun _ => .hold free) ?_
  refine Job.bears_ask_bind fun (queue : Table SessionKey (List BufferContent)) due _ =>
    ⟨.plain, _, none, trivial, .see rfl, ?_⟩
  have queueing (contents : List BufferContent) (before : (queue.get? key).getD [] = contents)
      {known : Bearing} (grows : Bearing.Grows { bearing with queue := .seen queue } known)
      (answer : Bool) :
      (Job.ask (.setQueue (queue.insert key (contents ++ [content]))) >>= fun _ =>
        (pure answer : Job Bool)).run.Bears letter known fun _ held => ∀ due, ∃ left child,
          letter.Turns due held .plain (.release .queue) () left child ∧ bearing.Grows left ∧
            True := by
    subst before
    have back : bearing.Grows { known with queue := .free } := grows.of_queue free
    exact .step fun _ due _ => ⟨_, none, .keep grows.queue fun queued => queued.insert key content,
      fun due => ⟨_, none, .letGo nofun, back, trivial⟩⟩
  split
  · rename_i contents waiting
    exact queueing contents (by simp [waiting]) (.refl _) false
  · rename_i waiting
    refine Script.Bears.bind (live?_fits key _) ?_
    rintro _ known ⟨grows, found, rfl, knows⟩
    cases found with
    | none => exact queueing [] (by simp [waiting]) grows true
    | some session =>
      have sending : ((Context.ofSession session).sync content.file content.text).Fits letter known
          fun _ _ => True := Context.sync_gentle _ _ _ known (grows.documents.trans documents)
      refine Script.Bears.bind sending fun outcome held given => ?_
      obtain ⟨more, _⟩ := given
      have whole := grows.trans more
      have leaving (due : Bool) : ∃ left child,
          letter.Turns due held .plain (.release .queue) () left child ∧ bearing.Grows left ∧
            True := by
        have seen : held.queue = .seen queue := whole.queue
        exact ⟨_, none, .letGo (by simp [seen]), whole.of_queue free, trivial⟩
      cases outcome <;> exact leaving

/-- The content is queued for its session or brought to the session's server. -/
theorem takeIn_forwards (owing : bearing.watch = .owing) (documents : bearing.documents = .free)
    (free : bearing.queue = .free) :
    (takeIn letter.key letter.content).run.Bears letter bearing fun _ after =>
      Bearing.Grows { bearing with watch := .past } after := by
  refine Job.bears_holding (fun _ => .hold free) ?_
  refine Job.bears_ask_bind fun (queue : Table SessionKey (List BufferContent)) due _ =>
    ⟨.plain, _, none, trivial, .see rfl, ?_⟩
  have queueing (contents : List BufferContent)
      (before : (queue.get? letter.key).getD [] = contents)
      {known : Bearing} (grows : Bearing.Grows { bearing with queue := .seen queue } known)
      (answer : Bool) :
      (Job.ask (.setQueue (queue.insert letter.key (contents ++ [letter.content]))) >>= fun _ =>
        (pure answer : Job Bool)).run.Bears letter known fun _ held => ∀ due, ∃ left child,
          letter.Turns due held .plain (.release .queue) () left child ∧
            Bearing.Grows { bearing with watch := .past } left := by
    subst before
    refine .step fun _ due _ => ⟨_, none,
      .lodge grows.queue (grows.watch.trans owing) (.lodged letter queue), fun due => ?_⟩
    refine ⟨_, none, .letGo nofun, ?_⟩
    exact { grows with watch := rfl, queue := free.symm }
  split
  · rename_i contents waiting
    exact queueing contents (by simp [waiting]) (.refl _) false
  · rename_i waiting
    refine Script.Bears.bind (live?_fits letter.key _) ?_
    rintro _ known ⟨grows, found, rfl, knows⟩
    cases found with
    | none => exact queueing [] (by simp [waiting]) grows true
    | some session =>
      obtain ⟨member, own⟩ := knows session rfl
      have sending : ((Context.ofSession session).sync letter.content.file
          letter.content.text).Fits letter known fun _ after => known.Carries →
            session ∈ known.known → letter.content.file = letter.content.file →
              letter.content.text = letter.content.text → session ∈ after.had :=
        Context.sync_fits _ _ rfl (grows.documents.trans documents)
      refine Script.Bears.bind sending fun outcome held given => ?_
      obtain ⟨more, had⟩ := given
      have whole := grows.trans more
      have owed : held.watch = .owing := whole.watch.trans owing
      have brought := had (.inl (grows.watch.trans owing)) member rfl rfl
      have passing (due : Bool) : ∃ left child,
          letter.Turns due held .plain (.release .queue) () left child ∧
            Bearing.Grows { bearing with watch := .past } left := by
        have seen : held.queue = .seen queue := whole.queue
        refine ⟨_, none, .pass (by simp [seen]) owed brought own, ?_⟩
        exact { whole with watch := rfl, queue := free.symm }
      cases outcome <;> exact passing

theorem keyOf_plain (language file : String) : (keyOf language file).Each Operation.Plain :=
  Job.Each.ask_bind trivial fun _ => Job.Each.ofOutcome _

/-- Work that brings no content of the editor and serves it not may be started by anybody. -/
theorem start_tame {work : Work} (other : match work with
      | .serveEditor | .runAction .. => False
      | _ => True) {α : Type} {next : Nat → Job α} (rest : ∀ thread, (next thread).Tame letter) :
    (Job.ask (.fork work) >>= next).Tame letter :=
  fun bearing documents queue => Job.Fits.ask_bind fun thread _ _ =>
    ⟨bearing, some {}, .start other, .refl bearing, rest thread bearing documents queue⟩

/-- Other content is taken, and a thread is started if it is the first for its session. -/
theorem intake_tame (key : SessionKey) (content : BufferContent) : Job.Tame letter (do
    if ← takeIn key content then
      let _ ← Job.ask (.fork (.startQueued key))) := by
  refine (takeIn_tame key content).bind fun first => ?_
  split
  · exact start_tame trivial fun _ => (Job.Gentle.pure _).tame
  · exact (Job.Gentle.pure _).tame

theorem syncContent_tame (content : BufferContent) : (syncContent content).Tame letter :=
  (Job.Gentle.of_each (keyOf_plain _ _)).tame.bind fun key => intake_tame key content

/-- The content is queued for its session or brought to the session's server, unless it is for
another session. -/
theorem syncContent_forwards (owing : bearing.watch = .owing) (documents : bearing.documents = .free)
    (free : bearing.queue = .free) :
    (syncContent letter.content).run.Bears letter bearing fun _ after =>
      Bearing.Grows { bearing with watch := .past } after := by
  unfold syncContent keyOf
  rw [bind_assoc]
  refine Job.bears_ask_bind fun (tree : FileTree) due _ => ?_
  by_cases own : SessionKey.ofFile tree letter.content.language letter.content.file =
      .ok letter.key
  · rw [own]
    refine ⟨.plain, bearing, none, trivial, .plain trivial, ?_⟩
    change Script.Bears letter (Script.bind (takeIn letter.key letter.content).run _) bearing _
    refine Script.Bears.bind (takeIn_forwards owing documents free) fun outcome after grows => ?_
    cases outcome with
    | error failure => exact grows
    | ok first =>
      cases first with
      | true => exact .step fun _ _ _ => ⟨after, some {}, .start trivial, grows⟩
      | false => exact grows
  · refine ⟨.plain, _, none, trivial, .stray owing own, ?_⟩
    have rest : Job.Tame letter (do
        let key ← Job.ofOutcome
          (SessionKey.ofFile tree letter.content.language letter.content.file)
        if ← takeIn key letter.content then
          let _ ← Job.ask (.fork (.startQueued key))) := by
      refine (Job.Gentle.ofOutcome _).tame.bind fun key => ?_
      exact intake_tame key letter.content
    exact Script.Bears.mono (rest _ documents free) fun _ _ ⟨grows, _⟩ => grows

/-- Whoever has looked up a file's key has found out to which session the file belongs. -/
theorem keyOf_fits (language file : String) :
    (keyOf language file).Fits letter bearing fun outcome after => ∀ key, outcome = .ok key →
      (file, key) ∈ after.found := by
  refine Job.Fits.ask_bind fun (tree : FileTree) due _ => ?_
  cases belongs : SessionKey.ofFile tree language file with
  | error failure =>
    exact ⟨bearing, none, .plain trivial, .refl bearing, Job.Fits.ofOutcome nofun⟩
  | ok key =>
    refine ⟨_, none, .locate belongs, .finds bearing file key, Job.Fits.ofOutcome ?_⟩
    rintro _ ⟨⟩
    exact List.mem_cons_self

/-- Whoever works on a file has its session in use, whose queue was sent. -/
theorem contextFor_fits (setup : Setup) (context : Context) (documents : bearing.documents = .free)
    (free : bearing.queue = .free) :
    (contextFor setup context).Fits letter bearing fun outcome after => ∀ given,
      outcome = .ok given →
        ∃ session, given.session = some session ∧ after.Serves session context.file := by
  refine (keyOf_fits _ _).bind (fun _ _ _ _ => nofun) ?_
  intro key located grows found
  refine (getOrStart_fits setup key (grows.documents.trans documents)).bind
    (fun _ _ _ _ => nofun) ?_
  intro session after more known
  have whole := grows.trans more
  obtain ⟨member, rfl⟩ := known session rfl
  refine (flushQueue_fits (whole.documents.trans documents) (whole.queue.trans free) member).bind
    (fun _ _ _ _ => nofun) fun _ last further cleared => Job.Fits.pure ?_
  rintro _ ⟨⟩
  exact ⟨session, rfl, further.known member, cleared, further.found (more.found (found _ rfl))⟩

theorem trackedContext?_tame (file : String) : (trackedContext? file).Tame letter := by
  refine .plain_bind trivial fun (workspace : Workspace) => ?_
  split
  · exact (Job.Gentle.pure _).tame
  · refine Job.Tame.bind (fun bearing _ _ => (live?_fits _ bearing).mono fun _ _ _ _ => trivial)
      fun found => ?_
    split <;> exact (Job.Gentle.pure _).tame

theorem close_tame (key : SessionKey) : (close key).Tame letter := by
  refine .plain_bind trivial fun found => ?_
  cases found with
  | none => exact (Job.Gentle.pure _).tame
  | some session => exact start_tame trivial fun _ => (Job.Gentle.pure _).tame

theorem shutdownAll_tame : shutdownAll.Tame letter := by
  have stopping (sessions : List Session) : (stopAll sessions).Tame letter := by
    induction sessions with
    | nil => exact (Job.Gentle.pure _).tame
    | cons session rest ih =>
      exact start_tame trivial fun _ => ih.bind fun _ => (Job.Gentle.pure _).tame
  refine .plain_bind trivial fun sessions => (stopping sessions).bind fun threads => ?_
  refine (Job.Gentle.forM (fun thread => ?_) threads).tame
  exact .plain_bind trivial fun _ => .pure _

end LanguageBridge.Session

/-!
All threads of the program bear themselves well, whatever they are started for.
-/
namespace LanguageBridge

variable {letter : Letter} {bearing : Bearing} {setup : Setup} {session : Session}

namespace Editor

variable {cursor : CursorPlace}

/-- What is done with the session of a file whose queue was sent, after the text at the cursor. -/
theorem asking_tame {next : Context → Job Unit}
    (asks : ∀ context session bearing, context.session = some session →
      bearing.Serves session cursor.file → bearing.documents = .free → bearing.queue = .free →
        (next context).Fits letter bearing fun _ _ => True) :
    (cursorContext setup cursor >>= next).Tame letter := by
  intro bearing documents queue
  have context : (cursorContext setup cursor).Fits letter bearing fun outcome after =>
      ∀ given, outcome = .ok given →
        ∃ session, given.session = some session ∧ after.Serves session cursor.file := by
    refine (Session.contextFor_fits setup _ documents queue).bind (fun _ _ _ _ => nofun) ?_
    intro context after grows given
    obtain ⟨session, held, serves⟩ := given context rfl
    split
    · refine (Context.sync_gentle context _ _ after (grows.documents.trans documents)).bind
        (fun _ _ _ _ => nofun) fun _ last more _ => Job.Fits.pure ?_
      rintro _ ⟨⟩
      exact ⟨session, held, serves.later more⟩
    · refine Job.Fits.pure ?_
      rintro _ ⟨⟩
      exact ⟨session, held, serves⟩
  refine context.bind (fun _ _ _ _ => trivial) fun context after grows given => ?_
  obtain ⟨session, held, serves⟩ := given context rfl
  exact asks context session after held serves (grows.documents.trans documents)
    (grows.queue.trans queue)

/-- A request at a place of a file. -/
theorem asking_at {α β : Type} {context : Context} {file : String} {next : α → Job β}
    {post : Outcome β → Bearing → Prop} (held : context.session = some session)
    (serves : bearing.Serves session file) (position : EditorPosition) (method : String)
    (params : List (String × Json) → Json) (read : Json → Shaped α)
    (keeps : ∀ first rest, ∃ more, params (first :: rest) = .obj (first :: more))
    (failed : ∀ failure after, post (.error failure) after)
    (rest : ∀ answer after, bearing.Grows after → (next answer).Fits letter after post) :
    (Context.positionMembers file position >>= fun members =>
      context.request method (params members) read >>= next).Fits letter bearing post := by
  refine (Context.positionMembers_fits file position).bind (fun _ _ _ _ => failed _ _) ?_
  rintro members _ _ ⟨rfl, given⟩
  obtain ⟨uri, others, named, rfl⟩ := given members rfl
  exact (Context.request_fits held serves named (keeps _ _) method read).bind
    (fun _ _ _ _ => failed _ _) fun answer after grows _ => rest answer after grows

/-- What does not matter may be done at any time. -/
theorem plain_fits {α : Type} {job : Job α} (plain : job.Each Operation.Plain)
    (after : Bearing) : job.Fits letter after fun _ _ => True :=
  plain.fits.mono fun _ _ _ _ => trivial

theorem goToDefinition_tame (cursor : CursorPlace) : (goToDefinition setup cursor).Tame letter := by
  refine asking_tame fun context session bearing held serves _ _ => ?_
  unfold Context.definition
  rw [bind_assoc]
  refine asking_at held serves _ _ _ _ (fun _ _ => ⟨_, rfl⟩) (fun _ _ => trivial)
    fun found after _ => plain_fits ?_ after
  split
  · trivial
  · split
    · trivial
    · exact (jumpTarget_plain _).bind fun _ => execute_plain _
    · exact showLocations_plain _ _ _

theorem listReferences_tame (cursor : CursorPlace) : (listReferences setup cursor).Tame letter := by
  refine asking_tame fun context session bearing held serves _ _ => ?_
  unfold Context.references
  simp only [bind_assoc, pure_bind]
  exact asking_at held serves _ _ _ _ (fun _ _ => ⟨_, rfl⟩) (fun _ _ => trivial)
    fun answer after _ => plain_fits (showLocations_plain _ _ _) after

theorem hover_tame (cursor : CursorPlace) : (hover setup cursor).Tame letter := by
  refine .plain_bind trivial fun (entered : Option (List FloatEffect)) => ?_
  cases entered with
  | some effects => exact (Job.Gentle.of_each (carryOutAll_plain effects)).tame
  | none =>
    refine asking_tame fun context session bearing held serves _ _ => ?_
    unfold Context.hover
    rw [bind_assoc]
    refine asking_at held serves _ _ _ _ (fun _ _ => ⟨_, rfl⟩) (fun _ _ => trivial)
      fun found after _ => plain_fits ?_ after
    split
    · trivial
    · exact showHover_plain _ _ _

theorem rename_tame (request : RenameRequest) : (rename setup request).Tame letter := by
  refine asking_tame fun context session bearing held serves documents _ => ?_
  unfold Context.rename
  rw [bind_assoc]
  refine asking_at held serves _ _ _ _ (fun _ _ => ⟨_, rfl⟩) (fun _ _ => trivial)
    fun answer after grows => ?_
  split
  · exact applyEdit_gentle context _ _ after (grows.documents.trans documents)
  · exact .pure trivial

theorem listDocumentSymbols_tame (cursor : CursorPlace) :
    (listDocumentSymbols setup cursor).Tame letter := by
  refine asking_tame fun context session bearing held serves _ _ => ?_
  unfold Context.documentSymbols
  rw [bind_assoc]
  refine (Job.Fits.outcome (Uri.ofFileName cursor.file)).bind (fun _ _ _ _ => trivial) ?_
  rintro uri _ _ ⟨named, rfl⟩
  refine (Context.request_fits held serves named.symm ⟨[], rfl⟩ _ _).bind (fun _ _ _ _ => trivial)
    fun found after _ _ => plain_fits ?_ after
  split
  · trivial
  · exact (Job.Each.ofOutcome _).bind fun _ => showLocations_plain _ _ _

theorem listWorkspaceSymbols_tame (search : SymbolSearch) :
    (listWorkspaceSymbols setup search).Tame letter := by
  refine asking_tame fun context session bearing _ _ _ _ => plain_fits ?_ bearing
  unfold Context.workspaceSymbols
  simp only [bind_assoc, pure_bind]
  refine (Context.request_plain _ _ _ (by simp [documentRequests])).bind fun answer => ?_
  exact showLocations_plain _ _ _

/-- An action on parameters of a shape. -/
theorem reading_tame {α : Type} {action : α → Job Unit} (shaped : Shaped α)
    (each : ∀ value, (action value).Tame letter) : Job.Tame letter (do
      action (← Job.ofShaped shaped)
      return Json.null) :=
  (Job.Gentle.ofShaped shaped).tame.bind fun value =>
    (each value).bind fun _ => (Job.Gentle.pure _).tame

theorem act_tame (method : String) (params : Json) : (act setup method params).Tame letter := by
  unfold act
  split
  · exact reading_tame _ goToDefinition_tame
  split
  · exact reading_tame _ listReferences_tame
  split
  · exact reading_tame _ hover_tame
  split
  · exact reading_tame _ rename_tame
  split
  · exact reading_tame _ listDocumentSymbols_tame
  split
  · exact reading_tame _ listWorkspaceSymbols_tame
  split
  · exact reading_tame _ fun cursor => (Job.Gentle.of_each (explain_plain cursor)).tame
  split
  · exact (Job.Gentle.ofShaped _).tame.bind fun mapping =>
      .plain_bind trivial fun _ => (Job.Gentle.pure _).tame
  split
  · exact (Job.Gentle.ofShaped _).tame.bind fun mapping =>
      .plain_bind trivial fun _ => (Job.Gentle.pure _).tame
  · exact (Job.Gentle.pure _).tame

theorem documentSaved_tame (name : DocumentName) : (documentSaved name).Tame letter := by
  refine (Session.trackedContext?_tame _).bind fun found => ?_
  split
  · exact (Context.didSave_gentle _ _).tame
  · exact (Job.Gentle.pure _).tame

theorem documentClosed_tame (name : DocumentName) : (documentClosed name).Tame letter := by
  refine (Session.trackedContext?_tame _).bind fun found => ?_
  split
  · exact (Job.Gentle.pure _).tame
  · refine (Context.didClose_gentle _ _).tame.bind fun remaining => ?_
    split
    · refine (Job.Gentle.of_each (Context.attached_each _)).tame.bind fun session => ?_
      exact (Session.close_tame _).bind fun _ => (Job.Gentle.pure _).tame
    · exact (Job.Gentle.pure _).tame

/-- Events that do not bring the content may be handled at any time. -/
theorem handleEvent_tame (method : String) (params : Json) :
    (handleEvent method params).Tame letter := by
  have floating (shaped : Shaped FloatEvent) : Job.Tame letter (do
      takeFloatEvent (← Job.ofShaped shaped)) :=
    (Job.Gentle.ofShaped _).tame.bind fun event =>
      .plain_bind trivial fun _ => (Job.Gentle.of_each (carryOutAll_plain _)).tame
  unfold handleEvent
  split
  · exact (Job.Gentle.ofShaped _).tame.bind Session.syncContent_tame
  split
  · exact (Job.Gentle.ofShaped _).tame.bind documentSaved_tame
  split
  · exact (Job.Gentle.ofShaped _).tame.bind documentClosed_tame
  split
  · exact floating _
  split
  · exact floating _
  split
  · exact floating _
  split
  · exact Session.shutdownAll_tame
  · exact (Job.Gentle.pure _).tame

/-- Handling the event that brings the content passes it on. -/
theorem handleEvent_forwards {method : String} {params : Json} (event : isEvent method = true)
    (carried : contentOf method params = some letter.content) (owing : bearing.watch = .owing)
    (documents : bearing.documents = .free) (queue : bearing.queue = .free) :
    (handleEvent method params).run.Bears letter bearing fun _ after =>
      Bearing.Grows { bearing with watch := .past } after := by
  have opens : method = "textDocument/didOpen" ∨ method = "textDocument/didChange" := by
    by_contra other
    simp only [isEvent, List.contains_eq_mem, List.mem_cons, List.not_mem_nil, or_false,
      decide_eq_true_eq] at event
    rcases event with rfl | rfl | rfl | rfl | rfl | rfl | rfl | rfl <;>
      simp [contentOf] at carried other
  rw [contentOf, if_pos opens] at carried
  have read : BufferContent.read params = .ok letter.content := by
    cases given : BufferContent.read params with
    | ok content => simpa [given, Except.toOption] using carried
    | error failure => simp [given, Except.toOption] at carried
  have handling : handleEvent method params = Session.syncContent letter.content := by
    unfold handleEvent
    rw [if_pos opens, read]
    rfl
  rw [handling]
  exact Session.syncContent_forwards owing documents queue

end Editor

namespace Server

theorem publish_gentle (setup : Setup) (published : PublishedDiagnostics) :
    (publish setup published).Gentle letter := by
  refine (Job.Gentle.ofOutcome _).bind fun file => Job.Gentle.bind ?_ fun lines => ?_
  · refine Job.Minds.gentle fun workspace => Job.Minds.setWorkspace_bind (.of_get? rfl) ?_
    exact .plain_bind trivial fun _ => .pure _
  · split
    · exact .of_each (Job.Each.notify trivial)
    · exact .pure _

theorem handleNotification_gentle (setup : Setup) (session : Session) (method : String)
    (params : Json) : (handleNotification setup session method params).Gentle letter := by
  unfold handleNotification
  split
  · exact (Job.Gentle.ofShaped _).bind fun notice => .plain_bind trivial fun _ => .pure _
  split
  · exact (Job.Gentle.ofShaped _).bind fun published => publish_gentle setup published
  split
  · refine (Job.Gentle.ofShaped _).bind fun progress => ?_
    split
    · exact .of_each (Job.Each.notify trivial)
    · exact .pure _
  split
  · exact (Job.Gentle.ofShaped _).bind fun notice => .of_each (Job.Each.notify trivial)
  · exact .pure _

/-- An edit that a server asks for is carried out without harm. -/
theorem resultOf_bears (session : Session) (method : String) (params : Json)
    (free : bearing.documents = .free) :
    (resultOf session method params).Bears letter bearing fun _ after =>
      bearing.Grows after ∧ True := by
  unfold resultOf
  split
  · split
    · rename_i edit _
      refine Script.Bears.bind (Editor.applyEdit_gentle _ edit none bearing free) ?_
      rintro outcome after ⟨grows, _⟩
      cases outcome with
      | ok _ => exact ⟨grows, trivial⟩
      | error failure =>
        refine Script.Bears.bind (Editor.report_plain failure).bears ?_
        rintro _ _ rfl
        exact ⟨grows, trivial⟩
    · exact ⟨.refl bearing, trivial⟩
  · exact ⟨.refl bearing, trivial⟩

theorem handle_gentle (setup : Setup) (session : Session) (message : Message) :
    (handle setup session message).Gentle letter := by
  have handling : (handlerFor message.method).Each Operation.Plain :=
    Job.Each.ask_bind trivial fun _ => trivial
  have replying (id : RequestId) (result : Json) :
      (Job.reply session.peer id result).Each Operation.Plain :=
    ⟨trivial, fun _ => trivial⟩
  refine (Job.Gentle.of_each handling).bind fun handler => ?_
  cases message with
  | call versioned id method params =>
    have answering : (Job.ofScript (resultOf session method params.toJson)).Gentle letter :=
      fun bearing free => (Job.Fits.ofScript (resultOf_bears session method _ free)).mono
        fun _ _ _ _ => trivial
    refine answering.bind fun result => ?_
    split
    · refine (Job.Gentle.of_each (Job.Each.attempt (Job.Each.notify trivial))).bind fun _ => ?_
      exact .of_each (replying id result)
    · exact .of_each (replying id result)
  | notification versioned method params =>
    refine (handleNotification_gentle setup session method _).bind fun _ => ?_
    split
    · exact .of_each (Job.Each.notify trivial)
    · exact .pure _
  | response answer => exact .pure _

end Server

namespace Program

variable {id : Option RequestId} {method : String} {params : Json}

theorem replyToEditor_plain (id : Option RequestId) (result : Json) :
    (replyToEditor id result).Each Operation.Plain := by
  cases id with
  | none => trivial
  | some id => exact ⟨trivial, fun _ => trivial⟩

theorem failing_plain (id : Option RequestId) (failure : Failure) : Script.Each Operation.Plain (do
    Editor.report failure
    replyToEditor id .null) :=
  Script.Each.bind (Editor.report_plain failure) fun _ => replyToEditor_plain id _

theorem runAction_bears (documents : bearing.documents = .free) (queue : bearing.queue = .free) :
    (runAction setup id method params).Bears letter bearing fun _ _ => True := by
  refine Script.Bears.bind (Editor.act_tame method params bearing documents queue) ?_
  intro outcome after _
  cases outcome with
  | ok result => exact (replyToEditor_plain id result).bears.mono fun _ _ _ => trivial
  | error failure => exact (failing_plain id failure).bears.mono fun _ _ _ => trivial

/-- After an event is handled there is only the reply. -/
theorem replying_bears {mid : Bearing → Prop} (outcome : Outcome Unit) (holds : mid bearing) :
    Script.Bears letter (match outcome with
      | .ok _ => replyToEditor id .null
      | .error failure => do
        Editor.report failure
        replyToEditor id .null) bearing fun _ after => mid after := by
  cases outcome with
  | ok _ => exact (replyToEditor_plain id _).bears.mono fun _ _ same => same ▸ holds
  | error failure => exact (failing_plain id failure).bears.mono fun _ _ same => same ▸ holds

/-- Where the thread that takes the editor's messages stands when it has handled one. -/
def Clear (bearing : Bearing) : Prop := bearing.watch = .before ∨ bearing.watch = .past

theorem dispatch_bears (clear : Clear bearing) (documents : bearing.documents = .free)
    (queue : bearing.queue = .free) (id : Option RequestId) (method : String) (params : Json) :
    (dispatch id method params).Bears letter bearing fun _ after => Clear after := by
  unfold dispatch
  split
  · refine Script.Bears.bind (Editor.handleEvent_tame method params bearing documents queue) ?_
    rintro outcome after ⟨grows, _⟩
    exact replying_bears outcome (by rw [Clear, grows.watch]; exact clear)
  · exact .step fun _ _ _ => ⟨bearing, _, .dispatch clear, clear⟩

theorem dispatch_forwards (event : Editor.isEvent method = true)
    (carried : contentOf method params = some letter.content) (owing : bearing.watch = .owing)
    (documents : bearing.documents = .free) (queue : bearing.queue = .free) :
    (dispatch id method params).Bears letter bearing fun _ after => Clear after := by
  unfold dispatch
  rw [if_pos event]
  refine Script.Bears.bind (Editor.handleEvent_forwards event carried owing documents queue) ?_
  exact fun outcome after grows => replying_bears outcome (.inr grows.watch)

theorem serveEditor_bears (clear : Clear bearing) (documents : bearing.documents = .free)
    (queue : bearing.queue = .free) : serveEditor.Bears letter bearing fun _ _ => True := by
  have onward {bearing : Bearing} (clear : Clear bearing) : Script.Bears letter (do
      let _ ← Script.ask (.fork .serveEditor)
      return ()) bearing fun _ _ => True :=
    .step fun _ _ _ => ⟨_, _, .passOn clear, trivial⟩
  refine .step fun (received : Option Message) due expected => ?_
  cases received with
  | none =>
    refine ⟨bearing, none, .receive (clear.symm.imp_right fun before => ⟨before, .inr rfl⟩), ?_⟩
    change Script.Bears letter (Session.shutdownAll.run.bind _) bearing _
    exact Script.Bears.bind (Session.shutdownAll_tame bearing documents queue) fun _ _ _ => trivial
  | some message =>
    by_cases mine : due = true ∧ bearing.watch = .before
    · obtain ⟨rfl, before⟩ := mine
      obtain ⟨event, carried⟩ := expected message rfl rfl
      let taken : Bearing := { bearing with watch := .owing }
      have owing : taken.watch = .owing := rfl
      refine ⟨taken, none, .receiveDue rfl before documents queue, ?_⟩
      cases message with
      | call versioned id method params =>
        exact (dispatch_forwards event carried owing documents queue).bind fun _ _ => onward
      | notification versioned method params =>
        exact (dispatch_forwards event carried owing documents queue).bind fun _ _ => onward
      | response answer => cases carried
    · have other : bearing.watch = .past ∨
          bearing.watch = .before ∧ (due = false ∨ some message = none) := by
        rcases clear with before | past
        · exact .inr ⟨before, .inl (by simpa [before] using mine)⟩
        · exact .inl past
      refine ⟨bearing, none, .receive other, ?_⟩
      cases message with
      | call versioned id method params =>
        exact (dispatch_bears clear documents queue _ _ _).bind fun _ _ => onward
      | notification versioned method params =>
        exact (dispatch_bears clear documents queue _ _ _).bind fun _ _ => onward
      | response answer => exact onward clear

theorem serveSession_bears (session : Session) (documents : bearing.documents = .free) :
    (serveSession setup session).Bears letter bearing fun _ _ => True := by
  refine .step fun (received : Option Message) _ _ => ⟨bearing, none, .plain trivial, ?_⟩
  cases received with
  | none => trivial
  | some message =>
    change Script.Bears letter ((Server.handle setup session message).run.bind _) bearing _
    refine Script.Bears.bind (Server.handle_gentle setup session message bearing documents) ?_
    exact fun _ after _ => .step fun _ _ _ => ⟨after, some {}, .start trivial, trivial⟩

end Program

theorem Session.stop_plain (session : Session) : session.stop.Each Operation.Plain := by
  have ending : Job.Each Operation.Plain (do
      (Context.ofSession session).shutdown
      (Context.ofSession session).exit) := by
    refine Job.Each.bind ?_ fun _ => Job.Each.notify trivial
    refine Job.Each.bind ?_ fun _ => trivial
    exact Context.request_plain _ _ _ (by simp [documentRequests])
  exact (Job.Each.attempt ending).bind fun _ => session.endProcess_plain

/-- Where a thread stands when it is started. -/
def Work.Suits : Work → Bearing → Prop
  | .serveEditor, bearing => ∃ watch, (watch = .before ∨ watch = .past) ∧ bearing = { watch }
  | .runAction .., bearing => ∃ late, bearing = { late }
  | _, bearing => bearing = {}

/-- Every thread bears itself well from its start. -/
theorem Program.scriptOf_bears {work : Work} (suits : work.Suits bearing) :
    (scriptOf setup work).Bears letter bearing fun _ _ => True := by
  cases work with
  | serveEditor =>
    obtain ⟨watch, clear, rfl⟩ := suits
    have clear : Clear { watch } := clear
    exact (serveEditor_bears clear rfl rfl).bind fun _ _ _ => trivial
  | runAction id method params =>
    obtain ⟨late, rfl⟩ := suits
    exact (runAction_bears rfl rfl).bind fun _ _ _ => trivial
  | startQueued key =>
    obtain rfl := suits
    exact Script.Bears.bind (Session.startQueued_tame setup key _ rfl rfl) fun _ _ _ => trivial
  | serveSession session =>
    obtain rfl := suits
    exact (serveSession_bears session rfl).bind fun _ _ _ => trivial
  | stopSession session =>
    obtain rfl := suits
    exact Script.Bears.bind session.stop_plain.bears fun _ _ _ => trivial

end LanguageBridge
