import LanguageBridge.Proofs.Handover.Custody

/-!
All threads of the program deal with content as their custody allows, whatever they are started for.
-/
namespace LanguageBridge.Remarked

variable {key : SessionKey} {custody : Custody} (setup : Setup)

open AnnotatedJob (plain)

/-- Content is handed over one after the other, if a thread may hand over the first of what is
left. -/
theorem sendAll_obeys {session : Session} (left : List BufferContent → Custody)
    (keeping : ∀ rest, (left rest).keeping ≠ .free)
    (hands : ∀ content rest,
      (left (content :: rest)).Remarks key (.handed session.key content) (left rest))
    (contents : List BufferContent) :
    (sendAll session contents).Obeys key (left contents) fun _ after => after = left [] := by
  induction contents with
  | nil => rfl
  | cons content rest ih =>
    refine .remark_bind (hands content rest) ?_
    have sending := (Context.ofSession session).sync_apart content.file content.text
    refine .lift_bind sending (fun free => absurd free (keeping rest)) fun outcome => ?_
    cases outcome with
    | ok _ => exact ih
    | error failure =>
      exact .lift_bind (Editor.report_idle failure).apart (fun free => absurd free (keeping rest))
        fun _ => ih

/-- All that is taken out of the queue is handed over before the queue is let go of. -/
theorem flushQueue_steady (session : Session) : (flushQueue session).Steady key := by
  refine fun custody rests => .holding rests.keeping ?_
  refine .ask_bind fun (queue : Table SessionKey (List BufferContent)) =>
    ⟨_, .see rfl, ?_⟩
  split
  · exact ⟨rests.taken, rests.owed, Custody.ext rests.keeping.symm rfl rfl rfl rfl⟩
  rename_i contents queued
  by_cases own : session.key = key
  · subst own
    refine .ask_bind fun _ => ⟨_, .take rfl rests.taken, ?_⟩
    rw [queued]
    let left (rest : List BufferContent) : Custody :=
      { custody with keeping := .seen (queue.erase session.key), taken := rest }
    refine (sendAll_obeys left (by simp) (fun _ _ => .handNext rfl) contents).mono ?_
    rintro _ _ rfl
    exact ⟨rfl, rests.owed, Custody.ext rests.keeping.symm rests.taken.symm rfl rfl rfl⟩
  · have same : (queue.erase session.key).get? key = queue.get? key := by simp [own]
    refine .ask_bind fun _ => ⟨_, .elsewhere rfl same, ?_⟩
    let left (_ : List BufferContent) : Custody :=
      { custody with keeping := .seen (queue.erase session.key) }
    refine (sendAll_obeys left (by simp) (fun _ _ => .elsewhere own (by simp)) contents).mono ?_
    rintro _ _ rfl
    exact ⟨rests.taken, rests.owed, Custody.ext rests.keeping.symm rfl rfl rfl rfl⟩

/-- What is queued is dropped only by a thread that saw a start fail. -/
theorem discardQueue_obeys {other : SessionKey} (rests : custody.Rests)
    (failed : other = key → custody.failed = true) :
    (discardQueue other).Obeys key custody fun _ after => after = custody := by
  refine .holding rests.keeping ?_
  refine .ask_bind fun (queue : Table SessionKey (List BufferContent)) =>
    ⟨_, .see rfl, ?_⟩
  by_cases own : other = key
  · subst own
    refine .ask_bind fun _ => ⟨_, .take rfl rests.taken, ?_⟩
    refine ⟨_, .drop (failed rfl) (by simp) rfl, rfl, rests.owed, ?_⟩
    exact Custody.ext rests.keeping.symm rests.taken.symm rfl rfl rfl
  · have same : (queue.erase other).get? key = queue.get? key := by simp [own]
    refine .ask_bind fun _ => ⟨_, .elsewhere rfl same, ?_⟩
    refine ⟨_, .elsewhere own (by simp), rests.taken, rests.owed, ?_⟩
    exact Custody.ext rests.keeping.symm rfl rfl rfl rfl

theorem startQueued_obeys (other : SessionKey) (rests : custody.Rests) :
    (startQueued setup other).Obeys key custody fun _ after => after.Rests := by
  have starting := Session.getOrStart_apart other (Session.start_apart setup other)
  refine .lift_bind starting (fun _ => rests.owed) fun started => ?_
  cases started with
  | ok session =>
    refine (flushQueue_steady session custody rests).mono ?_
    rintro _ _ rfl
    exact rests
  | error failure =>
    have concluding {after : Custody} (later : after.Rests)
        (failed : other = key → after.failed = true) :
        (discardQueue other >>= fun _ => plain (Job.ofScript (Editor.report failure))).Obeys key
          after fun _ last => last.Rests := by
      refine (discardQueue_obeys later failed).bind ?_ ?_
      · rintro _ _ rfl
        exact later
      · rintro _ _ rfl
        refine (Annotated.obeys_plain (Job.Idle.ofScript (Editor.report_idle failure)).apart
          fun _ => later.owed).mono ?_
        rintro _ _ rfl
        exact later
    by_cases own : other = key
    · subst own
      have later : ({ custody with failed := true } : Custody).Rests :=
        ⟨rests.keeping, rests.taken, rests.owed⟩
      exact .remark_bind (.failed rests.owed) (concluding later fun _ => rfl)
    · exact .remark_bind (.elsewhere own fun _ => rests.owed)
        (concluding rests fun same => absurd same own)

/-- Looking for a session that is in use does not fail. -/
theorem live?_bind_obeys {β : Type} {other : SessionKey} {next : Option Session → AnnotatedJob β}
    {post : Outcome β → Custody → Prop} (passed : custody.keeping = .free → custody.owed = [])
    (rest : ∀ found, (next found).Obeys key custody post) :
    (plain (Session.live? other) >>= next).Obeys key custody post := by
  intro (found : Option Session)
  refine ⟨custody, .apart trivial passed, ?_⟩
  cases found with
  | none => exact rest none
  | some session =>
    intro (alive : Bool)
    refine ⟨custody, .apart trivial passed, ?_⟩
    cases alive with
    | true => exact rest (some session)
    | false => exact fun _ => ⟨custody, .apart trivial passed, rest none⟩

/-- Content that was given is queued or handed over. -/
theorem takeIn_obeys {content : BufferContent} (keeping : custody.keeping = .free)
    (taken : custody.taken = []) (owed : custody.owed = [content]) :
    (takeIn key content).Obeys key custody fun _ after => after = { custody with owed := [] } := by
  refine .holding keeping ?_
  refine .ask_bind fun (queue : Table SessionKey (List BufferContent)) =>
    ⟨_, .see rfl, ?_⟩
  have back : ({ custody with keeping := .free, owed := [] } : Custody) =
      { custody with owed := [] } :=
    Custody.ext keeping.symm rfl rfl rfl rfl
  have lodging (contents : List BufferContent) (queued : (queue.get? key).getD [] = contents)
      (answer : Bool) :
      (AnnotatedJob.ask (.setQueue (queue.insert key (contents ++ [content]))) >>= fun _ =>
        (pure answer : AnnotatedJob Bool)).Obeys key { custody with keeping := .seen queue }
          fun _ held => held.taken = [] ∧ held.owed = [] ∧
            { held with keeping := .free } = { custody with owed := [] } := by
    subst queued
    exact .ask_bind fun _ => ⟨_, .lodge rfl taken owed, taken, rfl, back⟩
  split
  · rename_i contents queued
    exact lodging contents (by simp [queued]) false
  · rename_i nothing
    refine live?_bind_obeys (by simp) fun found => ?_
    cases found with
    | none => exact lodging [] (by simp [nothing]) true
    | some session =>
      refine .remark_bind (.handOwed rfl nothing taken owed) ?_
      have sending := (Context.ofSession session).sync_apart content.file content.text
      exact .plain_bind sending (by simp) (fun _ => ⟨taken, rfl, back⟩) fun _ => ⟨taken, rfl, back⟩

/-- Content for other sessions does not matter. -/
theorem takeIn_steady {other : SessionKey} (apart : other ≠ key) (content : BufferContent) :
    (takeIn other content).Steady key := by
  refine fun custody rests => .holding rests.keeping ?_
  refine .ask_bind fun (queue : Table SessionKey (List BufferContent)) =>
    ⟨_, .see rfl, ?_⟩
  have back : ({ custody with keeping := .free } : Custody) = custody :=
    Custody.ext rests.keeping.symm rfl rfl rfl rfl
  have lodging (contents : List BufferContent) (answer : Bool) :
      (AnnotatedJob.ask (.setQueue (queue.insert other contents)) >>= fun _ =>
        (pure answer : AnnotatedJob Bool)).Obeys key { custody with keeping := .seen queue }
          fun _ held => held.taken = [] ∧ held.owed = [] ∧
            { held with keeping := .free } = custody := by
    have same : (queue.insert other contents).get? key = queue.get? key := by simp [apart]
    exact .ask_bind fun _ => ⟨_, .elsewhere rfl same, rests.taken, rests.owed, back⟩
  split
  · exact lodging _ false
  · refine live?_bind_obeys (by simp) fun found => ?_
    cases found with
    | none => exact lodging _ true
    | some session =>
      refine .remark_bind (.elsewhere apart (by simp)) ?_
      have sending := (Context.ofSession session).sync_apart content.file content.text
      exact .plain_bind sending (by simp) (fun _ => ⟨rests.taken, rests.owed, back⟩)
        fun _ => ⟨rests.taken, rests.owed, back⟩

/-- The thread that takes the editor's messages may take content in. -/
theorem syncContent_obeys (content : BufferContent) (rests : custody.Rests)
    (listens : custody.listens = true) :
    (syncContent content).Obeys key custody fun _ after => after = custody := by
  refine .plain_bind (Session.keyOf_apart _ _) (fun _ => rests.owed) (fun _ => rfl) fun other => ?_
  have starting (first : Bool) : (if first = true then do
      let _ ← plain (Job.ask (.fork (.startQueued other)))
      pure ()
    else (pure () : AnnotatedJob Unit)).Steady key := by
    cases first with
    | true => exact .bind (.plain ⟨trivial, fun _ => trivial⟩) fun _ => .pure ()
    | false => exact .pure ()
  by_cases own : other = key
  · subst own
    refine .remark_bind (.given listens rests.owed) ?_
    have back : ({ custody with owed := [] } : Custody) = custody :=
      Custody.ext rfl rfl rests.owed.symm rfl rfl
    have taking : (takeIn other content).Obeys other { custody with owed := [content] }
        fun _ after => after = { custody with owed := [] } :=
      takeIn_obeys rests.keeping rests.taken rfl
    refine taking.bind (fun _ _ same => same.trans back) fun first after same => ?_
    rw [same.trans back]
    exact starting first custody rests
  · refine .remark_bind (.elsewhere own fun _ => rests.owed) ?_
    refine (takeIn_steady own content custody rests).bind (fun _ _ same => same) ?_
    rintro first _ rfl
    exact starting first _ rests

theorem contextFor_steady (context : Context) : (contextFor setup context).Steady key := by
  refine .bind (.plain (Session.keyOf_apart _ _)) fun other => ?_
  refine .bind (.plain (Session.getOrStart_apart other (Session.start_apart setup other)))
    fun session => ?_
  exact (flushQueue_steady session).bind fun _ => .pure _

/-- What is done at a cursor, once what was queued for its file has been sent. -/
theorem cursor_steady (cursor : CursorPlace) {next : Context → Job Unit}
    (apart : ∀ context, (next context).Each Operation.Apart) :
    (cursorContext setup cursor >>= fun context => plain (next context)).Steady key := by
  refine .bind (.bind (contextFor_steady setup _) fun context => ?_) fun context =>
    .plain (apart context)
  split
  · exact .bind (.plain (context.sync_apart _ _)) fun _ => .pure _
  · exact .pure _

theorem goToDefinition_steady (cursor : CursorPlace) :
    (goToDefinition setup cursor).Steady key := by
  refine cursor_steady setup _ fun context => Job.Idle.apart ?_
  refine (context.definition_idle cursor).bind fun found => ?_
  split
  · exact .pure _
  · split
    · exact .pure _
    · exact (Editor.jumpTarget_idle _).bind fun _ => Editor.jump_idle _ _
    · exact Editor.showLocations_idle _ _ _

theorem hover_steady (cursor : CursorPlace) : (hover setup cursor).Steady key := by
  refine fun custody rests => .ask_bind fun (entered : Option (List FloatEffect)) =>
    ⟨custody, .apart trivial fun _ => rests.owed, ?_⟩
  cases entered with
  | some effects => exact AnnotatedJob.Steady.plain (Editor.carryOutAll_idle effects).apart _ rests
  | none =>
    refine cursor_steady setup _ (fun context => Job.Idle.apart ?_) custody rests
    refine (context.hover_idle cursor).bind fun found => ?_
    split
    · exact .pure _
    · exact Editor.showHover_idle _ _ _

theorem rename_steady (request : RenameRequest) : (rename setup request).Steady key := by
  refine cursor_steady setup _ fun context => ?_
  refine (context.rename_idle request).apart.bind fun answer => ?_
  split
  · exact Editor.applyEdit_apart _ _ _
  · trivial

theorem listDocumentSymbols_steady (cursor : CursorPlace) :
    (listDocumentSymbols setup cursor).Steady key := by
  refine cursor_steady setup _ fun context => Job.Idle.apart ?_
  refine (context.documentSymbols_idle cursor.file).bind fun found => ?_
  split
  · exact .pure _
  · exact (Job.Idle.ofOutcome _).bind fun _ => Editor.showLocations_idle _ _ _

theorem act_steady (method : String) (params : Json) : (act setup method params).Steady key := by
  have reading {α : Type} (shaped : Shaped α) {action : α → AnnotatedJob Unit}
      (steady : ∀ value, (action value).Steady key) : AnnotatedJob.Steady key (do
        action (← plain (Job.ofShaped shaped))
        return Json.null) :=
    .bind (.plain (Job.Each.ofOutcome _)) fun value => (steady value).bind fun _ => .pure _
  unfold act
  split
  · exact reading _ (goToDefinition_steady setup)
  split
  · exact reading _ fun cursor => cursor_steady setup _ fun context => Job.Idle.apart <|
      (context.references_idle cursor).bind fun _ => Editor.showLocations_idle _ _ _
  split
  · exact reading _ (hover_steady setup)
  split
  · exact reading _ (rename_steady setup)
  split
  · exact reading _ (listDocumentSymbols_steady setup)
  split
  · exact reading _ fun search => cursor_steady setup _ fun context => Job.Idle.apart <|
      (context.workspaceSymbols_idle search.query).bind fun _ => Editor.showLocations_idle _ _ _
  · refine .plain ?_
    unfold Editor.act
    simp only [*, if_false]
    split
    · exact (Job.Each.ofOutcome _).bind fun cursor =>
        (Editor.explain_idle cursor).apart.bind fun _ => trivial
    split
    · exact (Job.Each.ofOutcome _).bind fun _ => Job.Each.ask_bind trivial fun _ => trivial
    split
    · exact (Job.Each.ofOutcome _).bind fun _ => Job.Each.ask_bind trivial fun _ => trivial
    · trivial

theorem runAction_obeys (id : Option RequestId) (method : String) (params : Json)
    (rests : custody.Rests) :
    (runAction setup id method params).Obeys key custody fun _ after => after = custody := by
  refine Annotated.Obeys.bind (act_steady setup method params custody rests) ?_
  rintro outcome _ rfl
  exact Annotated.obeys_plain (Program.concluding_apart id outcome) fun _ => rests.owed

/-- The thread that takes the editor's messages passes on what it is given before it takes the
next. -/
theorem runEvent_obeys (id : Option RequestId) (method : String) (params : Json)
    (rests : custody.Rests) (listens : custody.listens = true) :
    (runEvent id method params).Obeys key custody fun _ after => after = custody := by
  have handling : (handleEvent method params).Obeys key custody fun _ after => after = custody := by
    unfold handleEvent
    split
    · exact .plain_bind (Job.Each.ofOutcome _) (fun _ => rests.owed) (fun _ => rfl) fun content =>
        syncContent_obeys content rests listens
    · rename_i other
      exact Annotated.obeys_plain (Editor.handleEvent_apart params other) fun _ => rests.owed
  refine Annotated.Obeys.bind handling ?_
  rintro outcome _ rfl
  refine Annotated.obeys_plain ?_ fun _ => rests.owed
  cases outcome with
  | ok _ => exact Program.replyToEditor_apart id .null
  | error failure =>
    exact Script.Each.bind (Editor.report_idle failure).apart fun _ =>
      Program.replyToEditor_apart id .null

theorem dispatch_obeys (id : Option RequestId) (method : String) (params : Json)
    (rests : custody.Rests) (listens : custody.listens = true) :
    (dispatch id method params).Obeys key custody fun _ after => after = custody := by
  unfold dispatch
  split
  · exact runEvent_obeys id method params rests listens
  · rename_i other
    refine Annotated.obeys_plain ?_ fun _ => rests.owed
    rw [Program.dispatch, if_neg other]
    exact ⟨trivial, fun _ => trivial⟩

theorem serveEditor_obeys (rests : custody.Rests) (listens : custody.listens = true) :
    serveEditor.Obeys key custody fun _ after => after.Rests := by
  intro (received : Option Message)
  refine ⟨custody, .apart trivial fun _ => rests.owed, ?_⟩
  have passing : Annotated.Obeys key (do
      let _ ← Annotated.ask (.fork .serveEditor)
      return ()) custody fun _ after => after.Rests := fun _ =>
    ⟨_, .passOn listens rests.owed, rests.keeping, rests.taken, rests.owed⟩
  cases received with
  | none =>
    change Annotated.Obeys key
      (Annotated.bind (Annotated.plain Session.shutdownAll.run) _) custody _
    refine .bind (Annotated.obeys_plain Session.shutdownAll_apart fun _ => rests.owed) ?_
    rintro _ _ rfl
    exact rests
  | some message =>
    have dispatching (id : Option RequestId) (method : String) (params : Json) :
        (Annotated.bind (dispatch id method params) fun _ => do
          let _ ← Annotated.ask (.fork .serveEditor)
          return ()).Obeys key custody fun _ after => after.Rests := by
      refine .bind (dispatch_obeys id method params rests listens) ?_
      rintro _ _ rfl
      exact passing
    cases message with
    | call versioned id method params => exact dispatching (some id) method params.toJson
    | notification versioned method params => exact dispatching none method params.toJson
    | response answer => exact passing

/-- All threads deal with content as the custody allows that they are started with. -/
theorem scriptOf_obeys (work : Work) :
    (scriptOf setup work).Obeys key work.custody fun _ after => after.Rests := by
  have blank : ({} : Custody).Rests := ⟨rfl, rfl, rfl⟩
  cases work with
  | serveEditor => exact .bind (serveEditor_obeys ⟨rfl, rfl, rfl⟩ rfl) fun _ _ rests => rests
  | runAction id method params =>
    refine .bind (runAction_obeys setup id method params blank) ?_
    rintro _ _ rfl
    exact blank
  | startQueued other =>
    exact .bind (startQueued_obeys setup other blank) fun _ _ rests => rests
  | serveSession session =>
    have apart : (Program.scriptOf setup (.serveSession session)).Each Operation.Apart :=
      Script.Each.bind (Program.serveSession_apart setup session) fun _ => trivial
    refine (Annotated.obeys_plain apart fun _ => rfl).mono ?_
    rintro _ _ rfl
    exact blank
  | stopSession session =>
    have apart : (Program.scriptOf setup (.stopSession session)).Each Operation.Apart :=
      Script.Each.bind session.stop_idle.apart fun _ => trivial
    refine (Annotated.obeys_plain apart fun _ => rfl).mono ?_
    rintro _ _ rfl
    exact blank

end LanguageBridge.Remarked
