import LanguageBridge.Proofs.Acquaintance.Newcomers
import LanguageBridge.Proofs.Editor.Replies
import LanguageBridge.Proofs.Journal.Cuts
import LanguageBridge.Proofs.Server.Replies

/-!
Messages of servers are passed on to handlers of the user. A call is passed on once, whatever becomes
of it; a notification is passed on once if the program itself could make it out, and else not at all.
-/
namespace LanguageBridge

/-- Whether something that was said has a handler of the user called. -/
def Sent.isForward : Sent → Bool
  | .notification .editor method _ => method = "vim#call_handler"
  | _ => false

/-- What an act had a handler of the user called with. -/
def Act.forwarded? (act : Act) : Option Sent := act.sent?.filter Sent.isForward

/-- A handler is called with parameters. -/
def handlerCall (handler : String) (params : Json) : Sent :=
  .notification .editor "vim#call_handler" (Params.ofJson (.arr [.str handler, params]))

/-- The function of the editor that is called as a handler. -/
def Sent.function? : Sent → Option String
  | .notification .editor "vim#call_handler" (.list (.str function :: _)) => some function
  | _ => none

/-- How the handler is called that is registered for the method of a message. -/
def Message.handlerCall? (extensions : Extensions) (message : Message) : Option Sent :=
  message.request?.bind fun (_, method, params) =>
    (extensions.handler? method).map (handlerCall · params)

theorem Act.forwarded?_eq_none {act : Act} (other : act.operation.forwards = false) :
    act.forwarded? = none := by
  obtain ⟨operation, answer⟩ := act
  cases operation with
  | notify peer =>
    cases peer with
    | editor =>
      cases answer with
      | ok _ => simpa [forwarded?, sent?, Sent.isForward, Operation.forwards] using other
      | error _ => rfl
    | server => cases answer <;> rfl
  | reply peer => cases answer <;> rfl
  | call peer => cases answer <;> rfl
  | _ => rfl

/-- Whoever only speaks to a server and tells the editor of it calls no handler. -/
theorem Operation.About.forwards_eq {about : Option ServerId} {operation : Operation}
    (fits : operation.About about) : operation.forwards = false := by
  cases operation with
  | notify peer =>
    cases peer with
    | editor => exact decide_eq_false fits
    | server => rfl
  | _ => rfl

/-- What is done without calling handlers shows no calls of handlers. -/
theorem Script.Each.forwards_nothing {α : Type} {about : Option ServerId} {script left : Script α}
    {acts : List Act} (each : script.Each (Operation.About about)) (does : script.Does acts left) :
    acts.filterMap Act.forwarded? = [] :=
  List.filterMap_eq_nil_iff.mpr fun act member =>
    Act.forwarded?_eq_none ((each.does does).1 act member).forwards_eq

namespace Server

/-- Whether the program can make out a notification: those that it does something about itself need
parameters of their shape, and published diagnostics a file. -/
def understands (method : String) (params : Json) : Bool :=
  if method = "window/logMessage" ∨ method = "window/showMessage" then (Notice.read params).isOk
  else if method = "textDocument/publishDiagnostics" then
    ((Outcome.ofShaped (PublishedDiagnostics.read params)).bind (·.uri.fileName)).isOk
  else if method = "$/progress" then (Progress.read params).isOk
  else true

end Server

/-- Whether a message is passed on to a handler: every call is, and a notification that the program
can make out. -/
def Message.isPassedOn : Message → Bool
  | .notification _ method params => Server.understands method params.toJson
  | _ => true

/-- The editor is there to hear what it is told. -/
def editorHears : Rules Unit where
  expects := fun _ operation answer => Act.unheard? ⟨operation, answer⟩ ≠ some .editor
  turns := fun _ _ _ _ => True

namespace Server

variable {setup : Setup} {tree : FileTree} {session : Session} {journal : Journal} {now : System}
  {acts : List Act}

theorem showMessage_heard (level : Editor.MessageLevel) (message : String) :
    (Editor.showMessage level message).Guided editorHears () fun outcome _ => outcome = .ok () := by
  intro (outcome : Outcome Unit) heard
  refine ⟨(), trivial, ?_⟩
  cases outcome with
  | ok _ => rfl
  | error failure => exact absurd rfl heard

/-- Diagnostics are shown when they are those of a file. -/
theorem publish_heard (published : PublishedDiagnostics) :
    (publish setup published).Guided editorHears () fun outcome _ =>
      outcome.isOk = published.uri.fileName.isOk := by
  refine Job.Guided.ofOutcome_bind (fun failure same => by rw [same]; rfl) fun file named => ?_
  rw [named]
  have takes : editorHears.turns () (.acquire .documents .exclusive) () () := trivial
  have keeping : Job.Guided editorHears (Job.holding .documents .exclusive do
      let workspace ← Job.ask .workspace
      let _ ← Job.ask (.setWorkspace { workspace with
        diagnostics := workspace.diagnostics.insert file published.diagnostics })
      let tree ← Job.ask .disk
      return workspace.linesOrNone tree file) () fun outcome _ => outcome.isOk = true :=
    Job.Guided.holding takes fun _ _ => ⟨(), trivial, fun _ _ => ⟨(), trivial, fun _ _ =>
      ⟨(), trivial, (), trivial, rfl⟩⟩⟩
  refine Job.Guided.bind keeping (fun _ _ impossible => by cases impossible) fun lines _ _ => ?_
  split
  · intro (outcome : Outcome Unit) heard
    refine ⟨(), trivial, ?_⟩
    cases outcome with
    | ok _ => rfl
    | error failure => exact absurd rfl heard
  · rfl

/-- Handling a notification succeeds exactly if the program can make it out. -/
theorem handleNotification_heard (method : String) (params : Json) :
    (handleNotification setup session method params).Guided editorHears () fun outcome _ =>
      outcome.isOk = understands method params := by
  unfold handleNotification understands
  by_cases logs : method = "window/logMessage"
  · rw [if_pos logs, if_pos (.inl logs)]
    cases read : Notice.read params with
    | error error => rfl
    | ok notice => exact Job.Guided.ask_bind fun _ _ => ⟨(), trivial, rfl⟩
  rw [if_neg logs]
  by_cases publishes : method = "textDocument/publishDiagnostics"
  · subst publishes
    rw [if_pos rfl, if_neg (by decide), if_pos rfl]
    cases read : PublishedDiagnostics.read params with
    | error error => rfl
    | ok published => exact publish_heard published
  rw [if_neg publishes]
  by_cases progresses : method = "$/progress"
  · subst progresses
    rw [if_pos rfl, if_neg (by decide), if_neg (by decide), if_pos rfl]
    cases read : Progress.read params with
    | error error => rfl
    | ok progress =>
      refine Job.Guided.ofOutcome_bind (fun _ impossible => by cases impossible) fun given same => ?_
      cases same
      split
      · exact Job.Guided.mono (showMessage_heard _ _) fun _ _ same => by rw [same]; rfl
      · rfl
  rw [if_neg progresses, if_neg publishes, if_neg progresses]
  by_cases shows : method = "window/showMessage"
  · rw [if_pos shows, if_pos (.inr shows)]
    cases read : Notice.read params with
    | error error => rfl
    | ok notice =>
      exact Job.Guided.mono (showMessage_heard _ _) fun _ _ same => by rw [same]; rfl
  · rw [if_neg shows, if_neg (by simp [logs, shows])]
    rfl

/-- A handler is called once when the editor is there. -/
theorem forwarded_of_callHandler {handler : String} {params : Json} {outcome : Outcome Unit}
    (comes : (Editor.callHandler handler params).Comes acts outcome)
    (heard : ∀ act ∈ acts, act.unheard? ≠ some .editor) :
    acts.filterMap Act.forwarded? = [handlerCall handler params] := by
  obtain rfl := comes.of_notify
  cases outcome with
  | ok _ => rfl
  | error failure => exact absurd rfl (heard _ List.mem_cons_self)

/-- A call is passed on to the handler for its method, whatever becomes of it. -/
theorem forwarded_of_call {versioned : Bool} {id : RequestId} {method : String} {params : Params}
    {outcome : Outcome Unit}
    (comes : (handle setup session (.call versioned id method params)).Comes acts outcome)
    (heard : ∀ act ∈ acts, act.unheard? ≠ some .editor) : ∃ extensions rest,
      acts = ⟨.extensions, extensions⟩ :: rest ∧ rest.filterMap Act.forwarded? =
        ((Extensions.handler? extensions method).map (handlerCall · params.toJson)).toList := by
  obtain ⟨extensions, _, rfl, rest⟩ := comes_of_handlerFor comes
  obtain ⟨result, first, second, rfl, asked, rest⟩ := rest.of_ofScript_bind
  dsimp only [Message.method] at rest
  refine ⟨extensions, first ++ second, rfl, ?_⟩
  rw [List.filterMap_append, (resultOf_about method _).forwards_nothing asked, List.nil_append]
  generalize Extensions.handler? extensions method = handler at rest
  cases handler with
  | none =>
    obtain rfl := rest.of_reply
    exact List.filterMap_cons_none (Act.forwarded?_eq_none rfl)
  | some handler =>
    obtain ⟨given, third, fourth, rfl, calling, replying⟩ := rest.of_attempt_bind
    obtain rfl := replying.of_reply
    have called := forwarded_of_callHandler calling fun act member => heard act
      (List.mem_cons_of_mem _ (List.mem_append_right _ (List.mem_append_left _ member)))
    rw [List.filterMap_append, called]
    exact congrArg _ (List.filterMap_cons_none (Act.forwarded?_eq_none rfl))

/-- A notification is passed on to the handler for its method if the program can make it out. -/
theorem forwarded_of_notification {versioned : Bool} {method : String} {params : Params}
    {outcome : Outcome Unit}
    (comes : (handle setup session (.notification versioned method params)).Comes acts outcome)
    (heard : ∀ act ∈ acts, act.unheard? ≠ some .editor) : ∃ extensions rest,
      acts = ⟨.extensions, extensions⟩ :: rest ∧ rest.filterMap Act.forwarded? =
        if understands method params.toJson then
          ((Extensions.handler? extensions method).map (handlerCall · params.toJson)).toList
        else [] := by
  have handles : (handleNotification setup session method params.toJson).Guided editorHears ()
      fun outcome _ => outcome.isOk = understands method params.toJson :=
    handleNotification_heard method params.toJson
  have quiet : (handleNotification setup session method params.toJson).Each
      (Operation.About none) := handleNotification_about method _
  obtain ⟨extensions, handling, rfl, rest⟩ := comes_of_handlerFor comes
  refine ⟨extensions, handling, rfl, ?_⟩
  have later (act : Act) (member : act ∈ handling) : act.unheard? ≠ some .editor :=
    heard act (List.mem_cons_of_mem _ member)
  rcases rest.of_bind with ⟨failure, _, failing⟩ | ⟨_, first, second, rfl, handled, rest⟩
  · obtain ⟨_, _, unclear⟩ := Script.Guided.does handles failing fun _ => later
    rw [← Script.guided_done.mp unclear]
    exact quiet.forwards_nothing failing
  · obtain ⟨_, _, clear⟩ := Script.Guided.does handles handled fun _ act member =>
      later act (List.mem_append_left _ member)
    rw [← Script.guided_done.mp clear, List.filterMap_append, quiet.forwards_nothing handled,
      List.nil_append]
    dsimp only [Message.method] at rest
    generalize Extensions.handler? extensions method = handler at rest
    cases handler with
    | none =>
      obtain ⟨rfl, _⟩ := rest.of_pure
      rfl
    | some handler =>
      exact forwarded_of_callHandler rest fun act member =>
        later act (List.mem_append_right _ member)

/-- A message that was handled while the editor was there was passed on as is due. -/
theorem forwarded_of_handled {message : Message} {outcome : Outcome Unit}
    (comes : (handle setup session message).Comes acts outcome)
    (heard : ∀ act ∈ acts, act.unheard? ≠ some .editor) : ∃ extensions rest,
      acts = ⟨.extensions, extensions⟩ :: rest ∧ acts.filterMap Act.forwarded? =
        if message.isPassedOn then (message.handlerCall? extensions).toList else [] := by
  cases message with
  | call versioned id method params =>
    obtain ⟨extensions, rest, rfl, exactly⟩ := forwarded_of_call comes heard
    exact ⟨extensions, rest, rfl, exactly⟩
  | notification versioned method params =>
    obtain ⟨extensions, rest, rfl, exactly⟩ := forwarded_of_notification comes heard
    exact ⟨extensions, rest, rfl, exactly⟩
  | response answer =>
    obtain ⟨extensions, rest, rfl, ending⟩ := comes_of_handlerFor comes
    obtain ⟨rfl, _⟩ := ending.of_pure
    exact ⟨extensions, [], rfl, rfl⟩

/-- A message was passed on by the handlers that were registered when it was taken up: once to the
one for its method, if there was one and the message is one to be passed on, and else not at all. -/
inductive PassedOn (setup : Setup) (tree : FileTree) (session : Session) (journal : Journal)
    (leg : Leg) : Prop
  | mk {before rest : Journal} {moment : System}
      (split : journal = before ++ .did leg.thread ⟨.extensions, moment.world.extensions⟩ :: rest)
      (kept : Journal.Kept setup tree before moment)
      (taken : before.actsOf leg.thread = [⟨.receive session.peer, some leg.message⟩])
      (exactly : leg.handling.filterMap Act.forwarded? = if leg.message.isPassedOn then
        (leg.message.handlerCall? moment.world.extensions).toList else [])

/-- The handling of a message comes to an outcome. -/
theorem handling_comes {handled : List Leg} {under : Option Message}
    (attended : Journal.Attended setup journal now session.peer (.serveSession session) handled
      under) {leg : Leg} (there : leg ∈ handled) :
    ∃ outcome, (handle setup session leg.message).Comes leg.handling outcome := by
  obtain ⟨outcome, first, second, same, comes, ending⟩ :=
    Script.Does.of_bind_done (attended.done leg there)
  obtain ⟨rfl, _⟩ := ending.of_done
  rw [List.append_nil] at same
  exact ⟨outcome, same ▸ comes⟩

theorem passedOn_of_handled {handled : List Leg} {under : Option Message}
    (kept : Journal.Kept setup tree journal now) (alive : now.world.isAlive .editor = true)
    (attended : Journal.Attended setup journal now session.peer (.serveSession session) handled
      under) {leg : Leg} (there : leg ∈ handled) : PassedOn setup tree session journal leg := by
  obtain ⟨outcome, comes⟩ := handling_comes attended there
  obtain ⟨extensions, later, whole, exactly⟩ := forwarded_of_handled comes
    fun act member => attended.heard kept alive there member
  have own : journal.actsOf leg.thread = [⟨.receive session.peer, some leg.message⟩] ++
      ⟨.extensions, extensions⟩ :: (later ++ leg.passing (.serveSession session)) := by
    rw [attended.own leg there, Leg.acts, whole]
    rfl
  obtain ⟨before, rest, split, taken, _⟩ := Journal.exists_cut own
  obtain ⟨moment, world, earlier, performed⟩ := kept.moment split
  obtain rfl : moment.world.extensions = extensions :=
    (Prod.mk.inj (Option.some.inj performed)).2
  exact ⟨split, earlier, taken, exactly⟩

/-- Handlers are called by threads for the messages of servers only. -/
theorem service_of_forwarded (kept : Journal.Kept setup tree journal now) {thread : Nat} {act : Act}
    (member : .did thread act ∈ journal) (forwarded : act.forwarded?.isSome) :
    ∃ session, journal.works[thread]? = some (.serveSession session) := by
  obtain ⟨before, rest, split⟩ := List.append_of_mem member
  obtain ⟨work, started, permits⟩ := kept.permitted split
  have serves : work.isService = true := by
    by_contra idle
    rw [Bool.not_eq_true] at idle
    rw [idle] at permits
    have silent : act.operation.forwards = false := by
      obtain ⟨operation, answer⟩ := act
      cases operation with
      | notify peer =>
        cases peer with
        | editor => exact decide_eq_false fun same => Bool.false_ne_true (permits same)
        | server => rfl
      | _ => rfl
    rw [Act.forwarded?_eq_none silent] at forwarded
    cases forwarded
  have same : journal.works[thread]? = some work := split ▸ Journal.work_stays started _
  cases work with
  | serveSession session => exact ⟨session, same⟩
  | _ => cases serves

/-- While the editor is there, each message of a server that was handled was passed on to the handler
that was registered for its method: once, if it is a call or a notification that the program can make
out, and else not at all. Nobody else calls handlers, and as long as there are more messages one of
the threads for them goes on. -/
theorem messages_passed_on (kept : Journal.Kept setup tree journal now)
    (served : .serveSession session ∈ journal.works)
    (alive : now.world.isAlive .editor = true) : ∃ handled under,
      Journal.Attended setup journal now session.peer (.serveSession session) handled under ∧
      (∀ leg ∈ handled, PassedOn setup tree session journal leg) ∧
      (∀ thread act, .did thread act ∈ journal → act.forwarded?.isSome →
        ∃ other, journal.works[thread]? = some (.serveSession other)) ∧
      (under.isSome ∨ now.world.waiting session.peer ≠ [] ∧ session.peer ∉ now.world.silent →
        ∃ thread, journal.serves session.peer thread = true ∧
          journal.GoesOn setup now thread) := by
  obtain ⟨handled, under, attended⟩ := kept.attended served rfl
  exact ⟨handled, under, attended, fun leg => passedOn_of_handled kept alive attended,
    fun _ _ => service_of_forwarded kept, goes_on kept attended⟩

/-- The editor registers a function for each of some methods. -/
def registersHandlers (methods : List (String × String)) : Happening :=
  Editor.editorCalls 1 "vlc/registerHandlers"
    (.obj [("mapping", .obj (methods.map fun entry => (entry.1, .str entry.2)))])

/-- The server tells of something. -/
def serverTells (method : String) (params : Json) : Happening :=
  .deliver soleSession.peer (.notification true method (Params.ofJson params))

/-- How far a server has got, told in a way that the program cannot make out. -/
def strangeProgress : Json := .obj [("token", .nat 1), ("value", .obj [("kind", .str "x")])]

/-- A call that comes to nothing and a notification that the program does nothing about are passed
on, and so is progress, unless the program cannot make it out. -/
def fourMessages : Journal × System :=
  afterOpening [registersHandlers [("a/b", "F"), ("c/d", "G"), ("$/progress", "H")],
    .deliver soleSession.peer (.call true (.number 1) "a/b" .none), serverTells "c/d" .null,
    serverTells "$/progress" strangeProgress, serverTells "$/progress" (.obj [("token", .nat 1),
      ("value", .obj [("kind", .str "end")])])]

theorem four_messages_passed_on : ∃ journal now, Journal.Kept soleServer ⟨[], []⟩ journal now ∧
    now.world.traffic.filterMap Sent.function? = ["F", "G", "H"] ∧
    ∃ handled under,
      Journal.Attended soleServer journal now soleSession.peer (.serveSession soleSession) handled
        under ∧
      (∀ leg ∈ handled, PassedOn soleServer ⟨[], []⟩ soleSession journal leg) := by
  have kept : Journal.Kept soleServer ⟨[], []⟩ fourMessages.1 fourMessages.2 :=
    kept_afterOpening _
  obtain ⟨alive, serves, functions⟩ : fourMessages.2.world.isAlive .editor = true ∧
      servesSole fourMessages.1 = true ∧
      fourMessages.2.world.traffic.filterMap Sent.function? = ["F", "G", "H"] := by
    decide +kernel
  obtain ⟨handled, under, attended, passed, _⟩ :=
    messages_passed_on kept (soleSession_serves serves) alive
  exact ⟨_, _, kept, functions, handled, under, attended, passed⟩

/-- The user has a handler for progress, and the server tells of progress in a way that the program
cannot make out. -/
def strangeProgressTold : Journal × System :=
  afterOpening [registersHandlers [("$/progress", "H")], serverTells "$/progress" strangeProgress]

/-- Progress that the program cannot make out is not passed on, though there is a handler for it. -/
theorem strange_progress_not_passed_on :
    ¬ ∀ (setup : Setup) (tree : FileTree) (journal : Journal) (now : System) (session : Session)
      (handled : List Leg) (under : Option Message) (leg : Leg) (extensions : Extensions)
      (call : Sent), Journal.Kept setup tree journal now →
      now.world.isAlive .editor = true →
      Journal.Attended setup journal now session.peer (.serveSession session) handled under →
      leg ∈ handled → ⟨.extensions, extensions⟩ ∈ leg.handling →
      leg.message.handlerCall? extensions = some call →
      leg.handling.filterMap Act.forwarded? = [call] := by
  intro claimed
  have kept : Journal.Kept soleServer ⟨[], []⟩ strangeProgressTold.1 strangeProgressTold.2 :=
    kept_afterOpening _
  obtain ⟨alive, serves, settled, waiting⟩ :
      strangeProgressTold.2.world.isAlive .editor = true ∧
      servesSole strangeProgressTold.1 = true ∧
      strangeProgressTold.1.settled strangeProgressTold.2 = true ∧
      (strangeProgressTold.2.world.waiting soleSession.peer).isEmpty = true := by decide +kernel
  obtain ⟨registered, nothing⟩ :
      (strangeProgressTold.1.actsBy (strangeProgressTold.1.serves soleSession.peer)).all (fun
        | ⟨.extensions, extensions⟩ => (extensions : Extensions).handler? "$/progress" = some "H"
        | _ => true) = true ∧
      (strangeProgressTold.1.acts.filterMap Act.forwarded?).isEmpty = true := by decide +kernel
  obtain ⟨handled, under, attended⟩ := kept.attended (soleSession_serves serves) rfl
  have came : .notification true "$/progress" (Params.ofJson strangeProgress) ∈
      strangeProgressTold.1.delivered soleSession.peer :=
    List.mem_filterMap.mpr ⟨.happened (serverTells "$/progress" strangeProgress),
      Journal.mem_play (List.mem_append_right _ (by simp)) 60 _, rfl⟩
  obtain ⟨leg, there, same⟩ :=
    attended.exists_leg settled (List.isEmpty_iff.mp waiting) came
  obtain ⟨outcome, comes⟩ := handling_comes attended there
  obtain ⟨extensions, later, whole, _⟩ := forwarded_of_handled comes
    fun act member => attended.heard kept alive there member
  have read : ⟨.extensions, extensions⟩ ∈ leg.handling := whole ▸ List.mem_cons_self
  obtain ⟨_, _, _, order, _⟩ := attended.order
  have own : leg.handling ⊆
      strangeProgressTold.1.actsBy (strangeProgressTold.1.serves soleSession.peer) := by
    intro act member
    rw [order]
    refine List.mem_append_left _ (List.mem_flatMap.mpr ⟨leg, there, ?_⟩)
    exact List.mem_append_left _ (List.mem_cons_of_mem _ member)
  have found : extensions.handler? "$/progress" = some "H" :=
    of_decide_eq_true (List.all_eq_true.mp registered _ (own read))
  have due : leg.message.handlerCall? extensions =
      some (handlerCall "H" (Params.ofJson strangeProgress).toJson) := by
    rw [same]
    exact congrArg (Option.map _) found
  have passed := claimed _ _ _ _ soleSession handled under leg extensions _ kept alive attended
    there read due
  obtain ⟨act, member, forwarded⟩ := List.mem_filterMap.mp (passed ▸ List.mem_cons_self)
  obtain ⟨thread, _, done⟩ := Journal.mem_actsBy.mp (own member)
  have among : _ ∈ strangeProgressTold.1.acts.filterMap Act.forwarded? :=
    List.mem_filterMap.mpr ⟨act, Journal.mem_actsBy.mpr ⟨thread, rfl, done⟩, forwarded⟩
  rw [List.isEmpty_iff.mp nothing] at among
  cases among

end Server

end LanguageBridge
