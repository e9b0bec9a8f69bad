import LanguageBridge.Proofs.Acquaintance.Introductions
import LanguageBridge.Proofs.Acquaintance.Speaking

/-!
Threads speak to servers that they know. A thread knows the server that it was started for and those
that it has started itself, and it meets others among the sessions in use. It puts a session in use
that it has just started, and handlers of the user are called only by threads for the messages of
servers.
-/
namespace LanguageBridge

/-- The servers that a thread knows: its own, for which it was started or which it has started, and
those that it has met among the sessions in use. `since` is what it has done from where it started
a server last. -/
structure Acquaintance where
  own : List ServerId := []
  met : List ServerId := []
  since : List Act := []

/-- The servers that were met by an act, among the sessions in use. -/
def Act.met : Act → List ServerId
  | ⟨.session _, answer⟩ => (answer : Option Session).toList.map (·.server)
  | ⟨.unregister _, answer⟩ => (answer : Option Session).toList.map (·.server)
  | ⟨.drain, answer⟩ => (answer : List Session).map (·.server)
  | _ => []

namespace Acquaintance

def Knows (acquaintance : Acquaintance) (server : ServerId) : Prop :=
  server ∈ acquaintance.own ∨ server ∈ acquaintance.met

/-- What a thread may do that knows some servers, and may call handlers or not: it puts a session in
use that it has just started, starts threads for its own servers, and has only those stopped that
were in use. -/
def Permits (forwards : Bool) (acquaintance : Acquaintance) : Operation → Prop
  | .notify .editor method _ => method = "vim#call_handler" → forwards = true
  | .notify (.server server) .. | .reply (.server server) .. | .call (.server server) .. =>
    acquaintance.Knows server
  | .register key session =>
    session.server ∈ acquaintance.own ∧ session.Begins key acquaintance.since
  | .fork (.serveSession session) => session.server ∈ acquaintance.own
  | .fork (.stopSession session) => session.server ∈ acquaintance.met
  | _ => True

/-- What a thread knows after an act. -/
def after (acquaintance : Acquaintance) (act : Act) : Acquaintance where
  own := act.spawned?.toList ++ acquaintance.own
  met := act.met ++ acquaintance.met
  since := if act.spawned?.isSome then [act] else acquaintance.since ++ [act]

/-- What a thread knows that has done more, without getting to know anybody. -/
def more (acquaintance : Acquaintance) (acts : List Act) : Acquaintance :=
  { acquaintance with since := acquaintance.since ++ acts }

/-- The rules for threads that know servers. -/
def rules (forwards : Bool) : Rules Acquaintance where
  expects := fun _ _ _ => True
  turns := fun acquaintance operation answer later =>
    acquaintance.Permits forwards operation ∧ later = acquaintance.after ⟨operation, answer⟩

/-- No server is forgotten. -/
structure Grows (before after : Acquaintance) : Prop where
  own : before.own ⊆ after.own
  met : before.met ⊆ after.met

variable {before middle last : Acquaintance}

theorem Grows.refl (acquaintance : Acquaintance) : acquaintance.Grows acquaintance :=
  ⟨List.Subset.refl _, List.Subset.refl _⟩

theorem Grows.trans (first : before.Grows middle) (second : middle.Grows last) :
    before.Grows last :=
  ⟨List.Subset.trans first.own second.own, List.Subset.trans first.met second.met⟩

theorem Grows.after (acquaintance : Acquaintance) (act : Act) :
    acquaintance.Grows (acquaintance.after act) :=
  ⟨List.subset_append_right _ _, List.subset_append_right _ _⟩

theorem Grows.more (acquaintance : Acquaintance) (acts : List Act) :
    acquaintance.Grows (acquaintance.more acts) :=
  ⟨List.Subset.refl _, List.Subset.refl _⟩

end Acquaintance

variable {α β : Type} {forwards : Bool} {acquaintance : Acquaintance} {setup : Setup}
  {session : Session}

/-- By what is done about a server that a thread knows, or about none, it gets to know nobody. -/
theorem Operation.About.turns {about : Option ServerId} {operation : Operation}
    (fits : operation.About about) (knows : ∀ server, about = some server → acquaintance.Knows server)
    (answer : operation.Answer) :
    (Acquaintance.rules forwards).turns acquaintance operation answer
      (acquaintance.more [⟨operation, answer⟩]) := by
  have permits : acquaintance.Permits forwards operation := by
    cases operation with
    | notify peer =>
      cases peer with
      | editor => exact fun same => absurd same fits
      | server server => exact knows server fits
    | reply peer | call peer =>
      cases peer with
      | editor => trivial
      | server server => exact knows server fits
    | register | fork => cases fits
    | _ => trivial
  refine ⟨permits, ?_⟩
  cases operation <;> first | rfl | cases fits

theorem Script.Each.speaks {about : Option ServerId} {script : Script α}
    (each : script.Each (Operation.About about))
    (knows : ∀ server, about = some server → acquaintance.Knows server) :
    script.Guided (Acquaintance.rules forwards) acquaintance fun value after =>
      ∃ acts, script.Does acts (.done value) ∧ after = acquaintance.more acts := by
  induction script generalizing acquaintance with
  | done value => exact ⟨[], .nothing _, by simp [Acquaintance.more]⟩
  | step operation onward ih =>
    intro answer _
    refine ⟨_, each.1.turns knows answer, ?_⟩
    refine Script.Guided.mono (ih answer (each.2 answer) knows) fun value after holds => ?_
    obtain ⟨acts, does, rfl⟩ := holds
    exact ⟨_, .act answer does, by simp [Acquaintance.more]⟩

namespace Job

variable {job : Job α} {next : α → Job β} {mid : Outcome α → Acquaintance → Prop}
  {post : Outcome β → Acquaintance → Prop}

/-- A job of a thread that speaks to servers it knows; it forgets none. -/
def Speaks (forwards : Bool) (job : Job α) (acquaintance : Acquaintance)
    (post : Outcome α → Acquaintance → Prop) : Prop :=
  job.Guided (Acquaintance.rules forwards) acquaintance fun outcome after =>
    acquaintance.Grows after ∧ post outcome after

/-- A job that every thread may do, whatever it knows. -/
abbrev Polite (forwards : Bool) (job : Job α) : Prop :=
  ∀ acquaintance, job.Speaks forwards acquaintance fun _ _ => True

namespace Speaks

theorem pure {value : α} (holds : mid (.ok value) acquaintance) :
    (Pure.pure value : Job α).Speaks forwards acquaintance mid :=
  ⟨.refl _, holds⟩

theorem throw {failure : Failure} (holds : mid (.error failure) acquaintance) :
    (throw failure : Job α).Speaks forwards acquaintance mid :=
  ⟨.refl _, holds⟩

theorem ofOutcome {outcome : Outcome α} (holds : mid outcome acquaintance) :
    (Job.ofOutcome outcome).Speaks forwards acquaintance mid :=
  ⟨.refl _, holds⟩

theorem mono {last : Outcome α → Acquaintance → Prop} (speaks : job.Speaks forwards acquaintance mid)
    (weaker : ∀ outcome after, mid outcome after → last outcome after) :
    job.Speaks forwards acquaintance last :=
  Job.Guided.mono speaks fun outcome after ⟨grows, holds⟩ => ⟨grows, weaker outcome after holds⟩

theorem bind (first : job.Speaks forwards acquaintance mid)
    (failed : ∀ failure after, mid (.error failure) after → post (.error failure) after)
    (second : ∀ value after, acquaintance.Grows after → mid (.ok value) after →
      (next value).Speaks forwards after post) :
    (job >>= next).Speaks forwards acquaintance post := by
  refine Job.Guided.bind first (fun failure after ⟨grows, holds⟩ => ⟨grows, failed _ _ holds⟩) ?_
  intro value after ⟨grows, holds⟩
  exact Job.Guided.mono (second value after grows holds) fun _ _ ⟨more, last⟩ =>
    ⟨grows.trans more, last⟩

/-- A job about a server that is known. -/
theorem about_comes {about : Option ServerId} (each : job.Each (Operation.About about))
    (knows : ∀ server, about = some server → acquaintance.Knows server) :
    job.Speaks forwards acquaintance fun outcome after =>
      ∃ acts, job.Comes acts outcome ∧ after = acquaintance.more acts := by
  refine Job.Guided.mono (Script.Each.speaks each knows) fun outcome after holds => ⟨?_, holds⟩
  obtain ⟨acts, _, rfl⟩ := holds
  exact .more acquaintance acts

/-- A job about a server that is known, and then the rest. -/
theorem about_bind {about : Option ServerId} (each : job.Each (Operation.About about))
    (knows : ∀ server, about = some server → acquaintance.Knows server)
    (failed : ∀ {acts} failure, post (.error failure) (acquaintance.more acts))
    (second : ∀ {acts} value, (next value).Speaks forwards (acquaintance.more acts) post) :
    (job >>= next).Speaks forwards acquaintance post := by
  refine (about_comes each knows).bind (fun failure after holds => ?_) fun value after _ holds => ?_
  · obtain ⟨acts, _, rfl⟩ := holds
    exact failed failure
  · obtain ⟨acts, _, rfl⟩ := holds
    exact second value

theorem about {about : Option ServerId} (each : job.Each (Operation.About about))
    (knows : ∀ server, about = some server → acquaintance.Knows server) :
    job.Speaks forwards acquaintance fun _ _ => True :=
  (about_comes each knows).mono fun _ _ _ => trivial

/-- A job about no server. -/
theorem aside_bind (each : job.Each (Operation.About none))
    (failed : ∀ {acts} failure, post (.error failure) (acquaintance.more acts))
    (second : ∀ {acts} value, (next value).Speaks forwards (acquaintance.more acts) post) :
    (job >>= next).Speaks forwards acquaintance post :=
  about_bind each nofun failed second

theorem aside (each : job.Each (Operation.About none)) :
    job.Speaks forwards acquaintance fun _ _ => True :=
  about each nofun

theorem ask_bind {operation : Operation} {next : operation.Answer → Job β}
    (permits : acquaintance.Permits forwards operation)
    (rest : ∀ answer, (next answer).Speaks forwards (acquaintance.after ⟨operation, answer⟩) post) :
    (Job.ask operation >>= next).Speaks forwards acquaintance post :=
  fun answer _ => ⟨_, ⟨permits, rfl⟩, Job.Guided.mono (rest answer) fun _ _ ⟨more, last⟩ =>
    ⟨(Acquaintance.Grows.after _ _).trans more, last⟩⟩

theorem attempt_bind {next : Outcome α → Job β} (first : job.Speaks forwards acquaintance mid)
    (second : ∀ outcome after, acquaintance.Grows after → mid outcome after →
      (next outcome).Speaks forwards after post) :
    (Job.attempt job >>= next).Speaks forwards acquaintance post :=
  Job.Guided.attempt_bind first fun outcome after ⟨grows, holds⟩ =>
    Job.Guided.mono (second outcome after grows holds) fun _ _ ⟨more, last⟩ =>
      ⟨grows.trans more, last⟩

/-- Locks are nothing to know anybody by. -/
theorem holding {lock : Lock} {mode : LockMode}
    (inside : job.Speaks forwards (acquaintance.more [⟨.acquire lock mode, ()⟩])
      fun outcome after => mid outcome (after.more [⟨.release lock, ()⟩])) :
    (Job.holding lock mode job).Speaks forwards acquaintance mid :=
  Job.Guided.holding ⟨trivial, rfl⟩ <| Job.Guided.mono inside fun _ _ ⟨grows, holds⟩ =>
    ⟨_, ⟨trivial, rfl⟩, ⟨grows.own, grows.met⟩, holds⟩

end Speaks

namespace Polite

theorem pure (value : α) : (Pure.pure value : Job α).Polite forwards := fun _ => .pure trivial

theorem of_about (each : ∀ about, job.Each (Operation.About about)) : job.Polite forwards :=
  fun _ => .aside (each none)

theorem bind (first : job.Polite forwards) (rest : ∀ value, (next value).Polite forwards) :
    (job >>= next).Polite forwards :=
  fun acquaintance => (first acquaintance).bind (fun _ _ _ => trivial)
    fun value after _ _ => rest value after

theorem ofOutcome (outcome : Outcome α) : (Job.ofOutcome outcome).Polite forwards :=
  fun _ => .ofOutcome trivial

theorem ask_bind {operation : Operation} {next : operation.Answer → Job β}
    (permits : ∀ acquaintance : Acquaintance, acquaintance.Permits forwards operation)
    (rest : ∀ answer, (next answer).Polite forwards) :
    (Job.ask operation >>= next).Polite forwards :=
  fun acquaintance => .ask_bind (permits acquaintance) fun answer => rest answer _

end Polite

end Job

namespace Session

/-- A session that is found was met. -/
theorem live?_speaks (key : SessionKey) (acquaintance : Acquaintance) :
    (live? key).Speaks forwards acquaintance fun outcome after =>
      ∀ session, outcome = .ok (some session) → after.Knows session.server := by
  refine .ask_bind trivial fun (found : Option Session) => ?_
  cases found with
  | none => exact .pure nofun
  | some session =>
    refine .ask_bind trivial fun (alive : Bool) => ?_
    cases alive with
    | true =>
      refine Job.Speaks.pure ?_
      rintro _ ⟨⟩
      exact .inr List.mem_cons_self
    | false => exact Job.Speaks.ask_bind trivial fun _ => .pure nofun

/-- A session that was started is the thread's own, and has just been started. -/
theorem start_speaks (key : SessionKey) (acquaintance : Acquaintance) :
    (start setup key).Speaks forwards acquaintance fun outcome after =>
      ∀ session, outcome = .ok session →
        session.server ∈ after.own ∧ session.Begins key after.since := by
  refine .ask_bind trivial fun (extensions : Extensions) => ?_
  split
  · exact .throw nofun
  · exact .throw nofun
  split
  · exact .throw nofun
  refine .ask_bind trivial fun (spawned : Except SystemError ServerId) => ?_
  cases spawned with
  | error error => exact .throw nofun
  | ok server =>
    have own : server ∈ server :: acquaintance.own := List.mem_cons_self
    refine .ask_bind own fun number => ?_
    refine (Job.Speaks.about_comes (introduceAll_about _) ?_).mono fun outcome after holds => ?_
    · exact fun other same => .inl (Option.some.inj same ▸ own)
    obtain ⟨introducing, comes, rfl⟩ := holds
    rintro session rfl
    obtain ⟨keyed, same, introduces⟩ := introduceAll_comes comes
    refine ⟨same ▸ own, ?_⟩
    cases same
    exact .intro keyed rfl rfl introduces

/-- A session that was got or started is known. -/
theorem getOrStart_speaks (key : SessionKey) (acquaintance : Acquaintance) :
    (getOrStart key (start setup key)).Speaks forwards acquaintance fun outcome after =>
      ∀ session, outcome = .ok session → after.Knows session.server := by
  have found {acquaintance : Acquaintance} {session : Session}
      (knows : acquaintance.Knows session.server) :
      (pure session : Job Session).Speaks forwards acquaintance fun outcome after =>
        ∀ session, outcome = .ok session → after.Knows session.server := by
    refine .pure ?_
    rintro _ ⟨⟩
    exact knows
  refine (live?_speaks key acquaintance).bind (fun _ _ _ => nofun) fun given after _ known => ?_
  cases given with
  | some session => exact found (known session rfl)
  | none =>
    refine .holding ((live?_speaks key _).bind (fun _ _ _ => nofun) fun again after _ known => ?_)
    cases again with
    | some session => exact found (known session rfl)
    | none =>
      refine (start_speaks key after).bind (fun _ _ _ => nofun) fun session after _ started => ?_
      have begun := started session rfl
      exact .ask_bind begun fun _ => found (.inl begun.1)

/-- The session of a context for a file is known. -/
theorem contextFor_speaks (context : Context) (acquaintance : Acquaintance) :
    (contextFor setup context).Speaks forwards acquaintance fun outcome after =>
      ∀ given, outcome = .ok given → ∀ server, given.server? = some server → after.Knows server := by
  refine .aside_bind (.of_ordinary (keyOf_ordinary _ _)) (fun _ => nofun) fun key => ?_
  refine (getOrStart_speaks key _).bind (fun _ _ _ => nofun) fun session after _ known => ?_
  have knows (server : ServerId) (same : some session.server = some server) :
      after.Knows server := Option.some.inj same ▸ known session rfl
  refine .about_bind session.flushQueue_about knows (fun _ => nofun) fun _ => .pure ?_
  rintro _ ⟨⟩
  exact knows

theorem trackedContext?_speaks (file : String) (acquaintance : Acquaintance) :
    (trackedContext? file).Speaks forwards acquaintance fun outcome after =>
      ∀ given, outcome = .ok (some given) → ∀ server, given.server? = some server →
        after.Knows server := by
  refine .ask_bind trivial fun (workspace : Workspace) => ?_
  split
  · exact .pure nofun
  · refine (live?_speaks _ _).bind (fun _ _ _ => nofun) fun found after _ known => ?_
    cases found with
    | none => exact .pure nofun
    | some session =>
      refine .pure ?_
      rintro _ ⟨⟩ server same
      exact Option.some.inj same ▸ known session rfl

/-- Only sessions that were in use are closed. -/
theorem close_polite (key : SessionKey) : (close key).Polite forwards := by
  refine fun acquaintance => .ask_bind trivial fun (found : Option Session) => ?_
  cases found with
  | none => exact .pure trivial
  | some session => exact .ask_bind (List.mem_cons_self : session.server ∈ _) fun _ => .pure trivial

theorem stopAll_speaks (sessions : List Session)
    (met : ∀ session ∈ sessions, session.server ∈ acquaintance.met) :
    (stopAll sessions).Speaks forwards acquaintance fun _ _ => True := by
  induction sessions generalizing acquaintance with
  | nil => exact .pure trivial
  | cons session rest ih =>
    obtain ⟨here, others⟩ := List.forall_mem_cons.mp met
    refine .ask_bind here fun thread => ?_
    have after : ∀ session ∈ rest, session.server ∈
        (acquaintance.after ⟨.fork (.stopSession session), thread⟩).met := others
    refine Job.Speaks.bind (ih after) (fun _ _ _ => ?_) fun _ _ _ _ => ?_
    · trivial
    · exact .pure trivial

theorem shutdownAll_polite : shutdownAll.Polite forwards := by
  refine fun acquaintance => .ask_bind trivial fun (sessions : List Session) => ?_
  have met (session : Session) (there : session ∈ sessions) :
      session.server ∈ (acquaintance.after ⟨.drain, sessions⟩).met :=
    List.mem_append_left _ (List.mem_map_of_mem there)
  refine (stopAll_speaks sessions met).bind (fun _ _ _ => trivial) fun threads after _ _ => ?_
  refine .aside (Job.Each.forM fun _ _ => ?_)
  exact Job.Each.ask_bind trivial fun _ => trivial

theorem startQueued_polite (key : SessionKey) : (startQueued setup key).Polite forwards := by
  intro acquaintance
  refine (getOrStart_speaks key acquaintance).attempt_bind fun started after _ known => ?_
  cases started with
  | ok session =>
    refine .about session.flushQueue_about fun server same => ?_
    exact Option.some.inj same ▸ known session rfl
  | error failure =>
    refine .aside (.of_ordinary ((discardQueue_ordinary key).bind fun _ => ?_))
    exact Job.Each.ofScript (Editor.report_ordinary failure)

theorem takeIn_polite (key : SessionKey) (content : BufferContent) :
    (takeIn key content).Polite forwards := by
  refine fun acquaintance => .holding (.ask_bind trivial fun queue => ?_)
  split
  · exact .ask_bind trivial fun _ => .pure trivial
  · refine (live?_speaks key _).bind (fun _ _ _ => trivial) fun found after _ known => ?_
    cases found with
    | some session =>
      have sending : ((Context.ofSession session).sync content.file content.text).Each
          (Operation.About session.server) :=
        (Context.ofSession session).sync_about content.file content.text
      refine .about_bind sending ?_ (fun _ => trivial) fun _ => .pure trivial
      exact fun server same => Option.some.inj same ▸ known session rfl
    | none => exact .ask_bind trivial fun _ => .pure trivial

theorem syncContent_polite (content : BufferContent) :
    (syncContent content).Polite forwards := by
  refine .bind (.of_about fun _ => .of_ordinary (keyOf_ordinary _ _)) fun key => ?_
  refine (takeIn_polite key content).bind fun fresh => ?_
  split
  · exact .ask_bind (fun _ => trivial) fun _ => .pure _
  · exact .pure _

end Session

namespace Editor

/-- What is done with the session of a file. -/
theorem asking_polite {cursor : CursorPlace} {next : Context → Job Unit}
    (each : ∀ context, (next context).Each (Operation.About context.server?)) :
    (cursorContext setup cursor >>= next).Polite forwards := by
  intro acquaintance
  have given : (cursorContext setup cursor).Speaks forwards acquaintance fun outcome after =>
      ∀ context, outcome = .ok context → ∀ server, context.server? = some server →
        after.Knows server := by
    refine (Session.contextFor_speaks _ acquaintance).bind (fun _ _ _ => nofun) ?_
    intro context after _ known
    have knows := known context rfl
    have here {after : Acquaintance}
        (knows : ∀ server, context.server? = some server → after.Knows server) :
        (pure context : Job Context).Speaks forwards after fun outcome after =>
          ∀ context, outcome = .ok context → ∀ server, context.server? = some server →
            after.Knows server := by
      refine .pure ?_
      rintro _ ⟨⟩
      exact knows
    split
    · exact .about_bind (context.sync_about _ _) knows (fun _ => nofun) fun _ => here knows
    · exact here knows
  exact given.bind (fun _ _ _ => trivial) fun context after _ known =>
    .about (each context) (known context rfl)

theorem goToDefinition_polite (cursor : CursorPlace) :
    (goToDefinition setup cursor).Polite forwards := by
  refine asking_polite fun context => .of_ordinary <| (context.definition_ordinary cursor).bind ?_
  intro found
  split
  · trivial
  · split
    · trivial
    · exact (jumpTarget_ordinary _).bind fun _ => execute_ordinary _
    · exact showLocations_ordinary _ _

theorem listReferences_polite (cursor : CursorPlace) :
    (listReferences setup cursor).Polite forwards :=
  asking_polite fun context => .of_ordinary <| (context.references_ordinary cursor).bind fun _ =>
    showLocations_ordinary _ _

theorem hover_polite (cursor : CursorPlace) : (hover setup cursor).Polite forwards := by
  refine .ask_bind (fun _ => trivial) fun (again : Option (List FloatEffect)) => ?_
  cases again with
  | some effects => exact .of_about fun _ => .of_ordinary (carryOutAll_ordinary effects)
  | none =>
    refine asking_polite fun context => .of_ordinary <| (context.hover_ordinary cursor).bind ?_
    intro found
    split
    · trivial
    · exact showHover_ordinary cursor _

theorem rename_polite (request : RenameRequest) : (rename setup request).Polite forwards := by
  refine asking_polite fun context => ?_
  refine (Job.Each.of_ordinary (context.rename_ordinary request)).bind fun found => ?_
  split
  · exact applyEdit_about context _ _
  · trivial

theorem listDocumentSymbols_polite (cursor : CursorPlace) :
    (listDocumentSymbols setup cursor).Polite forwards := by
  refine asking_polite fun context => .of_ordinary <|
    (context.documentSymbols_ordinary cursor.file).bind fun found => ?_
  split
  · trivial
  · exact (Job.Each.ofOutcome _).bind fun _ => showLocations_ordinary _ _

theorem listWorkspaceSymbols_polite (search : SymbolSearch) :
    (listWorkspaceSymbols setup search).Polite forwards :=
  asking_polite fun context => .of_ordinary <|
    (context.workspaceSymbols_ordinary search.query).bind fun _ => showLocations_ordinary _ _

/-- An action whose params are read first. -/
theorem reading_polite {shaped : Shaped α} {job : α → Job Unit}
    (each : ∀ value, (job value).Polite forwards) :
    (do job (← Job.ofShaped shaped); return Json.null : Job Json).Polite forwards :=
  .bind (.ofOutcome _) fun value => (each value).bind fun _ => .pure _

theorem act_polite (method : String) (params : Json) :
    (act setup method params).Polite forwards := by
  unfold act
  split
  · exact reading_polite goToDefinition_polite
  split
  · exact reading_polite listReferences_polite
  split
  · exact reading_polite hover_polite
  split
  · exact reading_polite rename_polite
  split
  · exact reading_polite listDocumentSymbols_polite
  split
  · exact reading_polite listWorkspaceSymbols_polite
  split
  · exact reading_polite fun cursor => .of_about fun _ => .of_ordinary (explain_ordinary cursor)
  split
  · exact .bind (.ofOutcome _) fun mapping => .ask_bind (fun _ => trivial) fun _ => .pure _
  split
  · exact .bind (.ofOutcome _) fun mapping => .ask_bind (fun _ => trivial) fun _ => .pure _
  · exact .pure _

theorem documentSaved_polite (name : DocumentName) : (documentSaved name).Polite forwards := by
  intro acquaintance
  refine (Session.trackedContext?_speaks _ _).bind (fun _ _ _ => trivial) fun found after _ known => ?_
  split
  · exact .about (Context.didSave_about _ _) (known _ rfl)
  · exact .pure trivial

theorem documentClosed_polite (name : DocumentName) : (documentClosed name).Polite forwards := by
  intro acquaintance
  refine (Session.trackedContext?_speaks _ _).bind (fun _ _ _ => trivial) fun found after _ known => ?_
  split
  · exact .pure trivial
  · rename_i context
    refine .about_bind (context.didClose_about _) (known context rfl) (fun _ => trivial)
      fun remaining => ?_
    split
    · have closing : (context.attached >>= fun session => Session.close session.key >>= fun _ =>
          (pure () : Job Unit)).Polite forwards := by
        refine .bind (.of_about fun _ => ?_) fun session =>
          (Session.close_polite _).bind fun _ => .pure _
        unfold Context.attached
        split <;> trivial
      exact closing _
    · exact .pure trivial

theorem handleEvent_polite (method : String) (params : Json) :
    (handleEvent method params).Polite forwards := by
  have floating (shaped : Shaped FloatEvent) : Job.Polite forwards (do
      takeFloatEvent (← Job.ofShaped shaped)) :=
    .bind (.ofOutcome _) fun event => .of_about fun _ =>
      .of_ordinary (takeFloatEvent_ordinary event)
  unfold handleEvent
  split
  · exact .bind (.ofOutcome _) Session.syncContent_polite
  split
  · exact .bind (.ofOutcome _) documentSaved_polite
  split
  · exact .bind (.ofOutcome _) documentClosed_polite
  split
  · exact floating _
  split
  · exact floating _
  split
  · exact floating _
  split
  · exact Session.shutdownAll_polite
  · exact .pure _

end Editor

namespace Server

/-- Only about the messages of servers handlers are called. -/
theorem callHandler_speaks (handler : String) (params : Json) (acquaintance : Acquaintance) :
    (Editor.callHandler handler params).Speaks true acquaintance fun _ _ => True :=
  fun _ _ => ⟨_, ⟨fun _ => rfl, rfl⟩, .after _ _, trivial⟩

theorem handle_speaks (message : Message) (own : session.server ∈ acquaintance.own) :
    (handle setup session message).Speaks true acquaintance fun _ _ => True := by
  have knows {after : Acquaintance} (own : session.server ∈ after.own) (server : ServerId)
      (same : some session.server = some server) : after.Knows server :=
    .inl (Option.some.inj same ▸ own)
  have replying (id : RequestId) (result : Json) :
      (Job.reply session.peer id result).Each (Operation.About session.server) :=
    ⟨rfl, fun _ => trivial⟩
  have handling : (handlerFor message.method).Each (Operation.About session.server) :=
    Job.Each.ask_bind trivial fun _ => trivial
  refine .about_bind handling (knows own) (fun _ => trivial) fun handler => ?_
  cases message with
  | call versioned id method params =>
    refine .about_bind (Job.Each.ofScript (resultOf_about method _)) (knows own)
      (fun _ => trivial) fun result => ?_
    cases handler with
    | none => exact .about (replying id result) (knows own)
    | some handler =>
      exact (callHandler_speaks handler _ _).attempt_bind fun _ _ grows _ =>
        .about (replying id result) (knows (grows.own own))
  | notification versioned method params =>
    refine .aside_bind (handleNotification_about method _) (fun _ => trivial) fun _ => ?_
    cases handler with
    | none => exact .pure trivial
    | some handler => exact callHandler_speaks handler _ _
  | response answer => exact .pure trivial

end Server

/-- The server that a thread knows from its start. -/
def Work.acquainted : Work → Acquaintance
  | .serveSession session => { own := [session.server] }
  | .stopSession session => { met := [session.server] }
  | _ => {}

/-- Whether a work is to take the messages of a server. -/
def Work.isService : Work → Bool
  | .serveSession _ => true
  | _ => false

namespace Program

theorem runAction_speaks (id : Option RequestId) (method : String) (params : Json) :
    (runAction setup id method params).Guided (Acquaintance.rules forwards) acquaintance
      fun _ _ => True := by
  refine Script.Guided.bind (Editor.act_polite method params acquaintance) fun outcome after _ => ?_
  have concluding {script : Script Unit} (each : script.Each (Operation.Ordinary none)) :
      script.Guided (Acquaintance.rules forwards) after fun _ _ => True :=
    Script.Guided.mono (each.of_ordinary.speaks nofun) fun _ _ _ => trivial
  cases outcome with
  | ok result => exact concluding (replyToEditor_ordinary id _)
  | error failure => exact concluding (conceding_ordinary id failure)

theorem dispatch_speaks (id : Option RequestId) (method : String) (params : Json) :
    (dispatch id method params).Guided (Acquaintance.rules forwards) acquaintance
      fun _ _ => True := by
  unfold dispatch
  split
  · refine Script.Guided.bind (Editor.handleEvent_polite method params acquaintance) ?_
    intro outcome after _
    have concluding {script : Script Unit} (each : script.Each (Operation.Ordinary none)) :
        script.Guided (Acquaintance.rules forwards) after fun _ _ => True :=
      Script.Guided.mono (each.of_ordinary.speaks nofun) fun _ _ _ => trivial
    cases outcome with
    | ok _ => exact concluding (replyToEditor_ordinary id _)
    | error failure => exact concluding (conceding_ordinary id failure)
  · exact fun _ _ => ⟨_, ⟨trivial, rfl⟩, trivial⟩

theorem serveEditor_speaks : serveEditor.Guided (Acquaintance.rules forwards) acquaintance
    fun _ _ => True := by
  intro (received : Option Message) _
  refine ⟨_, ⟨trivial, rfl⟩, ?_⟩
  have onward (acquaintance : Acquaintance) : Script.Guided (Acquaintance.rules forwards) (do
      let _ ← Script.ask (.fork .serveEditor)
      return ()) acquaintance fun _ _ => True :=
    fun _ _ => ⟨_, ⟨trivial, rfl⟩, trivial⟩
  cases received with
  | none =>
    change Script.Guided _ (Session.shutdownAll.run.bind _) _ _
    exact Script.Guided.bind (Session.shutdownAll_polite _) fun _ _ _ => trivial
  | some message =>
    cases message with
    | call versioned id method params =>
      exact (dispatch_speaks _ _ _).bind fun _ after _ => onward after
    | notification versioned method params =>
      exact (dispatch_speaks _ _ _).bind fun _ after _ => onward after
    | response answer => exact onward _

theorem serveSession_speaks (own : session.server ∈ acquaintance.own) :
    (serveSession setup session).Guided (Acquaintance.rules true) acquaintance
      fun _ _ => True := by
  intro (received : Option Message) _
  refine ⟨_, ⟨trivial, rfl⟩, ?_⟩
  cases received with
  | none => trivial
  | some message =>
    change Script.Guided _ ((Server.handle setup session message).run.bind _) _ _
    refine Script.Guided.bind (Server.handle_speaks message own) fun outcome after ⟨grows, _⟩ => ?_
    exact fun _ _ => ⟨_, ⟨grows.own own, rfl⟩, trivial⟩

/-- Every thread speaks only to servers that it knows. -/
theorem scriptOf_speaks (setup : Setup) (work : Work) :
    (scriptOf setup work).Guided (Acquaintance.rules work.isService) work.acquainted
      fun _ _ => True := by
  cases work with
  | serveEditor => exact serveEditor_speaks.bind fun _ _ _ => trivial
  | runAction id method params => exact (runAction_speaks id method params).bind fun _ _ _ => trivial
  | startQueued key =>
    exact Script.Guided.bind (Session.startQueued_polite key {}) fun _ _ _ => trivial
  | serveSession session =>
    exact (serveSession_speaks List.mem_cons_self).bind fun _ _ _ => trivial
  | stopSession session =>
    have knows (server : ServerId) (same : some session.server = some server) :
        (Work.stopSession session).acquainted.Knows server :=
      .inr (Option.some.inj same ▸ List.mem_cons_self)
    exact Script.Guided.bind (Script.Each.speaks session.stop_about knows) fun _ _ _ => trivial

end Program

end LanguageBridge
