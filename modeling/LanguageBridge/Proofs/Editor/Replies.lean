import Mathlib.Data.List.Perm.Basic
import LanguageBridge.Proofs.Journal.Relays
import LanguageBridge.Proofs.Session.Registrations

/-!
The editor gets its replies. Its messages are handled in the order in which they came, events in one
go and actions by threads of their own; each call is replied to once, and each failure is shown once,
whatever the order in which the actions come to their ends.
-/
namespace LanguageBridge

namespace Act

/-- The failure that an act showed to the user. -/
def alarm? (act : Act) : Option String :=
  if act.sent?.isSome then act.operation.alarm? else none

/-- Whether the queue is held after an act. -/
def holdsQueue (before : Bool) : Act → Bool
  | ⟨.acquire .queue _, _⟩ => true
  | ⟨.release .queue, _⟩ => false
  | _ => before

/-- The thread that an act left an action to. -/
def worker? : Act → Option Nat
  | ⟨.fork (.runAction ..), number⟩ => some (number : Nat)
  | _ => none

end Act

/-- The failures that acts showed, but for those that were shown while the queue was held: they are
about what was queued before. -/
def ownAlarms : Bool → List Act → List String
  | _, [] => []
  | queue, act :: rest =>
    (if queue then [] else act.alarm?.toList) ++ ownAlarms (act.holdsQueue queue) rest

theorem ownAlarms_append (queue : Bool) (first second : List Act) :
    ownAlarms queue (first ++ second) = ownAlarms queue first ++
      ownAlarms (first.foldl Act.holdsQueue queue) second := by
  induction first generalizing queue with
  | nil => rfl
  | cons act rest ih => simp [ownAlarms, ih]

theorem Posture.queue_after (posture : Posture) (act : Act) :
    (posture.after act).queue = act.holdsQueue posture.queue := by
  obtain ⟨operation, answer⟩ := act
  cases operation with
  | acquire lock | release lock => cases lock <;> rfl
  | fork work => cases work <;> rfl
  | call =>
    simp only [Posture.after]
    split <;> rfl
  | _ => rfl

/-- Under a licence that shows no failures there are none but about what was queued. -/
theorem Rules.Follows.no_alarms {licence : Licence} {posture after : Posture} {acts : List Act}
    (follows : licence.rules.Follows posture acts after) (quiet : licence.reports = false) :
    ownAlarms posture.queue acts = [] ∧
      after.queue = acts.foldl Act.holdsQueue posture.queue := by
  induction follows with
  | nothing => exact ⟨rfl, rfl⟩
  | @act posture between after act acts turns _ ih =>
    obtain ⟨allows, rfl⟩ := turns
    rw [Posture.queue_after] at ih
    refine ⟨?_, ih.2⟩
    rw [ownAlarms, ih.1, List.append_nil]
    cases held : posture.queue with
    | true => rfl
    | false =>
      rw [if_neg Bool.false_ne_true, Act.alarm?]
      split
      · cases alarm : act.operation.alarm? with
        | none => rfl
        | some text =>
          rcases allows.alarm (by rw [alarm]; rfl) with reports | queue
          · rw [quiet] at reports
            cases reports
          · rw [held] at queue
            cases queue
      · rfl

/-- What a message of the editor asks for, and the id of the reply that it waits for. -/
def Message.request? : Message → Option (Option RequestId × String × Json)
  | .call _ id method params => some (some id, method, params.toJson)
  | .notification _ method params => some (none, method, params.toJson)
  | .response _ => none

namespace Program

variable {setup : Setup} {acts : List Act}

/-- A failure is shown to the user. -/
def alarming : Outcome Json → Script Unit
  | .ok _ => .done ()
  | .error failure => Editor.report failure

/-- What is replied for an outcome: nothing for a failure. -/
def replyOf : Outcome Json → Json
  | .ok result => result
  | .error _ => .null

/-- What is done about an outcome: a failure is shown, and whoever waits gets a reply. -/
def concluding (id : Option RequestId) (outcome : Outcome Json) : Script Unit :=
  (alarming outcome).bind fun _ => replyToEditor id (replyOf outcome)

theorem runAction_eq (id : Option RequestId) (method : String) (params : Json) :
    runAction setup id method params =
      (Editor.act setup method params).run.bind (concluding id) := by
  refine congrArg (Script.bind _) (funext fun outcome => ?_)
  cases outcome <;> rfl

/-- An event as something that comes to a result. -/
def eventJob (method : String) (params : Json) : Job Json := do
  Editor.handleEvent method params
  return .null

theorem runEvent_eq (id : Option RequestId) (method : String) (params : Json) :
    runEvent id method params = (eventJob method params).run.bind (concluding id) := by
  refine Eq.trans ?_ (Script.bind_assoc (Editor.handleEvent method params).run _ _).symm
  refine congrArg (Script.bind _) (funext fun outcome => ?_)
  cases outcome <;> rfl

theorem eventJob_behaves {licence : Licence} (method : String) (params : Json) :
    (eventJob method params).Behaves licence false :=
  (Editor.handleEvent_behaves method params).bind fun _ => .pure _

theorem alarming_behaves {licence : Licence} (outcome : Outcome Json)
    (reports : licence.reports = true) : (alarming outcome).Behaves licence false := by
  cases outcome with
  | ok _ => exact .done _
  | error failure => exact Editor.report_behaves failure (.inl reports)

end Program

/-- What is done about an outcome that everyone hears of: a failure is shown to the user, and whoever
waits gets the result, or nothing for a failure. -/
def conclusion (id : Option RequestId) (outcome : Outcome Json) : List Act :=
  (match outcome with
    | .ok _ => []
    | .error failure => [⟨.notify .editor "vim#show_message" (.arr [.obj [("level", .str "Error"),
        ("message", .str failure.message)]]), (.ok () : Outcome Unit)⟩]) ++
  match id with
  | none => []
  | some id => [⟨.reply .editor id (Program.replyOf outcome), (.ok () : Outcome Unit)⟩]

/-- The failure of an outcome, as it is shown. -/
def failureOf : Outcome Json → List String
  | .ok _ => []
  | .error failure => [failure.message]

theorem ownAlarms_conclusion (id : Option RequestId) (outcome : Outcome Json) :
    ownAlarms false (conclusion id outcome) = failureOf outcome := by
  cases outcome <;> cases id <;> rfl

theorem replies_conclusion (id : Option RequestId) (outcome : Outcome Json) :
    (conclusion id outcome).filterMap (Act.reply? .editor) =
      (id.map fun id => (id, Program.replyOf outcome)).toList := by
  cases outcome <;> cases id <;> rfl

/-- Who is heard concludes as is due. -/
theorem Program.conclusion_of_concluding {id : Option RequestId} {outcome : Outcome Json}
    {acts : List Act} (does : (concluding id outcome).Does acts (.done ()))
    (heard : ∀ act ∈ acts, act.unheard? ≠ some .editor) : acts = conclusion id outcome := by
  obtain ⟨_, first, second, rfl, shown, replied⟩ := Script.Does.of_bind_done does
  unfold conclusion
  congr 1
  · cases outcome with
    | ok _ => exact shown.of_done.1
    | error failure =>
      obtain ⟨answer, rest, rfl, ending⟩ := Script.Does.of_step_done shown
      obtain ⟨rfl, _⟩ := ending.of_done
      cases answer with
      | ok _ => rfl
      | error _ => exact absurd rfl (heard _ (List.mem_append_left _ List.mem_cons_self))
  · cases id with
    | none => exact replied.of_done.1
    | some id =>
      obtain ⟨answer, rest, rfl, ending⟩ := Script.Does.of_step_done replied
      obtain ⟨rfl, _⟩ := ending.of_done
      cases answer with
      | ok _ => rfl
      | error _ => exact absurd rfl (heard _ (List.mem_append_right _ List.mem_cons_self))

/-- A request was carried out by acts and concluded. Of the failures that were shown on the way only
its own was not about what had been queued before. -/
inductive Concluded (id : Option RequestId) (job : Job Json) (acts : List Act) : Prop
  | mk {doing : List Act} {outcome : Outcome Json} (comes : job.Comes doing outcome)
      (whole : acts = doing ++ conclusion id outcome)
      (alarms : ownAlarms false acts = failureOf outcome)

/-- A job that shows no failures itself and is followed by a conclusion. -/
theorem Concluded.of_does {id : Option RequestId} {job : Job Json} {acts : List Act}
    {licence : Licence} (behaves : job.Behaves licence false) (quiet : licence.reports = false)
    (does : (job.run.bind (Program.concluding id)).Does acts (.done ()))
    (heard : ∀ act ∈ acts, act.unheard? ≠ some .editor) : Concluded id job acts := by
  obtain ⟨outcome, doing, ending, rfl, comes, concluded⟩ := Script.Does.of_bind_done does
  obtain rfl := Program.conclusion_of_concluding concluded fun act member =>
    heard act (List.mem_append_right _ member)
  obtain ⟨follows, calm⟩ := behaves.does comes
  obtain ⟨none, queue⟩ := follows.no_alarms quiet
  rw [Script.guided_done.mp calm] at queue
  refine .mk comes rfl ?_
  rw [ownAlarms_append, none, ← queue, List.nil_append, ownAlarms_conclusion]

/-- Before a request is concluded nobody has got a reply. -/
theorem Program.no_reply_before {id : Option RequestId} {job : Job Json} {acts : List Act}
    {operation : Operation} {onward : operation.Answer → Script Unit}
    (behaves : job.Behaves {} false)
    (does : (job.run.bind (concluding id)).Does acts (.step operation onward)) :
    acts.filterMap (Act.reply? .editor) = [] := by
  cases does.of_bind with
  | amid does => exact Journal.replies_of_silent (behaves.does does).1 (by simp)
  | @beyond outcome first second whole does rest =>
    have before : first.filterMap (Act.reply? .editor) = [] :=
      Journal.replies_of_silent (behaves.does does).1 (by simp)
    have alarms : (alarming outcome).Behaves { reports := true } false :=
      alarming_behaves outcome rfl
    rw [whole, List.filterMap_append, before, List.nil_append]
    have halves : (alarming outcome).Halves (fun _ => replyToEditor id (replyOf outcome)) second _ :=
      Script.Does.of_bind rest
    cases halves with
    | amid shown => exact Journal.replies_of_silent (alarms.does shown).1 (by simp)
    | beyond whole shown replying =>
      cases id with
      | none => cases replying.of_done.2
      | some id =>
        rcases Script.Does.of_step replying with ⟨rfl, _⟩ | ⟨_, _, _, ending⟩
        · rw [whole, List.append_nil]
          exact Journal.replies_of_silent (alarms.does shown).1 (by simp)
        · cases ending.of_done.2

/-- How the entries of a mapping are read that a method registers. -/
def readerFor? (method : String) :
    Option (String → Json → Except RegistrationError Extension) :=
  if method = "vlc/registerServerCommands" then some Extensions.readCommand
  else if method = "vlc/registerHandlers" then some Extensions.readHandler
  else none

/-- The result that a call of the editor is due: those of the registration for what is registered,
and nothing for everything else. -/
def dueResult (method : String) (params : Json) : Json :=
  match readerFor? method, readMapping params with
  | some read, .ok mapping =>
    .arr (mapping.map fun entry => (Extensions.registration read entry).toJson)
  | _, _ => .null

/-- The reply that a message of the editor is due. -/
def Message.due? : Message → Option (RequestId × Json)
  | .call _ id method params => some (id, dueResult method params.toJson)
  | _ => none

theorem dueResult_of_other {method : String} (params : Json) (other : readerFor? method = none) :
    dueResult method params = .null := by
  unfold dueResult
  rw [other]

theorem dueResult_of_event {method : String} (params : Json)
    (event : Editor.isEvent method = true) : dueResult method params = .null := by
  refine dueResult_of_other params ?_
  unfold readerFor?
  split
  · rename_i same
    rw [same] at event
    cases event
  · split
    · rename_i same
      rw [same] at event
      cases event
    · rfl

section Results

variable {setup : Setup} {acts : List Act} {outcome : Outcome Json}

/-- Whatever comes to nothing or fails is replied to with nothing. -/
theorem Program.replyOf_of_null {α : Type} {job : Job α}
    (comes : (job >>= fun _ => pure Json.null).Comes acts outcome) :
    replyOf outcome = .null := by
  rcases comes.of_bind with ⟨failure, rfl, _⟩ | ⟨_, _, _, _, _, ending⟩
  · rfl
  · obtain ⟨_, rfl⟩ := ending.of_pure
    rfl

theorem Program.replyOf_of_reading {α : Type} {shaped : Shaped α} {job : α → Job Unit}
    (comes : (do job (← Job.ofShaped shaped); return Json.null : Job Json).Comes acts outcome) :
    replyOf outcome = .null := by
  rcases comes.of_ofOutcome_bind with ⟨failure, _, rfl, _⟩ | ⟨value, _, rest⟩
  · rfl
  · exact replyOf_of_null rest

/-- The results of a registration that was carried out. -/
theorem Program.replyOf_of_registering {params : Json} (operation : List (String × Json) → Operation)
    (listed : ∀ mapping, (operation mapping).Answer → List Registration)
    {read : String → Json → Except RegistrationError Extension}
    (comes : (do
      let mapping ← Job.ofShaped (readMapping params)
      let results ← Job.ask (operation mapping)
      return .arr ((listed mapping results).map Registration.toJson) : Job Json).Comes acts outcome)
    (registered : ∀ mapping results, (⟨operation mapping, results⟩ : Act) ∈ acts →
      listed mapping results = mapping.map (Extensions.registration read)) :
    replyOf outcome = match readMapping params with
      | .ok mapping => .arr (mapping.map fun entry => (Extensions.registration read entry).toJson)
      | .error _ => .null := by
  cases shaped : readMapping params with
  | error error =>
    rw [shaped] at comes
    obtain ⟨_, rfl⟩ := Job.Comes.of_throw comes
    rfl
  | ok mapping =>
    rw [shaped] at comes
    obtain ⟨results, rest, rfl, ending⟩ := Job.Comes.of_ask_bind comes
    obtain ⟨_, rfl⟩ := ending.of_pure
    rw [replyOf, registered mapping results List.mem_cons_self, List.map_map]
    rfl

/-- What was registered came to the results that are due. -/
structure Registered (acts : List Act) : Prop where
  serverCommands : ∀ mapping results,
    (⟨.registerServerCommands mapping, results⟩ : Act) ∈ acts →
      results = mapping.map (Extensions.registration Extensions.readCommand)
  handlers : ∀ mapping results, (⟨.registerHandlers mapping, results⟩ : Act) ∈ acts →
    results = mapping.map (Extensions.registration Extensions.readHandler)

theorem Registered.of_subset {some : List Act} (registered : Registered acts)
    (among : some ⊆ acts) : Registered some :=
  ⟨fun mapping results member => registered.serverCommands mapping results (among member),
    fun mapping results member => registered.handlers mapping results (among member)⟩

/-- Every action comes to the result that is due, and failures are replied to with nothing. -/
theorem Program.replyOf_act {method : String} {params : Json}
    (comes : (Editor.act setup method params).Comes acts outcome) (registered : Registered acts) :
    replyOf outcome = dueResult method params := by
  unfold Editor.act at comes
  by_cases same : method = "textDocument/definition"
  · rw [if_pos same] at comes
    exact same ▸ replyOf_of_reading comes
  rw [if_neg same] at comes
  by_cases same : method = "textDocument/references"
  · rw [if_pos same] at comes
    exact same ▸ replyOf_of_reading comes
  rw [if_neg same] at comes
  by_cases same : method = "textDocument/hover"
  · rw [if_pos same] at comes
    exact same ▸ replyOf_of_reading comes
  rw [if_neg same] at comes
  by_cases same : method = "textDocument/rename"
  · rw [if_pos same] at comes
    exact same ▸ replyOf_of_reading comes
  rw [if_neg same] at comes
  by_cases same : method = "textDocument/documentSymbol"
  · rw [if_pos same] at comes
    exact same ▸ replyOf_of_reading comes
  rw [if_neg same] at comes
  by_cases same : method = "workspace/symbol"
  · rw [if_pos same] at comes
    exact same ▸ replyOf_of_reading comes
  rw [if_neg same] at comes
  by_cases same : method = "vlc/explainErrorAtPoint"
  · rw [if_pos same] at comes
    exact same ▸ replyOf_of_reading comes
  rw [if_neg same] at comes
  by_cases commands : method = "vlc/registerServerCommands"
  · rw [if_pos commands] at comes
    subst commands
    refine (replyOf_of_registering .registerServerCommands (fun _ results => results) comes
      registered.serverCommands).trans ?_
    unfold dueResult
    cases readMapping params <;> rfl
  rw [if_neg commands] at comes
  by_cases handlers : method = "vlc/registerHandlers"
  · rw [if_pos handlers] at comes
    subst handlers
    refine (replyOf_of_registering .registerHandlers (fun _ results => results) comes
      registered.handlers).trans ?_
    unfold dueResult
    cases readMapping params <;> rfl
  rw [if_neg handlers] at comes
  obtain ⟨_, rfl⟩ := comes.of_pure
  refine (dueResult_of_other params ?_).symm
  rw [readerFor?, if_neg commands, if_neg handlers]

end Results

namespace Journal

variable {setup : Setup} {tree : FileTree} {journal : Journal} {now : System}

theorem Kept.registered (kept : Kept setup tree journal now) : Registered journal.acts := by
  induction kept with
  | begin => exact ⟨fun _ _ => nofun, fun _ _ => nofun⟩
  | @did journal now thread operation onward world answer kept here performed ih =>
    rw [acts_did]
    constructor
    · intro mapping results member
      rcases List.mem_append.mp member with before | new
      · exact ih.serverCommands mapping results before
      · cases List.mem_singleton.mp new
        cases performed
        exact Extensions.results_register _ _ _
    · intro mapping results member
      rcases List.mem_append.mp member with before | new
      · exact ih.handlers mapping results before
      · cases List.mem_singleton.mp new
        cases performed
        exact Extensions.results_register _ _ _
  | ended _ _ _ ih => simpa using ih
  | happened _ _ ih => simpa using ih

/-- No two actions are left to one thread. -/
theorem Kept.workers_nodup (kept : Kept setup tree journal now) :
    (journal.acts.filterMap Act.worker?).Nodup := by
  have numbers : (journal.acts.filterMap Act.forked?).map (·.2) =
      List.range' 1 journal.works.tail.length := by
    rw [kept.numbered, List.zipIdx_map_snd]
  have some : List.Sublist (journal.acts.filterMap Act.worker?)
      ((journal.acts.filterMap Act.forked?).map (·.2)) := by
    induction journal.acts with
    | nil => exact .slnil
    | cons act rest ih =>
      obtain ⟨operation, answer⟩ := act
      cases operation with
      | fork work =>
        cases work with
        | runAction => exact ih.cons_cons _
        | _ => exact ih.cons _
      | _ => exact ih
  exact some.nodup (numbers ▸ List.nodup_range')

/-- The threads that actions are left to are those that run actions. -/
theorem Kept.mem_workers (kept : Kept setup tree journal now) {thread : Nat} :
    thread ∈ journal.acts.filterMap Act.worker? ↔ ∃ id method params,
      journal.works[thread]? = some (.runAction id method params) := by
  constructor
  · intro member
    obtain ⟨⟨operation, answer⟩, there, same⟩ := List.mem_filterMap.mp member
    cases operation with
    | fork work =>
      cases work with
      | runAction id method params =>
        cases same
        exact ⟨id, method, params, kept.work_of_fork there⟩
      | _ => cases same
    | _ => cases same
  · rintro ⟨id, method, params, started⟩
    cases thread with
    | zero => cases started
    | succ before =>
      have given : (.runAction id method params, before + 1) ∈
          journal.acts.filterMap Act.forked? := by
        rw [kept.numbered, List.mem_zipIdx_iff_le_and_getElem?_sub]
        exact ⟨Nat.le_add_left 1 before, by simpa [works] using started⟩
      obtain ⟨⟨operation, answer⟩, there, same⟩ := List.mem_filterMap.mp given
      cases operation with
      | fork work =>
        cases same
        exact List.mem_filterMap.mpr ⟨_, there, rfl⟩
      | _ => cases same

/-- Whoever may not delegate has left no action to another. -/
theorem workers_of_idle {licence : Licence} {posture after : Posture} {acts : List Act}
    (follows : licence.rules.Follows posture acts after) (idle : licence.delegates = false) :
    acts.filterMap Act.worker? = [] := by
  refine follows.filterMap_eq_nil fun act between allows => ?_
  obtain ⟨operation, answer⟩ := act
  cases operation with
  | fork work =>
    cases work with
    | runAction =>
      have delegates := allows.delegate
      rw [idle] at delegates
      cases delegates
    | _ => rfl
  | _ => rfl

/-- Only the threads for the editor's messages leave actions to others. -/
theorem Kept.workers_of_serves (kept : Kept setup tree journal now) :
    journal.acts.filterMap Act.worker? =
      (journal.actsBy (journal.serves .editor)).filterMap Act.worker? := by
  refine filterMap_acts fun thread act member left => ?_
  obtain ⟨work, posture, started, allows⟩ := kept.allowed member
  obtain ⟨operation, answer⟩ := act
  cases operation with
  | fork given =>
    cases given with
    | runAction =>
      have delegates := allows.delegate
      refine serves_iff.mpr ⟨work, started, ?_⟩
      cases work with
      | serveEditor => rfl
      | _ => cases delegates
    | _ => cases left
  | _ => cases left

/-- Whoever has replied to the editor serves it or runs an action. -/
theorem Kept.replies_to_editor (kept : Kept setup tree journal now) :
    now.world.repliesTo .editor = (journal.actsBy fun thread =>
      journal.serves .editor thread ||
        (journal.acts.filterMap Act.worker?).contains thread).filterMap (Act.reply? .editor) := by
  rw [kept.repliesTo]
  refine filterMap_acts fun thread act member replied => ?_
  obtain ⟨work, posture, started, allows⟩ := kept.allowed member
  have permitted := allows.replied replied
  rw [Bool.or_eq_true, List.contains_iff_mem, kept.mem_workers]
  cases work with
  | serveEditor => exact .inl (serves_iff.mpr ⟨_, started, rfl⟩)
  | runAction id method params => exact .inr ⟨id, method, params, started⟩
  | _ => cases permitted

end Journal

namespace Editor

variable {setup : Setup} {tree : FileTree} {journal : Journal} {now : System} {acts : List Act}
  {id : Option RequestId}

/-- How a message of the editor was handled: outputs are passed over, events are handled at once and
actions are left to threads of their own, each to one that does nothing else. -/
inductive Handled (setup : Setup) (journal : Journal) (leg : Leg) : Prop
  | output (asks : leg.message.request? = none) (nothing : leg.handling = [])
  | event {id : Option RequestId} {method : String} {params : Json}
      (asks : leg.message.request? = some (id, method, params)) (event : isEvent method = true)
      (concluded : Concluded id (Program.eventJob method params) leg.handling)
  | action {id : Option RequestId} {method : String} {params : Json} {worker : Nat}
      (asks : leg.message.request? = some (id, method, params)) (action : isEvent method = false)
      (left : leg.handling = [⟨.fork (.runAction id method params), worker⟩])
      (started : journal.works[worker]? = some (.runAction id method params))
      (concluded : Concluded id (act setup method params) (journal.actsOf worker))

theorem handling_eq (message : Message) : Work.serveEditor.handling setup message =
    match message.request? with
    | none => .done ()
    | some (id, method, params) => Program.dispatch id method params := by
  cases message <;> rfl

theorem handled_of_does {leg : Leg} (kept : Journal.Kept setup tree journal now)
    (alive : now.world.isAlive .editor = true)
    (finished : journal.ActionsDone now)
    (does : (Work.serveEditor.handling setup leg.message).Does leg.handling (.done ()))
    (own : leg.handling ⊆ journal.acts) : Handled setup journal leg := by
  rw [handling_eq] at does
  cases asks : leg.message.request? with
  | none =>
    rw [asks] at does
    exact .output asks does.of_done.1
  | some request =>
    obtain ⟨id, method, params⟩ := request
    rw [asks] at does
    dsimp only [Program.dispatch] at does
    cases event : isEvent method with
    | true =>
      rw [event, if_pos rfl, Program.runEvent_eq] at does
      have behaves : (Program.eventJob method params).Behaves {} false :=
        Program.eventJob_behaves method params
      exact .event asks event (.of_does behaves rfl does fun act member =>
        kept.heard alive (own member))
    | false =>
      rw [event, if_neg Bool.false_ne_true] at does
      obtain ⟨worker, _, left, ending⟩ := Script.Does.of_step_done does
      obtain ⟨rfl, _⟩ := ending.of_done
      have started := kept.work_of_fork (own (left ▸ List.mem_cons_self))
      obtain ⟨script, here, ran⟩ := kept.script started
      obtain ⟨outcome, there⟩ := finished worker id method params started
      obtain rfl : script = .done outcome := Option.some.inj (here.symm.trans there)
      obtain ⟨_, first, second, whole, running, rest⟩ := Script.Does.of_bind_done ran
      obtain ⟨rfl, _⟩ := rest.of_done
      rw [List.append_nil] at whole
      rw [Program.runAction_eq, ← whole] at running
      have behaves : (act setup method params).Behaves { floats := true } false :=
        act_behaves setup method params rfl
      exact .action asks event left started (.of_does behaves rfl running fun act member =>
        kept.heard alive (Journal.mem_acts_of_mem_actsOf member))

theorem due?_of_request {message : Message} {method : String} {params : Json}
    (asks : message.request? = some (id, method, params)) :
    message.due? = id.map fun id => (id, dueResult method params) := by
  cases message <;> cases asks <;> rfl

/-- A request that was concluded was replied to once, if anyone waited for it. -/
theorem replies_of_concluded {licence : Licence} {job : Job Json} {result : Json}
    (concluded : Concluded id job acts) (behaves : job.Behaves licence false)
    (silent : licence.replies ≠ some .editor)
    (due : ∀ {doing outcome}, job.Comes doing outcome → doing ⊆ acts →
      Program.replyOf outcome = result) :
    acts.filterMap (Act.reply? .editor) = (id.map fun id => (id, result)).toList := by
  obtain ⟨comes, rfl, _⟩ := concluded
  rw [List.filterMap_append, Journal.replies_of_silent (behaves.does comes).1 silent,
    replies_conclusion, due comes (List.subset_append_left _ _), List.nil_append]

theorem workers_of_concluded {licence : Licence} {job : Job Json}
    (concluded : Concluded id job acts) (behaves : job.Behaves licence false)
    (idle : licence.delegates = false) : acts.filterMap Act.worker? = [] := by
  obtain ⟨comes, rfl, _⟩ := concluded
  rw [List.filterMap_append, Journal.workers_of_idle (behaves.does comes).1 idle, List.nil_append]
  rename_i outcome _
  cases outcome <;> cases id <;> rfl

/-- A message that was handled got the reply it is due, from the thread that took it or from the one
that its action was left to. -/
theorem Handled.replies {leg : Leg} (handled : Handled setup journal leg)
    (kept : Journal.Kept setup tree journal now) :
    leg.handling.filterMap (Act.reply? .editor) ++
        (leg.handling.filterMap Act.worker?).flatMap (fun worker =>
          (journal.actsOf worker).filterMap (Act.reply? .editor)) =
      leg.message.due?.toList := by
  cases handled with
  | output asks nothing =>
    rw [nothing]
    obtain ⟨thread, message, acts, next⟩ := leg
    cases message with
    | response => rfl
    | _ => cases asks
  | @event id method params asks event concluded =>
    have behaves : (Program.eventJob method params).Behaves {} false :=
      Program.eventJob_behaves method params
    rw [replies_of_concluded concluded behaves (by simp) fun comes _ =>
      (Program.replyOf_of_null comes).trans (dueResult_of_event params event).symm,
      workers_of_concluded concluded behaves rfl, due?_of_request asks]
    exact List.append_nil _
  | @action id method params worker asks _ left _ concluded =>
    have behaves : (act setup method params).Behaves { floats := true } false :=
      act_behaves setup method params rfl
    have replies := replies_of_concluded concluded behaves (by simp) fun comes among =>
      Program.replyOf_act comes (kept.registered.of_subset fun act member =>
        Journal.mem_acts_of_mem_actsOf (among member))
    rw [left, due?_of_request asks]
    exact (List.append_nil _).trans replies

/-- Where the handling of a message of the editor may stand: before anything, or amid an event. -/
theorem handling_amid {message : Message} {operation : Operation}
    {onward : operation.Answer → Script Unit}
    (does : (Work.serveEditor.handling setup message).Does acts (.step operation onward)) :
    acts = [] ∨ ∃ id method params,
      ((Program.eventJob method params).run.bind (Program.concluding id)).Does acts
        (.step operation onward) := by
  rw [handling_eq] at does
  cases asks : message.request? with
  | none =>
    rw [asks] at does
    cases does.of_done.2
  | some request =>
    obtain ⟨id, method, params⟩ := request
    rw [asks] at does
    dsimp only [Program.dispatch] at does
    split at does
    · rw [Program.runEvent_eq] at does
      exact .inr ⟨id, method, params, does⟩
    · rcases Script.Does.of_step does with ⟨rfl, _⟩ | ⟨_, _, _, ending⟩
      · exact .inl rfl
      · cases ending.of_done.2

/-- An event is handled without leaving anything to others. -/
theorem event_behaves (id : Option RequestId) (method : String) (params : Json) :
    ((Program.eventJob method params).run.bind (Program.concluding id)).Behaves
      { replies := some .editor, reports := true } false :=
  Script.Behaves.bind (Program.eventJob_behaves method params) fun outcome =>
    Script.Behaves.bind (Program.alarming_behaves outcome rfl) fun _ =>
      Program.replyToEditor_behaves id _ rfl

/-- Once the actions have come to their ends, each call of the editor that was handled has got one
reply, with its id and the result that is due, and nothing else has; each event or action that
failed has shown its failure once. Messages are handled in the order in which they came, each event
before the next message is taken and each action by a thread of its own. -/
theorem messages_attended (kept : Journal.Kept setup tree journal now)
    (alive : now.world.isAlive .editor = true) (finished : journal.ActionsDone now) :
    ∃ handled under, Journal.Attended setup journal now .editor .serveEditor handled under ∧
      (∀ leg ∈ handled, Handled setup journal leg) ∧
      (handled.flatMap fun leg => leg.handling.filterMap Act.worker?).Nodup ∧
      (now.world.repliesTo .editor).Perm (handled.filterMap fun leg => leg.message.due?) := by
  have served : .serveEditor ∈ journal.works := List.mem_cons_self
  obtain ⟨handled, under, attended⟩ := kept.attended served rfl
  have own (leg : Leg) (there : leg ∈ handled) : leg.handling ⊆ journal.acts := by
    intro act member
    have among : act ∈ journal.actsOf leg.thread := by
      rw [attended.own leg there]
      exact List.mem_append_left _ (List.mem_cons_of_mem _ member)
    exact Journal.mem_acts_of_mem_actsOf among
  have each (leg : Leg) (there : leg ∈ handled) : Handled setup journal leg :=
    handled_of_does kept alive finished (attended.done leg there) (own leg there)
  have workers : journal.acts.filterMap Act.worker? =
      handled.flatMap fun leg => leg.handling.filterMap Act.worker? := by
    rw [kept.workers_of_serves]
    refine attended.filterMap (fun _ => rfl) (fun _ => rfl) (fun does => ?_) fun does =>
      Journal.workers_of_idle ((Program.ending_behaves {} _).does does).1 rfl
    rcases handling_amid does with rfl | ⟨id, method, params, amid⟩
    · rfl
    · exact Journal.workers_of_idle ((event_behaves id method params).does amid).1 rfl
  have once := kept.workers_nodup
  have loop : (journal.actsBy (journal.serves .editor)).filterMap (Act.reply? .editor) =
      handled.flatMap fun leg => leg.handling.filterMap (Act.reply? .editor) := by
    refine attended.filterMap (fun _ => rfl) (fun _ => rfl) (fun does => ?_) fun does =>
      Journal.replies_of_silent ((Program.ending_behaves {} _).does does).1 (by simp)
    rcases handling_amid does with rfl | ⟨id, method, params, amid⟩
    · rfl
    · exact Program.no_reply_before (Program.eventJob_behaves method params) amid
  refine ⟨handled, under, attended, each, workers ▸ once, ?_⟩
  have apart (thread : Nat) (serves : journal.serves .editor thread = true) :
      (journal.acts.filterMap Act.worker?).contains thread = false := by
    rw [Bool.eq_false_iff]
    intro works
    obtain ⟨work, started, takes⟩ := Journal.serves_iff.mp serves
    obtain ⟨id, method, params, same⟩ := kept.mem_workers.mp (List.contains_iff_mem.mp works)
    cases started.symm.trans same
    cases takes
  have split : (journal.actsBy fun thread => journal.serves .editor thread ||
        (journal.acts.filterMap Act.worker?).contains thread).Perm _ :=
    (Journal.actsBy_or_perm apart).trans ((Journal.actsBy_mem_perm once).append_left _)
  rw [kept.replies_to_editor]
  refine (split.filterMap _).trans ?_
  rw [List.filterMap_append, loop, List.filterMap_flatMap, workers, List.flatMap_assoc]
  refine (List.flatMap_append_perm handled _ _).trans (.of_eq ?_)
  rw [List.filterMap_eq_flatMap_toList]
  exact List.flatMap_congr fun leg there => (each leg there).replies kept

/-- The editor calls a method. -/
def editorCalls (id : Nat) (method : String) (params : Json) : Happening :=
  .deliver .editor (.call true (.number id) method (Params.ofJson params))

/-- Handlers are registered, one of them without a name, a document that cannot be read is opened,
a hover without a place is asked for, a method is called that there is not, and a document is closed
that cannot be read. -/
def faultyMessages : Journal × System :=
  Journal.play {} 40
    [editorCalls 1 "vlc/registerHandlers"
        (.obj [("mapping", .obj [("a/b", .str "f"), ("c/d", .str "")])]),
      .deliver .editor (.notification true "textDocument/didOpen" .none),
      editorCalls 2 "textDocument/hover" .null, editorCalls 3 "vlc/unheardOf" .null,
      editorCalls 4 "textDocument/didClose" .null]
    ([], listening {} ⟨[], []⟩)

theorem faulty_messages_attended : ∃ journal now, Journal.Kept {} ⟨[], []⟩ journal now ∧
    (now.world.repliesTo .editor).map (·.1) =
      [.number 1, .number 2, .number 3, .number 4] ∧
    (journal.acts.filterMap Act.alarm?).length = 3 ∧
    ∃ handled under, Journal.Attended {} journal now .editor .serveEditor handled under ∧
      (∀ leg ∈ handled, Handled {} journal leg) ∧
      (handled.flatMap fun leg => leg.handling.filterMap Act.worker?).Nodup ∧
      (now.world.repliesTo .editor).Perm (handled.filterMap fun leg => leg.message.due?) := by
  have kept : Journal.Kept {} ⟨[], []⟩ faultyMessages.1 faultyMessages.2 :=
    Journal.Kept.played _ _ 40 _
  obtain ⟨alive, ended, replies, alarms⟩ : faultyMessages.2.world.isAlive .editor = true ∧
      faultyMessages.1.actionsEnded faultyMessages.2 = true ∧
      (faultyMessages.2.world.repliesTo .editor).map (·.1) =
        [.number 1, .number 2, .number 3, .number 4] ∧
      (faultyMessages.1.acts.filterMap Act.alarm?).length = 3 := by decide +kernel
  exact ⟨_, _, kept, replies, alarms, messages_attended kept alive (kept.actionsDone ended)⟩

end Editor

end LanguageBridge
