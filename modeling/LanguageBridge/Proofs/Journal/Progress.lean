import LanguageBridge.Proofs.Journal.Relays

/-!
Whoever holds the documents can go on, so that nobody waits for them in vain: a thread that handles
a server's message can go on, or waits for the answer to a call, or for the documents.
-/
namespace LanguageBridge

variable {setup : Setup} {tree : FileTree} {journal : Journal} {now : System} {peer : Peer}
  {work : Work}

theorem Posture.documents_after (posture : Posture) (act : Act) :
    (posture.after act).documents =
      match act.operation with
      | .acquire .documents mode => some mode
      | .release .documents => none
      | _ => posture.documents := by
  obtain ⟨operation, answer⟩ := act
  cases operation with
  | acquire lock | release lock => cases lock <;> rfl
  | fork work => cases work <;> rfl
  | call =>
    simp only [Posture.after]
    split <;> rfl
  | _ => rfl

/-- Every operation may answer something. -/
theorem Operation.answerable (operation : Operation) : Nonempty operation.Answer := by
  cases operation with
  | disk => exact ⟨(⟨[], []⟩ : FileTree)⟩
  | spawn => exact ⟨(.ok default : Except SystemError ServerId)⟩
  | notify | reply => exact ⟨(.ok () : Outcome Unit)⟩
  | call => exact ⟨(.ok 0 : Outcome Nat)⟩
  | await => exact ⟨(.ok .null : Outcome Json)⟩
  | workspace => exact ⟨(default : Workspace)⟩
  | queue => exact ⟨(∅ : Table SessionKey (List BufferContent))⟩
  | extensions => exact ⟨(default : Extensions)⟩
  | registerServerCommands | registerHandlers => exact ⟨([] : List Registration)⟩
  | hoverAgain => exact ⟨(none : Option (List FloatEffect))⟩
  | floatEvent | reveal => exact ⟨([] : List FloatEffect)⟩
  | session | unregister => exact ⟨(none : Option Session)⟩
  | isAlive => exact ⟨true⟩
  | drain => exact ⟨([] : List Session)⟩
  | connect => exact ⟨(default : ServerId)⟩
  | receive => exact ⟨(none : Option Message)⟩
  | fork => exact ⟨(0 : Nat)⟩
  | _ => exact ⟨()⟩

/-- Only who is in the middle of nothing takes the documents. -/
theorem Licence.Allows.take {licence : Licence} {posture : Posture} {mode : LockMode}
    (allows : licence.Allows posture (.acquire .documents mode)) : posture.documents = none := by
  cases allows with
  | free => rfl
  | prompt impossible => cases impossible
  | carry => rfl

/-- Only by making a call a thread comes to wait for an answer. -/
theorem Licence.Allows.of_asked {licence : Licence} {posture : Posture} {act : Act} {ticket : Nat}
    {window : Bool} (allows : licence.Allows posture act.operation)
    (calling : (posture.after act).calling = .asked peer ticket window) :
    ∃ method params, act = ⟨.call peer method params, (.ok ticket : Outcome Nat)⟩ := by
  obtain ⟨operation, answer⟩ := act
  cases operation with
  | call other method params =>
    cases answer with
    | ok given =>
      obtain ⟨rfl, rfl, _⟩ := Calling.asked.inj calling
      exact ⟨method, params, rfl⟩
    | error =>
      cases allows with
      | free | carry => cases calling
      | prompt impossible => cases impossible
  | await =>
    obtain ⟨_, opens, asked⟩ := allows.asked
    simp only [Posture.after, asked] at calling
    cases opens with
    | false => cases calling
    | true =>
      simp only [Calling.answered] at calling
      split at calling <;> cases calling
  | acquire lock | release lock => cases lock <;> cases allows <;> cases calling
  | fork work => cases work <;> cases allows <;> cases calling
  | _ => cases allows <;> cases calling

namespace Journal.Kept

/-- Who holds the documents is in the middle of something with them. -/
theorem holds (kept : Kept setup tree journal now) (thread : Nat) (mode : LockMode) :
    ⟨.documents, mode, thread⟩ ∈ now.world.held ↔
      (journal.posture thread).documents = some mode := by
  induction kept with
  | begin => simp [listening, System.start, posture]
  | @did journal now mover operation onward world answer kept here performed ih =>
    change ⟨.documents, mode, thread⟩ ∈ world.held ↔ _
    obtain ⟨_, _, allows⟩ := kept.allows here answer
    rw [(World.performed performed).held]
    by_cases same : thread = mover
    · subst same
      rw [posture_did_self, Posture.documents_after]
      cases operation with
      | acquire lock taken =>
        cases lock with
        | documents =>
          have free := allows.take
          rw [free] at ih
          simp only [Operation.heldAfter, List.mem_cons, ih]
          simp [eq_comm]
        | queue | starting => simpa [Operation.heldAfter] using ih
      | release lock =>
        cases lock with
        | documents => simp [Operation.heldAfter]
        | queue | starting => simpa [Operation.heldAfter] using ih
      | _ => exact ih
    · rw [posture_did_of_ne same]
      cases operation with
      | acquire => simpa [Operation.heldAfter, same] using ih
      | release => simpa [Operation.heldAfter, same] using ih
      | _ => exact ih
  | ended _ _ _ ih => simpa using ih
  | happened _ happening ih =>
    rw [System.occur_eq, posture_happened, ← ih]
    exact iff_of_eq (congrArg (_ ∈ ·) (World.after_held _ happening))

/-- Of two threads that hold one lock, both share it. -/
theorem shared (kept : Kept setup tree journal now) {first second : Hold}
    (held : first ∈ now.world.held) (also : second ∈ now.world.held)
    (lock : first.lock = second.lock) (apart : first.thread ≠ second.thread) :
    first.mode = .shared ∧ second.mode = .shared := by
  induction kept generalizing first second with
  | begin => cases held
  | did _ here performed ih =>
    rcases World.hold_cases performed held with old | ⟨_, taker, admits⟩ <;>
      rcases World.hold_cases performed also with older | ⟨_, other, admitted⟩
    · exact ih old older lock apart
    · exact (admitted first old lock).symm
    · exact admits second older lock.symm
    · exact absurd (taker.trans other.symm) apart
  | ended _ _ _ ih => exact ih held also lock apart
  | happened _ happening ih =>
    rw [System.occur_eq] at held also
    rw [World.after_held] at held also
    exact ih held also lock apart

/-- What a thread stands before is allowed, and whoever holds the documents has something left. -/
theorem holder_stands (kept : Kept setup tree journal now) {thread : Nat} {mode : LockMode}
    (holding : (journal.posture thread).documents = some mode) :
    ∃ (operation : Operation) (onward : operation.Answer → Script (Outcome Json)),
      now.threads[thread]? = some (.step operation onward) ∧
      (operation = .release .documents ∨ operation.Prompt mode) := by
  have started : thread < journal.works.length := by
    refine Nat.lt_of_not_le fun late => ?_
    rw [posture, kept.actsOf_of_le late] at holding
    cases holding
  obtain ⟨script, here, _, _, guided⟩ := kept.behaves (List.getElem?_eq_getElem started)
  cases script with
  | done outcome =>
    rw [Script.guided_done.mp guided] at holding
    cases holding
  | step operation onward =>
    refine ⟨operation, onward, here, ?_⟩
    obtain ⟨answer⟩ := operation.answerable
    obtain ⟨_, turns, _⟩ := guided answer trivial
    have allows := turns.1
    generalize journal.posture thread = posture at holding allows
    cases allows with
    | prompt prompt =>
      cases holding
      exact .inr prompt
    | release => exact .inl rfl
    | _ => cases holding

/-- Who holds the documents can go on. -/
theorem holder_moves (kept : Kept setup tree journal now) {thread : Nat} {mode : LockMode}
    (holding : (journal.posture thread).documents = some mode) :
    (Program.step setup now thread).isSome = true := by
  have held := (kept.holds thread mode).mpr holding
  obtain ⟨operation, onward, here, rfl | prompt⟩ := kept.holder_stands holding
  · exact Program.step_isSome here rfl
  refine Program.step_isSome here ?_
  cases operation with
  | workspace =>
    refine Option.isSome_iff_exists.mpr ⟨_, if_pos (List.all_eq_true.mpr fun hold there => ?_)⟩
    by_cases documents : hold.lock = .documents
    · by_cases own : hold.thread = thread
      · simp [own]
      · simp [(kept.shared there held documents own).1]
    · simp [documents]
  | setWorkspace changed =>
    obtain rfl : mode = .exclusive := prompt
    exact Option.isSome_iff_exists.mpr ⟨_, if_pos (by simpa [World.excludes] using held)⟩
  | disk | notify => rfl
  | _ => cases prompt

/-- Whoever waits for an answer has just made the call. -/
theorem asked (kept : Kept setup tree journal now) {thread ticket : Nat}
    {onward : Outcome Json → Script (Outcome Json)}
    (here : now.threads[thread]? = some (.step (.await ticket) onward)) :
    ∃ before peer method params, journal.actsOf thread =
      before ++ [⟨.call peer method params, (.ok ticket : Outcome Nat)⟩] := by
  obtain ⟨work, started⟩ := kept.work_of_thread here
  obtain ⟨script, there, _, follows, guided⟩ := kept.behaves started
  obtain rfl : _ = script := Option.some.inj (here.symm.trans there)
  obtain ⟨_, turns, _⟩ := guided (.ok .null : Outcome Json) trivial
  obtain ⟨peer, window, calling⟩ := turns.1.asked
  rcases List.eq_nil_or_concat (journal.actsOf thread) with none | ⟨before, last, whole⟩
  · rw [posture, none] at calling
    cases calling
  rw [List.concat_eq_append] at whole
  rw [whole] at follows
  obtain ⟨between, _, ending⟩ := follows.of_append
  cases ending with
  | act turned nothing =>
    cases nothing
    obtain ⟨method, params, same⟩ := turned.1.of_asked (turned.2 ▸ calling)
    exact ⟨before, peer, method, params, by rw [whole, same]⟩

end Journal.Kept

/-- What the handling of a server's message is made of: all it may have to wait for are the documents
and the answers to calls of the editor. -/
def Operation.Attends : Operation → Prop
  | .acquire lock _ | .release lock => lock = .documents
  | .call peer .. => peer = .editor
  | .extensions | .workspace | .setWorkspace _ | .disk | .await _ | .notify .. | .reply ..
  | .log .. => True
  | _ => False

namespace Job

variable {α : Type}

theorem attends_holding {mode : LockMode} {job : Job α} (inside : job.Each Operation.Attends) :
    (Job.holding .documents mode job).Each Operation.Attends :=
  Job.Each.holding rfl rfl inside

theorem attends_call {method : String} {params : Json} (read : Json → Shaped α) :
    (Job.call .editor method params read).Each Operation.Attends :=
  Job.Each.call read rfl fun _ => trivial

end Job

theorem Context.attached_attends (context : Context) :
    context.attached.Each Operation.Attends := by
  unfold Context.attached
  split <;> trivial

theorem Context.sync_attends (context : Context) (file : String) (text : Text) :
    (context.sync file text).Each Operation.Attends := by
  refine context.attached_attends.bind fun session => (Job.Each.ofOutcome _).bind fun uri => ?_
  refine Job.attends_holding (Job.Each.ask_bind trivial fun workspace => ?_)
  split
  · split
    · exact Job.Each.ask_bind trivial fun _ => (Job.Each.notify trivial).bind fun _ => trivial
    · trivial
  · exact (Job.Each.notify trivial).bind fun _ => Job.Each.ask_bind trivial fun _ => trivial

namespace Editor

theorem loadBuffer_attends (file : String) : (loadBuffer file).Each Operation.Attends := by
  refine (Job.attends_call _).bind fun buffer => ?_
  split <;> trivial

theorem writeFile_attends (context : Context) (planned : PlannedFile) :
    (writeFile context planned).Each Operation.Attends := by
  refine (loadBuffer_attends _).bind fun buffer => (Job.Each.notify trivial).bind fun _ => ?_
  exact (context.sync_attends _ _).bind fun _ => Job.attends_holding <|
    Job.Each.ask_bind trivial fun _ => Job.Each.ask_bind trivial fun _ => trivial

theorem applyEdit_attends (context : Context) (edit : WorkspaceEdit)
    (cursor : Option CursorPlace) : (applyEdit context edit cursor).Each Operation.Attends := by
  refine (Job.Each.ofOutcome _).bind fun files => ?_
  split
  · trivial
  refine Job.Each.ask_bind trivial fun workspace => Job.Each.ask_bind trivial fun tree => ?_
  refine (Job.Each.ofOutcome _).bind fun planned => ?_
  refine (Job.Each.forM fun entry _ => writeFile_attends context entry).bind fun _ => ?_
  split
  · trivial
  · split
    · exact (Job.attends_call _).bind fun _ => trivial
    · trivial

end Editor

namespace Server

variable (session : Session)

theorem publish_attends (published : PublishedDiagnostics) :
    (publish setup published).Each Operation.Attends := by
  refine (Job.Each.ofOutcome _).bind fun file => Job.Each.bind ?_ fun lines => ?_
  · exact Job.attends_holding <| Job.Each.ask_bind trivial fun _ => Job.Each.ask_bind trivial
      fun _ => Job.Each.ask_bind trivial fun _ => trivial
  · split
    · exact Job.Each.notify trivial
    · trivial

theorem handleNotification_attends (method : String) (params : Json) :
    (handleNotification setup session method params).Each Operation.Attends := by
  unfold handleNotification
  split
  · exact (Job.Each.ofOutcome _).bind fun notice => Job.Each.ask_bind trivial fun _ => trivial
  split
  · exact (Job.Each.ofOutcome _).bind fun published => publish_attends published
  split
  · refine (Job.Each.ofOutcome _).bind fun progress => ?_
    split
    · exact Job.Each.notify trivial
    · trivial
  split
  · exact (Job.Each.ofOutcome _).bind fun notice => Job.Each.notify trivial
  · trivial

theorem resultOf_attends (method : String) (params : Json) :
    (resultOf session method params).Each Operation.Attends := by
  unfold resultOf
  split
  · split
    · refine Script.Each.bind (Editor.applyEdit_attends _ _ none) fun outcome => ?_
      cases outcome with
      | ok _ => trivial
      | error failure => exact Script.Each.bind (Job.Each.notify trivial) fun _ => trivial
    · trivial
  · trivial

theorem handle_attends (message : Message) :
    (handle setup session message).Each Operation.Attends := by
  refine (Job.Each.ask_bind trivial fun _ => trivial : Job.Each _ (handlerFor _)).bind
    fun handler => ?_
  have replying (id : RequestId) (result : Json) :
      (Job.reply session.peer id result).Each Operation.Attends :=
    ⟨trivial, fun _ => trivial⟩
  cases message with
  | call versioned id method params =>
    refine (Job.Each.ofScript (resultOf_attends session method _)).bind fun result => ?_
    split
    · exact (Job.Each.attempt (Job.Each.notify trivial)).bind fun _ => replying id result
    · exact replying id result
  | notification versioned method params =>
    refine (handleNotification_attends session method _).bind fun _ => ?_
    split
    · exact Job.Each.notify trivial
    · trivial
  | response answer => trivial

end Server

/-- A thread can take its next step, or it waits for the answer to a call of the editor, or for a
thread that holds the documents and can take its next step. -/
inductive Journal.GoesOn (setup : Setup) (journal : Journal) (now : System) (thread : Nat) : Prop
  | moves (able : (Program.step setup now thread).isSome = true)
  | asks {before : List Act} {method : String} {params : Json} {ticket : Nat}
      (asked : journal.actsOf thread =
        before ++ [⟨.call .editor method params, (.ok ticket : Outcome Nat)⟩])
      (unanswered : now.world.answers.get? ticket = none)
  | waits {other : Nat} {mode : LockMode} (holds : ⟨.documents, mode, other⟩ ∈ now.world.held)
      (able : (Program.step setup now other).isSome = true)

namespace Journal.Kept

/-- Whoever may not have the documents waits for another thread that can go on. -/
theorem waits (kept : Kept setup tree journal now) {thread : Nat} {hold : Hold}
    (there : hold ∈ now.world.held) (documents : hold.lock = .documents) :
    journal.GoesOn setup now thread := by
  obtain ⟨lock, mode, other⟩ := hold
  obtain rfl : lock = .documents := documents
  exact .waits there (kept.holder_moves ((kept.holds other mode).mp there))

/-- The handling of a server's message goes on. -/
theorem goes_on (kept : Kept setup tree journal now) {thread : Nat} {operation : Operation}
    {onward : operation.Answer → Script (Outcome Json)}
    (here : now.threads[thread]? = some (.step operation onward)) (attends : operation.Attends)
    (calls : ∀ act ∈ journal.actsOf thread, act.operation.Attends ∨
      ∃ peer, act.operation = .receive peer) : journal.GoesOn setup now thread := by
  cases operation with
  | acquire lock mode =>
    obtain rfl : lock = .documents := attends
    by_cases admits : now.world.admits .documents mode = true
    · exact .moves (Program.step_isSome here (by simp [World.perform, admits]))
    · obtain ⟨hold, there, refused⟩ := by simpa [World.admits] using admits
      exact kept.waits there refused.1
  | workspace =>
    by_cases readable : now.world.mayRead .documents thread = true
    · exact .moves (Program.step_isSome here (by simp [World.perform, readable]))
    · obtain ⟨hold, there, refused⟩ := by simpa [World.mayRead] using readable
      exact kept.waits there refused.1.1
  | setWorkspace changed =>
    obtain ⟨_, _, allows⟩ := kept.allows here ()
    have held : ⟨.documents, .exclusive, thread⟩ ∈ now.world.held := by
      rw [kept.holds]
      generalize journal.posture thread = posture at allows
      cases allows with
      | free impossible => cases impossible
      | prompt exclusive =>
        cases exclusive
        rfl
      | @carry effect _ _ tells => cases effect <;> cases tells
    exact .moves (kept.holder_moves ((kept.holds _ _).mp held))
  | await ticket =>
    cases answered : now.world.answers.get? ticket with
    | some outcome =>
      exact .moves (Program.step_isSome here (by rw [World.perform, answered]; rfl))
    | none =>
      obtain ⟨before, peer, method, params, whole⟩ := kept.asked here
      have made := calls ⟨.call peer method params, (.ok ticket : Outcome Nat)⟩ (by simp [whole])
      rcases made with same | ⟨_, impossible⟩
      · obtain rfl : peer = .editor := same
        exact .asks whole answered
      · cases impossible
  | call => exact .moves (Program.step_isSome here (by simp only [World.perform]; split <;> rfl))
  | release | extensions | disk | notify | reply | log =>
    exact .moves (Program.step_isSome here rfl)
  | _ => cases attends

end Journal.Kept

end LanguageBridge
