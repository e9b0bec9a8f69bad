import LanguageBridge.Proofs.Absence.Sparing
import LanguageBridge.Proofs.Document.Effects
import LanguageBridge.Proofs.Script.Idle

/-!
Jobs that spare a file: whoever deals with other files does, and so does whoever goes through what
is tracked or queued, where the file is not.
-/
namespace LanguageBridge

variable {file : String} {α β : Type}

theorem Operation.Harmless.spares {operation : Operation} (harmless : operation.Harmless) :
    operation.Spares file := by
  cases operation with
  | notify peer method params =>
    intro server uri version text heard
    cases peer with
    | editor => simp [Notice.heard?] at heard
    | server id =>
      simp only [Notice.heard?, Notice.read?_ofJson] at heard
      rw [show Notice.read? method params = none from harmless] at heard
      simp at heard
  | setWorkspace | setQueue | fork => exact harmless.elim
  | _ => trivial

theorem Script.Idle.spares {script : Script α} (idle : script.Idle) :
    script.Spares file fun _ => True := by
  induction script with
  | done value => trivial
  | step operation onward ih => exact ⟨idle.1.spares, fun answer _ => ih answer (idle.2 answer)⟩

namespace Job

/-- A job that spares a file and then comes to a value of some kind, if to any. -/
def Spares (file : String) (job : Job α) (post : α → Prop) : Prop :=
  job.run.Spares file fun outcome => ∀ value, outcome = .ok value → post value

/-- A job that spares a file, whatever it comes to. -/
abbrev Passes (file : String) (job : Job α) : Prop := job.Spares file fun _ => True

variable {job : Job α} {next : α → Job β} {mid : α → Prop} {post : β → Prop}

theorem Spares.pure {value : α} (holds : mid value) :
    (Pure.pure value : Job α).Spares file mid := by
  rintro _ ⟨⟩
  exact holds

theorem Spares.throw {failure : Failure} : (throw failure : Job α).Spares file mid := by
  rintro _ ⟨⟩

theorem Spares.ofOutcome {outcome : Outcome α} (holds : ∀ value, outcome = .ok value → mid value) :
    (Job.ofOutcome outcome).Spares file mid :=
  holds

theorem Spares.ofShaped {shaped : Shaped α} (holds : ∀ value, shaped = .ok value → mid value) :
    (Job.ofShaped shaped).Spares file mid := by
  cases shaped with
  | ok value =>
    rintro _ ⟨⟩
    exact holds value rfl
  | error error => rintro _ ⟨⟩

theorem Spares.bind (first : job.Spares file mid)
    (second : ∀ value, mid value → (next value).Spares file post) :
    (job >>= next).Spares file post := by
  apply Script.Spares.bind first
  intro outcome holds
  cases outcome with
  | ok value => exact second value (holds value rfl)
  | error failure => rintro _ ⟨⟩

/-- A script that goes on with whatever comes of a job. -/
theorem Spares.run_bind {next : Outcome α → Script β} (spares : job.Spares file mid)
    (rest : ∀ outcome, (next outcome).Spares file post) :
    (job.run >>= next).Spares file post :=
  Script.Spares.bind spares fun outcome _ => rest outcome

theorem Spares.ask_bind {operation : Operation} {next : operation.Answer → Job β}
    (spares : operation.Spares file)
    (rest : ∀ answer, operation.Admits file answer → (next answer).Spares file post) :
    (Job.ask operation >>= next).Spares file post :=
  ⟨spares, rest⟩

theorem Spares.attempt (spares : job.Spares file mid) :
    (Job.attempt job).Spares file fun outcome => ∀ value, outcome = .ok value → mid value := by
  apply Script.Spares.bind spares
  rintro outcome holds _ ⟨⟩
  exact holds

theorem Spares.ofScript {script : Script α} (spares : script.Spares file mid) :
    (Job.ofScript script).Spares file mid := by
  apply Script.Spares.bind spares
  rintro value holds _ ⟨⟩
  exact holds

theorem Spares.holding {lock : Lock} {mode : LockMode} (spares : job.Spares file mid) :
    (Job.holding lock mode job).Spares file mid := by
  refine ⟨trivial, fun _ _ => ?_⟩
  change Script.Spares file _
    (job.run.bind fun outcome => .step (.release lock) fun _ => .done outcome)
  exact Script.Spares.bind spares fun _ holds => ⟨trivial, fun _ _ => holds⟩

theorem Spares.notify {peer : Peer} {method : String} {params : Json}
    (elsewhere : (Sent.notification peer method (Params.ofJson params)).Elsewhere file) :
    (Job.notify peer method params).Passes file :=
  ⟨elsewhere, fun _ _ _ _ => trivial⟩

theorem Spares.call {peer : Peer} {method : String} {params : Json} {read : Json → Shaped α}
    (holds : ∀ json value, ¬ json.Edits file → read json = .ok value → mid value) :
    (Job.call peer method params read).Spares file mid := by
  have asking :
      Passes file (ExceptT.mk (Script.ask (.call peer method params)) : Job Nat) :=
    ⟨trivial, fun _ _ _ _ => trivial⟩
  have awaiting (ticket : Nat) :
      Spares file (ExceptT.mk (Script.ask (.await ticket)) : Job Json) fun json =>
        ¬ json.Edits file :=
    ⟨trivial, fun _ admits => admits⟩
  unfold Job.call
  refine asking.bind fun ticket _ => (awaiting ticket).bind fun json plain => ?_
  split
  · rename_i value found
    exact .pure (holds json value plain found)
  · exact .throw

theorem Idle.passes (idle : job.Idle) : job.Passes file :=
  Script.Spares.mono (Script.Idle.spares idle) fun _ _ _ _ => trivial

theorem Spares.forM {f : α → Job Unit} {values : List α}
    (each : ∀ value ∈ values, (f value).Passes file) : (values.forM f).Passes file := by
  induction values with
  | nil => exact .pure trivial
  | cons value rest ih =>
    exact (each value List.mem_cons_self).bind fun _ _ =>
      ih fun other member => each other (List.mem_cons_of_mem _ member)

end Job

section Documents

variable {workspace : Workspace} {session : Session} {context : Context} {other : String}
  {text : Text}

theorem Workspace.get?_track_of_ne (absent : workspace.documents.get? file = none)
    (apart : other ≠ file) (document : Document) :
    (workspace.track other document).documents.get? file = none := by
  simp [track, apart, absent]

theorem Workspace.get?_modify_of_absent (absent : workspace.documents.get? file = none)
    (change : Document → Document) :
    (workspace.documents.modify other change).get? file = none := by
  unfold Table.modify
  split
  · rename_i found
    rw [Table.get?_insert, if_neg, absent]
    rintro rfl
    rw [absent] at found
    cases found
  · exact absent

theorem Session.sendOpen_passes (apart : other ≠ file) (document : Document) :
    (session.sendOpen other document).Passes file := by
  apply (Job.Spares.ofOutcome fun uri given => given).bind
  intro uri named
  apply Job.Spares.notify
  intro server name version content heard
  simp only [Notice.heard?, Session.peer, Notice.read?_ofJson] at heard
  rw [Notice.read?_openParams] at heard
  split at heard
  · cases heard
    exact ⟨other, uri, apart, named, rfl⟩
  · cases heard

theorem Session.reopen_passes (session : Session) : session.reopen.Passes file := by
  apply Job.Spares.holding
  refine Job.Spares.ask_bind trivial fun (workspace : Workspace) absent => ?_
  have absent : workspace.documents.get? file = none := absent
  apply Job.Spares.forM
  intro entry member
  apply sendOpen_passes
  rintro rfl
  exact (Table.find?_eq_none_iff _ _).mp absent
    (List.mem_map_of_mem (List.mem_filter.mp member).1)

theorem Session.syncHeld_passes (apart : other ≠ file) {uri : Uri}
    (named : Uri.ofFileName other = .ok uri) (text : Text) :
    (session.syncHeld uri other text).Passes file := by
  unfold syncHeld
  refine Job.Spares.ask_bind trivial fun (workspace : Workspace) absent => ?_
  have absent : workspace.documents.get? file = none := absent
  split
  · split
    · rename_i updated version _
      refine Job.Spares.ask_bind (Workspace.get?_track_of_ne absent apart _) fun _ _ => ?_
      refine (Job.Spares.notify ?_).bind fun _ _ => .pure trivial
      intro server name told content heard
      simp only [Notice.heard?, Session.peer, Notice.read?_ofJson] at heard
      rw [Notice.read?_changeParams] at heard
      split at heard <;> cases heard
    · exact .pure trivial
  · refine (Job.Spares.notify ?_).bind fun _ _ => ?_
    · intro server name told content heard
      simp only [Notice.heard?, Session.peer, Notice.read?_ofJson] at heard
      rw [Notice.read?_openParams] at heard
      split at heard
      · cases heard
        exact ⟨other, uri, apart, named, rfl⟩
      · cases heard
    · exact Job.Spares.ask_bind (Workspace.get?_track_of_ne absent apart _)
        fun _ _ => .pure trivial

theorem Context.sync_passes (apart : other ≠ file) (text : Text) :
    (context.sync other text).Passes file := by
  apply context.attached_idle.passes.bind
  intro session _
  apply (Job.Spares.ofOutcome fun uri given => given).bind
  intro uri named
  exact .holding (Session.syncHeld_passes apart named text)

theorem Context.didSave_passes (context : Context) (other : String) :
    (context.didSave other).Passes file := by
  apply context.attached_idle.passes.bind
  intro session _
  apply Job.Spares.holding
  refine Job.Spares.ask_bind trivial fun (workspace : Workspace) absent => ?_
  have absent : workspace.documents.get? file = none := absent
  split
  · exact .pure trivial
  · refine Job.Spares.ask_bind (Workspace.get?_modify_of_absent absent _) fun _ _ => ?_
    apply (Job.Idle.ofOutcome _).passes.bind
    intro uri _
    exact (Job.Idle.notify_server (Notice.read?_saving uri)).passes

theorem Context.didClose_passes (context : Context) (other : String) :
    (context.didClose other).Passes file := by
  apply context.attached_idle.passes.bind
  intro session _
  apply Job.Spares.holding
  refine Job.Spares.ask_bind trivial fun (workspace : Workspace) absent => ?_
  have absent : workspace.documents.get? file = none := absent
  have erased : (workspace.documents.erase other).get? file = none := by
    simp [absent]
  have forgetting (diagnostics : Table String (List Diagnostic)) (count : Nat) :
      (Job.ask (.setWorkspace ⟨workspace.documents.erase other, diagnostics⟩) >>= fun _ =>
        (pure count : Job Nat)).Passes file :=
    Job.Spares.ask_bind erased fun _ _ => .pure trivial
  dsimp only
  split
  · refine Job.Spares.ask_bind erased fun _ _ => ?_
    apply (Job.Idle.ofOutcome _).passes.bind
    intro uri _
    refine (Job.Spares.notify ?_).bind fun _ _ => forgetting _ _
    intro server name version content heard
    simp only [Notice.heard?, Session.peer, Notice.read?_ofJson] at heard
    rw [Notice.read?_closing] at heard
    split at heard <;> cases heard
  · exact forgetting _ _

end Documents

end LanguageBridge
