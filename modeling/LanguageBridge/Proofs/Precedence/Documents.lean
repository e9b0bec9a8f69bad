import LanguageBridge.Proofs.Document.Mirror
import LanguageBridge.Proofs.Precedence.Rules
import LanguageBridge.Proofs.Script.Idle

/-!
Jobs on documents bear themselves well: whoever changes what is tracked of the document brings the
new text to a server at once, and a server that starts is told what is tracked.
-/
namespace LanguageBridge

variable {α β : Type} {letter : Letter} {bearing : Bearing} {session : Session} {context : Context}
  {workspace changed : Workspace} {file : String} {text : Text}

namespace Workspace.Retains

theorem of_get? (same : changed.documents.get? file = workspace.documents.get? file) :
    workspace.Retains file changed :=
  fun document found => ⟨document, same ▸ found, rfl, rfl⟩

theorem of_absent (absent : changed.documents.get? file = none) :
    workspace.Retains file changed := by
  intro document found
  rw [absent] at found
  cases found

theorem modify {other : String} {change : Document → Document}
    {diagnostics : Table String (List Diagnostic)}
    (same : ∀ document, (change document).session = document.session ∧
      (change document).lines = document.lines) :
    workspace.Retains file ⟨workspace.documents.modify other change, diagnostics⟩ := by
  intro document found
  unfold Table.modify at found
  split at found
  · rename_i old there
    rw [Table.get?_insert] at found
    split at found
    · rename_i equal
      cases found
      exact ⟨old, equal ▸ there, (same old).1.symm, (same old).2.symm⟩
    · exact ⟨document, found, rfl, rfl⟩
  · exact ⟨document, found, rfl, rfl⟩

theorem erase (other : String) (diagnostics : Table String (List Diagnostic)) :
    workspace.Retains file ⟨workspace.documents.erase other, diagnostics⟩ := by
  by_cases same : other = file
  · exact .of_absent (by simp [same])
  · exact .of_get? (by simp [same])

theorem track {other : String} (apart : other ≠ file) (document : Document) :
    workspace.Retains file (workspace.track other document) :=
  .of_get? (by simp [Workspace.track, apart])

end Workspace.Retains

namespace Job

variable (letter) in
/-- A job of whoever has read the documents and holds them alone. -/
def Minds (job : Job α) (workspace : Workspace) : Prop :=
  ∀ within : Bearing, within.documents = .reading workspace →
    job.run.Bears letter within fun _ held =>
      ∃ last, held = { within with documents := .reading last }

namespace Minds

variable {job : Job α} {next : α → Job β}

theorem pure (value : α) : (Pure.pure value : Job α).Minds letter workspace :=
  fun within reading => ⟨workspace, by rw [← reading]⟩

theorem setWorkspace_bind {next : Unit → Job β}
    (retains : workspace.Retains letter.content.file changed)
    (rest : (next ()).Minds letter changed) :
    (Job.ask (.setWorkspace changed) >>= next).Minds letter workspace := by
  intro within reading
  refine .step fun _ due _ => ⟨_, none, .retain reading retains, ?_⟩
  exact rest _ rfl

theorem plain_bind {operation : Operation} {next : operation.Answer → Job β}
    (plain : operation.Plain) (rest : ∀ answer, (next answer).Minds letter workspace) :
    (Job.ask operation >>= next).Minds letter workspace :=
  fun within reading => .step fun answer _ _ =>
    ⟨within, none, .plain plain, rest answer within reading⟩

theorem each_bind (plain : job.Each Operation.Plain)
    (rest : ∀ value, (next value).Minds letter workspace) :
    (job >>= next).Minds letter workspace := by
  intro within reading
  refine Script.Bears.bind (Script.Each.bears plain) ?_
  rintro outcome _ rfl
  cases outcome with
  | ok value => exact rest value _ reading
  | error failure => exact ⟨workspace, by rw [← reading]⟩

theorem of_each (plain : job.Each Operation.Plain) : job.Minds letter workspace := by
  intro within reading
  refine Script.Bears.mono (Script.Each.bears plain) ?_
  rintro _ _ rfl
  exact ⟨workspace, by rw [← reading]⟩

/-- The documents are held, read and put back. -/
theorem gentle {next : Workspace → Job α}
    (minds : ∀ workspace, (next workspace).Minds letter workspace) :
    (Job.holding .documents .exclusive (Job.ask .workspace >>= next)).Gentle letter := by
  refine Gentle.holding fun within entered => .step fun workspace due _ =>
    ⟨_, none, .read entered, ?_⟩
  refine Script.Bears.mono (minds workspace _ rfl) ?_
  rintro outcome _ ⟨last, rfl⟩
  refine ⟨?_, nofun⟩
  exact { Bearing.Grows.refl within with documents := entered.symm }

end Minds

end Job

/-- How a thread lets go of the documents when it has brought a text to a server or found it there:
it then knows that the content was brought, if it had it to pass on. -/
theorem Bearing.lets_go {grip : Grip} (free : bearing.documents = .free)
    (brought : grip = .settled session text ∨ ∃ workspace document,
      grip = .comparing session text workspace ∧
        workspace.ownedBy? session.key letter.content.file = some document ∧
        document.lines = text.splitLines)
    (quiet : ∀ session text, grip ≠ .telling session text) (due : Bool) : ∃ left child,
    letter.Turns due { bearing with documents := grip } .plain (.release .documents) () left child ∧
      bearing.Grows left ∧ (bearing.Carries → session ∈ bearing.known →
        text = letter.content.text → session ∈ left.had) := by
  by_cases mine : bearing.Carries ∧ session ∈ bearing.known ∧ text = letter.content.text
  · obtain ⟨carries, known, rfl⟩ := mine
    refine ⟨_, none, .settle carries (brought.imp id fun found => ⟨known, found⟩), ?_,
      fun _ _ _ => List.mem_cons_self⟩
    exact (Bearing.Grows.of_documents free).trans (.has _ session)
  · exact ⟨_, none, .leave quiet, .of_documents free,
      fun carries known same => absurd ⟨carries, known, same⟩ mine⟩

namespace Session

/-- A text for the document is brought to a server. -/
theorem syncHeld_bears (session : Session) (text : Text) (free : bearing.documents = .free) :
    (session.syncHeld letter.uri letter.content.file text).run.Bears letter
      { bearing with documents := .entered } fun _ held => ∀ due, ∃ left child,
        letter.Turns due held .plain (.release .documents) () left child ∧ bearing.Grows left ∧
          (bearing.Carries → session ∈ bearing.known → text = letter.content.text →
            session ∈ left.had) := by
  refine Job.bears_ask_bind fun (workspace : Workspace) due _ =>
    ⟨.brings session text, _, none, ⟨.done, (Script.bind_done _).symm⟩, .bring rfl, ?_⟩
  have settled : ∀ due, ∃ left child, letter.Turns due
      { bearing with documents := .settled session text } .plain (.release .documents) () left
        child ∧ bearing.Grows left ∧
      (bearing.Carries → session ∈ bearing.known → text = letter.content.text →
        session ∈ left.had) :=
    Bearing.lets_go free (.inl rfl) (by simp)
  split
  · rename_i document owned
    split
    · rename_i updated version changed
      have updates : (document.update text).1 = updated := by rw [changed]
      refine Job.bears_ask_bind fun _ due _ =>
        ⟨.plain, _, none, trivial, .change rfl owned updates, ?_⟩
      exact Job.bears_notify_bind (fun due => ⟨_, none, .tellChange rfl, settled⟩)
        fun failure due => ⟨_, none, .tellChange rfl, settled⟩
    · rename_i unchanged
      have same : text.splitLines = document.lines := by
        by_contra differs
        rw [Document.update, if_neg differs] at unchanged
        cases unchanged
      exact Bearing.lets_go free (.inr ⟨workspace, document, rfl, owned, same.symm⟩) (by simp)
  · refine Job.bears_notify_bind (fun due => ⟨_, none, .tellOpen rfl, ?_⟩)
      fun failure due => ⟨_, none, .failOpen rfl, settled⟩
    refine Job.bears_ask_bind fun _ due _ => ⟨.plain, _, none, trivial, .track rfl, ?_⟩
    exact settled

/-- A document is opened on a server while the documents are held. -/
theorem sendOpen_bears {told : Bool} (opening : bearing.documents = .opening session workspace told)
    (file : String) (document : Document) :
    (session.sendOpen file document).run.Bears letter bearing fun outcome held => ∃ more,
      held = { bearing with documents := .opening session workspace more } ∧
        (outcome = .ok () → told = true ∨ file = letter.content.file ∧
          workspace.ownedBy? session.key letter.content.file = some document → more = true) := by
  have before : bearing = { bearing with documents := .opening session workspace told } := by
    rw [← opening]
  unfold sendOpen
  by_cases mine : file = letter.content.file ∧
      workspace.ownedBy? session.key letter.content.file = some document
  · obtain ⟨rfl, owned⟩ := mine
    rw [letter.named]
    refine Script.Bears.step fun (outcome : Outcome Unit) due _ => ?_
    cases outcome with
    | ok _ => exact ⟨_, none, .reopen opening owned, true, rfl, fun _ _ => rfl⟩
    | error failure => exact ⟨bearing, none, .plain trivial, told, before, nofun⟩
  · refine Script.Bears.mono (Script.Each.bears (Job.Each.bind (Job.Each.ofOutcome _) fun uri =>
      Job.Each.notify trivial)) ?_
    rintro outcome _ rfl
    exact ⟨told, before, fun _ either => either.resolve_right mine⟩

/-- A server that was introduced is told what is tracked, unless that fails. -/
theorem openAll_bears {told : Bool} (opening : bearing.documents = .opening session workspace told)
    (entries : List (String × Document))
    (complete : told = true ∨ ∃ document, (letter.content.file, document) ∈ entries ∧
      workspace.ownedBy? session.key letter.content.file = some document) :
    (entries.forM fun entry => session.sendOpen entry.1 entry.2).run.Bears letter bearing
      fun outcome held => ∃ more,
        held = { bearing with documents := .opening session workspace more } ∧
          (outcome = .ok () → more = true) := by
  induction entries generalizing bearing told with
  | nil => exact ⟨told, by rw [← opening], fun _ => complete.resolve_right (by simp)⟩
  | cons entry rest ih =>
    refine Script.Bears.bind (sendOpen_bears opening entry.1 entry.2) ?_
    rintro outcome _ ⟨more, rfl, tells⟩
    cases outcome with
    | error failure => exact ⟨more, rfl, nofun⟩
    | ok _ =>
      refine ih rfl ?_
      rcases complete with already | ⟨document, member, owned⟩
      · exact .inl (tells rfl (.inl already))
      · rcases List.mem_cons.mp member with rfl | later
        · exact .inl (tells rfl (.inr ⟨rfl, owned⟩))
        · exact .inr ⟨document, later, owned⟩

/-- The documents of a session that a thread has introduced are opened, so that it is known then. -/
theorem reopen_fits (session : Session) (free : bearing.documents = .free)
    (confirmed : session.server ∈ bearing.confirmed) :
    session.reopen.Fits letter bearing fun outcome after =>
      outcome = .ok () → session ∈ after.known := by
  rw [reopen_eq]
  refine Job.Fits.holding (fun _ => .share free) ?_
  refine Job.bears_ask_bind fun (workspace : Workspace) due _ => ?_
  let told := (workspace.ownedBy? session.key letter.content.file).isNone
  refine ⟨.opens session,
    { bearing with documents := .opening session workspace told }, none,
    ⟨.done, (Script.bind_done _).symm⟩, .greet rfl confirmed (by simp [told]), ?_⟩
  refine Script.Bears.mono (openAll_bears rfl _ ?_) ?_
  · cases owned : workspace.ownedBy? session.key letter.content.file with
    | none => exact .inl (by simp [told, owned])
    | some document =>
      obtain ⟨found, own⟩ := Workspace.get?_of_ownedBy? owned
      refine .inr ⟨document, List.mem_filter.mpr ⟨Table.mem_of_find? found, ?_⟩, rfl⟩
      simpa using own
  · rintro outcome _ ⟨more, rfl, opened⟩ due
    cases outcome with
    | ok _ =>
      cases opened rfl
      exact ⟨_, none, .greeted rfl, (Bearing.Grows.of_documents free).trans (.knows _ session),
        fun _ => List.mem_cons_self⟩
    | error failure => exact ⟨_, none, .leave nofun, .of_documents free, nofun⟩

/-- A text for another file is brought to a server. -/
theorem syncHeld_gentle (session : Session) (uri : Uri) (text : Text)
    (apart : file ≠ letter.content.file) :
    (Job.holding .documents .exclusive (session.syncHeld uri file text)).Gentle letter := by
  refine Job.Minds.gentle fun workspace => ?_
  split
  · split
    · refine Job.Minds.setWorkspace_bind (.track apart _) ?_
      exact Job.Minds.each_bind (Job.Each.notify trivial) fun _ => .pure _
    · exact .pure _
  · refine Job.Minds.each_bind (Job.Each.notify trivial) fun _ => ?_
    exact Job.Minds.setWorkspace_bind (.track apart _) (.pure _)

end Session

namespace Context

theorem attached_each (context : Context) : context.attached.Each Operation.Plain := by
  unfold attached
  split <;> trivial

/-- Whoever has the content to pass on and brings it to a session in use knows that it did. -/
theorem sync_fits (file : String) (text : Text) (held : context.session = some session)
    (free : bearing.documents = .free) :
    (context.sync file text).Fits letter bearing fun _ after =>
      bearing.Carries → session ∈ bearing.known → file = letter.content.file →
        text = letter.content.text → session ∈ after.had := by
  unfold sync
  rw [attached_eq held, pure_bind]
  by_cases same : file = letter.content.file
  · subst same
    rw [letter.named]
    refine Job.Fits.holding (fun _ => .enter free) ?_
    refine Script.Bears.mono (Session.syncHeld_bears session text free) ?_
    intro outcome within leaves due
    obtain ⟨left, child, turn, grows, had⟩ := leaves due
    exact ⟨left, child, turn, grows, fun carries known _ => had carries known⟩
  · refine Job.Fits.bind (Job.Fits.ofOutcome trivial : Job.Fits letter _ _ fun _ _ => True)
      (fun _ _ _ _ _ _ equal => absurd equal same) fun uri after grows _ => ?_
    refine (Session.syncHeld_gentle session uri text same after
      (grows.documents.trans free)).mono fun _ _ _ _ _ _ equal => absurd equal same

theorem sync_gentle (context : Context) (file : String) (text : Text) :
    (context.sync file text).Gentle letter := by
  intro bearing free
  cases held : context.session with
  | none =>
    unfold sync attached
    rw [held]
    exact .throw trivial
  | some session => exact (sync_fits file text held free).mono fun _ _ _ _ => trivial

theorem didSave_gentle (context : Context) (file : String) :
    (context.didSave file).Gentle letter := by
  refine (Job.Gentle.of_each context.attached_each).bind fun session => ?_
  refine Job.Minds.gentle fun workspace => ?_
  split
  · exact .pure _
  · refine Job.Minds.setWorkspace_bind (.modify fun _ => ⟨rfl, rfl⟩) ?_
    refine Job.Minds.each_bind (Job.Each.ofOutcome _) fun uri => ?_
    exact Job.Minds.of_each (Job.Each.notify trivial)

theorem didClose_gentle (context : Context) (file : String) :
    (context.didClose file).Gentle letter := by
  refine (Job.Gentle.of_each context.attached_each).bind fun session => ?_
  refine Job.Minds.gentle fun workspace => ?_
  dsimp only
  split
  · refine Job.Minds.setWorkspace_bind (.erase file _) ?_
    refine Job.Minds.each_bind (Job.Each.ofOutcome _) fun uri => ?_
    refine Job.Minds.each_bind (Job.Each.notify trivial) fun _ => ?_
    exact Job.Minds.setWorkspace_bind (.of_get? rfl) (.pure _)
  · exact Job.Minds.setWorkspace_bind (.erase file _) (.pure _)

end Context

end LanguageBridge
