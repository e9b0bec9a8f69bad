import LanguageBridge.Proofs.Precedence.Documents

/-!
Talking to the editor and the user matters to no content on its way, and asking a server about a
document is for those who have a session whose queue was sent.
-/
namespace LanguageBridge

variable {letter : Letter} {bearing : Bearing} {session : Session} {context : Context}

namespace Editor

theorem execute_plain (commands : List Command) : (execute commands).Each Operation.Plain :=
  (Job.Each.call _ trivial fun _ => trivial).bind fun _ => trivial

theorem showScratch_plain (preview : Preview) : (showScratch preview).Each Operation.Plain :=
  Job.Each.notify trivial

theorem showLocations_plain (setup : Setup) (title : String) (locations : List Location) :
    (showLocations setup title locations).Each Operation.Plain := by
  unfold showLocations
  split
  · trivial
  · refine Job.Each.ask_bind trivial fun workspace => Job.Each.ask_bind trivial fun tree => ?_
    exact (Job.Each.ofOutcome _).bind fun items => Job.Each.notify trivial

theorem jumpTarget_plain (location : Location) : (jumpTarget location).Each Operation.Plain :=
  Job.Each.ask_bind trivial fun _ => Job.Each.ask_bind trivial fun _ => Job.Each.ofOutcome _

theorem carryOutAll_plain (effects : List FloatEffect) :
    (carryOutAll effects).Each Operation.Plain := by
  apply Job.Each.forM
  intro effect _
  cases effect with
  | destroy surface => exact Job.Each.notify trivial
  | wipe buffer => exact execute_plain _
  | focus window => exact execute_plain _

theorem loadBuffer_plain (file : String) : (loadBuffer file).Each Operation.Plain := by
  refine (Job.Each.call _ trivial fun _ => trivial).bind fun buffer => ?_
  split <;> trivial

theorem showHover_plain (setup : Setup) (cursor : CursorPlace) (preview : Preview) :
    (showHover setup cursor preview).Each Operation.Plain := by
  unfold showHover
  split
  · exact showScratch_plain _
  · refine (Job.Each.call _ trivial fun _ => trivial).bind fun surface => ?_
    split
    · exact showScratch_plain _
    · exact Job.Each.ask_bind trivial fun _ => carryOutAll_plain _

theorem explain_plain (cursor : CursorPlace) : (explain cursor).Each Operation.Plain := by
  refine Job.Each.ask_bind trivial fun workspace => ?_
  dsimp only
  split
  · trivial
  · exact showScratch_plain _

theorem report_plain (failure : Failure) : (report failure).Each Operation.Plain :=
  ⟨trivial, fun _ => trivial⟩

theorem markDirty_gentle (file : String) : (markDirty file).Gentle letter :=
  Job.Minds.gentle fun _ =>
    Job.Minds.setWorkspace_bind (.modify fun _ => ⟨rfl, rfl⟩) (.pure _)

theorem applyEdit_gentle (context : Context) (edit : WorkspaceEdit)
    (cursor : Option CursorPlace) : (applyEdit context edit cursor).Gentle letter := by
  refine (Job.Gentle.ofOutcome _).bind fun files => ?_
  split
  · exact .pure _
  refine .plain_bind trivial fun workspace => .plain_bind trivial fun tree => ?_
  refine (Job.Gentle.ofOutcome _).bind fun planned => ?_
  have writing (planned : PlannedFile) : (writeFile context planned).Gentle letter := by
    refine (Job.Gentle.of_each (loadBuffer_plain _)).bind fun buffer => ?_
    refine (Job.Gentle.of_each (Job.Each.notify trivial)).bind fun _ => ?_
    exact (context.sync_gentle _ _).bind fun _ => markDirty_gentle _
  refine (Job.Gentle.forM writing _).bind fun _ => ?_
  split
  · exact .pure _
  · split
    · exact .of_each (execute_plain _)
    · exact .pure _

end Editor

theorem Bearing.Serves.later {after : Bearing} {file : String}
    (serves : bearing.Serves session file) (grows : bearing.Grows after) :
    after.Serves session file :=
  ⟨grows.known serves.known, grows.cleared serves.cleared, grows.found serves.found⟩

namespace Context

/-- What names a document and a place in it is about the document. -/
theorem positionMembers_fits (file : String) (position : EditorPosition) :
    (positionMembers file position).Fits letter bearing fun outcome after => after = bearing ∧
      ∀ members, outcome = .ok members → ∃ uri rest, Uri.ofFileName file = .ok uri ∧
        members = ("textDocument", .obj [("uri", uri.toJson)]) :: rest := by
  refine (Job.Fits.outcome (Uri.ofFileName file)).bind ?_ ?_
  · rintro failure _ _ ⟨_, rfl⟩
    exact ⟨rfl, nofun⟩
  · rintro uri _ _ ⟨named, rfl⟩
    refine .plain_bind trivial fun _ _ _ => .pure ⟨rfl, ?_⟩
    rintro _ ⟨⟩
    exact ⟨uri, _, named.symm, rfl⟩

/-- A session whose queue was sent may be asked about a file that belongs to it. -/
theorem request_fits {α : Type} {file : String} {uri : Uri} {params : Json}
    (held : context.session = some session) (serves : bearing.Serves session file)
    (named : Uri.ofFileName file = .ok uri) (about : params.AsksAbout uri) (method : String)
    (read : Json → Shaped α) :
    (context.request method params read).Fits letter bearing fun _ _ => True := by
  unfold request
  rw [attached_eq held, pure_bind]
  refine Script.Bears.step fun (outcome : Outcome Nat) due _ =>
    ⟨bearing, none, .ask serves named about, ?_⟩
  cases outcome with
  | error failure => exact ⟨.refl bearing, trivial⟩
  | ok ticket =>
    have awaiting : Job.Each Operation.Plain (ExceptT.mk (Script.ask (.await ticket)) : Job Json) :=
      ⟨trivial, fun _ => trivial⟩
    refine awaiting.fits.bind (fun _ _ _ _ => trivial) fun result _ _ _ => ?_
    split
    · exact .pure trivial
    · exact .throw trivial

/-- Other requests may always be made. -/
theorem request_plain {α : Type} (context : Context) {method : String} (params : Json)
    (read : Json → Shaped α) (other : method ∉ documentRequests) :
    (context.request method params read).Each Operation.Plain :=
  context.attached_each.bind fun _ => Job.Each.call _ other fun _ => trivial

end Context

end LanguageBridge

/-!
Jobs on sessions and the queue bear themselves well: a session that a thread gets to know had its
documents opened, and content that was queued is sent, or dropped, before the queue is let go of.
-/
namespace LanguageBridge

variable {letter : Letter} {bearing : Bearing} {setup : Setup} {session : Session}
  {key : SessionKey} {context : Context} {content : BufferContent}
  {queue : Table SessionKey (List BufferContent)}

namespace Letter.Queued

theorem erase_of_ne (queued : letter.Queued queue) (apart : key ≠ letter.key) :
    letter.Queued (queue.erase key) := by
  obtain ⟨contents, found, member⟩ := queued
  exact ⟨contents, by simp [apart, found], member⟩

theorem not_erase : ¬ letter.Queued (queue.erase letter.key) := by
  rintro ⟨contents, found, _⟩
  simp at found

theorem insert (queued : letter.Queued queue) (key : SessionKey) (content : BufferContent) :
    letter.Queued (queue.insert key ((queue.get? key).getD [] ++ [content])) := by
  obtain ⟨contents, found, member⟩ := queued
  by_cases same : key = letter.key
  · subst same
    refine ⟨contents ++ [content], by simp [found], List.mem_append_left _ member⟩
  · exact ⟨contents, by simp [same, found], member⟩

theorem lodged (letter : Letter) (queue : Table SessionKey (List BufferContent)) :
    letter.Queued (queue.insert letter.key ((queue.get? letter.key).getD [] ++ [letter.content])) :=
  ⟨(queue.get? letter.key).getD [] ++ [letter.content], by simp, by simp⟩

end Letter.Queued

namespace Session

/-- A session that is found is known, and it is that of the key. -/
theorem live?_fits (key : SessionKey) (bearing : Bearing) :
    (live? key).Fits letter bearing fun outcome after => ∃ found, outcome = .ok found ∧
      ∀ session, found = some session → session ∈ after.known ∧ session.key = key := by
  refine Job.Fits.ask_bind fun (found : Option Session) due expected => ?_
  cases found with
  | none => exact ⟨bearing, none, .plain trivial, .refl _, .pure ⟨none, rfl, nofun⟩⟩
  | some session =>
    have own : session.key = key := expected session rfl
    refine ⟨_, none, .find, .knows bearing session, ?_⟩
    refine Job.Fits.plain_bind trivial fun (alive : Bool) due _ => ?_
    cases alive with
    | true =>
      refine Job.Fits.pure ⟨_, rfl, ?_⟩
      rintro _ ⟨⟩
      exact ⟨List.mem_cons_self, own⟩
    | false => exact Job.Fits.plain_bind trivial fun _ _ _ => .pure ⟨none, rfl, nofun⟩

theorem endProcess_plain (session : Session) : session.endProcess.Each Operation.Plain := by
  unfold endProcess
  split
  · exact Job.Each.ask_bind trivial fun _ => trivial
  · trivial

theorem introduce_plain (setup : Setup) (session : Session) (options : Option Json) :
    (session.introduce setup options).Each Operation.Plain :=
  (Job.Each.ofOutcome _).bind fun _ =>
    Job.Each.call _ (by simp [Operation.Plain, Session.peer, documentRequests]) fun _ => trivial

theorem confirm_fits (session : Session) (bearing : Bearing) :
    session.confirm.Fits letter bearing fun outcome after =>
      outcome = .ok () → session.server ∈ after.confirmed := by
  refine Script.Bears.step fun (outcome : Outcome Unit) due _ => ?_
  cases outcome with
  | ok _ =>
    exact ⟨_, none, .confirm, .confirms bearing session.server, fun _ => List.mem_cons_self⟩
  | error failure => exact ⟨bearing, none, .plain trivial, .refl _, nofun⟩

/-- Ending a server's process and failing. -/
theorem giveUp_fits {α : Type} (session : Session) (failure : Failure)
    {post : α → Bearing → Prop} :
    (session.endProcess >>= fun _ => (throw failure : Job α)).Fits letter bearing
      fun outcome after => ∀ value, outcome = .ok value → post value after :=
  session.endProcess_plain.fits.bind (fun _ _ _ _ => nofun) fun _ _ _ _ => .throw nofun

/-- A server that was told of its project and its documents is known. -/
theorem introduceAll_fits (setup : Setup) (session : Session) (free : bearing.documents = .free) :
    (session.introduceAll setup).Fits letter bearing fun outcome after =>
      ∀ started, outcome = .ok started → started ∈ after.known ∧ started.key = session.key := by
  unfold introduceAll
  have introduced (options : Option Json) : Job.Fits letter (do
      let capabilities ← session.introduce setup options
      session.confirm
      return capabilities) bearing fun outcome after =>
        ∀ capabilities, outcome = .ok capabilities → session.server ∈ after.confirmed := by
    refine (session.introduce_plain setup options).fits.bind (fun _ _ _ _ => nofun) ?_
    rintro capabilities after _ rfl
    refine (session.confirm_fits _).bind (fun _ _ _ _ => nofun) fun _ after _ confirmed => ?_
    exact .pure fun _ _ => confirmed rfl
  refine (introduced _).attempt.bind (by simp) fun outcome after grows known => ?_
  obtain ⟨_, same, confirmed⟩ := known
  cases same
  cases outcome with
  | error failure => exact giveUp_fits session _
  | ok capabilities =>
    let started : Session := { session with capabilities }
    have reopening : session.reopen.Fits letter after fun outcome after =>
        outcome = .ok () → started ∈ after.known :=
      reopen_fits started (grows.documents.trans free) (confirmed _ rfl)
    refine reopening.attempt.bind (by simp) fun outcome after grows known => ?_
    obtain ⟨_, same, known⟩ := known
    cases same
    cases outcome with
    | error failure => exact giveUp_fits session _
    | ok _ =>
      refine Job.Fits.pure ?_
      rintro _ ⟨⟩
      exact ⟨known rfl, rfl⟩

theorem start_fits (setup : Setup) (key : SessionKey) (free : bearing.documents = .free) :
    (start setup key).Fits letter bearing fun outcome after =>
      ∀ session, outcome = .ok session → session ∈ after.known ∧ session.key = key := by
  refine Job.Fits.plain_bind trivial fun (extensions : Extensions) due _ => ?_
  split
  · exact .throw nofun
  · exact .throw nofun
  split
  · exact .throw nofun
  refine Job.Fits.plain_bind trivial fun (spawned : Except SystemError ServerId) due _ => ?_
  cases spawned with
  | error error => exact .throw nofun
  | ok server =>
    refine Job.Fits.ask_bind fun _ due _ => ⟨bearing, some {}, .start trivial, .refl _, ?_⟩
    exact introduceAll_fits setup _ free

/-- A session that is used from now on is known, and it is that of the key. -/
theorem getOrStart_fits (setup : Setup) (key : SessionKey) (free : bearing.documents = .free) :
    (getOrStart key (start setup key)).Fits letter bearing fun outcome after =>
      ∀ session, outcome = .ok session → session ∈ after.known ∧ session.key = key := by
  have found {bearing : Bearing} {session : Session}
      (known : session ∈ bearing.known ∧ session.key = key) :
      (pure session : Job Session).Fits letter bearing fun outcome after =>
        ∀ session, outcome = .ok session → session ∈ after.known ∧ session.key = key := by
    refine Job.Fits.pure ?_
    rintro _ ⟨⟩
    exact known
  refine (live?_fits key bearing).bind (by simp) ?_
  rintro given after grows ⟨_, ⟨⟩, knows⟩
  split
  · exact found (knows _ rfl)
  · refine Job.Fits.starting ?_
    refine (live?_fits key after).bind (by simp) ?_
    rintro again after more ⟨_, ⟨⟩, knows⟩
    split
    · exact found (knows _ rfl)
    · have still := more.documents.trans (grows.documents.trans free)
      refine (start_fits setup key still).bind (fun _ _ _ _ => nofun) ?_
      intro session after more known
      obtain ⟨member, rfl⟩ := known session rfl
      refine Job.Fits.ask_bind fun _ due _ => ⟨after, none, .register member, .refl _, ?_⟩
      exact found ⟨member, rfl⟩

/-- What was queued is sent; whoever has the content among it knows that it was brought. -/
theorem sendAll_fits (contents : List BufferContent) (free : bearing.documents = .free)
    (known : session ∈ bearing.known) :
    (session.sendAll contents).Fits letter bearing fun outcome after => outcome = .ok () ∧
      (bearing.Carries → letter.content ∈ contents → session ∈ after.had) := by
  induction contents generalizing bearing with
  | nil => exact .pure ⟨rfl, fun _ => by simp⟩
  | cons content rest ih =>
    refine (Context.sync_fits content.file content.text rfl free).attempt.bind (by simp) ?_
    rintro outcome after grows ⟨_, ⟨⟩, had⟩
    have here := grows.documents.trans free
    have onward {later : Bearing} (more : after.Grows later) :
        (session.sendAll rest).Fits letter later fun outcome after => outcome = .ok () ∧
          (bearing.Carries → letter.content ∈ content :: rest → session ∈ after.had) := by
      have whole := grows.trans more
      refine (ih (whole.documents.trans free) (whole.known known)).mono ?_
      rintro _ last final ⟨done, sent⟩
      refine ⟨done, fun carries member => ?_⟩
      rcases List.mem_cons.mp member with rfl | later
      · exact final.had (more.had (had carries known rfl rfl))
      · exact sent (whole.carries.mpr carries) later
    cases outcome with
    | ok version => exact onward (.refl after)
    | error failure =>
      have reporting : (Editor.report failure).Bears letter after fun _ later =>
          after.Grows later ∧ True :=
        Script.Bears.mono (Editor.report_plain failure).bears fun _ _ same =>
          ⟨same ▸ .refl after, trivial⟩
      exact (Job.Fits.ofScript reporting).bind (by simp) fun _ _ more _ => onward more

/-- How a thread lets go of the queue when it has sent what was queued for a session. -/
theorem clears_queue {held : Bearing}
    (grows : bearing.Grows { held with queue := .free })
    (empty : held.queue = .hands → session.key = letter.key ∧ session ∈ held.had)
    (sent : session.key = letter.key → held.queue = .hands ∨
      ∃ queue, held.queue = .seen queue ∧ ¬ letter.Queued queue) (due : Bool) :
    ∃ left child, letter.Turns due held .plain (.release .queue) () left child ∧
      bearing.Grows left ∧ session ∈ left.cleared :=
  ⟨_, none, .clear empty sent, grows.trans (.clears _ session), List.mem_cons_self⟩

/-- Once the queue was sent for a session, the session is cleared. -/
theorem flushQueue_fits (documents : bearing.documents = .free) (free : bearing.queue = .free)
    (known : session ∈ bearing.known) :
    session.flushQueue.Fits letter bearing fun _ after => session ∈ after.cleared := by
  refine Job.Fits.holding (fun _ => .hold free) ?_
  refine Job.bears_ask_bind fun (queue : Table SessionKey (List BufferContent)) due _ =>
    ⟨.plain, _, none, trivial, .see rfl, ?_⟩
  split
  · rename_i nothing
    intro due
    refine clears_queue (.of_queue free (.refl _)) (by simp) (fun same => .inr ⟨queue, rfl, ?_⟩) due
    rintro ⟨contents, found, _⟩
    rw [← same, nothing] at found
    cases found
  rename_i contents found
  refine Job.bears_ask_bind fun _ due _ => ?_
  by_cases mine : session.key = letter.key
  · by_cases genuine : letter.Queued queue ∧ due = true
    · obtain ⟨queued, come⟩ := genuine
      rw [mine]
      refine ⟨.plain, _, none, trivial, .take rfl documents queued come, ?_⟩
      have inside : letter.content ∈ contents := by
        obtain ⟨others, there, member⟩ := queued
        rw [← mine, found] at there
        cases there
        exact member
      refine Script.Bears.mono (sendAll_fits contents documents known) ?_
      rintro outcome held ⟨grows, _, sent⟩ due
      exact clears_queue (.of_queue free grows) (fun _ => ⟨mine, sent (.inr rfl) inside⟩)
        (fun _ => .inl grows.queue) due
    · have changing : letter.Turns due { bearing with queue := .seen queue } .plain
          (.setQueue (queue.erase session.key)) ()
          { bearing with queue := .seen (queue.erase session.key) } none := by
        cases due with
        | false => exact .early rfl rfl
        | true => exact .keep rfl fun queued => absurd ⟨queued, rfl⟩ genuine
      refine ⟨.plain, _, none, trivial, changing, ?_⟩
      refine Script.Bears.mono (sendAll_fits contents documents known) ?_
      rintro outcome held ⟨grows, _, _⟩ due
      have seen : held.queue = .seen (queue.erase session.key) := grows.queue
      exact clears_queue (.of_queue free grows) (by simp [seen])
        (fun _ => .inr ⟨_, seen, mine ▸ Letter.Queued.not_erase⟩) due
  · refine ⟨.plain, _, none, trivial, .keep rfl fun queued => queued.erase_of_ne mine, ?_⟩
    refine Script.Bears.mono (sendAll_fits contents documents known) ?_
    rintro outcome held ⟨grows, _, _⟩ due
    have seen : held.queue = .seen (queue.erase session.key) := grows.queue
    exact clears_queue (.of_queue free grows) (by simp [seen]) (fun same => absurd same mine) due

/-- What was queued is dropped. -/
theorem discardQueue_fits (key : SessionKey) (free : bearing.queue = .free) :
    (discardQueue key).Fits letter bearing fun _ _ => True := by
  refine Script.Bears.step fun _ due _ => ⟨_, none, .hold free, ?_⟩
  refine Script.Bears.step fun (queue : Table SessionKey (List BufferContent)) due _ =>
    ⟨_, none, .see rfl, ?_⟩
  have leaving (queue : Table SessionKey (List BufferContent)) :
      (Script.step (.release .queue) fun _ => .done (.ok ()) : Script (Outcome Unit)).Bears letter
        { bearing with queue := .seen queue } fun _ after => bearing.Grows after ∧ True :=
    .step fun _ due _ => ⟨_, none, .letGo nofun, .of_queue free (.refl _), trivial⟩
  intro _ due _
  by_cases mine : key = letter.key
  · subst mine
    exact ⟨.drops queue, _, none, ⟨_, rfl⟩, .drop rfl, leaving _⟩
  · exact ⟨.plain, _, none, trivial, .keep rfl fun queued => queued.erase_of_ne mine, leaving _⟩

theorem startQueued_tame (setup : Setup) (key : SessionKey) :
    (startQueued setup key).Tame letter := by
  intro bearing documents queue
  refine (getOrStart_fits setup key documents).attempt.bind (by simp) ?_
  rintro outcome after grows ⟨_, ⟨⟩, known⟩
  have still := grows.queue.trans queue
  cases outcome with
  | ok session =>
    have here := grows.documents.trans documents
    exact (flushQueue_fits here still (known _ rfl).1).mono fun _ _ _ _ => trivial
  | error failure =>
    refine (discardQueue_fits key still).bind (fun _ _ _ _ => trivial) fun _ _ _ _ => ?_
    exact (Job.Each.ofScript (Editor.report_plain failure)).fits.mono fun _ _ _ _ => trivial

end Session

end LanguageBridge
