import LanguageBridge.Proofs.Arrival.Obeying
import LanguageBridge.Proofs.Script.Idle
import LanguageBridge.Session.Queue

/-!
How texts are sent, sessions found or started and queues emptied, each as a job that keeps to the
stance of its thread.
-/
namespace LanguageBridge

variable {roots : Roots} (stance : Stance) {session : Session} {file : String} {text : Text}

/-- Whoever only read the documents stands where it stood before. -/
theorem Stance.leaves (free : stance.documents = .free) (workspace : Workspace) :
    Onward roots { stance with documents := .reading workspace } (.release .documents)
      fun _ after => after = stance := by
  intro _ news _
  refine ⟨_, _, _, .leave (.inr (.inr ⟨workspace, rfl⟩)), ?_⟩
  rw [← free]

theorem Editor.report_fails (failure : Failure) : (report failure).Fails :=
  .inl ⟨rfl, failure.message, rfl⟩

section Syncing

/-- Once the documents are held, the file gets the lines of the text. -/
theorem Session.syncHeld_keeps {uri : Uri} (entered : stance.documents = .entered)
    (may : stance.MayWrite file text) (known : session ∈ stance.known)
    (named : Uri.ofFileName file = .ok uri) :
    (session.syncHeld uri file text).Keeps roots stance fun _ after => ∃ workspace,
      after = { stance with documents := .reading workspace } ∧
      workspace.linesOf? file = some text.splitLines := by
  unfold syncHeld
  apply Job.Keeps.ask_bind
  intro (workspace : Workspace) news _
  refine ⟨_, _, _, .read entered, ?_⟩
  cases owned : workspace.ownedBy? session.key file with
  | some document =>
    simp only [owned]
    by_cases same : text.splitLines = document.lines
    · have idle : document.update text = (document, none) := if_pos same
      rw [idle]
      refine Job.Keeps.pure ⟨workspace, rfl, ?_⟩
      simp [Workspace.linesOf?, (Workspace.get?_of_ownedBy? owned).1, same]
    · have moved : document.update text =
          ((document.update text).1, some (document.version + 1)) := by
        simp [Document.update, same]
      rw [moved]
      apply Job.Keeps.ask_bind
      intro _ news _
      refine ⟨_, _, _, .change rfl may known owned same named, ?_⟩
      apply Job.Keeps.notify_bind
      intro outcome news _
      refine ⟨_, _, _, .tellChange rfl, fun _ => Job.Keeps.pure ⟨_, rfl, ?_⟩⟩
      rw [Workspace.linesOf?_track, Document.lines_update]
  | none =>
    simp only [owned]
    apply Job.Keeps.notify_bind
    intro outcome news _
    refine ⟨_, _, _, .tellOpen rfl may known owned named, fun _ => ?_⟩
    apply Job.Keeps.ask_bind
    intro _ news _
    refine ⟨_, _, _, .track rfl may, Job.Keeps.pure ⟨_, rfl, ?_⟩⟩
    rw [Workspace.linesOf?_track]
    rfl

variable {context : Context} {last : Nat → Stance → Prop}

/-- A text is sent, and the documents are let go of once the file has its lines. -/
theorem Context.sync_keeps (held : context.session = some session)
    (free : stance.documents = .free) (may : stance.MayWrite file text)
    (known : session ∈ stance.known)
    (ending : ∀ workspace, Workspace.linesOf? workspace file = some text.splitLines → ∀ version,
      Onward roots { stance with documents := .reading workspace } (.release .documents)
        fun _ => last version) :
    (context.sync file text).Keeps roots stance last := by
  unfold sync
  rw [attached_eq held, pure_bind]
  have naming : (Job.ofOutcome (Uri.ofFileName file)).Keeps roots stance fun uri after =>
      Uri.ofFileName file = .ok uri ∧ after = stance :=
    Job.Keeps.ofOutcome fun uri named => ⟨named, rfl⟩
  apply naming.bind
  rintro uri here ⟨named, rfl⟩
  apply Job.Keeps.holding
  intro _ news _
  refine ⟨_, _, _, .enter free, ?_⟩
  apply (Session.syncHeld_keeps { here with documents := .entered } rfl may known named).mono
  rintro version within ⟨workspace, rfl, lines⟩
  exact ending workspace lines version

/-- A text that a thread owes is done with once it is sent. -/
theorem Context.sync_settles (held : context.session = some session)
    (free : stance.documents = .free) (known : session ∈ stance.known) {parcel : Parcel}
    {rest : List Parcel} (owed : stance.debts = parcel :: rest)
    (may : parcel.event = true ∨ stance.editor = false ∧ stance.cleared = true)
    (ready : stance.Ready roots parcel) :
    (context.sync parcel.content.file parcel.content.text).Keeps roots stance
      fun _ after => after = { stance with debts := rest } := by
  apply Context.sync_keeps stance held free (.inr ⟨parcel, rest, owed, rfl, rfl, may⟩) known
  intro workspace lines version _ news _
  refine ⟨_, _, _, .settle rfl owed ready lines, ?_⟩
  rw [← free]

/-- A text of an edit is sent. -/
theorem Context.sync_edits (held : context.session = some session)
    (free : stance.documents = .free) (known : session ∈ stance.known)
    (edits : stance.edits = true) :
    (context.sync file text).Returns roots stance := by
  apply Context.sync_keeps stance held free (.inl edits) known
  intro workspace _ version
  exact stance.leaves free workspace

end Syncing

section Starting

variable {setup : Setup} {key : SessionKey}

/-- A session is found, or the thread stands where it stands without one. -/
theorem Session.live?_keeps {missing : Stance}
    (lacking : ∀ news, Shift roots news stance (.session key) none missing news.queued none) :
    (live? key).Keeps roots stance fun found after =>
      (∃ session, found = some session ∧ session.key = key ∧
        after = { stance with known := session :: stance.known }) ∨
      found = none ∧ after = missing := by
  unfold live?
  apply Job.Keeps.ask_bind
  intro (found : Option Session) news expected
  cases found with
  | none => exact ⟨_, _, _, lacking news, Job.Keeps.pure (.inr ⟨rfl, rfl⟩)⟩
  | some session =>
    refine ⟨_, _, _, .find, ?_⟩
    apply Job.Keeps.ask_bind
    intro (alive : Bool) news still
    refine ⟨_, _, _, .harmless trivial, ?_⟩
    have here : alive = true := still
    rw [here]
    exact Job.Keeps.pure (.inl ⟨session, rfl, expected session rfl, rfl⟩)

/-- A session that is being started has no documents yet. -/
theorem Session.reopen_keeps (free : stance.documents = .free)
    (starting : stance.starting = some (session.key, true)) :
    session.reopen.Returns roots stance := by
  unfold reopen
  apply Job.Keeps.holding
  intro _ news _
  refine ⟨_, _, _, .share free, ?_⟩
  apply Job.Keeps.ask_bind
  intro (workspace : Workspace) news expected
  refine ⟨_, _, _, .harmless trivial, ?_⟩
  have none : workspace.documentsOf session.key = [] := expected rfl session.key starting
  change Job.Keeps roots ((workspace.documentsOf session.key).forM _) _ _
  rw [none]
  apply Job.Keeps.pure
  intro _ news _
  refine ⟨_, _, _, .leave (.inl rfl), ?_⟩
  rw [← free]

theorem Session.introduceAll_keeps (free : stance.documents = .free)
    (starting : stance.starting = some (session.key, true)) :
    (session.introduceAll setup).Keeps roots stance fun started after =>
      started.key = session.key ∧ after = stance := by
  unfold introduceAll
  have introduced (options : Option Json) : Job.Idle (do
      let capabilities ← session.introduce setup options
      session.confirm
      return capabilities) :=
    (session.introduce_idle setup options).bind fun _ =>
      session.confirm_idle.bind fun _ => Job.Idle.pure _
  apply (introduced _).returns.attempt_bind
  · rintro capabilities here rfl
    apply (Session.reopen_keeps here free starting).attempt_bind
    · rintro _ here rfl
      exact Job.Keeps.pure ⟨rfl, rfl⟩
    · intro failure
      exact Job.Ruined.idle_bind session.endProcess_idle fun _ => Job.Ruined.throw
  · intro failure
    exact Job.Ruined.idle_bind session.endProcess_idle fun _ => Job.Ruined.throw

theorem Session.start_keeps (free : stance.documents = .free)
    (starting : stance.starting = some (key, true)) :
    (start setup key).Keeps roots stance fun session after =>
      session.key = key ∧ after = stance := by
  unfold start
  apply Job.Keeps.ask_bind
  intro extensions news _
  refine ⟨_, _, _, .harmless trivial, ?_⟩
  dsimp only
  split
  · exact Job.Keeps.throw
  · exact Job.Keeps.throw
  · split
    · exact Job.Keeps.throw
    · apply Job.Keeps.ask_bind
      intro (spawned : Except SystemError ServerId) news _
      refine ⟨_, _, _, .harmless trivial, ?_⟩
      cases spawned with
      | error error => exact Job.Keeps.throw
      | ok server =>
        apply Job.Keeps.ask_bind
        intro thread news _
        exact ⟨_, _, _, .fork .serveSession, Session.introduceAll_keeps stance free starting⟩

theorem Session.startHeld_keeps (free : stance.documents = .free)
    (starting : stance.starting = some (key, false)) :
    (startHeld key (start setup key)).Keeps roots stance fun session after =>
      session.key = key ∧ ∃ known seen, session ∈ known ∧
        after = { stance with starting := some (key, seen), known } := by
  unfold startHeld
  apply (Session.live?_keeps stance fun news => .lack starting).bind
  rintro found here (⟨session, rfl, own, rfl⟩ | ⟨rfl, rfl⟩)
  · refine Job.Keeps.pure ⟨own, session :: stance.known, false, List.mem_cons_self, ?_⟩
    rw [← starting]
  · apply (Session.start_keeps { stance with starting := some (key, true) } free rfl).bind
    rintro session here ⟨rfl, rfl⟩
    apply Job.Keeps.ask_bind
    intro _ news _
    refine ⟨_, _, _, .register rfl, Job.Keeps.pure ?_⟩
    exact ⟨rfl, session :: stance.known, false, List.mem_cons_self, rfl⟩

/-- In the end there is a session for the key. -/
theorem Session.getOrStart_keeps (free : stance.documents = .free)
    (idle : stance.starting = none) :
    (getOrStart key (start setup key)).Keeps roots stance fun session after =>
      session.key = key ∧ ∃ known, session ∈ known ∧ after = { stance with known } := by
  unfold getOrStart
  apply (Session.live?_keeps stance fun news => .miss).bind
  rintro found here (⟨session, rfl, own, rfl⟩ | ⟨rfl, rfl⟩)
  · exact Job.Keeps.pure ⟨own, session :: stance.known, List.mem_cons_self, rfl⟩
  · apply Job.Keeps.holding
    intro _ news _
    refine ⟨_, _, _, .begin idle, ?_⟩
    apply (Session.startHeld_keeps { here with starting := some (key, false) } free rfl).mono
    rintro session within ⟨own, known, seen, member, rfl⟩ _ news _
    refine ⟨_, _, _, .finish rfl, own, known, member, ?_⟩
    rw [← idle]

end Starting

section Queueing

variable {setup : Setup} {key : SessionKey} {parcel : Parcel}

/-- What was queued is sent in its order while the queue is held. -/
theorem Session.sendAll_keeps {queue : Table SessionKey (List BufferContent)}
    (free : stance.documents = .free) (known : session ∈ stance.known)
    (seen : stance.queue = .seen queue) (empty : queue.get? session.key = none)
    (parcels : List Parcel) (rest : List Parcel)
    (events : ∀ parcel ∈ parcels, parcel.event = true ∧ parcel.key roots = .ok session.key)
    (owed : stance.debts = parcels ++ rest) :
    (sendAll session (parcels.map (·.content))).Keeps roots stance fun _ after =>
      after = { stance with debts := rest } := by
  induction parcels generalizing stance with
  | nil =>
    apply Job.Keeps.pure
    rw [← show stance.debts = rest from owed]
  | cons parcel others ih =>
    obtain ⟨event, own⟩ := events parcel List.mem_cons_self
    have ready : stance.Ready roots parcel := by
      simp only [Stance.Ready, event, if_true]
      exact ⟨queue, session.key, seen, own, empty⟩
    apply (Context.sync_settles stance rfl free known owed (.inl event) ready).attempt_bind
    · rintro version _ rfl
      have later := fun parcel member => events parcel (List.mem_cons_of_mem _ member)
      exact ih _ free known seen later rfl
    · intro failure
      exact Job.Ruined.ofScript_bind (Editor.report_fails failure)

/-- The queue is emptied for the session of a thread's own text. -/
theorem Session.flushQueue_keeps (worker : stance.editor = false)
    (documents : stance.documents = .free) (free : stance.queue = .free)
    (known : session ∈ stance.known)
    (own : ∀ parcel ∈ stance.debts, parcel.event = false ∧ parcel.key roots = .ok session.key) :
    session.flushQueue.Keeps roots stance fun _ after =>
      after = { stance with cleared := true } := by
  unfold flushQueue
  apply Job.Keeps.holding
  intro _ news _
  refine ⟨_, _, _, .hold free, ?_⟩
  apply Job.Keeps.ask_bind
  intro (queue : Table SessionKey (List BufferContent)) news _
  refine ⟨_, _, _, .see rfl, ?_⟩
  have clear {shorter : Table SessionKey (List BufferContent)}
      (empty : shorter.get? session.key = none) :
      Onward roots { stance with queue := .seen shorter } (.release .queue) fun _ after =>
        after = { stance with cleared := true } := by
    intro _ news _
    refine ⟨_, _, _, .clear worker rfl fun parcel member => ?_, ?_⟩
    · exact ⟨(own parcel member).1, session.key, (own parcel member).2, empty⟩
    · rw [← free]
  cases waiting : queue.get? session.key with
  | none =>
    simp only [waiting]
    exact Job.Keeps.pure (clear waiting)
  | some contents =>
    simp only [waiting]
    apply Job.Keeps.ask_bind
    intro _ news expected
    have lined := expected queue rfl session.key
    refine ⟨_, _, _, .take rfl worker fun parcel member => (own parcel member).1, ?_⟩
    have same : contents = (news.queued session.key).map (·.content) := by
      have given := waiting.symm.trans lined.1
      split at given
      · cases given
      · exact Option.some.inj given
    have empty : (queue.erase session.key).get? session.key = none := by simp
    rw [same]
    let sending : Stance :=
      { stance with
        queue := .seen (queue.erase session.key)
        debts := news.queued session.key ++ stance.debts }
    apply Job.Keeps.mono
      (Session.sendAll_keeps sending documents known rfl empty _ stance.debts lined.2.1 rfl)
    rintro _ within rfl
    exact clear empty

/-- What the editor tells of joins the queue, or is sent at once when nothing is queued. -/
theorem Session.takeIn_keeps (token : stance.editor = true) (documents : stance.documents = .free)
    (free : stance.queue = .free) (owed : stance.debts = [parcel]) (event : parcel.event = true)
    (own : parcel.key roots = .ok key) :
    (takeIn key parcel.content).Keeps roots stance fun _ after =>
      ∃ known, after = { stance with debts := [], known } := by
  unfold takeIn
  apply Job.Keeps.holding
  intro _ news _
  refine ⟨_, _, _, .hold free, ?_⟩
  apply Job.Keeps.ask_bind
  intro (queue : Table SessionKey (List BufferContent)) news _
  refine ⟨_, _, _, .see rfl, ?_⟩
  have letGo (longer : Table SessionKey (List BufferContent)) (known : List Session) :
      Onward roots { stance with queue := .seen longer, debts := [], known } (.release .queue)
        fun _ after => ∃ known, after = { stance with debts := [], known } := by
    intro _ news _
    refine ⟨_, _, _, .letGo (by simp) (by simp), known, ?_⟩
    rw [← free]
  have joins (found : List Session) (answer : Bool) :
      Job.Keeps roots (do
        let _ ← Job.ask (.setQueue
          (queue.insert key ((queue.get? key).getD [] ++ [parcel.content])))
        return answer)
        { stance with queue := .seen queue, known := found }
        fun _ within => Onward roots within (.release .queue)
          fun _ after => ∃ known, after = { stance with debts := [], known } := by
    apply Job.Keeps.ask_bind
    intro _ news _
    exact ⟨_, _, _, .enqueue rfl owed token event own, Job.Keeps.pure (letGo _ found)⟩
  cases waiting : queue.get? key with
  | some contents =>
    simp only [waiting]
    rw [show contents = (queue.get? key).getD [] by simp [waiting]]
    exact joins stance.known false
  | none =>
    simp only [waiting]
    apply (Session.live?_keeps { stance with queue := .seen queue } fun news => .miss).bind
    rintro found within (⟨session, rfl, same, rfl⟩ | ⟨rfl, rfl⟩)
    · let here : Stance := { stance with queue := .seen queue, known := session :: stance.known }
      have ready : here.Ready roots parcel := by
        simp only [Stance.Ready, event, if_true]
        exact ⟨queue, key, rfl, own, waiting⟩
      apply Job.Keeps.bind
        (Context.sync_settles here rfl documents List.mem_cons_self owed (.inl event) ready)
      rintro version within rfl
      exact Job.Keeps.pure (letGo queue _)
    · have first : [parcel.content] = (queue.get? key).getD [] ++ [parcel.content] := by
        simp [waiting]
      simp only
      rw [first]
      exact joins stance.known true

theorem Session.keyOf_keeps (language file : String) :
    (keyOf language file).Keeps roots stance fun key after =>
      roots language file = .ok key ∧ after = stance := by
  unfold keyOf
  apply Job.Keeps.ask_bind
  intro (tree : FileTree) news expected
  refine ⟨_, _, _, .harmless trivial, Job.Keeps.ofOutcome fun key given => ?_⟩
  exact ⟨(expected language file).symm.trans given, rfl⟩

/-- What the editor tells of is done with, or waits for its session. -/
theorem Session.syncContent_keeps (token : stance.editor = true)
    (documents : stance.documents = .free) (free : stance.queue = .free)
    (owed : stance.debts = [parcel]) (event : parcel.event = true) :
    (syncContent parcel.content).Keeps roots stance fun _ after =>
      ∃ known, after = { stance with debts := [], known } := by
  unfold syncContent
  apply (Session.keyOf_keeps stance _ _).bind
  rintro key here ⟨own, rfl⟩
  apply (Session.takeIn_keeps here token documents free owed event own).bind
  rintro waits within ⟨known, rfl⟩
  cases waits with
  | true =>
    apply Job.Keeps.ask_bind
    intro thread news _
    exact ⟨_, _, _, .fork .startQueued, Job.Keeps.pure ⟨known, rfl⟩⟩
  | false => exact Job.Keeps.pure ⟨known, rfl⟩

/-- An action finds its session, and all that was queued for it is sent. -/
theorem Session.contextFor_keeps {context : Context} (worker : stance.editor = false)
    (documents : stance.documents = .free) (free : stance.queue = .free)
    (idle : stance.starting = none)
    (plain : ∀ parcel ∈ stance.debts, parcel.event = false ∧
      parcel.key roots = roots context.language context.file) :
    (contextFor setup context).Keeps roots stance fun given after => ∃ session known,
      given.session = some session ∧ session ∈ known ∧
      after = { stance with cleared := true, known } := by
  unfold contextFor
  apply (Session.keyOf_keeps stance _ _).bind
  rintro key here ⟨own, rfl⟩
  apply (Session.getOrStart_keeps here documents idle).bind
  rintro session within ⟨rfl, known, member, rfl⟩
  apply (Session.flushQueue_keeps { here with known } worker documents free member
    fun parcel owed => ⟨(plain parcel owed).1, (plain parcel owed).2.trans own⟩).bind
  rintro _ after rfl
  exact Job.Keeps.pure ⟨session, known, rfl, member, rfl⟩

/-- A session is started for what was queued, and that is sent. -/
theorem Session.startQueued_keeps (worker : stance.editor = false) (clear : stance.debts = [])
    (documents : stance.documents = .free) (free : stance.queue = .free)
    (idle : stance.starting = none) :
    (startQueued setup key).Keeps roots stance fun _ after => after.Unbound := by
  unfold startQueued
  apply (Session.getOrStart_keeps stance documents idle).attempt_bind
  · rintro session within ⟨_, known, member, rfl⟩
    apply (Session.flushQueue_keeps { stance with known } worker documents free member
      (by simp [clear])).mono
    rintro _ after rfl
    exact ⟨clear, documents⟩
  · intro failure γ rest fails
    refine .inr ⟨id, fun _ => .inr ⟨id, fun queue => .inr ⟨id, fun _ => .inr ⟨id, fun _ => ?_⟩⟩⟩⟩
    exact .inl ⟨rfl, failure.message, rfl⟩

theorem Session.sendAll_sure (session : Session) (contents : List BufferContent) :
    (session.sendAll contents).Sure := by
  induction contents with
  | nil => exact Job.Sure.pure ()
  | cons content rest ih =>
    apply (Job.Sure.attempt _).bind
    intro outcome
    cases outcome with
    | ok version => exact ih
    | error failure => exact (Job.Sure.ofScript _).bind fun _ => ih

theorem Session.flushQueue_sure (session : Session) : session.flushQueue.Sure := by
  apply Job.Sure.holding
  apply (Job.Sure.ask .queue).bind
  intro (queue : Table SessionKey (List BufferContent))
  split
  · exact Job.Sure.pure ()
  · exact (Job.Sure.ask _).bind fun _ => session.sendAll_sure _

theorem Session.startQueued_sure (setup : Setup) (key : SessionKey) :
    (startQueued setup key).Sure := by
  apply (Job.Sure.attempt _).bind
  intro outcome
  cases outcome with
  | ok session => exact session.flushQueue_sure
  | error failure =>
    have discarding : (discardQueue key).Sure :=
      Job.Sure.holding ((Job.Sure.ask _).bind fun _ => (Job.Sure.ask _).bind fun _ => .pure ())
    exact discarding.bind fun _ => Job.Sure.ofScript _

end Queueing

end LanguageBridge
