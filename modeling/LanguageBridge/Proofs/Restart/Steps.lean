import LanguageBridge.Proofs.Restart.Advancing

/-!
On every course of a restart all threads are where they should be: the one that starts the session
registers it when the new server has been told of all documents there were, and what stragglers have
changed since they have failed to tell.
-/
namespace LanguageBridge

variable {thread : Nat} {operation : Operation} {answer : operation.Answer} {world : World}

namespace Operation

variable {host : Host} {before after : World} {peer : Peer} {method : String} {params : Json}

/-- What is said to a peer that is gone is not said. -/
theorem saying_of_failure {failure : Failure}
    (performed : before.perform host thread (.notify peer method params) =
      some (after, .error failure)) : (notify peer method params).saying before = [] := by
  by_cases alive : before.isAlive peer = true
  · simp only [World.perform, World.say, Sent.peer, alive, if_true] at performed
    cases performed
  · exact if_neg alive

theorem saying_of_success
    (performed : before.perform host thread (.notify peer method params) = some (after, .ok ())) :
    before.isAlive peer = true ∧ (notify peer method params).saying before =
      [.notification peer method (Params.ofJson params)] := by
  by_cases alive : before.isAlive peer = true
  · exact ⟨alive, if_pos alive⟩
  · simp only [World.perform, World.say, Sent.peer, alive] at performed
    cases performed

end Operation

namespace Restart

variable {restart : Restart} {stage further : Stage} {footings : Nat → Footing}
  {now next : System} {onward : operation.Answer → Script (Outcome Json)}

/-- What is known stays so when no thread goes on and nothing is done that matters here. -/
theorem Sound.idle (sound : restart.Sound stage footings now)
    (advance : Advance restart.setup Happening.Editless now next)
    (threads : next.threads = now.threads) (drift : now.world.Undisturbed next.world)
    (held : next.world.held = now.world.held) (forked : next.world.forked = now.world.forked)
    (editless : ∀ server, ∀ message ∈ next.world.waiting (.server server), ¬ message.AsksEdit) :
    restart.Sound stage footings next where
  guided := by
    obtain ⟨starter, others, first, unborn, many⟩ := sound.guided
    rw [← threads] at starter others unborn many
    exact ⟨starter, others, first, unborn, many⟩
  tenant := by
    refine ⟨?_, sound.tenant.sole, ?_⟩
    · rw [held]
      exact sound.tenant.locked
    · rw [drift.workspace]
      exact sound.tenant.knows
  ground := by
    refine ⟨forked.trans sound.ground.forked, by rw [drift.workspace]; exact sound.ground.unique,
      ?_, editless⟩
    exact fun straggler member session holds =>
      (sound.ground.lapsing straggler member session holds).imp_left drift.gone
  registered := by
    rw [drift.sessions]
    exact sound.registered
  fits := by
    have drifts : Drift restart now.world next.world :=
      ⟨by rw [drift.connected], by rw [World.noticesTo, drift.traffic]; rfl,
        fun _ => drift.gone⟩
    refine sound.fits.advance advance drifts (fun _ => by rw [drift.sessions]) fun _ unoffered => ?_
    rw [drift.workspace]
    exact ⟨unoffered, fun _ since => since⟩

theorem Sound.happen (sound : restart.Sound stage footings now) {happening : Happening}
    (editless : happening.Editless) :
    restart.Sound stage footings (now.occur happening) := by
  have advance : Advance restart.setup Happening.Editless now (now.occur happening) :=
    .happen happening editless
  rw [System.occur_eq] at advance ⊢
  refine sound.idle advance rfl (.happening _ happening) (World.after_held _ _)
    (World.after_forked _ _) fun server message member => ?_
  rw [World.waiting_after, List.mem_append] at member
  rcases member with before | new
  · exact sound.ground.editless server message before
  · cases happening with
    | deliver peer delivered =>
      dsimp only at new
      split at new
      · rename_i same
        subst same
        rw [List.mem_singleton.mp new]
        exact editless
      · cases new
    | _ => cases new

/-- What a step of a thread makes of the threads and the world. -/
abbrev stepped (restart : Restart) (now : System) (thread : Nat) (world : World)
    (rest : Script (Outcome Json)) : System :=
  System.startForked (Program.scriptOf restart.setup)
    { world, threads := now.threads.set thread rest }

/-- The server that is started, once the session before is known to be gone, is the next one. -/
theorem Sound.expected (sound : restart.Sound stage footings now)
    (performed : now.world.perform restart.setup.host thread operation = some (world, answer)) :
    restart.Expects stage operation answer := by
  cases operation with
  | spawn language directory program arguments =>
    rintro server rfl rfl rfl
    simp only [World.perform] at performed
    split at performed
    · cases performed
    · obtain ⟨_, spawned⟩ := Prod.mk.inj (Option.some.inj performed)
      obtain rfl := Except.ok.inj spawned
      exact congrArg (fun count => (⟨restart.key.language, count + 1⟩ : ServerId))
        sound.fits.1.connected
  | _ => trivial

/-- The thread that starts the session goes on, and the documents are as they were. -/
theorem Sound.start (sound : restart.Sound stage footings now)
    (here : now.threads[0]? = some (.step operation onward))
    (performed : now.world.perform restart.setup.host 0 operation = some (world, answer))
    (rest : (onward answer).Guided restart.rules further fun _ _ => True)
    (starts : ∀ work ∈ operation.starting, ∃ session, work = .serveSession session)
    (same : world.workspace = now.world.workspace)
    (registered : ∀ session, world.sessions.get? restart.key = some session →
      restart.count < session.server.number →
        further = .opened ∧ session.key = restart.key ∧ session.server = restart.server)
    (fits : further.Fits restart footings (restart.stepped now 0 world (onward answer))) :
    restart.Sound further footings (restart.stepped now 0 world (onward answer)) where
  guided := by
    refine sound.guided.step (List.getElem?_eq_some_iff.mp here).1 ?_ (fun _ _ => rfl)
      sound.guided.first (fun _ => rest) fun impossible => absurd rfl impossible
    rw [(World.performed performed).forked, sound.ground.forked]
    exact starts
  tenant := by
    obtain ⟨locked, sole, knows⟩ := sound.tenant.frame performed same fun other has =>
      .inl (by rintro rfl; exact has (congrArg Footing.tenure sound.guided.first))
    exact ⟨locked, sole, knows⟩
  ground := sound.ground.step performed (by rw [same]; exact sound.ground.unique)
  registered := registered
  fits := fits

/-- Of every document that the new server is told of, it hears the version and the text. -/
theorem heard_opening {entry : String × Document} {uri : Uri} {server : ServerId}
    (named : Uri.ofFileName entry.1 = .ok uri) :
    Notice.heard? server (.notification (.server server) "textDocument/didOpen"
      (Params.ofJson (entry.2.openParams uri))) = Notice.opening? entry := by
  simp [Notice.heard?, Notice.read?_ofJson, Notice.read?_openParams, Notice.opening?, named]

/-- Nobody has the documents alone while another thread looks at them. -/
theorem Sound.unoffered (sound : restart.Sound stage footings now) {workspace : Workspace}
    (performed : now.world.perform restart.setup.host 0 .workspace = some (world, workspace))
    (thread : Nat) (other : Workspace) : (footings thread).tenure ≠ .offered other := by
  intro offered
  have apart : thread ≠ 0 := by
    rintro rfl
    rw [sound.guided.first] at offered
    cases offered
  have held := sound.tenant.locked thread (by simp [offered])
  simp only [World.perform] at performed
  split at performed
  · rename_i reads
    have fits := List.all_eq_true.mp reads _ held
    simp [apart] at fits
  · cases performed

/-- A thread that has seen the documents is to tell the new server of those of the session. -/
theorem Sound.looks (sound : restart.Sound .begun footings now)
    (course : restart.Leads restart.system now) {next : Workspace → Script (Outcome Json)}
    (here : now.threads[0]? = some (.step .workspace next)) {workspace : Workspace}
    (performed : now.world.perform restart.setup.host 0 .workspace = some (world, workspace)) :
    (Stage.opening (workspace.documentsOf restart.key)).Fits restart footings now := by
  obtain ⟨_, rfl⟩ := World.workspace_of_performed performed
  exact ⟨sound.fits.2, now, course, .refl, ⟨_, here⟩, sound.fits.1, sound.ground.unique,
    ⟨[], rfl, sound.fits.1, List.forall_mem_nil _⟩, sound.unoffered performed, fun _ => .inl rfl⟩

/-- A session before is gone that stragglers hold contexts of, if the one that was registered at
first is. -/
theorem Ground.gone (ground : restart.Ground world)
    (registered : ∀ session, restart.world.sessions.get? restart.key = some session →
      world.isAlive session.peer = false) : restart.Gone world :=
  fun straggler member session holds =>
    (ground.lapsing straggler member session holds).elim id (registered session)

/-- Who is gone stays away. -/
theorem Gone.step {host : Host} {before after : World} (gone : restart.Gone before)
    (performed : before.perform host thread operation = some (after, answer)) :
    restart.Gone { after with forked := [] } := by
  intro straggler member session holds
  have dead := gone straggler member session holds
  rw [World.isAlive] at dead ⊢
  rwa [← (World.performed performed).dead] at dead

/-- The new server is told of one document more. -/
theorem Sound.tells {entry : String × Document} {left : List (String × Document)} {uri : Uri}
    {rest : Script (Outcome Json)}
    (sound : restart.Sound (.opening (entry :: left)) footings now)
    (named : Uri.ofFileName entry.1 = .ok uri)
    (performed : now.world.perform restart.setup.host 0 (.notify (.server restart.server)
      "textDocument/didOpen" (entry.2.openParams uri)) = some (world, .ok ()))
    (advance : Advance restart.setup Happening.Editless now (restart.stepped now 0 world rest)) :
    (Stage.opening left).Fits restart footings (restart.stepped now 0 world rest) := by
  obtain ⟨gone, opening, fits⟩ := sound.fits
  obtain ⟨done, whole, told, names⟩ := fits.told
  have notices : world.noticesTo restart.server = (done ++ [entry]).filterMap Notice.opening? := by
    have said := World.noticesTo_of_performed performed restart.server
    rw [(Operation.saying_of_success performed).2, told] at said
    rw [said, List.filterMap_append]
    simp only [List.filterMap_cons, heard_opening named]
    rfl
  refine ⟨gone.step performed, opening, fits.before, fits.after.tail advance, fits.reads,
    fits.untold, fits.unique, ⟨done ++ [entry], ?_, notices, ?_⟩, fits.unoffered, ?_⟩
  · rw [whole, List.append_assoc]
    rfl
  · intro other member
    rcases List.mem_append.mp member with old | last
    · exact names other old
    · rw [List.mem_singleton.mp last]
      exact ⟨uri, named⟩
  · change restart.Since footings opening.world.workspace world.workspace
    rw [(World.performed performed).workspace]
    exact fits.since

/-- What is known of a stage stays so while the documents stay as they are. -/
theorem Stage.Fits.frame {rest : Script (Outcome Json)} (fits : stage.Fits restart footings now)
    (performed : now.world.perform restart.setup.host thread operation = some (world, answer))
    (advance : Advance restart.setup Happening.Editless now
      (restart.stepped now thread world rest))
    (workspace : operation.workspaceAfter now.world.workspace = now.world.workspace)
    (sessions : stage = .looking → operation.sessionsAfter now.world = now.world.sessions)
    (connected : world.connected = now.world.connected)
    (silent : (operation.saying now.world).filterMap (Notice.heard? restart.server) = []) :
    stage.Fits restart footings (restart.stepped now thread world rest) := by
  have parts := World.performed performed
  refine fits.advance advance (.performed performed connected silent)
    (fun early => congrArg (Table.get? · restart.key) (parts.sessions.trans (sessions early)))
    fun _ unoffered => ⟨unoffered, fun before since => ?_⟩
  change restart.Since footings before world.workspace
  rwa [parts.workspace, workspace]

theorem Sound.starter (sound : restart.Sound stage footings now)
    (course : restart.Leads restart.system now)
    (here : now.threads[0]? = some (.step operation onward))
    (performed : now.world.perform restart.setup.host 0 operation = some (world, answer))
    (advance : Advance restart.setup Happening.Editless now
      (restart.stepped now 0 world (onward answer))) :
    ∃ further, restart.Sound further footings (restart.stepped now 0 world (onward answer)) := by
  obtain ⟨script, first, goes⟩ := sound.guided.starter
  obtain rfl := Option.some.inj (here.symm.trans first)
  obtain ⟨further, turns, rest⟩ := goes answer (sound.expected performed)
  have parts := World.performed performed
  have counted := World.connected_of_performed performed
  have moves := sound.start here performed rest
  have registered (sessions : operation.sessionsAfter now.world = now.world.sessions)
      (kept : stage = .opened → further = .opened) (session : Session)
      (found : world.sessions.get? restart.key = some session)
      (beyond : restart.count < session.server.number) :
      further = .opened ∧ session.key = restart.key ∧ session.server = restart.server := by
    rw [parts.sessions, sessions] at found
    exact (sound.registered session found beyond).imp_left kept
  have idle : ∀ work ∈ ([] : List Work), ∃ session, work = .serveSession session :=
    List.forall_mem_nil _
  -- the world stays as it is, as far as it matters, and what is known of the stage is known already
  have steadily (starts : ∀ work ∈ operation.starting, ∃ session, work = .serveSession session)
      (workspace : operation.workspaceAfter now.world.workspace = now.world.workspace)
      (sessions : operation.sessionsAfter now.world = now.world.sessions)
      (connected : world.connected = now.world.connected)
      (silent : (operation.saying now.world).filterMap (Notice.heard? restart.server) = [])
      (kept : stage = .opened → further = .opened) (fits : further.Fits restart footings now) :
      ∃ further, restart.Sound further footings (restart.stepped now 0 world (onward answer)) :=
    ⟨further, moves starts (parts.workspace.trans workspace) (registered sessions kept)
      (fits.frame performed advance workspace (fun _ => sessions) connected silent)⟩
  cases turns with
  | calm calm =>
    exact steadily calm.starts (calm.workspace _) (calm.sessions _) (calm.counts performed)
      (calm.silent _) id sound.fits
  | lock => exact steadily idle rfl rfl (counted id) rfl id sound.fits
  | unlock => exact steadily idle rfl rfl (counted id) rfl id sound.fits
  | unheard =>
    have silent := Operation.saying_of_failure performed
    exact steadily idle rfl rfl (counted id) (by rw [silent]; rfl) id sound.fits
  | missing =>
    obtain ⟨rfl, nothing⟩ := Prod.mk.inj (Option.some.inj performed)
    have none : restart.world.sessions.get? restart.key = none := sound.fits.2.symm.trans nothing
    exact steadily idle rfl rfl rfl rfl (by simp)
      ⟨sound.fits.1, sound.ground.gone fun session found => by cases none.symm.trans found⟩
  | found =>
    obtain ⟨rfl, there⟩ := Prod.mk.inj (Option.some.inj performed)
    exact steadily idle rfl rfl rfl rfl (by simp) ⟨sound.fits.1, sound.fits.2.symm.trans there⟩
  | alive => exact steadily idle rfl rfl (counted id) rfl (by simp) trivial
  | dead =>
    obtain ⟨rfl, dead⟩ := Prod.mk.inj (Option.some.inj performed)
    refine steadily idle rfl rfl rfl rfl (by simp) ⟨sound.fits.1, sound.ground.gone ?_⟩
    intro session found
    obtain rfl := Option.some.inj (sound.fits.2.symm.trans found)
    exact dead
  | drop =>
    -- of the key no session is left, or the one that is there is alive
    have only (session : Session) (found : world.sessions.get? restart.key = some session) :
        now.world.sessions.get? restart.key = some session := by
      rw [parts.sessions] at found
      simp only [Operation.sessionsAfter] at found
      split at found
      · simp at found
      · exact found
    exact ⟨_, moves idle parts.workspace
      (fun session found => sound.registered session (only session found))
      (sound.fits.frame performed advance rfl (by simp) (counted id) rfl)⟩
  | refused =>
    have connected : world.connected = now.world.connected := by
      simp only [World.perform] at performed
      split at performed <;> cases performed
      rfl
    exact steadily idle rfl rfl connected rfl id sound.fits
  | spawn =>
    obtain ⟨unbegun, gone⟩ := sound.fits
    have notices := World.noticesTo_of_performed performed restart.server
    have untold : world.noticesTo restart.server = [] :=
      notices.trans ((List.append_nil _).trans unbegun.notices)
    exact ⟨_, moves idle parts.workspace (registered rfl (by simp)) ⟨untold, gone.step performed⟩⟩
  | read =>
    exact steadily idle rfl rfl (counted id) rfl (by simp) (sound.looks course here performed)
  | tell named =>
    exact ⟨_, moves idle parts.workspace (registered rfl (by simp))
      (sound.tells named performed advance)⟩
  | finish => exact steadily idle rfl rfl (counted id) rfl (by simp) sound.fits
  | @register session keyed new =>
    refine ⟨_, moves idle parts.workspace ?_
      (sound.fits.frame performed advance rfl (by simp) (counted id) rfl)⟩
    intro other found _
    rw [parts.sessions] at found
    simp only [Operation.sessionsAfter, Table.get?_insert, if_pos] at found
    obtain rfl := Option.some.inj found
    exact ⟨rfl, keyed, new⟩

/-- Nothing is tracked differently, and a thread that has strayed has still strayed. -/
theorem Since.keep {before after later : Workspace} {last : Footing}
    (since : restart.Since footings before after) (same : later.documents = after.documents)
    (strays : (footings thread).Strayed → last.Strayed) :
    restart.Since (Function.update footings thread last) before later := by
  intro file
  rw [same]
  refine (since file).imp_right ?_
  rintro ⟨other, straggler, self, rfl, strayed, overtakes⟩
  refine ⟨other, straggler, self, rfl, ?_, ?_⟩
  · by_cases own : other = thread
    · subst own
      rw [Function.update_self]
      exact strays strayed
    · rwa [Function.update_of_ne own]
  · rwa [Straggler.Overtakes, same]

/-- A straggler takes its text for the document of its file. -/
theorem Since.change {before after : Workspace} {last : Footing} {straggler : Straggler}
    {document : Document} (since : restart.Since footings before after)
    (self : restart.straggler? thread = some straggler)
    (owned : after.ownedBy? restart.key straggler.file = some document)
    (differs : straggler.text.splitLines ≠ document.lines) (strayed : last.Strayed)
    (strays : (footings thread).Strayed → last.Strayed) :
    restart.Since (Function.update footings thread last) before
      (after.track straggler.file (document.update straggler.text).1) := by
  obtain ⟨here, keyed⟩ := Option.filter_eq_some_iff.mp owned
  have mine : document.session = restart.key := by simpa using keyed
  have updated := Document.update_of_ne differs
  intro file
  by_cases own : straggler.file = file
  · subst own
    have overtakes (old : Document)
        (found : before.documents.get? straggler.file = some old)
        (belongs : old.session = restart.key) (lower : old.version ≤ document.version) :
        straggler.Overtakes restart.key before
          (after.track straggler.file (document.update straggler.text).1) := by
      refine ⟨old, (document.update straggler.text).1, found, by simp [Workspace.track], belongs,
        ?_, ?_, ?_⟩
      · rw [updated]
        exact mine
      · rw [updated]
        exact Nat.lt_succ_of_le lower
      · rw [updated]
    refine .inr ⟨thread, straggler, self, rfl, by rwa [Function.update_self], ?_⟩
    rcases since straggler.file with same | ⟨_, other, _, file, _, old, new, found, there, belongs,
      _, lower, _⟩
    · exact overtakes document (same.symm.trans here) mine (Nat.le_refl _)
    · rw [file] at found there
      obtain rfl := Option.some.inj (here.symm.trans there)
      exact overtakes old found belongs (Nat.le_of_lt lower)
  · have elsewhere : (after.track straggler.file
        (document.update straggler.text).1).documents.get? file = after.documents.get? file := by
      simp [Workspace.track, own]
    rw [elsewhere]
    refine (since file).imp_right ?_
    rintro ⟨other, about, its, rfl, has, old, new, found, there, rest⟩
    refine ⟨other, about, its, rfl, ?_, old, new, found, elsewhere.trans there, rest⟩
    by_cases same : other = thread
    · subst same
      rw [Function.update_self]
      exact strayed
    · rwa [Function.update_of_ne same]

/-- A thread that is not the first goes on, and the sessions are as they were. -/
theorem Sound.other (sound : restart.Sound stage footings now) {last : Footing}
    (apart : thread ≠ 0) (here : now.threads[thread]? = some (.step operation onward))
    (performed : now.world.perform restart.setup.host thread operation = some (world, answer))
    (advance : Advance restart.setup Happening.Editless now
      (restart.stepped now thread world (onward answer)))
    (rest : (onward answer).Guided (Straggler.rules restart.server (restart.straggler? thread)) last
      fun outcome after => after.Strayed → outcome = .error .terminated)
    (starts : ∀ work ∈ operation.starting, ∃ session, work = .serveSession session)
    (sessions : operation.sessionsAfter now.world = now.world.sessions)
    (connected : world.connected = now.world.connected)
    (silent : (operation.saying now.world).filterMap (Notice.heard? restart.server) = [])
    (tenant : Tenant (Function.update footings thread last) world)
    (unique : (world.workspace.documents.entries.map (·.1)).Nodup)
    (changes : restart.Gone now.world →
      (∀ thread workspace, (footings thread).tenure ≠ .offered workspace) →
      (∀ workspace, last.tenure ≠ .offered workspace) ∧
        ∀ before, restart.Since footings before now.world.workspace →
          restart.Since (Function.update footings thread last) before world.workspace) :
    restart.Sound stage (Function.update footings thread last)
      (restart.stepped now thread world (onward answer)) where
  guided := by
    refine sound.guided.step (List.getElem?_eq_some_iff.mp here).1 ?_
      (fun other different => Function.update_of_ne different _ _) ?_
      (fun impossible => absurd impossible apart) fun _ => ⟨rfl, ?_⟩
    · rw [(World.performed performed).forked, sound.ground.forked]
      exact starts
    · rw [Function.update_of_ne (Ne.symm apart)]
      exact sound.guided.first
    · rwa [Function.update_self]
  tenant := ⟨tenant.locked, tenant.sole, tenant.knows⟩
  ground := sound.ground.step performed unique
  registered := by
    have same : world.sessions = now.world.sessions :=
      (World.performed performed).sessions.trans sessions
    change ∀ session, world.sessions.get? restart.key = some session → _
    rw [same]
    exact sound.registered
  fits := by
    have same := (World.performed performed).sessions.trans sessions
    refine sound.fits.advance advance (.performed performed connected silent)
      (fun _ => congrArg (Table.get? · restart.key) same) fun gone unoffered => ?_
    obtain ⟨own, since⟩ := changes gone unoffered
    refine ⟨fun other workspace => ?_, since⟩
    by_cases self : other = thread
    · subst self
      rw [Function.update_self]
      exact own workspace
    · rw [Function.update_of_ne self]
      exact unoffered other workspace

/-- To a server that is gone nothing is said. -/
theorem Gone.unsaid (gone : restart.Gone now.world) {straggler : Straggler} {session : Session}
    {method : String} {params : Json} (self : restart.straggler? thread = some straggler)
    (holds : straggler.context.session = some session)
    (performed : now.world.perform restart.setup.host thread
      (.notify session.peer method params) = some (world, .ok ())) : False := by
  have dead := gone straggler (mem_of_straggler? self) session holds
  rw [(Operation.saying_of_success performed).1] at dead
  cases dead

theorem Sound.follow (stranded : restart.Stranded) (sound : restart.Sound stage footings now)
    (apart : thread ≠ 0) (here : now.threads[thread]? = some (.step operation onward))
    (performed : now.world.perform restart.setup.host thread operation = some (world, answer))
    (advance : Advance restart.setup Happening.Editless now
      (restart.stepped now thread world (onward answer))) :
    ∃ last, restart.Sound stage (Function.update footings thread last)
      (restart.stepped now thread world (onward answer)) := by
  have goes := sound.guided.others thread _ apart here
  obtain ⟨last, turns, rest⟩ := goes answer (sound.ground.expected performed)
  have parts := World.performed performed
  have counted := World.connected_of_performed performed
  have moves := sound.other apart here performed advance rest
  have unique := sound.ground.unique
  have known := sound.tenant.knows thread
  have idle : ∀ work ∈ ([] : List Work), ∃ session, work = .serveSession session :=
    List.forall_mem_nil _
  have elsewhere {straggler : Straggler} {session : Session} (method : String) (params : Json)
      (self : restart.straggler? thread = some straggler)
      (holds : straggler.context.session = some session) :
      (Operation.notify session.peer method params).Calm restart.server :=
    fun same => absurd (Peer.server.inj same) (stranded.other (mem_of_straggler? self) holds).2
  cases turns with
  | calm calm =>
    have same := parts.workspace.trans (calm.workspace _)
    have stays : operation ≠ .release .documents := by
      rintro rfl
      exact calm
    refine ⟨_, moves calm.starts (calm.sessions _) (calm.counts performed) (calm.silent _) ?_
      (by rwa [same]) fun _ unoffered => ⟨unoffered thread, fun before since => ?_⟩⟩
    · rw [Function.update_eq_self]
      exact sound.tenant.frame performed same fun _ _ => .inr stays
    · exact since.keep (congrArg _ same) id
  | enter free =>
    refine ⟨_, moves idle rfl (counted id) rfl (sound.tenant.enter performed rfl)
      (by rwa [parts.workspace]) fun _ _ => ⟨by simp, fun before since => ?_⟩⟩
    exact since.keep (congrArg _ parts.workspace) (.imp_left (by simp [free]))
  | look entered =>
    obtain ⟨rfl, rfl⟩ := World.workspace_of_performed performed
    refine ⟨_, moves idle rfl rfl rfl (sound.tenant.proceed performed (by simp [entered]) (by simp)
      rfl) unique fun _ _ => ⟨by simp, fun before since => ?_⟩⟩
    exact since.keep rfl (.imp_left (by simp [entered]))
  | keep reading same =>
    rw [reading] at known
    have documents : world.workspace.documents = now.world.workspace.documents := by
      rw [parts.workspace, known]
      exact same
    refine ⟨_, moves idle rfl (counted id) rfl (sound.tenant.proceed performed (by simp [reading])
      (by simp) parts.workspace) (by rwa [documents]) fun _ _ =>
      ⟨by simp, fun before since => ?_⟩⟩
    exact since.keep documents (.imp_left (by simp [reading]))
  | @change straggler session workspace document self holds reading owned differs =>
    rw [reading] at known
    subst known
    obtain ⟨keyed, _⟩ := stranded.other (mem_of_straggler? self) holds
    refine ⟨_, moves idle rfl (counted id) rfl (sound.tenant.proceed performed (by simp [reading])
      (by simp) trivial) ?_ fun _ _ => ⟨by simp, fun before since => ?_⟩⟩
    · rw [parts.workspace]
      exact Table.nodup_keys_insert unique _ _
    · rw [parts.workspace]
      exact since.change self (keyed ▸ owned) differs (.inl rfl) (.imp_left fun _ => rfl)
  | tell self holds changed =>
    refine ⟨_, moves idle rfl (counted id) ((elsewhere _ _ self holds).silent _)
      (sound.tenant.proceed performed (by simp [changed]) (by simp) trivial)
      (by rwa [parts.workspace]) fun gone _ => (gone.unsaid self holds performed).elim⟩
  | fail changed =>
    refine ⟨_, moves idle rfl (counted id) (by rw [Operation.saying_of_failure performed]; rfl)
      (sound.tenant.proceed performed (by simp [changed]) (by simp) trivial)
      (by rwa [parts.workspace]) fun _ _ => ⟨by simp, fun before since => ?_⟩⟩
    exact since.keep (congrArg _ parts.workspace) fun _ => .inr rfl
  | offer self holds reading =>
    rw [reading] at known
    refine ⟨_, moves idle rfl (counted id) ((elsewhere _ _ self holds).silent _)
      (sound.tenant.proceed performed (by simp [reading]) (by simp) (parts.workspace.trans known))
      (by rwa [parts.workspace]) fun gone _ => (gone.unsaid self holds performed).elim⟩
  | track offered =>
    rw [offered] at known
    subst known
    refine ⟨_, moves idle rfl (counted id) rfl (sound.tenant.proceed performed (by simp [offered])
      (by simp) trivial) ?_ fun _ unoffered => absurd offered (unoffered thread _)⟩
    rw [parts.workspace]
    exact Table.nodup_keys_insert unique _ _
  | leave told =>
    refine ⟨_, moves idle rfl (counted id) rfl (sound.tenant.leave performed rfl)
      (by rwa [parts.workspace]) fun _ _ => ⟨by simp, fun before since => ?_⟩⟩
    exact since.keep (congrArg _ parts.workspace) (.imp_left fun changed => absurd changed told)

/-- Whatever a thread does, what is known leads on. -/
theorem Sound.step (stranded : restart.Stranded) (sound : restart.Sound stage footings now)
    (course : restart.Leads restart.system now)
    (moved : Program.step restart.setup now thread = some next) :
    ∃ further footings, restart.Sound further footings next := by
  have advance : Advance restart.setup Happening.Editless now next := .step moved
  obtain ⟨_, _, rfl⟩ | ⟨operation, onward, world, answer, here, performed, rfl⟩ :=
    Program.step_cases moved
  · exact ⟨stage, footings, sound.idle advance rfl ⟨rfl, rfl, rfl, rfl, fun _ alive => alive⟩ rfl
      rfl sound.ground.editless⟩
  · by_cases first : thread = 0
    · subst first
      obtain ⟨further, after⟩ := sound.starter course here performed advance
      exact ⟨further, footings, after⟩
    · obtain ⟨last, after⟩ := sound.follow stranded first here performed advance
      exact ⟨stage, _, after⟩

theorem Stranded.course (stranded : restart.Stranded)
    (course : restart.Leads restart.system now) :
    ∃ stage footings, restart.Sound stage footings now := by
  induction course with
  | refl => exact ⟨_, _, stranded.sound⟩
  | tail before advance ih =>
    obtain ⟨stage, footings, sound⟩ := ih
    cases advance with
    | step moved => exact sound.step stranded before moved
    | happen happening editless => exact ⟨stage, footings, sound.happen editless⟩

end Restart

end LanguageBridge
