import LanguageBridge.Proofs.Document.Effects
import LanguageBridge.Proofs.Script.Runs
import LanguageBridge.Session.Start

/-!
What looking for a session does. A session whose server is gone is out of use afterwards, and one
that is started is in use only when its start succeeds.
-/
namespace LanguageBridge

variable {host : Host} {thread : Nat} {world last : World}

theorem World.Undisturbed.withSessions {before after : World} (drift : before.Undisturbed after)
    (sessions : Table SessionKey Session) :
    ({ before with sessions } : World).Undisturbed { after with sessions } :=
  ⟨drift.workspace, rfl, drift.connected, drift.traffic, drift.dead⟩

/-- If there was a session of a key, its server is gone. -/
def World.Bereft (world : World) (key : SessionKey) (last : World) : Prop :=
  ∀ session, world.sessions.get? key = some session → last.isAlive session.peer = false

theorem World.Bereft.later {key : SessionKey} {after : World} (bereft : world.Bereft key after)
    (dead : ∀ peer, last.isAlive peer = true → after.isAlive peer = true) :
    world.Bereft key last := by
  intro session here
  have gone := bereft session here
  rw [Bool.eq_false_iff] at gone ⊢
  exact fun alive => gone (dead _ alive)

namespace Session

/-- The session of a key is there, or its server is gone and it is out of use from now on. -/
theorem live?_effect {key : SessionKey} {outcome : Outcome (Option Session)}
    (runs : Job.Runs host thread (live? key) world outcome last) :
    (∃ session, outcome = .ok (some session) ∧ world.sessions.get? key = some session ∧
        world.Undisturbed last) ∨
      (outcome = .ok none ∧ world.Bereft key last ∧
        ({ world with sessions := world.sessions.erase key } : World).Undisturbed last) := by
  unfold live? at runs
  obtain ⟨here, drift, rest⟩ := runs.of_session
  cases found : world.sessions.get? key with
  | none =>
    simp only [found] at rest
    obtain ⟨done, after⟩ := rest.of_pure
    refine .inr ⟨done, fun session here => ?_, ?_⟩
    · rw [found] at here
      cases here
    · rw [Table.erase_of_absent found]
      exact drift.trans after
  | some session =>
    simp only [found] at rest
    obtain ⟨there, further, rest⟩ := rest.of_isAlive
    cases alive : there.isAlive session.peer with
    | true =>
      simp only [alive, if_true] at rest
      obtain ⟨done, after⟩ := rest.of_pure
      exact .inl ⟨session, done, rfl, (drift.trans further).trans after⟩
    | false =>
      simp only [alive, Bool.false_eq_true, if_false] at rest
      obtain ⟨answer, near, later, closer, performed, rest⟩ := rest.of_ask_bind
      have path := (drift.trans further).trans closer
      have dead : near.hasDeadSession key = true := by
        simp [World.hasDeadSession, path.sessions, found, closer.gone alive]
      simp only [World.perform, dead, if_true] at performed
      cases performed
      obtain ⟨done, after⟩ := rest.of_pure
      rw [path.sessions] at after
      have whole := (path.withSessions _).trans after
      refine .inr ⟨done, fun other here => ?_, whole⟩
      rw [found] at here
      cases here
      exact after.gone (closer.gone alive)

/-- What becomes of a world in which a session is looked for and started when there is none. -/
inductive Obtained (host : Host) (thread : Nat) (key : SessionKey) (start : Job Session)
    (world : World) : Outcome Session → World → Prop
  | found {last : World} {session : Session} (here : world.sessions.get? key = some session)
      (drift : world.Undisturbed last) : Obtained host thread key start world (.ok session) last
  | failed {before after last : World} {failure : Failure} (bereft : world.Bereft key before)
      (drift : ({ world with sessions := world.sessions.erase key } : World).Undisturbed before)
      (runs : Job.Runs host thread start before (.error failure) after)
      (rest : after.Undisturbed last) : Obtained host thread key start world (.error failure) last
  | started {before after last : World} {session : Session} (bereft : world.Bereft key before)
      (drift : ({ world with sessions := world.sessions.erase key } : World).Undisturbed before)
      (runs : Job.Runs host thread start before (.ok session) after)
      (rest : ({ after with sessions := after.sessions.insert key session } :
        World).Undisturbed last) : Obtained host thread key start world (.ok session) last

theorem startHeld_effect {key : SessionKey} {start : Job Session} {outcome : Outcome Session}
    (absent : world.sessions.get? key = none)
    (runs : Job.Runs host thread (startHeld key start) world outcome last) :
    (∃ before after failure, world.Undisturbed before ∧ outcome = .error failure ∧
        Job.Runs host thread start before (.error failure) after ∧ after.Undisturbed last) ∨
      ∃ before after session, world.Undisturbed before ∧ outcome = .ok session ∧
        Job.Runs host thread start before (.ok session) after ∧
        ({ after with sessions := after.sessions.insert key session } :
          World).Undisturbed last := by
  unfold startHeld at runs
  rcases runs.of_bind with ⟨failure, _, looking⟩ | ⟨found, before, looking, rest⟩
  · rcases live?_effect looking with ⟨_, impossible, _⟩ | ⟨impossible, _⟩ <;> cases impossible
  rcases live?_effect looking with ⟨session, _, there, _⟩ | ⟨none, _, drift⟩
  · rw [absent] at there
    cases there
  rw [Table.erase_of_absent absent] at drift
  obtain rfl : found = Option.none := Except.ok.inj none
  simp only at rest
  rcases rest.of_bind with ⟨failure, failed, starting⟩ | ⟨session, after, starting, rest⟩
  · exact .inl ⟨before, last, failure, drift, failed, starting, .refl _⟩
  · obtain ⟨_, near, later, closer, performed, rest⟩ := rest.of_ask_bind
    cases performed
    obtain ⟨done, ending⟩ := rest.of_pure
    refine .inr ⟨before, after, session, drift, done, starting, ?_⟩
    rw [closer.sessions] at ending
    exact (closer.withSessions _).trans ending

theorem getOrStart_effect {key : SessionKey} {start : Job Session} {outcome : Outcome Session}
    (runs : Job.Runs host thread (getOrStart key start) world outcome last) :
    Obtained host thread key start world outcome last := by
  unfold getOrStart at runs
  rcases runs.of_bind with ⟨failure, _, looking⟩ | ⟨found, here, looking, rest⟩
  · rcases live?_effect looking with ⟨_, impossible, _⟩ | ⟨impossible, _⟩ <;> cases impossible
  rcases live?_effect looking with ⟨session, given, there, drift⟩ | ⟨none, bereft, drift⟩
  · cases given
    simp only at rest
    obtain ⟨rfl, after⟩ := rest.of_pure
    exact .found there (drift.trans after)
  · obtain rfl : found = Option.none := Except.ok.inj none
    simp only at rest
    obtain ⟨first, later, before, inside, after⟩ := rest.of_holding
    have path := drift.trans before
    have absent : first.sessions.get? key = Option.none := by
      rw [path.sessions]
      simp
    rcases startHeld_effect absent inside with
      ⟨near, done, failure, closer, rfl, starting, ending⟩ |
      ⟨near, done, session, closer, rfl, starting, ending⟩
    · have gone := bereft.later (before.trans closer).dead
      exact .failed gone (path.trans closer) starting (ending.trans after)
    · have gone := bereft.later (before.trans closer).dead
      exact .started gone (path.trans closer) starting (ending.trans after)

end Session

end LanguageBridge

/-!
What the start of a session tells its server: nothing of documents until the server is introduced,
and then every document of the session, one after the other.
-/
namespace LanguageBridge

variable {host : Host} {thread : Nat} {world last : World} {α β : Type} {server : ServerId}

/-- The notice by which a server gets a tracked document, if its file has a URI. -/
def Notice.opening? (entry : String × Document) : Option Notice :=
  match Uri.ofFileName entry.1 with
  | .ok uri => some (.opened uri.text entry.2.version entry.2.text)
  | .error _ => none

/-- A job that tells a server nothing of documents and leaves alone what is tracked. -/
def Job.Quiet (host : Host) (thread : Nat) (server : ServerId) (job : Job α) : Prop :=
  ∀ world outcome last, Job.Runs host thread job world outcome last →
    World.Notified server [] world last

namespace Job.Quiet

theorem bind {job : Job α} {next : α → Job β} (first : Quiet host thread server job)
    (rest : ∀ value, Quiet host thread server (next value)) :
    Quiet host thread server (job >>= next) := by
  intro world outcome last runs
  rcases runs.of_bind with ⟨failure, _, only⟩ | ⟨value, here, before, after⟩
  · exact first _ _ _ only
  · exact (first _ _ _ before).trans (rest value _ _ _ after)

theorem pure (value : α) : Quiet host thread server (pure value : Job α) :=
  fun _ _ _ runs => (Job.Runs.of_pure runs).2.notified server

theorem throw (failure : Failure) : Quiet host thread server (throw failure : Job α) :=
  fun _ _ _ runs => (Job.Runs.of_throw runs).2.notified server

theorem ofOutcome (outcome : Outcome α) : Quiet host thread server (Job.ofOutcome outcome) :=
  fun _ _ _ runs => (Job.Runs.of_ofOutcome runs).2.notified server

theorem attempt {job : Job α} (quiet : Quiet host thread server job) :
    Quiet host thread server (Job.attempt job) := by
  intro world outcome last runs
  obtain ⟨given, _, inside⟩ := runs.of_attempt
  exact quiet _ _ _ inside

theorem call (peer : Peer) (method : String) (params : Json) (read : Json → Shaped α) :
    Quiet host thread server (Job.call peer method params read) := by
  intro world outcome last runs
  rcases runs.of_call with drift | ⟨ticket, after⟩
  · exact drift.notified server
  · exact (World.notified_of_call world server peer ticket method _).undisturbed after

end Job.Quiet

namespace Session

theorem introduce_quiet (setup : Setup) (session : Session) (options : Option Json) :
    Job.Quiet host thread server (session.introduce setup options) :=
  (Job.Quiet.ofOutcome _).bind fun _ => .call _ _ _ _

theorem confirm_quiet (session : Session) :
    Job.Quiet host thread session.server session.confirm := by
  intro world outcome last runs
  have unread : Notice.read? "initialized" (.obj []) = none := rfl
  rcases Job.Runs.of_notify_server runs rfl with ⟨_, told⟩ | ⟨_, _, _, told⟩
  · rwa [unread] at told
  · exact told

theorem endProcess_quiet (session : Session) :
    Job.Quiet host thread server session.endProcess := by
  unfold endProcess
  split
  · intro world outcome last runs
    obtain ⟨_, here, later, before, performed, rest⟩ := Job.Runs.of_ask_bind runs
    cases performed
    have after := (Job.Runs.of_pure rest).2
    have ended : here.Undisturbed last :=
      ⟨after.workspace, after.sessions, after.connected, after.traffic, after.dead⟩
    exact (before.trans ended).notified server
  · exact .pure ()

/-- A server that did not get so far is ended, and that is all. -/
theorem giveUp_effect {session : Session} {failure : Failure} {outcome : Outcome α}
    (runs : Job.Runs host thread
      (session.endProcess >>= fun _ => (throw failure : Job α)) world outcome last) :
    (∃ failure, outcome = .error failure) ∧ world.Notified server [] last := by
  refine ⟨?_, ((endProcess_quiet session).bind fun _ => .throw failure) _ _ _ runs⟩
  rcases runs.of_bind with ⟨failure, failed, _⟩ | ⟨_, here, _, throwing⟩
  · exact ⟨failure, failed⟩
  · exact ⟨failure, throwing.of_throw.1⟩

theorem sendOpen_effect {session : Session} {file : String} {document : Document}
    {outcome : Outcome Unit}
    (runs : Job.Runs host thread (session.sendOpen file document) world outcome last) :
    (∃ notice, outcome = .ok () ∧ Notice.opening? (file, document) = some notice ∧
        world.Notified session.server [notice] last) ∨
      ∃ failure, outcome = .error failure ∧ world.Notified session.server [] last := by
  rcases Job.Runs.of_bind runs with ⟨failure, failed, naming⟩ | ⟨uri, here, naming, rest⟩
  · exact .inr ⟨failure, failed, naming.of_ofOutcome.2.notified _⟩
  obtain ⟨named, drift⟩ := naming.of_ofOutcome
  rcases rest.of_notify_server rfl with ⟨done, told⟩ | ⟨failure, failed, _, told⟩
  · rw [Notice.read?_openParams] at told
    refine .inl ⟨_, done, ?_, told.of_undisturbed drift⟩
    simp [Notice.opening?, ← named]
  · exact .inr ⟨failure, failed, told.of_undisturbed drift⟩

/-- Documents are opened in their order; when one is not, the later ones are not either. -/
theorem openAll_effect {session : Session} {entries : List (String × Document)}
    {outcome : Outcome Unit}
    (runs : Job.Runs host thread
      (entries.forM fun entry => session.sendOpen entry.1 entry.2) world outcome last) :
    ∃ done, done <+: entries ∧
      world.Notified session.server (done.filterMap Notice.opening?) last ∧
      (outcome = .ok () → done = entries) := by
  induction entries generalizing world with
  | nil => exact ⟨[], List.nil_prefix, (Job.Runs.of_pure runs).2.notified _, fun _ => rfl⟩
  | cons entry rest ih =>
    change Job.Runs host thread (session.sendOpen entry.1 entry.2 >>= fun _ =>
      rest.forM fun entry => session.sendOpen entry.1 entry.2) world outcome last at runs
    rcases runs.of_bind with ⟨failure, failed, opening⟩ | ⟨_, here, opening, others⟩
    · rcases sendOpen_effect opening with ⟨_, impossible, _⟩ | ⟨_, _, told⟩
      · cases impossible
      · refine ⟨[], List.nil_prefix, told, ?_⟩
        rw [failed]
        intro impossible
        cases impossible
    · rcases sendOpen_effect opening with ⟨notice, _, opens, told⟩ | ⟨_, impossible, _⟩
      · obtain ⟨done, part, more, all⟩ := ih others
        have path : entry :: done <+: entry :: rest := (List.prefix_cons_inj entry).mpr part
        refine ⟨entry :: done, path, ?_, fun finished => by rw [all finished]⟩
        rw [List.filterMap_cons_some opens]
        exact told.trans more
      · cases impossible

theorem reopen_effect {session : Session} {outcome : Outcome Unit}
    (runs : Job.Runs host thread session.reopen world outcome last) :
    ∃ done, done <+: world.workspace.documentsOf session.key ∧
      world.Notified session.server (done.filterMap Notice.opening?) last ∧
      (outcome = .ok () → done = world.workspace.documentsOf session.key) := by
  obtain ⟨first, there, before, inside, after⟩ := Job.Runs.of_holding runs
  obtain ⟨here, drift, rest⟩ := inside.of_workspace
  rw [before.workspace] at rest
  obtain ⟨done, part, told, all⟩ := openAll_effect rest
  exact ⟨done, part, (told.undisturbed after).of_undisturbed (before.trans drift), all⟩

theorem introduceAll_effect {setup : Setup} {session : Session} {outcome : Outcome Session}
    (runs : Job.Runs host thread (introduceAll setup session) world outcome last) :
    ∃ done, done <+: world.workspace.documentsOf session.key ∧
      world.Notified session.server (done.filterMap Notice.opening?) last ∧
      ∀ given, outcome = .ok given → given.key = session.key ∧ given.server = session.server ∧
        done = world.workspace.documentsOf session.key := by
  unfold introduceAll at runs
  have introducing (options : Option Json) :
      Job.Quiet host thread session.server (Job.attempt (do
        let capabilities ← session.introduce setup options
        session.confirm
        return capabilities)) :=
    ((introduce_quiet setup session options).bind fun _ =>
      (confirm_quiet session).bind fun _ => .pure _).attempt
  rcases runs.of_bind with ⟨failure, rfl, only⟩ | ⟨introduced, here, only, rest⟩
  · exact ⟨[], List.nil_prefix, introducing _ _ _ _ only, fun _ impossible => by cases impossible⟩
  have before := introducing _ _ _ _ only
  cases introduced with
  | error failure =>
    simp only at rest
    obtain ⟨⟨_, rfl⟩, after⟩ := giveUp_effect rest
    exact ⟨[], List.nil_prefix, before.trans after, fun _ impossible => by cases impossible⟩
  | ok capabilities =>
    simp only at rest
    rcases rest.of_bind with ⟨failure, rfl, opening⟩ | ⟨opened, there, opening, rest⟩
    · obtain ⟨_, impossible, _⟩ := opening.of_attempt
      cases impossible
    obtain ⟨given, same, opening⟩ := opening.of_attempt
    obtain ⟨done, part, told, all⟩ := reopen_effect opening
    rw [before.workspace] at part all
    cases Except.ok.inj same
    have path := before.trans told
    cases opened with
    | error failure =>
      simp only at rest
      obtain ⟨⟨_, rfl⟩, after⟩ := giveUp_effect rest
      have whole := path.trans after
      rw [List.append_nil] at whole
      exact ⟨done, part, whole, fun _ impossible => by cases impossible⟩
    | ok _ =>
      simp only at rest
      obtain ⟨finished, after⟩ := rest.of_pure
      refine ⟨done, part, path.undisturbed after, ?_⟩
      rintro given rfl
      cases finished
      exact ⟨rfl, rfl, all rfl⟩

/-- What becomes of a world in which a session is started: nothing, or there is one more server, and
it has been told of documents of the session, of all of them when the start succeeds. -/
inductive Started (key : SessionKey) (world : World) (outcome : Outcome Session)
    (last : World) : Prop
  | refused {failure : Failure} (failed : outcome = .error failure) (drift : world.Undisturbed last)
  | begun {done : List (String × Document)}
      (part : done <+: world.workspace.documentsOf key)
      (told : World.Notified (world.connect key.language).2 (done.filterMap Notice.opening?)
        (world.connect key.language).1 last)
      (ready : ∀ session, outcome = .ok session → session.key = key ∧
        session.server = (world.connect key.language).2 ∧
        done = world.workspace.documentsOf key)

theorem connect_congr {before after : World} (drift : before.Undisturbed after)
    (language : String) : (after.connect language).2 = (before.connect language).2 ∧
      (before.connect language).1.Undisturbed (after.connect language).1 := by
  unfold World.connect
  simp only [drift.connected, true_and]
  exact ⟨drift.workspace, drift.sessions, rfl, drift.traffic, drift.dead⟩

theorem start_effect {setup : Setup} {key : SessionKey} {outcome : Outcome Session}
    (runs : Job.Runs host thread (start setup key) world outcome last) :
    Started key world outcome last := by
  unfold start at runs
  obtain ⟨extensions, here, drift, rest⟩ := runs.of_extensions
  split at rest
  · obtain ⟨failed, after⟩ := rest.of_throw
    exact .refused failed (drift.trans after)
  · obtain ⟨failed, after⟩ := rest.of_throw
    exact .refused failed (drift.trans after)
  split at rest
  · obtain ⟨failed, after⟩ := rest.of_throw
    exact .refused failed (drift.trans after)
  obtain ⟨spawned, near, later, closer, performed, rest⟩ := rest.of_ask_bind
  have path := drift.trans closer
  simp only [World.perform] at performed
  split at performed
  · cases performed
    simp only at rest
    obtain ⟨failed, after⟩ := rest.of_throw
    exact .refused failed (path.trans after)
  · cases performed
    simp only at rest
    obtain ⟨_, there, forked, further, performed, rest⟩ := rest.of_ask_bind
    cases performed
    obtain ⟨same, moved⟩ := connect_congr path key.language
    have reached : (world.connect key.language).1.Undisturbed there :=
      ⟨further.workspace.trans moved.workspace, further.sessions.trans moved.sessions,
        further.connected.trans moved.connected, further.traffic.trans moved.traffic,
        fun peer alive => moved.dead peer (further.dead peer alive)⟩
    obtain ⟨done, part, told, ready⟩ := introduceAll_effect rest
    rw [same] at told ready
    simp only [reached.workspace] at part ready
    refine .begun part (told.of_undisturbed ?_) ready
    exact ⟨reached.workspace, reached.sessions, reached.connected, reached.traffic, reached.dead⟩

end Session

end LanguageBridge
