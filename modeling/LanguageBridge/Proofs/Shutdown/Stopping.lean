import Mathlib.Data.List.Flatten
import Mathlib.Data.List.Nodup
import LanguageBridge.Proofs.Shutdown.Standing

/-!
Servers are stopped once. A session that is in use and those that were taken out of use have servers
of their own, and for each that was taken at most one thread was started that stops it. Only that
thread tells the server to end: it asks it to get ready, and when the server has answered with a
result it tells it to exit.
-/
namespace LanguageBridge

/-- A value that is put takes the place of the one of its key, or joins the others. -/
theorem Table.put_perm {κ ν : Type} [DecidableEq κ] (key : κ) (value : ν)
    (entries : List (κ × ν)) :
    ∃ others, others.Sublist entries ∧ (put key value entries).Perm ((key, value) :: others) := by
  induction entries with
  | nil => exact ⟨[], .slnil, .refl _⟩
  | cons entry rest ih =>
    obtain ⟨other, old⟩ := entry
    by_cases same : other = key
    · exact ⟨rest, List.sublist_cons_self _ _, by simp [put, same]⟩
    · obtain ⟨others, part, perm⟩ := ih
      refine ⟨(other, old) :: others, part.cons_cons _, ?_⟩
      simp only [put, same, if_false]
      exact (perm.cons _).trans (.swap _ _ _)

variable {setup : Setup} {tree : FileTree} {journal before rest : Journal} {now : System}
  {thread : Nat} {work : Work} {act : Act}

theorem Act.met_of_taken {session : Session} (taken : session ∈ act.taken) :
    session.server ∈ act.met := by
  obtain ⟨operation, answer⟩ := act
  cases operation with
  | unregister | drain => exact List.mem_map_of_mem taken
  | _ => cases taken

/-- The session whose server a work is to stop. -/
def Work.stopped? : Work → Option Session
  | .stopSession session => some session
  | _ => none

namespace Journal

/-- The servers of the sessions in use and of those that were taken. -/
def servers (journal : Journal) (world : World) : List ServerId :=
  world.sessions.entries.map (·.2.server) ++ journal.taken.map (·.server)

/-- Servers of sessions that are in use or were taken were put in use. -/
theorem Kept.used_of_servers (kept : Kept setup tree journal now) {server : ServerId}
    (member : server ∈ journal.servers now.world) : journal.PutInUse server := by
  rcases List.mem_append.mp member with there | gone
  · obtain ⟨entry, among, rfl⟩ := List.mem_map.mp there
    exact kept.acquainted.sessions entry among
  · obtain ⟨session, among, rfl⟩ := List.mem_map.mp gone
    obtain ⟨act, did, took⟩ := List.mem_flatMap.mp among
    exact kept.acquainted.met act did _ (Act.met_of_taken took)

/-- No server is of two sessions that are in use or were taken. -/
theorem Kept.servers_nodup (kept : Kept setup tree journal now) :
    (journal.servers now.world).Nodup := by
  induction kept with
  | begin => exact .nil
  | @did journal now mover operation onward world answer kept here performed ih =>
    change (Journal.servers _ world).Nodup
    rw [servers, taken_did, (World.performed performed).sessions, List.map_append]
    -- Sessions that fall out of use without being taken leave fewer servers.
    have fewer {left : Table SessionKey Session}
        (part : left.entries.Sublist now.world.sessions.entries) :
        (left.entries.map (fun entry : SessionKey × Session => entry.2.server) ++
          (journal.taken.map Session.server ++ [])).Nodup := by
      rw [List.append_nil]
      exact ih.sublist ((part.map _).append_right _)
    cases operation with
    | register key session =>
      have new : session.server ∉ journal.servers now.world := by
        intro member
        obtain ⟨earlier, begins, mine, begun⟩ := (kept.did here performed).begins rfl
        cases kept.phases mine begun with
        | intro _ _ _ _ _ unused => exact unused (kept.used_of_servers member)
      obtain ⟨others, part, perm⟩ := Table.put_perm key session now.world.sessions.entries
      have remaining := (part.map (·.2.server)).append_right (journal.taken.map (·.server))
      change ((Table.put key session now.world.sessions.entries).map
        (fun entry : SessionKey × Session => entry.2.server) ++
          (journal.taken.map Session.server ++ [])).Nodup
      rw [List.append_nil, ((perm.map _).append_right _).nodup_iff]
      exact List.nodup_cons.mpr ⟨fun member => new (remaining.subset member), ih.sublist remaining⟩
    | dropIfDead key =>
      refine fewer ?_
      rw [Operation.sessionsAfter]
      split
      · exact List.filter_sublist
      · exact .refl _
    | unregister key =>
      cases performed
      cases found : now.world.sessions.get? key with
      | none => exact fewer List.filter_sublist
      | some session =>
        have there : [(key, session)].Sublist
            (now.world.sessions.entries.filter fun entry => !decide (entry.1 ≠ key)) :=
          List.singleton_sublist.mpr (by simp [Table.mem_of_find? found])
        have perm := List.filter_append_perm (fun entry => decide (entry.1 ≠ key))
          now.world.sessions.entries
        have whole := ((perm.map (·.2.server)).append_right _).nodup_iff.mpr ih
        rw [List.map_append, List.append_assoc] at whole
        have part := whole.sublist (((there.map (·.2.server)).append_right _).append_left _)
        exact (List.perm_append_comm.append_left _).nodup_iff.mp part
    | drain =>
      cases performed
      change (journal.taken.map Session.server ++
        (now.world.sessions.entries.map (·.2)).map Session.server).Nodup
      rw [List.map_map]
      exact List.nodup_append_comm.mp ih
    | _ => exact fewer (.refl _)
  | ended _ _ _ ih => rwa [servers, taken_ended]
  | happened _ happening ih =>
    rw [servers, taken_happened, System.occur_eq]
    dsimp only
    rwa [(World.after_happening _ happening).2.2.2.1]

theorem works_stopped : journal.works.filterMap Work.stopped? =
    journal.acts.filterMap Act.stopped? := by
  have shown (act : Act) : (act.forked?.map (·.1)).bind Work.stopped? = act.stopped? := by
    obtain ⟨operation, answer⟩ := act
    cases operation with
    | fork work => cases work <;> rfl
    | _ => rfl
  rw [works, List.filterMap_cons_none rfl, List.filterMap_filterMap]
  exact congrFun (congrArg List.filterMap (funext shown)) _

/-- Threads that stop servers were started for sessions that were taken, each for another. -/
theorem Kept.stopped_subperm (kept : Kept setup tree journal now) :
    ∃ others, (journal.works.filterMap Work.stopped?).Perm others ∧
      others.Sublist ((List.range journal.works.length).flatMap fun thread =>
        (journal.actsOf thread).flatMap Act.taken) := by
  refine ⟨_, (works_stopped ▸ kept.acts_perm.filterMap Act.stopped?), ?_⟩
  rw [List.filterMap_flatMap]
  refine List.Sublist.flatMap_right _ fun thread within => ?_
  obtain ⟨_, charge, _, follows, _⟩ := kept.guided kept.named.1
    (List.getElem?_eq_getElem (List.mem_range.mp within))
  have accounts : (journal.actsOf thread).flatMap Act.taken =
      (journal.actsOf thread).filterMap Act.stopped? ++ charge.debts := Charge.accounts follows
  rw [accounts]
  exact List.sublist_append_left _ _

theorem Kept.taken_perm (kept : Kept setup tree journal now) : journal.taken.Perm
    ((List.range journal.works.length).flatMap fun thread =>
      (journal.actsOf thread).flatMap Act.taken) := by
  have perm := kept.acts_perm.flatMap_right Act.taken
  rwa [List.flatMap_assoc] at perm

/-- A session whose server is stopped was taken out of use. -/
theorem Kept.taken_of_stopped (kept : Kept setup tree journal now) {session : Session}
    (stopped : .stopSession session ∈ journal.works) : session ∈ journal.taken := by
  obtain ⟨others, perm, part⟩ := kept.stopped_subperm
  have member : session ∈ journal.works.filterMap Work.stopped? :=
    List.mem_filterMap.mpr ⟨_, stopped, rfl⟩
  exact kept.taken_perm.mem_iff.mpr (part.subset (perm.mem_iff.mp member))

/-- No server is stopped by two threads. -/
theorem Kept.stopper_unique (kept : Kept setup tree journal now) {other : Nat}
    {session another : Session} (stops : journal.works[thread]? = some (.stopSession session))
    (also_stops : journal.works[other]? = some (.stopSession another))
    (same : session.server = another.server) : thread = other := by
  have once : (journal.works.filterMap fun work =>
      work.stopped?.map Session.server).Nodup := by
    obtain ⟨others, perm, part⟩ := kept.stopped_subperm
    obtain ⟨_, taken, _⟩ := List.nodup_append.mp kept.servers_nodup
    rw [← List.map_filterMap, (perm.map _).nodup_iff]
    exact ((kept.taken_perm.map _).nodup_iff.mp taken).sublist (part.map _)
  have apart {first second : Nat} {mine theirs : Session} (less : first < second)
      (here : journal.works[first]? = some (.stopSession mine))
      (there : journal.works[second]? = some (.stopSession theirs)) :
      mine.server ≠ theirs.server := by
    obtain ⟨within, here⟩ := List.getElem?_eq_some_iff.mp here
    obtain ⟨inside, there⟩ := List.getElem?_eq_some_iff.mp there
    exact List.pairwise_iff_getElem.mp (List.pairwise_filterMap.mp once) first second within inside
      less _ (by rw [here]; rfl) _ (by rw [there]; rfl)
  rcases Nat.lt_trichotomy thread other with less | rfl | less
  · exact absurd same (apart less stops also_stops)
  · rfl
  · exact absurd same.symm (apart less also_stops stops)

end Journal

/-- What a server is told that is to end: first to get ready, and then to exit. -/
def Sent.ending? (server : ServerId) : Sent → Option String
  | .call (.server other) _ method _ =>
    if other = server ∧ method = "shutdown" then some method else none
  | .notification (.server other) method _ =>
    if other = server ∧ method = "exit" then some method else none
  | _ => none

/-- What a server has been told that is to end, in order. -/
def World.endingsTo (world : World) (server : ServerId) : List String :=
  world.traffic.filterMap (Sent.ending? server)

/-- What a server was told by an act that is to end. -/
def Act.ending? (server : ServerId) (act : Act) : Option String :=
  act.sent?.bind (Sent.ending? server)

theorem Operation.Aside.ending? {operation : Operation} (aside : operation.Aside)
    (answer : operation.Answer) (server : ServerId) :
    Act.ending? server ⟨operation, answer⟩ = none := by
  cases operation with
  | notify peer method =>
    cases (answer : Outcome Unit) with
    | error failure => rfl
    | ok _ =>
      cases peer with
      | editor => rfl
      | server other => simp [Act.ending?, Act.sent?, Sent.ending?, aside.2]
  | call peer method =>
    cases (answer : Outcome Nat) with
    | error failure => rfl
    | ok ticket =>
      cases peer with
      | editor => rfl
      | server other =>
        have other : method ≠ "shutdown" := aside
        simp [Act.ending?, Act.sent?, Sent.ending?, other]
  | reply => cases (answer : Outcome Unit) <;> rfl
  | _ => rfl

/-- Only threads that stop a server tell it to end. -/
theorem Charge.Turns.ends {charge after : Charge} {server : ServerId}
    (turns : Turns work charge act.operation act.answer after)
    (ends : (act.ending? server).isSome) : work.Stops server := by
  obtain ⟨operation, answer⟩ := act
  cases turns with
  | aside aside =>
    rw [aside.ending?] at ends
    cases ends
  | confirm => simp [Act.ending?, Act.sent?, Sent.ending?] at ends
  | @shutDown other params answer stops =>
    cases answer with
    | error failure => cases ends
    | ok ticket =>
      by_cases same : other = server
      · exact same ▸ stops
      · simp [Act.ending?, Act.sent?, Sent.ending?, same] at ends
  | @exit other params answer stops =>
    cases answer with
    | error failure => cases ends
    | ok ticket =>
      by_cases same : other = server
      · exact same ▸ stops
      · simp [Act.ending?, Act.sent?, Sent.ending?, same] at ends
  | _ => cases ends

namespace Session

variable (session : Session)

/-- What is left to do once a server was told to end, or cannot be. -/
def lastOfStop : Script (Outcome Json) := session.endProcess.run.bind fun _ => .done Program.quiet

/-- The act by which a server is asked to get ready for its end, and what came of it. -/
def asking (outcome : Outcome Nat) : Act := ⟨.call session.peer "shutdown" .null, outcome⟩

/-- The act by which a server is told to exit, and what came of it. -/
def exiting (outcome : Outcome Unit) : Act := ⟨.notify session.peer "exit" .null, outcome⟩

/-- How far a thread is with stopping a server, after what it did. -/
inductive StopsBy : List Act → Script (Outcome Json) → Prop
  | begin {onward : Outcome Nat → Script (Outcome Json)} :
      StopsBy [] (.step (.call session.peer "shutdown" .null) onward)
  | unheard {failure : Failure} {acts : List Act} {left : Script (Outcome Json)}
      (does : session.lastOfStop.Does acts left) :
      StopsBy (session.asking (.error failure) :: acts) left
  | asked {ticket : Nat} {onward : Outcome Json → Script (Outcome Json)} :
      StopsBy [session.asking (.ok ticket)] (.step (.await ticket) onward)
  | refused {ticket : Nat} {failure : Failure} {acts : List Act} {left : Script (Outcome Json)}
      (does : session.lastOfStop.Does acts left) :
      StopsBy (session.asking (.ok ticket) ::
        ⟨.await ticket, (.error failure : Outcome Json)⟩ :: acts) left
  | answered {ticket : Nat} {result : Json} {onward : Outcome Unit → Script (Outcome Json)} :
      StopsBy [session.asking (.ok ticket), ⟨.await ticket, (.ok result : Outcome Json)⟩]
        (.step (.notify session.peer "exit" .null) onward)
  | told {ticket : Nat} {result : Json} {outcome : Outcome Unit} {acts : List Act}
      {left : Script (Outcome Json)} (does : session.lastOfStop.Does acts left) :
      StopsBy (session.asking (.ok ticket) :: ⟨.await ticket, (.ok result : Outcome Json)⟩ ::
        session.exiting outcome :: acts) left

variable {session}

theorem stopsBy_of_does {acts : List Act} {left : Script (Outcome Json)}
    (does : (Program.scriptOf setup (.stopSession session)).Does acts left) :
    session.StopsBy acts left := by
  rcases Script.Does.of_step does with ⟨rfl, rfl⟩ | ⟨(asked : Outcome Nat), rest, rfl, onward⟩
  · exact .begin
  cases asked with
  | error failure => exact .unheard onward
  | ok ticket =>
    rcases Script.Does.of_step onward with
      ⟨rfl, rfl⟩ | ⟨(answer : Outcome Json), more, rfl, further⟩
    · exact .asked
    cases answer with
    | error failure => exact .refused further
    | ok result =>
      rcases Script.Does.of_step further with
        ⟨rfl, rfl⟩ | ⟨(outcome : Outcome Unit), last, rfl, ending⟩
      · exact .answered
      · refine .told ?_
        cases outcome <;> exact ending

/-- What some acts have told the server of a session that is to end. -/
def endings (session : Session) (acts : List Act) : List String :=
  acts.filterMap (Act.ending? session.server)

theorem ending?_call (session : Session) (params : Json) (ticket : Nat) :
    Act.ending? session.server ⟨.call session.peer "shutdown" params, (.ok ticket : Outcome Nat)⟩ =
      some "shutdown" :=
  if_pos ⟨rfl, rfl⟩

section Endings

variable (session : Session) (ticket : Nat) (failure : Failure) (acts : List Act)

@[simp] theorem endings_nil : session.endings [] = [] := rfl

@[simp]
theorem endings_asking :
    session.endings (session.asking (.ok ticket) :: acts) = "shutdown" :: session.endings acts :=
  List.filterMap_cons_some (session.ending?_call .null ticket)

@[simp]
theorem endings_unheard :
    session.endings (session.asking (.error failure) :: acts) = session.endings acts :=
  List.filterMap_cons_none rfl

@[simp]
theorem endings_await (answer : Outcome Json) :
    session.endings (⟨.await ticket, answer⟩ :: acts) = session.endings acts :=
  List.filterMap_cons_none rfl

@[simp]
theorem endings_exiting (heard : Unit) :
    session.endings (session.exiting (.ok heard) :: acts) = "exit" :: session.endings acts :=
  List.filterMap_cons_some (if_pos ⟨rfl, rfl⟩)

@[simp]
theorem endings_missed :
    session.endings (session.exiting (.error failure) :: acts) = session.endings acts :=
  List.filterMap_cons_none rfl

end Endings

variable {acts : List Act} {left : Script (Outcome Json)}

theorem lastOfStop_endings (does : session.lastOfStop.Does acts left) :
    session.endings acts = [] := by
  have aside : session.lastOfStop.Each Operation.Aside :=
    Script.Each.bind (session.endProcess_ordinary.mono fun _ => .of_ordinary none)
      fun _ => trivial
  exact List.filterMap_eq_nil_iff.mpr fun act member =>
    Operation.Aside.ending? ((aside.does does).1 act member) act.answer session.server

namespace StopsBy

variable (stops : session.StopsBy acts left)
include stops

/-- A server that is told to exit has been asked to get ready before, and neither is said twice. -/
theorem endings_eq (told : "exit" ∈ session.endings acts) :
    session.endings acts = ["shutdown", "exit"] := by
  cases stops with
  | begin | asked | answered => simp at told
  | unheard does | refused does => simp [lastOfStop_endings does] at told
  | @told ticket result outcome acts left does =>
    cases outcome with
    | error failure => simp [lastOfStop_endings does] at told
    | ok => simp [lastOfStop_endings does]

/-- A server is asked to get ready as the first that is done, if at all. -/
theorem head_eq {act : Act} {ticket : Nat} {params : Json} (member : act ∈ acts)
    (asks : act = ⟨.call session.peer "shutdown" params, (.ok ticket : Outcome Nat)⟩) :
    acts.head? = some (session.asking (.ok ticket)) := by
  have last {acts : List Act} {left : Script (Outcome Json)}
      (does : session.lastOfStop.Does acts left) : act ∉ acts := by
    intro among
    have told : "shutdown" ∈ session.endings acts :=
      List.mem_filterMap.mpr ⟨_, among, asks ▸ session.ending?_call params ticket⟩
    rw [lastOfStop_endings does] at told
    cases told
  have waited (other : Nat) (answer : Outcome Json) : act ≠ ⟨.await other, answer⟩ := by
    rw [asks]
    nofun
  have exits (outcome : Outcome Unit) : act ≠ session.exiting outcome := by
    rw [asks]
    nofun
  have first {outcome : Outcome Nat} {rest : List Act} (absent : act ∉ rest)
      (member : act ∈ session.asking outcome :: rest) : outcome = .ok ticket := by
    have same := (List.mem_cons.mp member).resolve_right absent
    cases asks.symm.trans same
    rfl
  cases stops with
  | begin => cases member
  | unheard does => cases first (last does) member
  | asked => rw [first List.not_mem_nil member]; rfl
  | refused does => rw [first (by simp [waited, last does]) member]; rfl
  | answered => rw [first (by simp [waited]) member]; rfl
  | told does => rw [first (by simp [waited, exits, last does]) member]; rfl

/-- A thread that has stopped a server which hears what it is told has asked it to get ready and has
waited for its answer, and has told it to exit when that was a result. -/
theorem of_done {outcome : Outcome Json} (done : left = .done outcome)
    (heard : ∀ act ∈ acts, act.unheard? ≠ some session.peer) : ∃ ticket answer rest,
      acts = session.asking (.ok ticket) :: ⟨.await ticket, answer⟩ :: rest ∧
      ((∃ result : Json, answer = .ok result) ∧ session.endings acts = ["shutdown", "exit"] ∨
        (∃ failure : Failure, answer = .error failure) ∧ session.endings acts = ["shutdown"]) := by
  cases stops with
  | begin | asked | answered => cases done
  | unheard => exact absurd rfl (heard _ List.mem_cons_self)
  | @refused ticket failure acts _ does =>
    refine ⟨ticket, .error failure, acts, rfl, .inr ⟨⟨failure, rfl⟩, ?_⟩⟩
    simp [lastOfStop_endings does]
  | @told ticket result told acts _ does =>
    refine ⟨ticket, .ok result, _, rfl, .inl ⟨⟨result, rfl⟩, ?_⟩⟩
    cases told with
    | error failure => exact absurd rfl (heard (session.exiting (.error failure)) (by simp))
    | ok => simp [lastOfStop_endings does]

end StopsBy

end Session

/-- Whether a server that was asked to get ready for its end has answered with a result. -/
def World.answeredShutdown (world : World) (server : ServerId) : Bool :=
  world.traffic.any fun
    | .call peer ticket method _ =>
      peer = .server server && method = "shutdown" && (world.answers.get? ticket).any (·.isOk)
    | _ => false

theorem World.answeredShutdown_iff {world : World} {server : ServerId} :
    world.answeredShutdown server = true ↔ ∃ ticket params result,
      .call (.server server) ticket "shutdown" params ∈ world.traffic ∧
        world.answers.get? ticket = some (.ok result) := by
  rw [answeredShutdown, List.any_eq_true]
  constructor
  · rintro ⟨sent, member, answered⟩
    cases sent with
    | call peer ticket method params =>
      simp only [Bool.and_eq_true, decide_eq_true_eq, Option.any_eq_true] at answered
      obtain ⟨⟨rfl, rfl⟩, outcome, found, isOk⟩ := answered
      cases outcome with
      | error => cases isOk
      | ok result => exact ⟨ticket, params, result, member, found⟩
    | notification | reply => cases answered
  · rintro ⟨ticket, params, result, member, found⟩
    refine ⟨_, member, ?_⟩
    simp only [found, decide_true, Bool.true_and, Option.any_some]
    rfl

theorem Act.eq_call_of_sent? {peer : Peer} {ticket : Nat} {method : String} {params : Params}
    (said : act.sent? = some (.call peer ticket method params)) :
    ∃ json, act = ⟨.call peer method json, (.ok ticket : Outcome Nat)⟩ := by
  obtain ⟨operation, answer⟩ := act
  cases operation with
  | call =>
    cases answer with
    | error => cases said
    | ok =>
      cases said
      exact ⟨_, rfl⟩
  | notify | reply => cases answer <;> cases said
  | _ => cases said

namespace Journal

theorem Kept.endingsTo (kept : Kept setup tree journal now) (server : ServerId) :
    now.world.endingsTo server = journal.acts.filterMap (Act.ending? server) := by
  rw [World.endingsTo, kept.traffic, List.filterMap_filterMap]
  rfl

/-- Whoever tells a server to end is the thread that stops it. -/
theorem Kept.ended_by (kept : Kept setup tree journal now) {server : ServerId}
    (member : .did thread act ∈ journal) (ends : (act.ending? server).isSome) :
    ∃ session, journal.works[thread]? = some (.stopSession session) ∧ session.server = server := by
  obtain ⟨before, rest, split⟩ := List.append_of_mem member
  obtain ⟨work, charge, after, started, turns⟩ := kept.turned split
  obtain ⟨session, rfl, same⟩ := turns.ends ends
  exact ⟨session, started, same⟩

theorem Kept.endingsTo_eq_nil (kept : Kept setup tree journal now) {server : ServerId}
    (nobody : ∀ session, .stopSession session ∈ journal.works → session.server ≠ server) :
    now.world.endingsTo server = [] := by
  rw [kept.endingsTo, List.filterMap_eq_nil_iff]
  intro act member
  by_contra ends
  obtain ⟨thread, _, did⟩ := mem_actsBy.mp member
  obtain ⟨session, started, same⟩ := kept.ended_by did (Option.isSome_iff_ne_none.mpr ends)
  exact nobody session (List.mem_of_getElem? started) same

section Stopped

variable (kept : Kept setup tree journal now) {session : Session}
  (stops : journal.works[thread]? = some (.stopSession session))
include kept stops

theorem Kept.ender_eq {other : Nat} (did : .did other act ∈ journal)
    (ends : (act.ending? session.server).isSome) : other = thread := by
  obtain ⟨another, started, same⟩ := kept.ended_by did ends
  exact (kept.stopper_unique stops started same.symm).symm

/-- What a server was told that is to end it was told by the thread that stops it. -/
theorem Kept.endingsTo_eq :
    now.world.endingsTo session.server = session.endings (journal.actsOf thread) := by
  rw [kept.endingsTo]
  exact filterMap_acts fun other act did ends => beq_iff_eq.mpr (kept.ender_eq stops did ends)

theorem Kept.stop : ∃ left, now.threads[thread]? = some left ∧
    session.StopsBy (journal.actsOf thread) left := by
  obtain ⟨left, here, does⟩ := kept.script stops
  exact ⟨left, here, Session.stopsBy_of_does does⟩

/-- When a thread has stopped a server that is there, it has told it to exit just if the server has
answered that it is ready. -/
theorem Kept.endingsTo_of_done {outcome : Outcome Json}
    (done : now.threads[thread]? = some (.done outcome))
    (alive : now.world.isAlive session.peer = true) :
    now.world.endingsTo session.server =
      if now.world.answeredShutdown session.server then ["shutdown", "exit"] else ["shutdown"] := by
  obtain ⟨left, here, stopping⟩ := kept.stop stops
  obtain ⟨ticket, answer, rest, whole, told⟩ :=
    stopping.of_done (Option.some.inj (here.symm.trans done)) fun act member =>
      kept.heard alive (mem_acts_of_mem_actsOf member)
  have answered : now.world.answers.get? ticket = some answer :=
    kept.answered (mem_acts_of_mem_actsOf (by rw [whole]; simp))
  rw [kept.endingsTo_eq stops]
  rcases told with ⟨⟨result, rfl⟩, both⟩ | ⟨⟨failure, rfl⟩, once⟩
  · have asked : session.asking (.ok ticket) ∈ journal.acts :=
      mem_acts_of_mem_actsOf (by rw [whole]; exact List.mem_cons_self)
    rw [both, if_pos]
    rw [World.answeredShutdown_iff, kept.traffic]
    exact ⟨ticket, Params.ofJson .null, result, List.mem_filterMap.mpr ⟨_, asked, rfl⟩, answered⟩
  · rw [once, if_neg]
    rw [World.answeredShutdown_iff, kept.traffic]
    rintro ⟨other, params, result, called, found⟩
    obtain ⟨act, member, said⟩ := List.mem_filterMap.mp called
    obtain ⟨json, asks⟩ := Act.eq_call_of_sent? said
    have ends : act.ending? session.server = some "shutdown" :=
      asks ▸ session.ending?_call json other
    obtain ⟨_, _, did⟩ := mem_actsBy.mp member
    obtain rfl := kept.ender_eq stops did (by rw [ends]; rfl)
    have first := stopping.head_eq (mem_actsOf.mpr did) asks
    rw [whole] at first
    obtain rfl : ticket = other := by
      cases first
      rfl
    cases answered.symm.trans found

end Stopped

/-- A server that was told to exit was asked to get ready before, and neither was said twice. -/
theorem Kept.endingsTo_eq_both (kept : Kept setup tree journal now) {server : ServerId}
    (told : "exit" ∈ now.world.endingsTo server) :
    now.world.endingsTo server = ["shutdown", "exit"] := by
  rw [kept.endingsTo] at told
  obtain ⟨act, member, ends⟩ := List.mem_filterMap.mp told
  obtain ⟨thread, _, did⟩ := mem_actsBy.mp member
  obtain ⟨session, stops, rfl⟩ := kept.ended_by did (by rw [ends]; rfl)
  obtain ⟨left, _, stopping⟩ := kept.stop stops
  rw [← kept.endingsTo, kept.endingsTo_eq stops] at told
  rw [kept.endingsTo_eq stops]
  exact stopping.endings_eq told

end Journal

end LanguageBridge
