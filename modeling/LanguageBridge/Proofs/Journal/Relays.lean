import LanguageBridge.Proofs.Journal.Kept
import LanguageBridge.Proofs.Journal.Threads

/-!
The messages of a peer are handled one after the other. Each is taken by a thread of its own, which
hands over to the next when it is done; so all that is done about a peer's messages is done in one
go, leg by leg, and only the last thread of the relay has anything left to do.
-/
namespace LanguageBridge

variable {setup : Setup} {tree : FileTree} {journal : Journal} {now : System} {peer : Peer}
  {work : Work}

section Postures

variable {licence : Licence} {posture after : Posture} {acts : List Act}

theorem Rules.Follows.allows (follows : licence.rules.Follows posture acts after) :
    ∀ act ∈ acts, ∃ between, licence.Allows between act.operation := by
  induction follows with
  | nothing => exact List.forall_mem_nil _
  | act turns _ ih => exact List.forall_mem_cons.mpr ⟨⟨_, turns.1⟩, ih⟩

/-- What no act that is allowed has to show, none of the acts has. -/
theorem Rules.Follows.filterMap_eq_nil {β : Type} {read : Act → Option β}
    (follows : licence.rules.Follows posture acts after)
    (nothing : ∀ act between, licence.Allows between act.operation → read act = none) :
    acts.filterMap read = [] :=
  List.filterMap_eq_nil_iff.mpr fun act member =>
    (follows.allows act member).elim fun between allows => nothing act between allows

theorem Rules.Follows.after_eq (follows : licence.rules.Follows posture acts after) :
    after = acts.foldl Posture.after posture := by
  induction follows with
  | nothing => rfl
  | act turns _ ih =>
    rw [List.foldl_cons, ← turns.2]
    exact ih

/-- A script that behaves has done so, and goes on from the posture that its acts have led to. -/
theorem Script.Behaves.does {α : Type} {script left : Script α} {queue : Bool}
    (behaves : script.Behaves licence queue) (does : script.Does acts left) :
    licence.rules.Follows (.calm queue) acts (acts.foldl Posture.after (.calm queue)) ∧
      left.Guided licence.rules (acts.foldl Posture.after (.calm queue)) fun _ after =>
        after = .calm queue := by
  obtain ⟨after, follows, guided⟩ := Script.Guided.does behaves does fun _ _ _ => trivial
  have same := follows.after_eq
  subst same
  exact ⟨follows, guided⟩

theorem Posture.spawned_after {act : Act} {server : ServerId}
    (spawned : (posture.after act).spawned = some server) :
    act.spawned? = some server ∨ posture.spawned = some server ∧
      ∀ session number, act.forked? ≠ some (.serveSession session, number) := by
  obtain ⟨operation, answer⟩ := act
  cases operation with
  | spawn => exact .inl spawned
  | fork work =>
    cases work with
    | serveSession => cases spawned
    | _ => exact .inr ⟨spawned, fun _ _ other => by cases other⟩
  | acquire lock | release lock =>
    cases lock <;> exact .inr ⟨spawned, fun _ _ other => by cases other⟩
  | call peer method params =>
    refine .inr ⟨?_, fun _ _ other => by cases other⟩
    simp only [Posture.after] at spawned
    split at spawned <;> exact spawned
  | _ => exact .inr ⟨spawned, fun _ _ other => by cases other⟩

end Postures

/-- Who has replied to a peer may do so. -/
theorem Licence.Allows.replied {licence : Licence} {posture : Posture} {act : Act}
    (allows : licence.Allows posture act.operation) (replied : (act.reply? peer).isSome) :
    licence.replies = some peer := by
  obtain ⟨operation, answer⟩ := act
  cases operation with
  | reply other =>
    by_cases same : other = peer
    · subst same
      exact allows.reply
    · cases answer <;> simp [Act.reply?, Act.sent?, Sent.reply?, same] at replied
  | notify | call => cases answer <;> cases replied
  | _ => cases replied

namespace Journal

/-- What a thread is in the middle of. -/
def posture (journal : Journal) (thread : Nat) : Posture :=
  (journal.actsOf thread).foldl Posture.after {}

@[simp]
theorem posture_did_self (thread : Nat) (act : Act) :
    posture (journal ++ [.did thread act]) thread = (journal.posture thread).after act := by
  simp [posture]

theorem posture_did_of_ne {thread other : Nat} (apart : other ≠ thread) (act : Act) :
    posture (journal ++ [.did thread act]) other = journal.posture other := by
  rw [posture, actsOf_did_of_ne apart, posture]

@[simp]
theorem posture_ended {thread other : Nat} :
    posture (journal ++ [.ended thread]) other = journal.posture other := by
  simp [posture]

@[simp]
theorem posture_happened (happening : Happening) {other : Nat} :
    posture (journal ++ [.happened happening]) other = journal.posture other := by
  simp [posture]

namespace Kept

/-- What a thread has done and has left to do goes by the licence of its work. -/
theorem behaves (kept : Kept setup tree journal now) {thread : Nat}
    (started : journal.works[thread]? = some work) : ∃ script,
      now.threads[thread]? = some script ∧
      (Program.scriptOf setup work).Does (journal.actsOf thread) script ∧
      work.licence.rules.Follows {} (journal.actsOf thread) (journal.posture thread) ∧
      script.Guided work.licence.rules (journal.posture thread) fun _ after => after = {} := by
  obtain ⟨script, here, does⟩ := kept.script started
  have behaves := (Program.scriptOf_behaves setup work).does does
  exact ⟨script, here, does, behaves⟩

/-- The work of a thread that is there. -/
theorem work_of_thread (kept : Kept setup tree journal now) {thread : Nat}
    {script : Script (Outcome Json)} (here : now.threads[thread]? = some script) :
    ∃ work, journal.works[thread]? = some work := by
  have within := (List.getElem?_eq_some_iff.mp here).1
  rw [kept.threads_length] at within
  exact ⟨_, List.getElem?_eq_getElem within⟩

/-- Whatever a thread does next is allowed. -/
theorem allows (kept : Kept setup tree journal now) {thread : Nat} {operation : Operation}
    {onward : operation.Answer → Script (Outcome Json)}
    (here : now.threads[thread]? = some (.step operation onward)) (answer : operation.Answer) :
    ∃ work, journal.works[thread]? = some work ∧
      work.licence.Allows (journal.posture thread) operation := by
  obtain ⟨work, started⟩ := kept.work_of_thread here
  obtain ⟨script, there, _, _, guided⟩ := kept.behaves started
  obtain rfl : _ = script := Option.some.inj (here.symm.trans there)
  obtain ⟨_, turns, _⟩ := guided answer trivial
  exact ⟨work, started, turns.1⟩

/-- Whatever a thread did was allowed. -/
theorem allowed (kept : Kept setup tree journal now) {thread : Nat} {act : Act}
    (member : .did thread act ∈ journal) : ∃ work posture,
      journal.works[thread]? = some work ∧ work.licence.Allows posture act.operation := by
  have started := List.getElem?_eq_getElem (kept.thread_lt member)
  obtain ⟨_, _, _, follows, _⟩ := kept.behaves started
  have own : act ∈ journal.actsOf thread := mem_actsBy.mpr ⟨thread, by simp, member⟩
  obtain ⟨posture, allows⟩ := follows.allows act own
  exact ⟨_, posture, started, allows⟩

end Kept

/-- Servers that were started are counted; one whose messages nobody takes yet is on the mind of one
thread only. -/
structure Fresh (journal : Journal) (world : World) : Prop where
  served : ∀ work ∈ journal.works, ∀ server, work.peer? = some (.server server) →
    server.number ≤ world.started server.language
  counted : ∀ thread server, (journal.posture thread).spawned = some server →
    server.number ≤ world.started server.language
  unserved : ∀ thread server, (journal.posture thread).spawned = some server →
    ∀ work ∈ journal.works, work.peer? ≠ some (.server server)
  sole : ∀ first second server, (journal.posture first).spawned = some server →
    (journal.posture second).spawned = some server → first = second

end Journal

/-- Only threads for a peer's messages take them. -/
theorem Work.peer?_of_takes {peer : Peer} (takes : work.licence.takes = some peer) :
    work.peer? = some peer := by
  cases work with
  | serveEditor | serveSession => exact takes
  | _ => cases takes

namespace Journal

theorem mem_works_did {thread : Nat} {act : Act} {given : Work} :
    given ∈ works (journal ++ [.did thread act]) ↔
      given ∈ journal.works ∨ ∃ number, act.forked? = some (given, number) := by
  rw [works_did, List.mem_append]
  cases forked : act.forked? with
  | none => simp
  | some both =>
    obtain ⟨new, number⟩ := both
    simp [eq_comm]

/-- A server on a thread's mind was started just now, or was on its mind before. -/
theorem spawned_did {thread other : Nat} {act : Act} {server : ServerId}
    (spawned : (posture (journal ++ [.did thread act]) other).spawned = some server) :
    other = thread ∧ act.spawned? = some server ∨
      (journal.posture other).spawned = some server ∧ (other = thread →
        ∀ session number, act.forked? ≠ some (.serveSession session, number)) := by
  by_cases same : other = thread
  · subst same
    rw [posture_did_self] at spawned
    exact (Posture.spawned_after spawned).imp (⟨rfl, ·⟩) fun before => ⟨before.1, fun _ => before.2⟩
  · rw [posture_did_of_ne same] at spawned
    exact .inr ⟨spawned, fun impossible => absurd impossible same⟩

/-- A thread for a server's messages is started by one that takes them, or by the one that started
the server. -/
theorem Kept.hand_over (kept : Kept setup tree journal now) {thread : Nat} {given : Work}
    {onward : Nat → Script (Outcome Json)}
    (here : now.threads[thread]? = some (.step (.fork given) onward))
    (serves : given.peer? = some peer) :
    (∃ work, journal.works[thread]? = some work ∧ work.peer? = some peer) ∨
      ∃ server, peer = .server server ∧ (journal.posture thread).spawned = some server := by
  obtain ⟨work, started, allows⟩ := kept.allows here (0 : Nat)
  exact (allows.hand_over serves).imp_left fun takes => ⟨work, started, Work.peer?_of_takes takes⟩

theorem Fresh.frame {world after : World} {other : Journal} (fresh : journal.Fresh world)
    (works : other.works = journal.works) (postures : other.posture = journal.posture)
    (started : after.started = world.started) : other.Fresh after where
  served := by
    rw [works, started]
    exact fresh.served
  counted := by
    rw [postures, started]
    exact fresh.counted
  unserved := by
    rw [works, postures]
    exact fresh.unserved
  sole := by
    rw [postures]
    exact fresh.sole

theorem Fresh.did (fresh : journal.Fresh now.world) (kept : Kept setup tree journal now)
    {thread : Nat} {operation : Operation} {onward : operation.Answer → Script (Outcome Json)}
    {world : World} {answer : operation.Answer}
    (here : now.threads[thread]? = some (.step operation onward))
    (performed : now.world.perform setup.host thread operation = some (world, answer)) :
    Fresh (journal ++ [.did thread ⟨operation, answer⟩]) world := by
  have moved := World.moved performed
  have grown {server : ServerId} (before : server.number ≤ now.world.started server.language) :
      server.number ≤ world.started server.language :=
    Nat.le_trans before (moved.started _)
  have handing {given : Work} {number : Nat} {server : ServerId}
      (forked : Act.forked? ⟨operation, answer⟩ = some (given, number))
      (serves : given.peer? = some (.server server)) :
      (∃ work ∈ journal.works, work.peer? = some (.server server)) ∨
        (journal.posture thread).spawned = some server := by
    cases operation with
    | fork =>
      cases forked
      rcases kept.hand_over here serves with ⟨work, started, same⟩ | ⟨_, same, spawned⟩
      · exact .inl ⟨work, List.mem_of_getElem? started, same⟩
      · cases same
        exact .inr spawned
    | _ => cases forked
  constructor
  · intro given member server serves
    rcases mem_works_did.mp member with before | ⟨number, forked⟩
    · exact grown (fresh.served given before server serves)
    · rcases handing forked serves with ⟨work, before, same⟩ | spawned
      · exact grown (fresh.served work before _ same)
      · exact grown (fresh.counted thread _ spawned)
  · intro other server spawned
    rcases spawned_did spawned with ⟨_, new⟩ | ⟨before, _⟩
    · exact (moved.spawned server new).2
    · exact grown (fresh.counted other server before)
  · intro other server spawned given member serves
    rcases mem_works_did.mp member with before | ⟨number, forked⟩ <;>
      rcases spawned_did spawned with ⟨_, new⟩ | ⟨old, idle⟩
    · have known := fresh.served given before server serves
      exact Nat.not_lt.mpr known (moved.spawned server new).1
    · exact fresh.unserved other server old given before serves
    · cases operation with
      | spawn => cases forked
      | _ => cases new
    · rcases handing forked serves with ⟨work, before, same⟩ | pending
      · exact fresh.unserved other server old work before same
      · have own := fresh.sole other thread server old pending
        cases given with
        | serveSession session => exact idle own session number forked
        | _ => cases serves
  · intro first second server spawned again
    rcases spawned_did spawned with ⟨rfl, new⟩ | ⟨old, _⟩ <;>
      rcases spawned_did again with ⟨rfl, renewed⟩ | ⟨older, _⟩
    · rfl
    · exact absurd (fresh.counted second server older) (Nat.not_le.mpr (moved.spawned server new).1)
    · exact absurd (fresh.counted first server old)
        (Nat.not_le.mpr (moved.spawned server renewed).1)
    · exact fresh.sole first second server old older

theorem Kept.fresh (kept : Kept setup tree journal now) : journal.Fresh now.world := by
  induction kept with
  | begin =>
    constructor
    · intro work member server serves
      cases List.mem_singleton.mp member
      cases serves
    · intro _ _ spawned
      cases spawned
    · intro _ _ spawned
      cases spawned
    · intro _ _ _ spawned
      cases spawned
  | did kept here performed ih => exact (ih.did kept here performed).frame rfl rfl rfl
  | ended _ _ _ ih => exact ih.frame works_ended (funext fun _ => posture_ended) rfl
  | happened _ happening ih =>
    rw [System.occur_eq]
    refine ih.frame (works_happened _) (funext fun _ => posture_happened _) ?_
    unfold World.started
    rw [(World.Undisturbed.happening _ happening).connected]

end Journal

/-- Where a thread for a peer's messages stands after what it did: it waits for a message, or does what
is left to do when there are no more, or it handles one, or hands over. -/
inductive Work.Stands (setup : Setup) (work : Work) (peer : Peer) :
    List Act → Script (Outcome Json) → Prop
  | waiting {onward : Option Message → Script (Outcome Json)} :
      Stands setup work peer [] (.step (.receive peer) onward)
  | ending {acts : List Act} {left : Script (Outcome Json)} (does : work.ending.Does acts left) :
      Stands setup work peer (⟨.receive peer, (none : Option Message)⟩ :: acts) left
  | handling {message : Message} {acts : List Act} {operation : Operation}
      {onward : operation.Answer → Script Unit}
      (does : (work.handling setup message).Does acts (.step operation onward)) :
      Stands setup work peer (⟨.receive peer, some message⟩ :: acts)
        ((Script.step operation onward).bind fun _ => work.handOver)
  | handing {message : Message} {acts : List Act}
      (does : (work.handling setup message).Does acts (.done ())) :
      Stands setup work peer (⟨.receive peer, some message⟩ :: acts) work.handOver
  | handed {message : Message} {acts : List Act} {next : Nat}
      (does : (work.handling setup message).Does acts (.done ())) :
      Stands setup work peer (⟨.receive peer, some message⟩ :: acts ++ [⟨.fork work, next⟩])
        (.done Program.quiet)

theorem Work.stands {acts : List Act} {left : Script (Outcome Json)}
    (takes : work.peer? = some peer) (does : (Program.scriptOf setup work).Does acts left) :
    work.Stands setup peer acts left := by
  rw [Program.scriptOf_of_peer? setup takes] at does
  rcases does.of_step with ⟨rfl, rfl⟩ | ⟨received, rest, rfl, onward⟩
  · exact .waiting
  cases received with
  | none => exact .ending onward
  | some message =>
    have halves : (work.handling setup message).Halves (fun _ => work.handOver) rest left :=
      Script.Does.of_bind onward
    cases halves with
    | amid handling stands =>
      subst stands
      exact .handling handling
    | beyond whole handled rest =>
      subst whole
      rcases Script.Does.of_step rest with ⟨rfl, rfl⟩ | ⟨next, last, rfl, ending⟩
      · rw [List.append_nil]
        exact .handing handled
      · obtain ⟨rfl, rfl⟩ := ending.of_done
        exact .handed handled

/-- A leg of a relay: a thread took a message and handled it; then it hands over to another. -/
structure Leg where
  thread : Nat
  message : Message
  handling : List Act
  next : Option Nat

/-- How a leg hands over, once it does. -/
def Leg.passing (work : Work) (leg : Leg) : List Act :=
  match leg.next with
  | none => []
  | some next => [⟨.fork work, next⟩]

/-- All that is done in a leg. -/
def Leg.acts (peer : Peer) (work : Work) (leg : Leg) : List Act :=
  ⟨.receive peer, some leg.message⟩ :: leg.handling ++ leg.passing work

theorem Leg.does {leg : Leg} (takes : work.peer? = some peer) (passed : leg.next.isSome)
    (handled : (work.handling setup leg.message).Does leg.handling (.done ())) :
    (Program.scriptOf setup work).Does (leg.acts peer work) (.done Program.quiet) := by
  obtain ⟨next, same⟩ := Option.isSome_iff_exists.mp passed
  rw [Program.scriptOf_of_peer? setup takes, Leg.acts, Leg.passing, same]
  have handing : work.handOver.Does [⟨.fork work, next⟩] (.done Program.quiet) :=
    .act _ (.nothing _)
  exact .act _ ((handled.bind fun _ => work.handOver).trans handing)

namespace Journal

/-- Whether a thread is for a peer's messages. -/
def serves (journal : Journal) (peer : Peer) (thread : Nat) : Bool :=
  (journal.works[thread]?.bind Work.peer?) = some peer

/-- The messages of a peer have been handled leg by leg, and the last thread of the relay is at the
next. -/
structure Relay (setup : Setup) (journal : Journal) (peer : Peer) (work : Work) (legs : List Leg)
    (last : Nat) : Prop where
  takes : work.peer? = some peer
  same : ∀ thread, journal.serves peer thread = true → journal.works[thread]? = some work
  threads : (List.range journal.works.length).filter (journal.serves peer) =
    legs.map Leg.thread ++ [last]
  handled : ∀ leg ∈ legs, (work.handling setup leg.message).Does leg.handling (.done ())
  passed : ∀ leg ∈ legs, leg.next.isSome
  own : ∀ leg ∈ legs, journal.actsOf leg.thread = leg.acts peer work
  order : journal.actsBy (journal.serves peer) =
    legs.flatMap (Leg.acts peer work) ++ journal.actsOf last
  keeps : ∀ next, (⟨.fork work, next⟩ : Act) ∉ journal.actsOf last

variable {legs : List Leg} {last : Nat}

theorem serves_iff {thread : Nat} : journal.serves peer thread = true ↔
    ∃ work, journal.works[thread]? = some work ∧ work.peer? = some peer := by
  simp [serves, Option.bind_eq_some_iff]

theorem Relay.serves_last (relay : Relay setup journal peer work legs last) :
    journal.serves peer last = true := by
  have member : last ∈ legs.map Leg.thread ++ [last] := by simp
  rw [← relay.threads, List.mem_filter] at member
  exact member.2

theorem Relay.serves_leg (relay : Relay setup journal peer work legs last) {leg : Leg}
    (there : leg ∈ legs) : journal.serves peer leg.thread = true := by
  have member : leg.thread ∈ legs.map Leg.thread ++ [last] :=
    List.mem_append_left _ (List.mem_map_of_mem there)
  rw [← relay.threads, List.mem_filter] at member
  exact member.2

/-- Threads that have handed over have come to their end. -/
theorem Relay.leg_done (relay : Relay setup journal peer work legs last)
    (kept : Kept setup tree journal now) {leg : Leg} (there : leg ∈ legs) :
    now.threads[leg.thread]? = some (.done Program.quiet) := by
  obtain ⟨script, found, does⟩ := kept.script (relay.same _ (relay.serves_leg there))
  rw [relay.own leg there] at does
  rw [found, does.unique (Leg.does relay.takes (relay.passed leg there) (relay.handled leg there))]

/-- Only the last thread of a relay has not come to its end. -/
theorem Relay.eq_last (relay : Relay setup journal peer work legs last)
    (kept : Kept setup tree journal now) {thread : Nat} {operation : Operation}
    {onward : operation.Answer → Script (Outcome Json)}
    (here : now.threads[thread]? = some (.step operation onward))
    (serves : journal.serves peer thread = true) : thread = last := by
  have within := (List.getElem?_eq_some_iff.mp (relay.same thread serves)).1
  have member : thread ∈ (List.range journal.works.length).filter (journal.serves peer) :=
    List.mem_filter.mpr ⟨List.mem_range.mpr within, serves⟩
  rw [relay.threads, List.mem_append, List.mem_map, List.mem_singleton] at member
  rcases member with ⟨leg, there, rfl⟩ | same
  · cases here.symm.trans (relay.leg_done kept there)
  · exact same

theorem serves_did {thread : Nat} (act : Act) {other : Nat} (old : other < journal.works.length) :
    serves (journal ++ [.did thread act]) peer other = journal.serves peer other := by
  rw [serves, works_did, List.getElem?_append_left old, serves]

/-- Who serves whom is settled for all that have done anything. -/
theorem Kept.actsBy_serves_did (kept : Kept setup tree journal now) (thread : Nat) (act : Act) :
    journal.actsBy (serves (journal ++ [.did thread act]) peer) =
      journal.actsBy (journal.serves peer) := by
  refine actsBy_congr fun other done member => ?_
  rw [serves_did act (kept.thread_lt member)]

/-- The threads for a peer's messages, once a thread has done something. -/
theorem filter_serves_did (thread : Nat) (act : Act) :
    (List.range (works (journal ++ [.did thread act])).length).filter
        (serves (journal ++ [.did thread act]) peer) =
      (List.range journal.works.length).filter (journal.serves peer) ++
        if (act.forked?.bind (·.1.peer?)) = some peer then [journal.works.length] else [] := by
  have old : (List.range journal.works.length).filter
        (serves (journal ++ [.did thread act]) peer) =
      (List.range journal.works.length).filter (journal.serves peer) :=
    List.filter_congr fun other member => serves_did act (List.mem_range.mp member)
  cases forked : act.forked? with
  | none => simp [forked, old]
  | some both =>
    have new : serves (journal ++ [.did thread act]) peer journal.works.length =
        decide (both.1.peer? = some peer) := by
      simp [serves, forked]
    have length : (works (journal ++ [.did thread act])).length = journal.works.length + 1 := by
      simp [forked]
    rw [length, List.range_succ, List.filter_append, old, List.filter_cons, new]
    simp

theorem Relay.frame {other : Journal} (relay : Relay setup journal peer work legs last)
    (works : other.works = journal.works) (acts : other.actsBy = journal.actsBy) :
    Relay setup other peer work legs last := by
  have serves : other.serves peer = journal.serves peer := by
    funext thread
    rw [Journal.serves, works, Journal.serves]
  have own (thread : Nat) : other.actsOf thread = journal.actsOf thread := congrFun acts _
  constructor
  · exact relay.takes
  · rw [serves, works]
    exact relay.same
  · rw [serves, works]
    exact relay.threads
  · exact relay.handled
  · exact relay.passed
  · intro leg there
    rw [own]
    exact relay.own leg there
  · rw [serves, acts, own]
    exact relay.order
  · rw [own]
    exact relay.keeps

section Advancing

variable {thread : Nat} {operation : Operation}
  {onward : operation.Answer → Script (Outcome Json)} {answer : operation.Answer}

/-- Whatever is done without handing over keeps the relay where it is. -/
theorem Relay.did (relay : Relay setup journal peer work legs last)
    (kept : Kept setup tree journal now)
    (here : now.threads[thread]? = some (.step operation onward))
    (other : ∀ given number, Act.forked? ⟨operation, answer⟩ = some (given, number) →
      given.peer? ≠ some peer) :
    Relay setup (journal ++ [.did thread ⟨operation, answer⟩]) peer work legs last := by
  have within : thread < journal.works.length := by
    rw [← kept.threads_length]
    exact (List.getElem?_eq_some_iff.mp here).1
  have apart : ¬ (Act.forked? ⟨operation, answer⟩).bind (·.1.peer?) = some peer := by
    intro forked
    obtain ⟨⟨given, number⟩, made, serves⟩ := Option.bind_eq_some_iff.mp forked
    exact other given number made serves
  constructor
  · exact relay.takes
  · intro some serves
    obtain ⟨given, started, takes⟩ := serves_iff.mp serves
    rw [works_did] at started ⊢
    by_cases old : some < journal.works.length
    · rw [serves_did _ old] at serves
      rw [List.getElem?_append_left old]
      exact relay.same some serves
    · rw [List.getElem?_append_right (Nat.not_lt.mp old)] at started
      obtain ⟨both, made, rfl⟩ := Option.map_eq_some_iff.mp
        (Option.mem_toList.mp (List.mem_of_getElem? started))
      exact absurd takes (other _ _ made)
  · rw [filter_serves_did, if_neg apart, List.append_nil]
    exact relay.threads
  · exact relay.handled
  · exact relay.passed
  · intro leg there
    have another : leg.thread ≠ thread := by
      rintro rfl
      cases here.symm.trans (relay.leg_done kept there)
    rw [actsOf_did_of_ne another]
    exact relay.own leg there
  · rw [actsBy_append, kept.actsBy_serves_did, relay.order, actsBy_did, serves_did _ within]
    by_cases serves : journal.serves peer thread = true
    · obtain rfl := relay.eq_last kept here serves
      rw [if_pos serves, actsOf_did_self, List.append_assoc]
    · have another : last ≠ thread := by
        rintro rfl
        exact serves relay.serves_last
      rw [if_neg serves, List.append_nil, actsOf_did_of_ne another]
  · intro next member
    by_cases same : last = thread
    · subst same
      rw [actsOf_did_self, List.mem_append, List.mem_singleton] at member
      rcases member with before | new
      · exact relay.keeps next before
      · exact other work next (congrArg Act.forked? new.symm) relay.takes
    · rw [actsOf_did_of_ne same] at member
      exact relay.keeps next member

/-- While a server's messages are taken, no thread has just started it. -/
theorem Kept.not_spawned (kept : Kept setup tree journal now) {thread other : Nat}
    {server : ServerId} (serves : journal.serves (.server server) other = true) :
    (journal.posture thread).spawned ≠ some server := by
  intro spawned
  obtain ⟨work, started, takes⟩ := serves_iff.mp serves
  exact kept.fresh.unserved thread server spawned work (List.mem_of_getElem? started) takes

/-- A script under a licence that takes no messages does not hand over. -/
theorem Relay.stays (relay : Relay setup journal peer work legs last)
    (kept : Kept setup tree journal now) {α : Type} {script : Script α} {acts : List Act}
    {given : Work} {next : Nat → Script α} {licence : Licence}
    (behaves : script.Behaves licence false) (idle : licence.takes = none)
    (does : script.Does acts (.step (.fork given) next)) (serves : given.peer? = some peer)
    (same : acts.foldl Posture.after {} = journal.posture last) : False := by
  obtain ⟨_, guided⟩ := behaves.does does
  obtain ⟨_, turns, _⟩ := guided (0 : Nat) trivial
  rcases turns.1.hand_over serves with takes | ⟨server, rfl, spawned⟩
  · rw [idle] at takes
    cases takes
  · rw [same] at spawned
    exact kept.not_spawned relay.serves_last spawned

/-- Only the last thread hands over, having handled its message. -/
theorem Relay.handing (relay : Relay setup journal peer work legs last)
    (kept : Kept setup tree journal now) {given : Work} {next : Nat → Script (Outcome Json)}
    (here : now.threads[thread]? = some (.step (.fork given) next))
    (serves : given.peer? = some peer) : thread = last ∧ given = work ∧
      ∃ message acts, journal.actsOf last = ⟨.receive peer, some message⟩ :: acts ∧
        (work.handling setup message).Does acts (.done ()) := by
  rcases kept.hand_over here serves with ⟨own, started, takes⟩ | ⟨server, rfl, spawned⟩
  · obtain rfl := relay.eq_last kept here (serves_iff.mpr ⟨own, started, takes⟩)
    obtain ⟨script, found, does⟩ := kept.script (relay.same _ relay.serves_last)
    obtain rfl : _ = script := Option.some.inj (here.symm.trans found)
    have stands := Work.stands relay.takes does
    have posture : journal.posture thread = (journal.actsOf thread).foldl Posture.after {} := rfl
    generalize journal.actsOf thread = acts at stands posture
    generalize whole : Script.step (.fork given) next = left at stands
    cases stands with
    | waiting => cases whole
    | ending ends =>
      subst whole
      exact (relay.stays kept (Program.ending_behaves {} work) rfl ends serves
        posture.symm).elim
    | @handling message acts operation onward handles =>
      cases whole
      exact (relay.stays kept (Program.handling_behaves setup work message none) rfl handles serves
        posture.symm).elim
    | handing handled =>
      cases whole
      exact ⟨rfl, rfl, _, _, rfl, handled⟩
    | handed => cases whole
  · exact absurd spawned (kept.not_spawned relay.serves_last)

/-- The relay goes on with the thread that was handed over to. -/
theorem Relay.handed (relay : Relay setup journal peer work legs last)
    (kept : Kept setup tree journal now) {given : Work} {next : Nat → Script (Outcome Json)}
    {number : Nat} (here : now.threads[thread]? = some (.step (.fork given) next))
    (serves : given.peer? = some peer) (new : number = journal.works.length) :
    ∃ leg, Relay setup (journal ++ [.did thread ⟨.fork given, number⟩]) peer work (legs ++ [leg])
      number := by
  obtain ⟨rfl, rfl, message, acts, took, handled⟩ := relay.handing kept here serves
  have within : thread < journal.works.length :=
    (List.getElem?_eq_some_iff.mp (relay.same _ relay.serves_last)).1
  have other : number ≠ thread := by omega
  have untouched : actsOf (journal ++ [.did thread ⟨.fork given, number⟩]) number = [] := by
    rw [actsOf_did_of_ne other, kept.actsOf_of_le (Nat.le_of_eq new.symm)]
  refine ⟨⟨thread, message, acts, some number⟩, relay.takes, ?_, ?_, ?_, ?_, ?_, ?_, ?_⟩
  · intro some serves
    rw [works_did]
    by_cases old : some < journal.works.length
    · rw [serves_did _ old] at serves
      rw [List.getElem?_append_left old]
      exact relay.same some serves
    · obtain ⟨started, there, _⟩ := serves_iff.mp serves
      rw [works_did, List.getElem?_append_right (Nat.not_lt.mp old)] at there
      rw [List.getElem?_append_right (Nat.not_lt.mp old), there]
      exact congrArg _ (List.mem_singleton.mp (List.mem_of_getElem? there))
  · have forked : (Act.forked? ⟨.fork given, number⟩).bind (·.1.peer?) = some peer := serves
    rw [filter_serves_did, if_pos forked, relay.threads, new]
    simp
  · intro leg there
    rcases List.mem_append.mp there with before | last
    · exact relay.handled leg before
    · cases List.mem_singleton.mp last
      exact handled
  · intro leg there
    rcases List.mem_append.mp there with before | last
    · exact relay.passed leg before
    · cases List.mem_singleton.mp last
      rfl
  · intro leg there
    rcases List.mem_append.mp there with before | last
    · have another : leg.thread ≠ thread := by
        rintro same
        cases here.symm.trans (same ▸ relay.leg_done kept before)
      rw [actsOf_did_of_ne another]
      exact relay.own leg before
    · cases List.mem_singleton.mp last
      rw [actsOf_did_self, took]
      rfl
  · rw [actsBy_append, kept.actsBy_serves_did, relay.order, actsBy_did, serves_did _ within,
      if_pos relay.serves_last, untouched, List.append_nil, took, List.flatMap_append,
      List.append_assoc]
    simp [Leg.acts, Leg.passing]
  · rw [untouched]
    exact fun _ => List.not_mem_nil

/-- A relay begins with the first thread for a peer's messages. -/
theorem Relay.born (kept : Kept setup tree journal now)
    (unserved : ∀ work ∈ journal.works, work.peer? ≠ some peer) {given : Work}
    {next : Nat → Script (Outcome Json)} {number : Nat}
    (here : now.threads[thread]? = some (.step (.fork given) next))
    (serves : given.peer? = some peer) (new : number = journal.works.length) :
    Relay setup (journal ++ [.did thread ⟨.fork given, number⟩]) peer given [] number := by
  have within : thread < journal.works.length := by
    rw [← kept.threads_length]
    exact (List.getElem?_eq_some_iff.mp here).1
  have nobody (other : Nat) : journal.serves peer other = false := by
    rw [Bool.eq_false_iff]
    intro takes
    obtain ⟨work, started, same⟩ := serves_iff.mp takes
    exact unserved work (List.mem_of_getElem? started) same
  have none : (List.range journal.works.length).filter (journal.serves peer) = [] :=
    List.filter_eq_nil_iff.mpr fun other _ => by simp [nobody other]
  have idle : journal.actsBy (journal.serves peer) = [] := by
    rw [List.eq_nil_iff_forall_not_mem]
    intro act member
    obtain ⟨other, takes, _⟩ := mem_actsBy.mp member
    rw [nobody] at takes
    cases takes
  have other : number ≠ thread := by omega
  have untouched : actsOf (journal ++ [.did thread ⟨.fork given, number⟩]) number = [] := by
    rw [actsOf_did_of_ne other, kept.actsOf_of_le (Nat.le_of_eq new.symm)]
  refine ⟨serves, ?_, ?_, List.forall_mem_nil _, List.forall_mem_nil _, List.forall_mem_nil _, ?_, ?_⟩
  · intro some takes
    rw [works_did]
    by_cases old : some < journal.works.length
    · rw [serves_did _ old, nobody] at takes
      cases takes
    · obtain ⟨started, there, _⟩ := serves_iff.mp takes
      rw [works_did, List.getElem?_append_right (Nat.not_lt.mp old)] at there
      rw [List.getElem?_append_right (Nat.not_lt.mp old), there]
      exact congrArg _ (List.mem_singleton.mp (List.mem_of_getElem? there))
  · have forked : (Act.forked? ⟨.fork given, number⟩).bind (·.1.peer?) = some peer := serves
    rw [filter_serves_did, if_pos forked, none, new]
    rfl
  · rw [actsBy_append, kept.actsBy_serves_did, idle, actsBy_did, serves_did _ within, nobody,
      untouched]
    rfl
  · rw [untouched]
    exact fun _ => List.not_mem_nil

end Advancing

/-- Only its threads take the messages of a peer. -/
theorem Kept.received_eq (kept : Kept setup tree journal now) (peer : Peer) :
    journal.received peer =
      (journal.actsBy (journal.serves peer)).filterMap (Act.received? peer) := by
  refine filterMap_acts fun thread act member received => ?_
  obtain ⟨work, _, started, allows⟩ := kept.allowed member
  obtain ⟨operation, answer⟩ := act
  cases operation with
  | receive other =>
    by_cases same : other = peer
    · subst same
      exact serves_iff.mpr ⟨work, started, Work.peer?_of_takes allows.receive⟩
    · simp [Act.received?, same] at received
  | _ => cases received

/-- Whoever takes no messages has none to show for it. -/
theorem received_of_idle {licence : Licence} {posture after : Posture} {acts : List Act}
    (follows : licence.rules.Follows posture acts after) (idle : licence.takes = none) :
    acts.filterMap (Act.received? peer) = [] := by
  refine follows.filterMap_eq_nil fun act between allows => ?_
  obtain ⟨operation, answer⟩ := act
  cases operation with
  | receive =>
    have takes := allows.receive
    rw [idle] at takes
    cases takes
  | _ => rfl

/-- Whoever may not reply to a peer has no reply to show for it. -/
theorem replies_of_silent {licence : Licence} {posture after : Posture} {acts : List Act}
    (follows : licence.rules.Follows posture acts after)
    (silent : licence.replies ≠ some peer) : acts.filterMap (Act.reply? peer) = [] := by
  refine follows.filterMap_eq_nil fun act between allows => ?_
  rw [← Option.not_isSome_iff_eq_none]
  exact fun replied => silent (allows.replied replied)

/-- Nobody takes the messages of a peer, or they are handled leg by leg. -/
theorem Kept.relay (kept : Kept setup tree journal now) (peer : Peer) :
    (∀ work ∈ journal.works, work.peer? ≠ some peer) ∨
      ∃ work legs last, Relay setup journal peer work legs last := by
  induction kept with
  | begin =>
    cases peer with
    | editor =>
      refine .inr ⟨.serveEditor, [], 0, rfl, ?_, rfl, List.forall_mem_nil _, List.forall_mem_nil _,
        List.forall_mem_nil _, rfl, fun _ => List.not_mem_nil⟩
      intro thread serves
      obtain ⟨work, started, _⟩ := serves_iff.mp serves
      cases thread with
      | zero => rfl
      | succ => cases started
    | server server =>
      refine .inl fun work member => ?_
      cases List.mem_singleton.mp member
      simp [Work.peer?]
  | @did journal now thread operation onward world answer kept here performed ih =>
    by_cases forks : ∃ given number, Act.forked? ⟨operation, answer⟩ = some (given, number) ∧
        given.peer? = some peer
    · obtain ⟨given, number, forked, serves⟩ := forks
      cases operation with
      | fork =>
        cases forked
        cases performed
        rcases ih with unserved | ⟨work, legs, last, relay⟩
        · exact .inr ⟨given, [], _, .born kept unserved here serves kept.begun⟩
        · obtain ⟨leg, further⟩ := relay.handed kept here serves kept.begun
          exact .inr ⟨work, _, _, further⟩
      | _ => cases forked
    · have other (given : Work) (number : Nat)
          (forked : Act.forked? ⟨operation, answer⟩ = some (given, number)) :
          given.peer? ≠ some peer := fun serves => forks ⟨given, number, forked, serves⟩
      rcases ih with unserved | ⟨work, legs, last, relay⟩
      · refine .inl fun given member => ?_
        rcases mem_works_did.mp member with before | ⟨number, forked⟩
        · exact unserved given before
        · exact other given number forked
      · exact .inr ⟨work, legs, last, relay.did kept here other⟩
  | ended _ _ _ ih =>
    refine ih.imp (by simp) fun ⟨work, legs, last, relay⟩ => ⟨work, legs, last, ?_⟩
    exact relay.frame works_ended (funext fun _ => by simp)
  | happened _ happening ih =>
    refine ih.imp (by simp) fun ⟨work, legs, last, relay⟩ => ⟨work, legs, last, ?_⟩
    exact relay.frame (works_happened _) (funext fun _ => by simp)

/-- What the threads for a peer's messages have done beyond those that are handled: nothing, though
one can go on as soon as there are more; or what is left to do when no more come; or the next is
under way. -/
inductive Rests (setup : Setup) (journal : Journal) (now : System) (peer : Peer) (work : Work)
    (thread : Nat) : Option Message → List Act → Prop
  | ready (able : now.world.waiting peer ≠ [] → (Program.step setup now thread).isSome = true) :
      Rests setup journal now peer work thread none []
  | ended {acts : List Act} {left : Script (Outcome Json)} (silent : peer ∈ now.world.silent)
      (here : now.threads[thread]? = some left) (does : work.ending.Does acts left) :
      Rests setup journal now peer work thread none
        (⟨.receive peer, (none : Option Message)⟩ :: acts)
  | under {message : Message} {acts : List Act} {operation : Operation}
      {onward : operation.Answer → Script Unit}
      (own : journal.actsOf thread = ⟨.receive peer, some message⟩ :: acts)
      (here : now.threads[thread]? =
        some ((Script.step operation onward).bind fun _ => work.handOver))
      (does : (work.handling setup message).Does acts (.step operation onward)) :
      Rests setup journal now peer work thread (some message) (⟨.receive peer, some message⟩ :: acts)

/-- What has become of the messages of a peer: some are handled, one after the other and each by a
thread of its own, one may be under way, and the others wait. -/
structure Attended (setup : Setup) (journal : Journal) (now : System) (peer : Peer) (work : Work)
    (handled : List Leg) (under : Option Message) : Prop where
  takes : work.peer? = some peer
  delivered : journal.delivered peer =
    handled.map Leg.message ++ under.toList ++ now.world.waiting peer
  done : ∀ leg ∈ handled, (work.handling setup leg.message).Does leg.handling (.done ())
  own : ∀ leg ∈ handled, journal.actsOf leg.thread = leg.acts peer work
  order : ∃ thread rest, journal.serves peer thread = true ∧
    journal.actsBy (journal.serves peer) = handled.flatMap (Leg.acts peer work) ++ rest ∧
    Rests setup journal now peer work thread under rest

/-- What a leg shows beside the taking of its message is shown by the handling. -/
theorem filterMap_leg {β : Type} {read : Act → Option β}
    (passing : ∀ next, read ⟨.fork work, next⟩ = none) (leg : Leg) :
    (leg.acts peer work).filterMap read =
      (read ⟨.receive peer, some leg.message⟩).toList ++ leg.handling.filterMap read := by
  have passed : (leg.passing work).filterMap read = [] := by
    unfold Leg.passing
    split
    · rfl
    · exact List.filterMap_cons_none (passing _)
  rw [Leg.acts, List.filterMap_append, passed, List.append_nil, List.filterMap_cons]
  cases read ⟨.receive peer, some leg.message⟩ <;> rfl

theorem filterMap_legs {β : Type} {read : Act → Option β}
    (passing : ∀ next, read ⟨.fork work, next⟩ = none) (legs : List Leg) :
    (legs.flatMap (Leg.acts peer work)).filterMap read = legs.flatMap fun leg =>
      (read ⟨.receive peer, some leg.message⟩).toList ++ leg.handling.filterMap read := by
  rw [List.filterMap_flatMap]
  exact congrArg (List.flatMap · legs) (funext fun leg => filterMap_leg passing leg)

theorem received_handling {message : Message} {acts : List Act} {left : Script Unit}
    (does : (work.handling setup message).Does acts left) :
    acts.filterMap (Act.received? peer) = [] :=
  received_of_idle ((Program.handling_behaves setup work message none).does does).1 rfl

theorem received_legs {legs : List Leg}
    (done : ∀ leg ∈ legs, (work.handling setup leg.message).Does leg.handling (.done ())) :
    (legs.flatMap (Leg.acts peer work)).filterMap (Act.received? peer) =
      legs.map Leg.message := by
  rw [filterMap_legs fun _ => rfl]
  induction legs with
  | nil => rfl
  | cons leg rest ih =>
    obtain ⟨handled, later⟩ := List.forall_mem_cons.mp done
    rw [List.flatMap_cons, ih later, received_handling handled, List.map_cons]
    simp [Act.received?]

/-- What is left of a relay once its last thread's message is handled. -/
theorem Relay.attended_of (relay : Relay setup journal peer work legs last)
    (kept : Kept setup tree journal now) {handled : List Leg} {under : Option Message}
    {rest : List Act}
    (done : ∀ leg ∈ handled, (work.handling setup leg.message).Does leg.handling (.done ()))
    (own : ∀ leg ∈ handled, journal.actsOf leg.thread = leg.acts peer work)
    (order : journal.actsBy (journal.serves peer) = handled.flatMap (Leg.acts peer work) ++ rest)
    (rests : Rests setup journal now peer work last under rest) :
    Attended setup journal now peer work handled under := by
  refine ⟨relay.takes, ?_, done, own, last, rest, relay.serves_last, order, rests⟩
  have took : rest.filterMap (Act.received? peer) = under.toList := by
    cases rests with
    | ready => rfl
    | ended _ _ does =>
      have ends := ((Program.ending_behaves {} work).does does).1
      simp [Act.received?, received_of_idle ends rfl]
    | under _ _ does => simp [Act.received?, received_handling does]
  rw [kept.delivered, kept.received_eq, order, List.filterMap_append, received_legs done, took]

/-- The messages of a peer whose messages are taken at all are attended to. -/
theorem Kept.attended (kept : Kept setup tree journal now) (member : work ∈ journal.works)
    (takes : work.peer? = some peer) :
    ∃ handled under, Attended setup journal now peer work handled under := by
  obtain unserved | ⟨given, legs, last, relay⟩ := kept.relay peer
  · exact absurd takes (unserved work member)
  obtain ⟨thread, started⟩ := List.getElem?_of_mem member
  obtain rfl : work = given := Option.some.inj
    (started.symm.trans (relay.same thread (serves_iff.mpr ⟨work, started, takes⟩)))
  obtain ⟨script, here, does⟩ := kept.script (relay.same last relay.serves_last)
  have order := relay.order
  have keeps := relay.keeps
  generalize whole : journal.actsOf last = acts at does order keeps
  cases Work.stands takes does with
  | waiting =>
    refine ⟨legs, none, relay.attended_of kept relay.handled relay.own order (.ready fun some => ?_)⟩
    refine Program.step_isSome here ?_
    unfold World.waiting at some
    simp only [World.perform, World.receive]
    split
    · rfl
    · rename_i nothing
      exact absurd nothing some
  | ending ends =>
    have member : (⟨.receive peer, (none : Option Message)⟩ : Act) ∈ journal.actsOf last := by
      simp [whole]
    obtain ⟨_, _, there⟩ := mem_actsBy.mp member
    exact ⟨legs, none, relay.attended_of kept relay.handled relay.own order
      (.ended (kept.silent (mem_actsBy.mpr ⟨_, rfl, there⟩)) here ends)⟩
  | @handling message acts operation onward handles =>
    exact ⟨legs, some message, relay.attended_of kept relay.handled relay.own order
      (.under whole here handles)⟩
  | @handing message acts handled =>
    let leg : Leg := ⟨last, message, acts, none⟩
    have shown : leg.acts peer work = ⟨.receive peer, some message⟩ :: acts :=
      List.append_nil _
    refine ⟨legs ++ [leg], none, relay.attended_of kept ?_ ?_ ?_ (.ready fun _ => ?_)⟩
    · exact fun other there => (List.mem_append.mp there).elim (relay.handled other) fun same =>
        List.mem_singleton.mp same ▸ handled
    · exact fun other there => (List.mem_append.mp there).elim (relay.own other) fun same =>
        List.mem_singleton.mp same ▸ whole.trans shown.symm
    · rw [order, List.flatMap_append, List.append_nil]
      simp [shown]
    · exact Program.step_isSome here rfl
  | @handed message acts next handled => exact absurd (by simp) (keeps next)

/-- What only the handling of messages shows, and only once it is done, is shown by the messages that
are handled. -/
theorem Attended.filterMap {β : Type} {read : Act → Option β} {handled : List Leg}
    {under : Option Message} (attended : Attended setup journal now peer work handled under)
    (taking : ∀ received, read ⟨.receive peer, received⟩ = none)
    (passing : ∀ next, read ⟨.fork work, next⟩ = none)
    (amid : ∀ {message : Message} {acts : List Act} {operation : Operation}
      {onward : operation.Answer → Script Unit},
      (work.handling setup message).Does acts (.step operation onward) → acts.filterMap read = [])
    (ending : ∀ {acts : List Act} {left : Script (Outcome Json)},
      work.ending.Does acts left → acts.filterMap read = []) :
    (journal.actsBy (journal.serves peer)).filterMap read =
      handled.flatMap fun leg => leg.handling.filterMap read := by
  obtain ⟨thread, rest, _, order, rests⟩ := attended.order
  have quiet : rest.filterMap read = [] := by
    cases rests with
    | ready => rfl
    | ended _ _ does => exact (List.filterMap_cons_none (taking none)).trans (ending does)
    | under _ _ does => exact (List.filterMap_cons_none (taking _)).trans (amid does)
  rw [order, List.filterMap_append, quiet, List.append_nil, filterMap_legs passing]
  exact congrArg (List.flatMap · handled) (funext fun leg =>
    congrArg (·.toList ++ leg.handling.filterMap read) (taking (some leg.message)))

/-- Peers that are there have heard all that was said while their messages were handled. -/
theorem Attended.heard {handled : List Leg} {under : Option Message}
    (attended : Attended setup journal now peer work handled under)
    (kept : Kept setup tree journal now) {other : Peer} (alive : now.world.isAlive other = true)
    {leg : Leg} (there : leg ∈ handled) {act : Act} (member : act ∈ leg.handling) :
    act.unheard? ≠ some other := by
  have own : act ∈ journal.actsOf leg.thread := by
    rw [attended.own leg there, Leg.acts]
    exact List.mem_append_left _ (List.mem_cons_of_mem _ member)
  exact kept.heard alive (mem_acts_of_mem_actsOf own)

end Journal

end LanguageBridge
