import LanguageBridge.Proofs.Acquaintance.Newcomers
import LanguageBridge.Proofs.Server.Replies
import LanguageBridge.Proofs.Session.Start

/-!
What a server has been told when its session is put in use. Whoever starts the server tells it
nothing of documents before it is told that it is initialized, and then opens on it every document
that is found under the key of the session. All else it is told by the threads for its own messages
when they carry out edits that it asks for, and these wait for nothing.
-/
namespace LanguageBridge

/-- The server that an operation notifies. -/
def Operation.notified? : Operation → Option ServerId
  | .notify (.server server) .. => some server
  | _ => none

/-- Whether a message asks for an edit. -/
def Message.isEditRequest : Message → Bool
  | .call _ _ method _ => method = "workspace/applyEdit"
  | _ => false

/-- What an act tells a server of documents. -/
def Act.notice? (server : ServerId) (act : Act) : Option Notice :=
  act.sent?.bind (Notice.heard? server)

namespace Sent

/-- Whether a server is told that it is initialized. -/
def isInitialized (server : ServerId) : Sent → Bool
  | .notification peer method _ => peer = .server server && method = "initialized"
  | _ => false

/-- Whether a server is notified of something about a document. -/
def isOfDocument (server : ServerId) : Sent → Bool
  | .notification peer method _ =>
    peer = .server server && "textDocument/".toList.isPrefixOf method.toList
  | _ => false

/-- Whether a server is notified of something about a document before it is told that it is
initialized. -/
def toldEarly (server : ServerId) (traffic : List Sent) : Bool :=
  (traffic.takeWhile fun sent => !sent.isInitialized server).any (isOfDocument server)

end Sent

namespace Notice

/-- Whether a document is opened by a notice. -/
def opens (uri : String) : Notice → Bool
  | .opened other .. => other = uri
  | _ => false

/-- How often a document is opened by notices. -/
def timesOpened (uri : String) (notices : List Notice) : Nat := notices.countP (opens uri)

end Notice

variable {setup : Setup} {session : Session} {server : ServerId} {acts : List Act}

theorem Operation.addressee?_of_notified? {operation : Operation}
    (notified : operation.notified? = some server) : operation.addressee? = some server := by
  cases operation with
  | notify peer =>
    cases peer with
    | editor => cases notified
    | server => exact notified
  | _ => cases notified

theorem Operation.About.notified? {operation : Operation} (fits : operation.About none) :
    operation.notified? = none := by
  cases operation with
  | notify peer =>
    cases peer with
    | editor => rfl
    | server => cases fits
  | _ => rfl

theorem Act.notified?_of_sent? {act : Act} {method : String} {params : Params}
    (said : act.sent? = some (.notification (.server server) method params)) :
    act.operation.notified? = some server := by
  obtain ⟨operation, answer⟩ := act
  cases operation with
  | notify peer =>
    cases answer with
    | error => cases said
    | ok _ =>
      cases said
      rfl
  | reply | call => cases answer <;> cases said
  | _ => cases said

theorem Act.notified?_of_notice? {act : Act} (told : (act.notice? server).isSome = true) :
    act.operation.notified? = some server := by
  obtain ⟨notice, found⟩ := Option.isSome_iff_exists.mp told
  obtain ⟨sent, said, heard⟩ := Option.bind_eq_some_iff.mp found
  cases sent with
  | notification peer method params =>
    obtain ⟨rfl, _⟩ : peer = .server server ∧ Notice.read? method params.toJson = some notice := by
      simpa [Notice.heard?] using heard
    exact Act.notified?_of_sent? said
  | call | reply => cases heard

theorem Act.notified?_of_spawned? {act : Act} (spawned : act.spawned? = some server) :
    act.operation.notified? = none := by
  obtain ⟨operation, answer⟩ := act
  cases operation with
  | spawn => rfl
  | _ => cases spawned

theorem Act.notice?_of_spawned? {act : Act} {other : ServerId}
    (spawned : act.spawned? = some server) : act.notice? other = none := by
  by_contra told
  have notified := Act.notified?_of_notice? (Option.isSome_iff_ne_none.mpr told)
  rw [Act.notified?_of_spawned? spawned] at notified
  cases notified

theorem mem_of_mem_takeWhile {α : Type} {test : α → Bool} {first second : List α} {stop value : α}
    (member : value ∈ (first ++ stop :: second).takeWhile test) (stops : test stop = false) :
    value ∈ first := by
  induction first with
  | nil =>
    rw [List.nil_append, List.takeWhile_cons, if_neg (Bool.eq_false_iff.mp stops)] at member
    cases member
  | cons head rest ih =>
    rw [List.cons_append, List.takeWhile_cons] at member
    split at member
    · rcases List.mem_cons.mp member with rfl | later
      · exact List.mem_cons_self
      · exact List.mem_cons_of_mem _ (ih later)
    · cases member

/-- Who does not notify a server tells it of no documents. -/
theorem notices_eq_nil (silent : ∀ act ∈ acts, act.operation.notified? ≠ some server) :
    acts.filterMap (Act.notice? server) = [] := by
  refine List.filterMap_eq_nil_iff.mpr fun act member => ?_
  by_contra told
  exact silent act member (Act.notified?_of_notice? (Option.isSome_iff_ne_none.mpr told))

namespace Session

theorem Opens.about {entry : String × Document} {act : Act} (opens : session.Opens entry act) :
    act.operation.About session.server := by
  obtain ⟨uri, _, rfl⟩ := opens
  rfl

theorem Opens.notice? {entry : String × Document} {act : Act} (opens : session.Opens entry act) :
    act.notice? session.server = Notice.opening? entry := by
  obtain ⟨uri, named, rfl⟩ := opens
  rw [Notice.opening?, named]
  change (if session.peer = .server session.server then
    Notice.read? "textDocument/didOpen" (Params.ofJson (entry.2.openParams uri)).toJson else none) = _
  rw [if_pos (show session.peer = .server session.server from rfl), Notice.read?_ofJson, Notice.read?_openParams]

theorem about_of_opens {entries : List (String × Document)}
    (opens : List.Forall₂ session.Opens entries acts) :
    ∀ act ∈ acts, act.operation.About session.server := by
  induction opens with
  | nil => exact List.forall_mem_nil _
  | cons first _ ih => exact List.forall_mem_cons.mpr ⟨first.about, ih⟩

theorem notice?_of_initialized :
    (session.telling "initialized" (.obj [])).notice? session.server = none := by
  have unread : Notice.read? "initialized" (Params.ofJson (.obj [])).toJson = none := rfl
  change (if session.peer = .server session.server then
    Notice.read? "initialized" (Params.ofJson (.obj [])).toJson else none) = none
  rw [unread, ite_self]

/-- By opening documents a server is told of just these. -/
theorem notices_of_opens {entries : List (String × Document)}
    (opens : List.Forall₂ session.Opens entries acts) :
    acts.filterMap (Act.notice? session.server) = entries.filterMap Notice.opening? := by
  induction opens with
  | nil => rfl
  | cons first _ ih => rw [List.filterMap_cons, List.filterMap_cons, first.notice?, ih]

/-- By its introduction a server is told of the documents that are opened on it. -/
theorem notices_of_introducing {params : Json} {ticket : Nat} {answer : Outcome Json}
    {tracked : Workspace} {openings : List Act}
    (opens : List.Forall₂ session.Opens (tracked.documentsOf session.key) openings) :
    (session.introducing params ticket answer tracked openings).filterMap
        (Act.notice? session.server) =
      (tracked.documentsOf session.key).filterMap Notice.opening? := by
  have called : Act.notice? session.server
    ⟨.call session.peer "initialize" params, (.ok ticket : Outcome Nat)⟩ = none := rfl
  have answered : Act.notice? session.server ⟨.await ticket, answer⟩ = none := rfl
  have taken : Act.notice? session.server ⟨.acquire .documents .shared, ()⟩ = none := rfl
  have looked : Act.notice? session.server ⟨.workspace, tracked⟩ = none := rfl
  have freed : Act.notice? session.server ⟨.release .documents, ()⟩ = none := rfl
  simp only [introducing, List.filterMap_cons, List.filterMap_append, called, answered,
    notice?_of_initialized, taken, looked, freed, notices_of_opens opens, List.filterMap_nil,
    List.append_nil]

theorem Introduces.about (introduces : session.Introduces acts) :
    ∀ act ∈ acts, act.operation.About session.server := by
  cases introduces with
  | intro opens =>
    have opening := about_of_opens opens
    simp only [introducing, List.forall_mem_cons, List.forall_mem_append]
    exact ⟨rfl, trivial, rfl, trivial, trivial, opening, trivial, List.forall_mem_nil _⟩

end Session

namespace Server

/-- Only in carrying out an edit that was asked for a server is notified of anything. -/
theorem handle_unasked {message : Message} (unasked : message.isEditRequest = false) :
    (handle setup session message).Each fun operation => operation.notified? = none := by
  have aside {α : Type} {job : Job α} (each : job.Each (Operation.About none)) :
      job.Each fun operation => operation.notified? = none :=
    Script.Each.mono each fun _ fits => fits.notified?
  have handling : (handlerFor message.method).Each fun operation => operation.notified? = none :=
    Job.Each.ask_bind rfl fun _ => trivial
  refine handling.bind fun handler => ?_
  cases message with
  | call versioned id method params =>
    have result : resultOf session method params.toJson = .done .null := by
      rw [resultOf, if_neg (of_decide_eq_false unasked)]
      rfl
    have replying (result : Json) : (Job.reply session.peer id result).Each fun operation =>
        operation.notified? = none := ⟨rfl, fun _ => trivial⟩
    have passing (handler : String) (params : Json) : (Editor.callHandler handler params).Each
        fun operation => operation.notified? = none := Job.Each.notify rfl
    refine Job.Each.bind ?_ fun result => ?_
    · rw [result]
      exact trivial
    · cases handler with
      | none => exact replying result
      | some handler => exact (Job.Each.attempt (passing handler _)).bind fun _ => replying result
  | notification versioned method params =>
    refine (aside (handleNotification_about method _)).bind fun _ => ?_
    cases handler with
    | none => trivial
    | some handler => exact Job.Each.notify rfl
  | response answer => trivial

end Server

namespace Journal

variable {tree : FileTree} {journal before start later rest : Journal} {now : System}
  {thread other : Nat} {act spawn : Act}

/-- What some threads have told a server of documents. -/
def toldBy (journal : Journal) (server : ServerId) (mine : Nat → Bool) : List Notice :=
  (journal.actsBy mine).filterMap (Act.notice? server)

theorem Kept.noticesTo (kept : Kept setup tree journal now) (server : ServerId) :
    now.world.noticesTo server = journal.acts.filterMap (Act.notice? server) := by
  rw [World.noticesTo, kept.traffic, List.filterMap_filterMap]
  rfl

/-- A thread for the messages of a server notifies it only when the server has asked for an edit. -/
theorem Kept.edit_asked (kept : Kept setup tree journal now)
    (split : journal = before ++ .did thread act :: rest)
    (serves : before.serves (.server server) thread = true)
    (notified : act.operation.notified? = some server) :
    ∃ message ∈ before.received (.server server), message.isEditRequest = true := by
  obtain ⟨operation, answer⟩ := act
  obtain ⟨moment, world, onward, earlier, here, _⟩ := kept.stood split
  obtain ⟨work, started, takes⟩ := serves_iff.mp serves
  obtain ⟨script, there, does⟩ := earlier.script started
  obtain rfl : _ = script := Option.some.inj (here.symm.trans there)
  rw [Program.scriptOf_of_peer? setup takes] at does
  rcases does.of_step with ⟨_, same⟩ | ⟨(received : Option Message), handling, whole, does⟩
  · cases same
    cases notified
  have taken : ⟨.receive (.server server), received⟩ ∈ before.acts :=
    mem_acts_of_mem_actsOf (whole ▸ List.mem_cons_self)
  cases work with
  | serveSession serving =>
    cases received with
    | none => cases does.of_done.2
    | some message =>
      refine ⟨message, List.mem_filterMap.mpr ⟨_, taken, if_pos rfl⟩, ?_⟩
      by_contra unasked
      have quiet : Script.Each (fun operation => operation.notified? = none)
          (((Work.serveSession serving).handling setup message).bind fun _ =>
            (Work.serveSession serving).handOver) := by
        refine Script.Each.bind (Script.Each.bind ?_ fun _ => trivial) fun _ => ⟨rfl, fun _ => trivial⟩
        exact Server.handle_unasked (Bool.eq_false_iff.mpr unasked)
      have silent : operation.notified? = none := (quiet.does does).2.1
      rw [silent] at notified
      cases notified
  | _ => cases takes

section Started

variable (kept : Kept setup tree journal now)
  (split : journal = start ++ .did thread spawn :: later) (spawned : spawn.spawned? = some server)
  (unused : ¬ journal.PutInUse server)
include kept split spawned unused

/-- What a server was told of documents before its session is in use: what the thread that has
started it has told it, and what those for its messages have. -/
theorem Kept.told_perm : (now.world.noticesTo server).Perm
    ((journal.actsOf thread).filterMap (Act.notice? server) ++
      journal.toldBy server (journal.serves (.server server))) := by
  have known : journal.acts.filterMap (Act.notice? server) =
      (journal.actsBy fun other => other == thread || journal.serves (.server server) other).filterMap
        (Act.notice? server) := by
    refine filterMap_acts fun other act member told => ?_
    obtain ⟨before, rest, cut⟩ := List.append_of_mem member
    have speaks := Operation.addressee?_of_notified? (Act.notified?_of_notice? told)
    rcases kept.speaks split spawned unused cut speaks with rfl | serves
    · rw [beq_self_eq_true, Bool.true_or]
    · rw [serves_stays serves cut, Bool.or_true]
  rw [kept.noticesTo, known, toldBy, ← List.filterMap_append]
  refine (actsBy_or_perm fun other same => ?_).filterMap _
  rw [beq_iff_eq.mp same]
  exact kept.starter_serves_not split spawned

/-- Whoever else notifies a server whose session is not in use is there for its messages, and the
server has asked for an edit. -/
theorem Kept.edit_asked_early (cut : journal = before ++ .did other act :: rest)
    (notified : act.operation.notified? = some server) (apart : other ≠ thread) :
    journal.serves (.server server) other = true ∧
      ∃ message ∈ before.received (.server server), message.isEditRequest = true := by
  have speaks := Operation.addressee?_of_notified? notified
  rcases kept.speaks split spawned unused cut speaks with same | serves
  · exact absurd same apart
  · exact ⟨serves_stays serves cut, kept.edit_asked cut serves notified⟩

/-- Until whoever has started a server notifies it, only the threads for its messages do, and the
server has asked for an edit. -/
theorem Kept.served_early {handshake : Journal}
    (whole : journal = (start ++ .did thread spawn :: handshake) ++ rest)
    (silent : ∀ act ∈ handshake.actsOf thread, act.operation.notified? = none)
    (member : .did other act ∈ start ++ .did thread spawn :: handshake)
    (notified : act.operation.notified? = some server) :
    journal.serves (.server server) other = true ∧ ∃ message ∈
      received (start ++ .did thread spawn :: handshake) (.server server),
        message.isEditRequest = true := by
  have apart : other ≠ thread := by
    rintro rfl
    obtain ⟨new, _⟩ := kept.newcomer split spawned
    rw [List.mem_append, List.mem_cons] at member
    rcases member with old | same | more
    · exact (new act (mem_actsBy.mpr ⟨other, rfl, old⟩)).1
        (Operation.addressee?_of_notified? notified)
    · cases same
      rw [Act.notified?_of_spawned? spawned] at notified
      cases notified
    · rw [silent act (mem_actsBy.mpr ⟨other, beq_self_eq_true _, more⟩)] at notified
      cases notified
  obtain ⟨first, last, cut⟩ := List.append_of_mem member
  obtain ⟨serves, message, came, asks⟩ := kept.edit_asked_early split spawned unused
    (whole.trans (by rw [cut, List.append_assoc, List.cons_append])) notified apart
  exact ⟨serves, message, (received_cut cut _).subset came, asks⟩

/-- The threads for the messages of a server that has asked for no edit tell it nothing. -/
theorem Kept.told_unasked
    (unasked : ∀ message ∈ journal.received (.server server), message.isEditRequest = false) :
    journal.toldBy server (journal.serves (.server server)) = [] := by
  refine notices_eq_nil fun act member notified => ?_
  obtain ⟨other, serves, did⟩ := mem_actsBy.mp member
  obtain ⟨before, rest, cut⟩ := List.append_of_mem did
  have apart : other ≠ thread := by
    rintro rfl
    rw [kept.starter_serves_not split spawned] at serves
    cases serves
  obtain ⟨_, message, came, asks⟩ :=
    kept.edit_asked_early split spawned unused cut notified apart
  rw [unasked message ((received_cut cut _).subset came)] at asks
  cases asks

end Started

/-- Nothing about a document is told early when nothing is told early at all. -/
theorem toldEarly_eq_false {early : Journal}
    (whole : journal = early ++ .did thread (session.telling "initialized" (.obj [])) :: rest)
    (silent : ∀ act ∈ early.acts, act.operation.notified? ≠ some session.server) :
    Sent.toldEarly session.server (journal.acts.filterMap Act.sent?) = false := by
  have stops : (!Sent.isInitialized session.server
      (.notification session.peer "initialized" (Params.ofJson (.obj [])))) = false := by
    simp [Sent.isInitialized, Session.peer]
  rw [Sent.toldEarly, List.any_eq_false]
  intro sent member document
  rw [acts_cut whole, List.filterMap_append] at member
  obtain ⟨act, done, said⟩ := List.mem_filterMap.mp (mem_of_mem_takeWhile member stops)
  cases sent with
  | notification peer method params =>
    obtain ⟨rfl, _⟩ : peer = .server session.server ∧ _ := by
      simpa [Sent.isOfDocument] using document
    exact silent act done (Act.notified?_of_sent? said)
  | call | reply => cases document

/-- What the server of a session has been told when the session is put in use. Before it was told
that it is initialized, only threads for its messages notified it, and it had asked for an edit.
Then the documents that were found under the session's key were opened on it, and what else it was
told of documents was told by the threads for its messages. -/
inductive ToldUntilUse (setup : Setup) (tree : FileTree) (session : Session) (thread : Nat)
    (before : Journal) (now : System) : Prop
  | intro {early between after : Journal} {look : System}
      (whole : before = early ++ .did thread (session.telling "initialized" (.obj [])) ::
        (between ++ .did thread ⟨.workspace, look.world.workspace⟩ :: after))
      (looked : Kept setup tree
        (early ++ .did thread (session.telling "initialized" (.obj [])) :: between) look)
      (waits : ∀ other act, .did other act ∈ early →
        act.operation.notified? = some session.server →
        before.serves session.peer other = true ∧
          ∃ message ∈ early.received session.peer, message.isEditRequest = true)
      (told : (now.world.noticesTo session.server).Perm
        ((look.world.workspace.documentsOf session.key).filterMap Notice.opening? ++
          before.toldBy session.server (before.serves session.peer)))
      (once : ∀ uri, Notice.timesOpened uri (now.world.noticesTo session.server) = 1 ↔
        Notice.timesOpened uri
            ((look.world.workspace.documentsOf session.key).filterMap Notice.opening?) +
          Notice.timesOpened uri
            (before.toldBy session.server (before.serves session.peer)) = 1)
      (unasked : (∀ message ∈ before.received session.peer, message.isEditRequest = false) →
        Sent.toldEarly session.server now.world.traffic = false ∧
          before.toldBy session.server (before.serves session.peer) = [])

theorem workspace_of_perform {host : Host} {world last : World} {tracked : Workspace}
    (performed : world.perform host thread .workspace = some (last, tracked)) :
    tracked = world.workspace := by
  simp only [World.perform] at performed
  split at performed <;> cases performed
  rfl

/-- How a thread has come to put a session in use: it started the server, called it, told it that
it is initialized, looked up the documents and opened those under the session's key. -/
inductive Phases (setup : Setup) (tree : FileTree) (session : Session) (thread : Nat)
    (before : Journal) : Prop
  | intro {start handshake between after : Journal} {spawn : Act} {look : System}
      (spawned : spawn.spawned? = some session.server)
      (whole : before = (start ++ .did thread spawn :: handshake) ++
        .did thread (session.telling "initialized" (.obj [])) ::
          (between ++ .did thread ⟨.workspace, look.world.workspace⟩ :: after))
      (looked : Kept setup tree ((start ++ .did thread spawn :: handshake) ++
        .did thread (session.telling "initialized" (.obj [])) :: between) look)
      (silent : ∀ act ∈ handshake.actsOf thread, act.operation.notified? = none)
      (own : (before.actsOf thread).filterMap (Act.notice? session.server) =
        (look.world.workspace.documentsOf session.key).filterMap Notice.opening?)
      (unused : ¬ before.PutInUse session.server)

theorem Kept.phases (kept : Kept setup tree before now) {earlier begins : List Act}
    {key : SessionKey} (mine : before.actsOf thread = earlier ++ begins)
    (begun : session.Begins key begins) : Phases setup tree session thread before := by
  cases begun with
  | @intro spawn given number introducing keyed spawned starts introduces =>
    obtain ⟨start, later, split, earliest, following⟩ := exists_cut mine
    obtain ⟨new, _⟩ := kept.newcomer split spawned
    have unregistered (key : SessionKey) (session : Session) :
        ⟨.register key session, ()⟩ ∉ later.actsOf thread := by
      rw [following]
      intro member
      rcases List.mem_cons.mp member with impossible | among
      · cases impossible
      · exact introduces.about _ among
    cases introduces with
    | @intro params ticket answer tracked openings opens =>
      obtain ⟨handshake, onward, confirmed, calling, following⟩ := exists_cut
        (show later.actsOf thread = [_, _, _] ++ session.telling "initialized" (.obj []) :: _ from
          following)
      obtain ⟨between, after, looking, _, _⟩ := exists_cut
        (show onward.actsOf thread = [_] ++ ⟨.workspace, tracked⟩ :: _ from following)
      have whole : before = (start ++ .did thread spawn :: handshake) ++
          .did thread (session.telling "initialized" (.obj [])) ::
            (between ++ .did thread ⟨.workspace, tracked⟩ :: after) := by
        rw [split, confirmed, looking, List.append_assoc, List.cons_append]
      have lookedUp : before = ((start ++ .did thread spawn :: handshake) ++
          .did thread (session.telling "initialized" (.obj [])) :: between) ++
            .did thread ⟨.workspace, tracked⟩ :: after := by
        rw [whole, List.append_assoc _ (_ :: between), List.cons_append]
      obtain ⟨look, _, looked, performed⟩ := kept.moment lookedUp
      obtain rfl := workspace_of_perform performed
      refine .intro spawned whole looked ?_ ?_ (kept.unused split spawned unregistered)
      · rw [calling]
        simp [Operation.notified?]
      · have silent : earlier.filterMap (Act.notice? session.server) = [] :=
          notices_eq_nil fun act member notified =>
            (new act (mem_acts_of_mem_actsOf (earliest ▸ member))).1
              (Operation.addressee?_of_notified? notified)
        have starting : spawn.notice? session.server = none := Act.notice?_of_spawned? spawned
        have forking : Act.notice? session.server ⟨.fork (.serveSession given), number⟩ = none := rfl
        rw [mine, List.filterMap_append, silent, List.nil_append, List.filterMap_cons, starting,
          List.filterMap_cons, forking]
        exact Session.notices_of_introducing opens

/-- When a session is put in use, its server has been told by whoever started it of the documents
that were found under the session's key, after it was told that it is initialized, and of all else
in carrying out edits that it asked for. -/
theorem told_until_use {key : SessionKey}
    (kept : Kept setup tree (before ++ [.did thread ⟨.register key session, ()⟩]) now) :
    session.key = key ∧ ToldUntilUse setup tree session thread before now := by
  obtain ⟨earlier, begins, mine, begun⟩ := kept.begins rfl
  obtain ⟨moment, _, fewer, _⟩ := kept.moment rfl
  have same : now.world.noticesTo session.server = moment.world.noticesTo session.server := by
    rw [kept.noticesTo, fewer.noticesTo, acts_did, List.filterMap_append]
    exact List.append_nil _
  refine ⟨begun.keyed, ?_⟩
  cases fewer.phases mine begun with
  | @intro start handshake between after spawn look spawned whole looked silent own unused =>
    have split := whole.trans (List.append_assoc ..)
    have waits (other : Nat) (act : Act) (member : .did other act ∈ start ++ .did thread spawn ::
        handshake) (notified : act.operation.notified? = some session.server) :=
      fewer.served_early split spawned unused whole silent member notified
    have told := fewer.told_perm split spawned unused
    rw [own, ← same] at told
    refine .intro whole looked waits told (fun uri => ?_) fun unasked => ⟨?_, ?_⟩
    · rw [Notice.timesOpened, told.countP_eq, List.countP_append]
      rfl
    · have register : Act.sent? ⟨.register key session, ()⟩ = none := rfl
      rw [kept.traffic, acts_did, List.filterMap_append, List.filterMap_cons_none register,
        List.filterMap_nil, List.append_nil]
      refine toldEarly_eq_false whole fun act member notified => ?_
      obtain ⟨other, _, did⟩ := mem_actsBy.mp member
      obtain ⟨_, message, came, asks⟩ := waits other act did notified
      rw [unasked message ((received_cut whole _).subset came)] at asks
      cases asks
    · exact fewer.told_unasked split spawned unused unasked

/-- The key of a session that was put in use as the last that was done, and its server. -/
def putInUse? (journal : Journal) : Option (SessionKey × ServerId) :=
  match journal.getLast? with
  | some (.did _ ⟨.register key session, _⟩) => some (key, session.server)
  | _ => none

theorem exists_of_putInUse? {key : SessionKey} (found : journal.putInUse? = some (key, server)) :
    ∃ before thread session, session.server = server ∧
      journal = before ++ [.did thread ⟨.register key session, ()⟩] := by
  unfold putInUse? at found
  split at found
  · rename_i thread used session _ last
    cases found
    exact ⟨_, thread, session, rfl, (List.dropLast_append_getLast? _ last).symm⟩
  · cases found

end Journal

namespace Session

open Server Journal

/-- A document is changed whose server has gone away, and another server is started, up to where
its session is put in use. -/
def startedAgain : Journal × System :=
  play soleServer 7 [.answer 1 (.ok (.obj [("capabilities", .obj [])]))]
    (afterOpening [.disconnect soleSession.peer, .deliver .editor
      (.notification true "textDocument/didChange" (Params.ofJson (.obj
        [("text_document", .str "/a.go"), ("language_id", .str "go"), ("text", .str "y")])))])

theorem started_again_told : ∃ before thread session now,
    Kept soleServer ⟨[], []⟩ (before ++ [.did thread ⟨.register ⟨"go", "/"⟩ session, ()⟩]) now ∧
    session.server = ⟨"go", 2⟩ ∧
    now.world.noticesTo session.server = [.opened "file:///a.go" 0 ['x']] ∧
    session.key = ⟨"go", "/"⟩ ∧ ToldUntilUse soleServer ⟨[], []⟩ session thread before now := by
  have kept : Kept soleServer ⟨[], []⟩ startedAgain.1 startedAgain.2 :=
    (kept_afterOpening _).play 7 _
  obtain ⟨used, notices⟩ : startedAgain.1.putInUse? = some (⟨"go", "/"⟩, ⟨"go", 2⟩) ∧
      startedAgain.2.world.noticesTo ⟨"go", 2⟩ = [.opened "file:///a.go" 0 ['x']] := by
    decide +kernel
  obtain ⟨before, thread, session, same, whole⟩ := exists_of_putInUse? used
  rw [whole] at kept
  rw [← same] at notices
  exact ⟨before, thread, session, _, kept, same, notices, told_until_use kept⟩

/-- A server asks for an edit before it answers that it can be told of documents; its session is put
in use after that. -/
def editAskedEarly : Journal × System :=
  play soleServer 7 [.answer 0 (.ok (.obj [("capabilities", .obj [])]))]
    (play soleServer 60 [.deliver .editor
        (.notification true "textDocument/didOpen" (Params.ofJson (.obj
          [("text_document", .str "/a.go"), ("language_id", .str "go"), ("text", .str "x")]))),
        asksForEdit 1 (.obj [("changes", .obj [("file:///b.go", .arr [letterInFront])])]),
        .answer 1 (.ok (.nat 3))]
      ([], listening soleServer ⟨[], [(["b.go"], .file [10])]⟩))

/-- A document that a server changes by an edit which it asks for before it is initialized is opened
on it early, and once more when it is initialized. -/
theorem edit_asked_early_opens_twice :
    (¬ ∀ (setup : Setup) (tree : FileTree) (before : Journal) (thread : Nat) (key : SessionKey)
      (session : Session) (now : System),
      Kept setup tree (before ++ [.did thread ⟨.register key session, ()⟩]) now →
      Sent.toldEarly session.server now.world.traffic = false) ∧
    ¬ ∀ (setup : Setup) (tree : FileTree) (before : Journal) (thread : Nat) (key : SessionKey)
      (session : Session) (now : System),
      Kept setup tree (before ++ [.did thread ⟨.register key session, ()⟩]) now →
      ∀ entry ∈ now.world.workspace.documentsOf key, ∀ uri, Uri.ofFileName entry.1 = .ok uri →
        Notice.timesOpened uri.text (now.world.noticesTo session.server) = 1 := by
  have kept : Kept soleServer ⟨[], [(["b.go"], .file [10])]⟩ editAskedEarly.1 editAskedEarly.2 :=
    (Kept.played _ _ 60 _).play 7 _
  obtain ⟨used, early, tracked, twice⟩ :
      editAskedEarly.1.putInUse? = some (⟨"go", "/"⟩, ⟨"go", 1⟩) ∧
      Sent.toldEarly ⟨"go", 1⟩ editAskedEarly.2.world.traffic = true ∧
      ((editAskedEarly.2.world.workspace.documentsOf ⟨"go", "/"⟩).any fun entry =>
        (Uri.ofFileName entry.1).toOption.any (·.text = "file:///b.go")) = true ∧
      Notice.timesOpened "file:///b.go" (editAskedEarly.2.world.noticesTo ⟨"go", 1⟩) = 2 := by
    decide +kernel
  obtain ⟨before, thread, session, same, whole⟩ := exists_of_putInUse? used
  rw [whole] at kept
  rw [← same] at early twice
  refine ⟨fun claimed => ?_, fun claimed => ?_⟩
  · rw [claimed _ _ _ _ _ _ _ kept] at early
    cases early
  · obtain ⟨entry, member, named⟩ := List.any_eq_true.mp tracked
    cases given : Uri.ofFileName entry.1 with
    | error => simp [given, Except.toOption] at named
    | ok uri =>
      have shown : uri.text = "file:///b.go" := by simpa [given, Except.toOption] using named
      have once := claimed _ _ _ _ _ _ _ kept entry member uri given
      rw [shown, twice] at once
      cases once

end Session

end LanguageBridge
