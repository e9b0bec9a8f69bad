import LanguageBridge.Proofs.Arrival.Fates
import LanguageBridge.Proofs.Document.Effects
import LanguageBridge.Proofs.Document.Mirror

/-!
What servers were told last. The server of a tracked file was last told its lines, unless a thread
is about to tell it, or another tracked file is the same document.
-/
namespace LanguageBridge

/-- The last text that a server was told for a document is this one, up to carriage returns at the
ends of lines. -/
def World.LastTold (world : World) (server : ServerId) (uri : Uri) (text : Text) : Prop :=
  ∃ told, lastText? uri.text (world.noticesTo server) = some told ∧ told.Alike text

/-- The server of the session that tracks a file was last told the text of its document. -/
def World.Tells (world : World) (file : String) (document : Document) : Prop :=
  ∃ session uri, world.sessions.get? document.session = some session ∧
    Uri.ofFileName file = .ok uri ∧ world.LastTold session.server uri document.text

/-- Another file that is tracked is the same document. -/
def Workspace.Aliased (workspace : Workspace) (file : String) : Prop :=
  ∃ other uri, other ≠ file ∧ workspace.linesOf? other ≠ none ∧ Uri.ofFileName file = .ok uri ∧
    Uri.ofFileName other = .ok uri

/-- The document that a thread is about to tell of, or has told of and is about to track. -/
def DocumentsHold.uri? : DocumentsHold → Option Uri
  | .telling _ _ _ uri .. => some uri
  | .told _ _ _ uri _ => some uri
  | _ => none

theorem lastText?_append_of_ne {uri : String} {notice : Notice} (apart : notice.uri ≠ uri)
    (notices : List Notice) : lastText? uri (notices ++ [notice]) = lastText? uri notices := by
  cases notice <;> simp_all [lastText?, Notice.uri]

/-- Harmless operations tell servers nothing of documents. -/
theorem Operation.Harmless.unheard {operation : Operation} (harmless : operation.Harmless)
    (world : World) (server : ServerId) :
    (operation.saying world).filterMap (Notice.heard? server) = [] := by
  cases operation with
  | notify peer method params =>
    simp only [saying]
    split
    · cases peer with
      | editor => simp [Notice.heard?]
      | server other =>
        have nothing : Notice.read? method params = none := harmless
        simp [Notice.heard?, Notice.read?_ofJson, nothing]
    · rfl
  | reply | call =>
    simp only [saying]
    split <;> rfl
  | _ => rfl

namespace World

variable {world next : World} {server : ServerId} {thread : Nat} {operation : Operation}

theorem Performed.noticesTo (performed : World.Performed thread operation world next)
    (server : ServerId) : next.noticesTo server =
      world.noticesTo server ++ (operation.saying world).filterMap (Notice.heard? server) := by
  rw [World.noticesTo, performed.traffic, List.filterMap_append]
  rfl

end World

namespace Shift

variable {roots : Roots} {news : News} {stance after : Stance} {operation : Operation}
  {answer : operation.Answer} {waiting : Waiting} {started : Option Stance}

/-- What an operation of a thread does about documents: it tracks none and tells of none, or it is
one of the steps by which a document is changed or opened. -/
inductive Handles (stance after : Stance) (world next : World) : Prop
  | nothing (quiet : ∀ server, next.noticesTo server = world.noticesTo server)
      (same : world.workspace.SameLines next.workspace)
      (uri : after.documents.uri? = stance.documents.uri?)
      (holds : after.documents.uri? ≠ none → after.documents = stance.documents)
  | change {session : Session} {file : String} {uri : Uri} {version : Nat} {text : Text}
      {document : Document} (none : stance.documents.uri? = none)
      (telling : after.documents = .telling next.workspace session file uri version text)
      (named : Uri.ofFileName file = .ok uri) (own : document.session = session.key)
      (lines : document.lines = text.splitLines)
      (track : next.workspace = world.workspace.track file document)
      (quiet : ∀ server, next.noticesTo server = world.noticesTo server)
  | tellChange {workspace : Workspace} {session : Session} {file : String} {uri : Uri}
      {version : Nat} {text : Text}
      (telling : stance.documents = .telling workspace session file uri version text)
      (none : after.documents.uri? = none) (same : next.workspace = world.workspace)
      (told : ∀ server, next.noticesTo server = world.noticesTo server ++
        if server = session.server then [.changed uri.text version text] else [])
  | tellOpen {workspace : Workspace} {session : Session} {file : String} {uri : Uri} {text : Text}
      (none : stance.documents.uri? = none) (mode : stance.documents.mode? = some .exclusive)
      (told : after.documents = .told workspace session file uri text)
      (named : Uri.ofFileName file = .ok uri) (same : next.workspace = world.workspace)
      (notices : ∀ server, next.noticesTo server = world.noticesTo server ++
        if server = session.server then
          [.opened uri.text 0 (Document.ofText session.key text).text] else [])
  | track {workspace : Workspace} {session : Session} {file : String} {uri : Uri} {text : Text}
      (told : stance.documents = .told workspace session file uri text)
      (none : after.documents.uri? = none)
      (track : next.workspace =
        world.workspace.track file (Document.ofText session.key text))
      (quiet : ∀ server, next.noticesTo server = world.noticesTo server)

theorem handles (shift : Shift roots news stance operation answer after waiting started)
    {thread : Nat} {world next : World} (alive : ∀ peer, world.isAlive peer = true)
    (known : ∀ seen, stance.documents.view? = some seen → world.workspace = seen)
    (performed : World.Performed thread operation world next) :
    Handles stance after world next := by
  have heard (session : Session) (method : String) {params : Json} {notice : Notice}
      (read : Notice.read? method params = some notice) (server : ServerId) :
      ((Operation.notify session.peer method params).saying world).filterMap
          (Notice.heard? server) =
        if server = session.server then [notice] else [] := by
    rw [Operation.saying, if_pos (alive _)]
    by_cases same : server = session.server
    · simp [Notice.heard?, Session.peer, Notice.read?_ofJson, read, same]
    · simp [Notice.heard?, Session.peer, same, Ne.symm same]
  have quiet (silent : ∀ server,
      (operation.saying world).filterMap (Notice.heard? server) = []) (server : ServerId) :
      next.noticesTo server = world.noticesTo server := by
    rw [performed.noticesTo, silent, List.append_nil]
  have idle (silent : ∀ server, (operation.saying world).filterMap (Notice.heard? server) = [])
      (other : operation.workspaceAfter world.workspace = world.workspace)
      (uri : after.documents.uri? = stance.documents.uri?)
      (holds : after.documents.uri? ≠ none → after.documents = stance.documents) :
      Handles stance after world next :=
    .nothing (quiet silent) (by rw [performed.workspace, other]; exact .refl _) uri holds
  cases shift with
  | harmless harmless =>
    refine idle (harmless.unheard world) (Operation.workspaceAfter_of_ne ?_) rfl fun _ => rfl
    rintro changed rfl
    exact harmless.elim
  | @retain workspace changed reading same =>
    obtain rfl := known workspace (by rw [reading]; rfl)
    exact .nothing (quiet fun _ => rfl) (performed.workspace ▸ same) (by rw [reading]; rfl)
      (fun some => absurd rfl some)
  | @change workspace session file text uri document reading _ _ owned _ named =>
    obtain rfl := known workspace (by rw [reading]; rfl)
    have own := (Workspace.get?_of_ownedBy? owned).2
    have stored : world.workspace.track file (document.update text).1 = next.workspace :=
      performed.workspace.symm
    have telling := congrArg
      (DocumentsHold.telling · session file uri (document.version + 1) text) stored
    exact .change (by rw [reading]; rfl) telling named
      ((Document.session_update document text).trans own) (Document.lines_update document text)
      stored.symm (quiet fun _ => rfl)
  | tellChange telling =>
    refine .tellChange telling rfl performed.workspace fun server => ?_
    rw [performed.noticesTo, heard _ _ (Notice.read?_changeParams _ _ _)]
  | tellOpen reading may known fresh named =>
    refine .tellOpen (by rw [reading]; rfl) (by rw [reading]; rfl) rfl named performed.workspace
      fun server => ?_
    rw [performed.noticesTo, heard _ _ (Notice.read?_openParams _ _)]
    rfl
  | @track workspace session file uri text told =>
    obtain rfl := known workspace (by rw [told]; rfl)
    exact .track told rfl performed.workspace (quiet fun _ => rfl)
  | fork splits =>
    have same := splits.kept.1
    exact idle (fun _ => rfl) rfl (by rw [same]) fun _ => same
  | leave held =>
    refine idle (fun _ => rfl) rfl ?_ fun some => absurd rfl some
    rcases held with shared | entered | ⟨workspace, reading⟩ <;> simp_all [DocumentsHold.uri?]
  | share free | enter free | read free | settle free =>
    exact idle (fun _ => rfl) rfl (by rw [free]; rfl) fun some => absurd rfl some
  | _ => exact idle (fun _ => rfl) rfl rfl fun _ => rfl

end Shift

namespace World

variable {world next : World} {server : ServerId} {uri : Uri} {text : Text}

theorem LastTold.congr (told : world.LastTold server uri text)
    (same : next.noticesTo server = world.noticesTo server) : next.LastTold server uri text := by
  rw [LastTold, same]
  exact told

/-- Who is told of another document was last told the same of this one. -/
theorem LastTold.append (told : world.LastTold server uri text) {notice : Notice} {other : ServerId}
    (notices : ∀ server, next.noticesTo server =
      world.noticesTo server ++ if server = other then [notice] else [])
    (apart : notice.uri ≠ uri.text) : next.LastTold server uri text := by
  obtain ⟨last, heard, alike⟩ := told
  refine ⟨last, ?_, alike⟩
  rw [notices]
  split
  · rw [lastText?_append_of_ne apart, heard]
  · rw [List.append_nil, heard]

end World

theorem Workspace.Aliased.mono {before after : Workspace} {file : String}
    (aliased : before.Aliased file)
    (kept : ∀ other, before.linesOf? other ≠ none → after.linesOf? other ≠ none) :
    after.Aliased file := by
  obtain ⟨other, uri, apart, tracked, named, again⟩ := aliased
  exact ⟨other, uri, apart, kept other tracked, named, again⟩

/-- The server of a tracked file was last told its lines, or a thread is at telling it, or another
tracked file is the same document. -/
inductive Reported (world : World) (stances : Nat → Stance) (file : String) (document : Document) :
    Prop
  | aliased (aliased : world.workspace.Aliased file)
  | underway {thread : Nat} {uri : Uri} (held : (stances thread).documents.uri? = some uri)
      (named : Uri.ofFileName file = .ok uri)
  | told (tells : world.Tells file document)

theorem Reported.congr {world next : World} {stances : Nat → Stance} {file : String}
    {document : Document} (reported : Reported world stances file document)
    (workspace : next.workspace = world.workspace) (sessions : next.sessions = world.sessions)
    (traffic : next.traffic = world.traffic) : Reported next stances file document := by
  cases reported with
  | aliased aliased => exact .aliased (workspace ▸ aliased)
  | underway held named => exact .underway held named
  | told tells =>
    obtain ⟨session, uri, there, named, last⟩ := tells
    refine .told ⟨session, uri, sessions ▸ there, named, last.congr ?_⟩
    rw [World.noticesTo, traffic]
    rfl

namespace Ledger

variable {host : Host} {roots : Roots} {ledger next : Ledger}

/-- Servers were last told the lines of tracked files, as far as no thread is at it. -/
structure Told (ledger : Ledger) : Prop where
  tracked : ∀ file document, ledger.world.workspace.documents.get? file = some document →
    Reported ledger.world ledger.stances file document
  telling : ∀ thread workspace session file uri version text,
    (ledger.stances thread).documents = .telling workspace session file uri version text →
    Uri.ofFileName file = .ok uri ∧ ∃ document, workspace.documents.get? file = some document ∧
      document.session = session.key ∧ document.lines = text.splitLines
  told : ∀ thread workspace session file uri text,
    (ledger.stances thread).documents = .told workspace session file uri text →
    Uri.ofFileName file = .ok uri ∧
      ledger.world.LastTold session.server uri (Document.ofText session.key text).text

section Acting

variable {thread : Nat} {operation : Operation} {answer : operation.Answer} {world : World}
  {after : Stance} {waiting : Waiting} {started : Option Stance}
  (told : ledger.Told) (kept : ledger.Kept roots)
  (performed : ledger.world.perform host thread operation = some (world, answer))
  (shift : Shift roots ledger.news (ledger.stances thread) operation answer after waiting started)

include kept performed shift

theorem Kept.handles : Shift.Handles (ledger.stances thread) after ledger.world world := by
  have alive (peer : Peer) : ledger.world.isAlive peer = true := by
    simp [World.isAlive, kept.calm.dead]
  exact shift.handles alive (kept.viewed.documents thread) (World.performed performed)

theorem Kept.tracked_acted {file : String} (tracked : ledger.world.workspace.linesOf? file ≠ none) :
    world.workspace.linesOf? file ≠ none := by
  rw [(World.performed performed).workspace]
  rcases shift.writes (kept.viewed.documents thread) file with same | ⟨text, _, written⟩
  · rw [same]
    exact tracked
  · simp [written]

include told

/-- What held of a document holds on, if the thread that takes a step does not deal with it. -/
theorem Told.carry {file : String} {document old : Document}
    (there : ledger.world.workspace.documents.get? file = some old)
    (session : old.session = document.session) (same : old.lines = document.lines)
    (still : ∀ uri, (ledger.stances thread).documents.uri? = some uri →
      Uri.ofFileName file = .ok uri → after.documents.uri? = some uri)
    (heard : ∀ server uri, Uri.ofFileName file = .ok uri →
      ledger.world.LastTold server uri document.text → world.LastTold server uri document.text) :
    Reported world (ledger.seat thread after started) file document := by
  cases told.tracked file old there with
  | aliased aliased => exact .aliased (aliased.mono fun _ => kept.tracked_acted performed shift)
  | @underway other uri held named =>
    suffices seated : (ledger.seat thread after started other).documents.uri? = some uri from
      .underway seated named
    obtain ⟨rfl, seated⟩ | ⟨_, seated⟩ | ⟨_, last, _⟩ :=
      @seat_cases ledger thread after started other
    · rw [seated]
      exact still uri held named
    · rw [seated]
      exact held
    · rw [kept.manned.unborn other (Nat.le_of_eq last.symm)] at held
      cases held
  | told tells =>
    obtain ⟨known, uri, found, named, last⟩ := tells
    have text : old.text = document.text := congrArg Text.joinLines same
    refine .told ⟨known, uri, ?_, named, heard _ uri named (text ▸ last)⟩
    exact kept.viewed.session_stays performed shift (session ▸ found)

theorem Told.tracked_acted {file : String} {document : Document}
    (found : world.workspace.documents.get? file = some document) :
    Reported world (ledger.seat thread after started) file document := by
  have stays {session : Session} (uses : (ledger.stances thread).Uses session) :
      world.sessions.get? session.key = some session :=
    kept.viewed.session_stays performed shift (kept.viewed.used thread session uses)
  have tracked {name : String} (there : ledger.world.workspace.linesOf? name ≠ none) :=
    kept.tracked_acted performed shift there
  have own {uri : Uri} (held : after.documents.uri? = some uri) :
      (ledger.seat thread after started thread).documents.uri? = some uri := by
    rw [seat_self]
    exact held
  cases kept.handles performed shift with
  | nothing quiet same uri =>
    have both := same.lines file
    rw [found] at both
    obtain ⟨old, there, parts⟩ := Option.map_eq_some_iff.mp both.symm
    obtain ⟨session, content⟩ := Prod.mk.inj parts
    exact told.carry kept performed shift there session content (fun _ held _ => uri.trans held)
      fun server _ _ last => last.congr (quiet server)
  | @change session name uri version text new none telling named _ _ track quiet =>
    by_cases here : file = name
    · subst here
      exact .underway (own (by rw [telling]; rfl)) named
    · rw [track, Workspace.track, Table.get?_insert, if_neg (Ne.symm here)] at found
      refine told.carry kept performed shift found rfl rfl (fun _ held => ?_)
        fun server _ _ last => last.congr (quiet server)
      rw [none] at held
      cases held
  | @tellChange workspace session name uri version text telling none same notices =>
    obtain ⟨named, old, there, owner, content⟩ := told.telling thread _ _ _ _ _ _ telling
    obtain rfl : ledger.world.workspace = workspace :=
      kept.viewed.documents thread workspace (by rw [telling]; rfl)
    rw [same] at found
    by_cases here : file = name
    · subst here
      rw [there] at found
      cases found
      refine .told ⟨session, uri, ?_, named, text, ?_, ?_⟩
      · exact owner ▸ stays (.inr (by rw [telling]; rfl))
      · rw [notices, if_pos rfl]
        simp [lastText?]
      · rw [Document.text, content]
        exact (Text.alike_joinLines_splitLines text).symm
    · by_cases twin : Uri.ofFileName file = .ok uri
      · refine .aliased ⟨name, uri, Ne.symm here, tracked ?_, twin, named⟩
        simp [Workspace.linesOf?, there]
      · refine told.carry kept performed shift found rfl rfl (fun other held another => ?_)
          fun server other another last => last.append notices fun equal => twin ?_
        · rw [telling] at held
          cases held
          exact absurd another twin
        · obtain rfl := Uri.eq_of_text_eq named another equal
          exact another
  | @tellOpen workspace session name uri text none _ opened named same notices =>
    rw [same] at found
    by_cases twin : Uri.ofFileName file = .ok uri
    · exact .underway (own (by rw [opened]; rfl)) twin
    · refine told.carry kept performed shift found rfl rfl (fun other held => ?_)
        fun server other another last => last.append notices fun equal => twin ?_
      · rw [none] at held
        cases held
      · obtain rfl := Uri.eq_of_text_eq named another equal
        exact another
  | @track workspace session name uri text opened none track quiet =>
    obtain ⟨named, last⟩ := told.told thread _ _ _ _ _ opened
    by_cases here : file = name
    · subst here
      rw [track, Workspace.track, Table.get?_insert, if_pos rfl] at found
      cases found
      exact .told ⟨session, uri, stays (.inr (by rw [opened]; rfl)), named, last.congr (quiet _)⟩
    · by_cases twin : Uri.ofFileName file = .ok uri
      · refine .aliased ⟨name, uri, Ne.symm here, ?_, twin, named⟩
        simp [track, Workspace.linesOf?_track]
      · rw [track, Workspace.track, Table.get?_insert, if_neg (Ne.symm here)] at found
        refine told.carry kept performed shift found rfl rfl (fun other held another => ?_)
          fun server _ _ before => before.congr (quiet server)
        rw [opened] at held
        cases held
        exact absurd another twin

theorem Told.telling_acted {workspace : Workspace} {session : Session} {file : String} {uri : Uri}
    {version : Nat} {text : Text}
    (telling : after.documents = .telling workspace session file uri version text) :
    Uri.ofFileName file = .ok uri ∧ ∃ document, workspace.documents.get? file = some document ∧
      document.session = session.key ∧ document.lines = text.splitLines := by
  cases kept.handles performed shift with
  | nothing _ _ _ holds =>
    rw [holds (by rw [telling]; simp [DocumentsHold.uri?])] at telling
    exact told.telling thread _ _ _ _ _ _ telling
  | @change _ _ _ _ _ document _ now named own lines track =>
    rw [now] at telling
    cases telling
    exact ⟨named, document, by simp [track, Workspace.track], own, lines⟩
  | tellChange _ none | track _ none =>
    rw [telling] at none
    cases none
  | tellOpen _ _ now =>
    rw [now] at telling
    cases telling

theorem Told.told_acted {workspace : Workspace} {session : Session} {file : String} {uri : Uri}
    {text : Text} (opened : after.documents = .told workspace session file uri text) :
    Uri.ofFileName file = .ok uri ∧
      world.LastTold session.server uri (Document.ofText session.key text).text := by
  cases kept.handles performed shift with
  | nothing quiet _ _ holds =>
    rw [holds (by rw [opened]; simp [DocumentsHold.uri?])] at opened
    obtain ⟨named, last⟩ := told.told thread _ _ _ _ _ opened
    exact ⟨named, last.congr (quiet _)⟩
  | change _ telling =>
    rw [telling] at opened
    cases opened
  | tellChange _ none | track _ none =>
    rw [opened] at none
    cases none
  | tellOpen _ _ now named _ notices =>
    rw [now] at opened
    cases opened
    refine ⟨named, _, ?_, Text.Alike.refl _⟩
    rw [notices, if_pos rfl]
    simp [lastText?]

/-- While a thread has told of a document that it is about to track, no other tells of any. -/
theorem Told.told_beside {other : Nat} (apart : other ≠ thread) {workspace : Workspace}
    {session : Session} {file : String} {uri : Uri} {text : Text}
    (opened : (ledger.stances other).documents = .told workspace session file uri text) :
    Uri.ofFileName file = .ok uri ∧
      world.LastTold session.server uri (Document.ofText session.key text).text := by
  obtain ⟨named, last⟩ := told.told other _ _ _ _ _ opened
  have mine : (ledger.stances other).Holds .exclusive .documents := by
    rw [Stance.Holds, opened]
    rfl
  have alone (mode : (ledger.stances thread).documents.mode? = some .exclusive) : False :=
    apart (kept.locked.alone mine mode)
  refine ⟨named, ?_⟩
  cases kept.handles performed shift with
  | nothing quiet | change _ _ _ _ _ _ quiet | track _ _ _ quiet => exact last.congr (quiet _)
  | tellChange telling => exact (alone (by rw [telling]; rfl)).elim
  | tellOpen _ mode => exact (alone mode).elim

end Acting

theorem Told.advance (told : ledger.Told) (kept : ledger.Kept roots)
    (advances : ledger.Advances host roots next) : next.Told := by
  cases advances with
  | @act thread operation answer world after waiting started here performed _ shift =>
    refine ⟨fun _ _ found => ?_, ?_, ?_⟩
    · exact (told.tracked_acted kept performed shift found).congr rfl rfl rfl
    · refine forall_seat (fun _ stance => ∀ workspace session file uri version text,
        stance.documents = .telling workspace session file uri version text →
        Uri.ofFileName file = .ok uri ∧ ∃ document, workspace.documents.get? file = some document ∧
          document.session = session.key ∧ document.lines = text.splitLines) ?_ ?_ ?_
      · exact fun other _ => told.telling other
      · exact fun _ _ _ _ _ _ telling => told.telling_acted kept performed shift telling
      · rintro child rfl _ _ _ _ _ _ telling
        rw [shift.blank.documents] at telling
        cases telling
    · refine forall_seat (fun _ stance => ∀ workspace session file uri text,
        stance.documents = .told workspace session file uri text →
        Uri.ofFileName file = .ok uri ∧
          world.LastTold session.server uri (Document.ofText session.key text).text) ?_ ?_ ?_
      · exact fun other apart _ _ _ _ _ opened =>
          told.told_beside kept performed shift apart opened
      · exact fun _ _ _ _ _ opened => told.told_acted kept performed shift opened
      · rintro child rfl _ _ _ _ _ opened
        rw [shift.blank.documents] at opened
        cases opened
  | finish =>
    exact ⟨fun _ _ found => (told.tracked _ _ found).congr rfl rfl rfl, told.telling, told.told⟩
  | @happen happening =>
    obtain ⟨_, workspace, _, sessions, traffic⟩ := World.after_happening ledger.world happening
    refine ⟨fun file document found => ?_, told.telling, fun thread _ _ _ _ _ held => ?_⟩
    · change (ledger.world.after happening).workspace.documents.get? file = _ at found
      rw [workspace] at found
      exact (told.tracked file document found).congr workspace sessions traffic
    · refine (told.told thread _ _ _ _ _ held).imp_right fun last => last.congr ?_
      rw [World.noticesTo, traffic]
      rfl

end Ledger

end LanguageBridge
