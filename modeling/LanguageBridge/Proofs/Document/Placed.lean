import LanguageBridge.Proofs.Document.Effects
import LanguageBridge.Proofs.Document.Mirror
import LanguageBridge.Proofs.Document.Told

/-!
Where documents are open. As long as no tracked file is taken over by another session and no two
tracked files are one document, every server has open exactly what is tracked for its session, and
was told of documents only what it may be told.
-/
namespace LanguageBridge

namespace Workspace

/-- The key of the session that a file is tracked for. -/
def sessionOf? (workspace : Workspace) (file : String) : Option SessionKey :=
  (workspace.documents.get? file).map (·.session)

/-- A document has one file that is tracked. -/
def Distinct (workspace : Workspace) : Prop :=
  ∀ file other uri key twin, workspace.sessionOf? file = some key →
    workspace.sessionOf? other = some twin → Uri.ofFileName file = .ok uri →
    Uri.ofFileName other = .ok uri → file = other

variable {workspace : Workspace} {file other : String} {key : SessionKey}

theorem sessionOf?_track (document : Document) :
    (workspace.track file document).sessionOf? other =
      if file = other then some document.session else workspace.sessionOf? other := by
  unfold sessionOf? track
  rw [Table.get?_insert]
  split <;> rfl

theorem sessionOf?_modify (change : Document → Document)
    (keeps : ∀ document, (change document).session = document.session)
    (diagnostics : Table String (List Diagnostic)) :
    (⟨workspace.documents.modify file change, diagnostics⟩ : Workspace).sessionOf? other =
      workspace.sessionOf? other := by
  unfold sessionOf? Table.modify
  dsimp only
  split
  · rename_i document here
    rw [Table.get?_insert]
    split
    · rename_i same
      rw [← same, here]
      exact congrArg some (keeps document)
    · rfl
  · rfl

theorem sessionOf?_erase {closed : Workspace}
    (erased : closed.documents = workspace.documents.erase file) :
    closed.sessionOf? other = if file = other then none else workspace.sessionOf? other := by
  unfold sessionOf?
  rw [erased, Table.get?_erase]
  split <;> rfl

theorem sessionOf?_of_ownedBy? {document : Document}
    (owned : workspace.ownedBy? key file = some document) :
    workspace.sessionOf? file = some key ∧ document.session = key := by
  unfold ownedBy? at owned
  obtain ⟨found, held⟩ := Option.filter_eq_some_iff.mp owned
  have own : document.session = key := by simpa using held
  exact ⟨by rw [sessionOf?, found, ← own]; rfl, own⟩

theorem sessionOf?_ne_of_ownedBy? (fresh : workspace.ownedBy? key file = none) :
    workspace.sessionOf? file ≠ some key := by
  intro tracked
  obtain ⟨document, found, own⟩ := Option.map_eq_some_iff.mp tracked
  simp [ownedBy?, found, own] at fresh

theorem mem_documentsOf_iff (unique : (workspace.documents.entries.map (·.1)).Nodup)
    (key : SessionKey) (entry : String × Document) :
    entry ∈ workspace.documentsOf key ↔
      workspace.documents.get? entry.1 = some entry.2 ∧ entry.2.session = key := by
  rw [documentsOf, List.mem_filter, decide_eq_true_eq,
    Table.mem_entries_iff unique entry.1 entry.2]

theorem documentsOf_eq_nil_iff (unique : (workspace.documents.entries.map (·.1)).Nodup)
    (key : SessionKey) :
    workspace.documentsOf key = [] ↔ ∀ file, workspace.sessionOf? file ≠ some key := by
  rw [List.eq_nil_iff_forall_not_mem]
  constructor
  · intro none file tracked
    obtain ⟨document, found, own⟩ := Option.map_eq_some_iff.mp tracked
    exact none (file, document) ((mem_documentsOf_iff unique key _).mpr ⟨found, own⟩)
  · intro untracked entry member
    obtain ⟨found, own⟩ := (mem_documentsOf_iff unique key entry).mp member
    exact untracked entry.1 (by simp [sessionOf?, found, own])

end Workspace

namespace World

/-- A server is that of the session that a file is tracked for. -/
def Serves (world : World) (server : ServerId) (file : String) : Prop :=
  ∃ key session, world.workspace.sessionOf? file = some key ∧
    world.sessions.get? key = some session ∧ session.server = server

/-- Every server was told of documents only what it may be told: it has open only documents of
tracked files, and the document of a tracked file exactly if it is the server of the file's
session. -/
def Orderly (world : World) : Prop :=
  ∀ server, ∃ opened, Told.openAfter? (world.toldTo server) = some opened ∧
    (∀ name ∈ opened, ∃ file uri, world.workspace.sessionOf? file ≠ none ∧
      Uri.ofFileName file = .ok uri ∧ uri.text = name) ∧
    ∀ file uri, world.workspace.sessionOf? file ≠ none → Uri.ofFileName file = .ok uri →
      (uri.text ∈ opened ↔ world.Serves server file)

/-- Tracked files stay with their sessions, and no two of them are one document. -/
structure Settled (before after : World) : Prop where
  stays : ∀ file key other, before.workspace.sessionOf? file = some key →
    after.workspace.sessionOf? file = some other → other = key
  distinct : after.workspace.Distinct

/-- A server was told something of documents, and nobody else; sessions stay as they are. -/
structure Informed (server : ServerId) (told : List Told) (before after : World) : Prop where
  sessions : after.sessions = before.sessions
  connected : after.connected = before.connected
  received : ∀ other, after.toldTo other =
    before.toldTo other ++ if other = server then told else []

end World

/-- Sessions are in use under their own keys, each with a server of its own that was connected, and
no server was told anything before it was connected. -/
structure Enrolled (world : World) : Prop where
  keyed : ∀ key session, world.sessions.get? key = some session → session.key = key
  counted : ∀ key session, world.sessions.get? key = some session →
    session.server.number ≤ (world.connected.get? session.server.language).getD 0
  apart : ∀ key other session twin, world.sessions.get? key = some session →
    world.sessions.get? other = some twin → session.server = twin.server → key = other
  fresh : ∀ server : ServerId, (world.connected.get? server.language).getD 0 < server.number →
    world.toldTo server = []

/-- The documents that are open on a server are those of the files that are tracked for its
session. -/
def World.Shows (world : World) (server : ServerId) (opened : List String) : Prop :=
  ∀ name, name ∈ opened ↔
    ∃ file uri, world.Serves server file ∧ Uri.ofFileName file = .ok uri ∧ uri.text = name

/-- What holds between any two deeds as long as no file is taken over. -/
structure Placed (world : World) : Prop where
  enrolled : Enrolled world
  unique : (world.workspace.documents.entries.map (·.1)).Nodup
  named : ∀ file key, world.workspace.sessionOf? file = some key →
    ∃ uri, Uri.ofFileName file = .ok uri
  distinct : world.workspace.Distinct
  attended : ∀ file key, world.workspace.sessionOf? file = some key →
    ∃ session, world.sessions.get? key = some session
  streams : ∀ server, ∃ opened, Told.openAfter? (world.toldTo server) = some opened ∧
    world.Shows server opened

namespace Placed

variable {world last : World} {server : ServerId} {told : List Told}

theorem orderly (placed : Placed world) : world.Orderly := by
  intro server
  obtain ⟨opened, followed, shows⟩ := placed.streams server
  refine ⟨opened, followed, ?_, ?_⟩
  · intro name member
    obtain ⟨file, uri, ⟨key, _, tracked, _⟩, named, text⟩ := (shows name).mp member
    exact ⟨file, uri, by simp [tracked], named, text⟩
  · intro file uri tracked named
    obtain ⟨key, tracked⟩ := Option.ne_none_iff_exists'.mp tracked
    constructor
    · intro member
      obtain ⟨other, twin, serves, again, text⟩ := (shows uri.text).mp member
      rw [Uri.eq_of_text_eq again named text] at again
      obtain ⟨its, _, held, _⟩ := id serves
      rw [placed.distinct file other uri key its tracked held named again]
      exact serves
    · exact fun serves => (shows uri.text).mpr ⟨file, uri, serves, named, rfl⟩

end Placed

namespace Enrolled

variable {world last : World} {server : ServerId} {told : List Told}

theorem informed (enrolled : Enrolled world) (informed : World.Informed server told world last)
    (known : told ≠ [] → server.number ≤ (world.connected.get? server.language).getD 0) :
    Enrolled last where
  keyed := by rw [informed.sessions]; exact enrolled.keyed
  counted := by rw [informed.sessions, informed.connected]; exact enrolled.counted
  apart := by rw [informed.sessions]; exact enrolled.apart
  fresh := by
    intro other beyond
    rw [informed.connected] at beyond
    rw [informed.received, enrolled.fresh other beyond, List.nil_append]
    split
    · rename_i same
      subst same
      by_contra some
      exact Nat.not_le_of_lt beyond (known some)
    · rfl

theorem dropped (enrolled : Enrolled world) (key : SessionKey) :
    Enrolled { world with sessions := world.sessions.erase key } := by
  have kept {other : SessionKey} {session : Session}
      (here : (world.sessions.erase key).get? other = some session) :
      world.sessions.get? other = some session := by
    rw [Table.get?_erase] at here
    split at here
    · cases here
    · exact here
  refine ⟨?_, ?_, ?_, enrolled.fresh⟩
  · exact fun other session here => enrolled.keyed other session (kept here)
  · exact fun other session here => enrolled.counted other session (kept here)
  · exact fun first second session twin here there =>
      enrolled.apart first second session twin (kept here) (kept there)

/-- One more server that is told nothing yet. -/
theorem connected {language : String} (enrolled : Enrolled world)
    (sessions : last.sessions = world.sessions)
    (connected : last.connected = (world.connect language).1.connected)
    (silent : ∀ server, last.toldTo server = world.toldTo server) : Enrolled last := by
  have grown (other : String) :
      (world.connected.get? other).getD 0 ≤ (last.connected.get? other).getD 0 := by
    rw [connected]
    simp only [World.connect, Table.get?_insert]
    split
    · rename_i same
      subst same
      simp
    · exact le_refl _
  refine ⟨?_, ?_, ?_, ?_⟩
  · rw [sessions]
    exact enrolled.keyed
  · intro key session here
    rw [sessions] at here
    exact (enrolled.counted key session here).trans (grown _)
  · rw [sessions]
    exact enrolled.apart
  · intro server beyond
    rw [silent]
    exact enrolled.fresh server (Nat.lt_of_le_of_lt (grown _) beyond)

/-- A session with a server that no other session has. -/
theorem registered (enrolled : Enrolled world) {session : Session}
    (counted : session.server.number ≤ (world.connected.get? session.server.language).getD 0)
    (unused : ∀ other twin, world.sessions.get? other = some twin → twin.server ≠ session.server) :
    Enrolled { world with sessions := world.sessions.insert session.key session } := by
  refine ⟨?_, ?_, ?_, enrolled.fresh⟩
  · intro other twin here
    rw [Table.get?_insert] at here
    split at here
    · cases here
      assumption
    · exact enrolled.keyed other twin here
  · intro other twin here
    rw [Table.get?_insert] at here
    split at here
    · cases here
      exact counted
    · exact enrolled.counted other twin here
  · intro first second former twin here there same
    rw [Table.get?_insert] at here there
    split at here <;> split at there
    · rename_i left right
      exact left.symm.trans right
    · cases here
      exact absurd same.symm (unused _ _ there)
    · cases there
      exact absurd same (unused _ _ here)
    · exact enrolled.apart first second former twin here there same

end Enrolled

namespace Told

/-- Something that is told of an open document and leaves it open. -/
def Uses (told : Told) (name : String) : Prop :=
  told = .saved name ∨ ∃ version text, told = .notice (.changed name version text)

theorem follow?_of_uses {told : List Told} {opened : List String}
    (uses : ∀ entry ∈ told, ∃ name ∈ opened, entry.Uses name) :
    told.foldlM follow? opened = some opened := by
  induction told with
  | nil => rfl
  | cons entry rest ih =>
    obtain ⟨name, member, use⟩ := uses entry List.mem_cons_self
    have step : follow? opened entry = some opened := by
      rcases use with rfl | ⟨version, text, rfl⟩ <;> exact if_pos member
    rw [List.foldlM_cons, step]
    exact ih fun other later => uses other (List.mem_cons_of_mem _ later)

end Told

namespace World

variable {world last : World} {server : ServerId}

theorem serves_congr {file : String} (sessions : last.sessions = world.sessions)
    (same : last.workspace.sessionOf? file = world.workspace.sessionOf? file) :
    last.Serves server file ↔ world.Serves server file := by
  unfold Serves
  rw [sessions, same]

end World

namespace Placed

variable {world last : World} {server : ServerId} {told : List Told}

theorem counted (placed : Placed world) {file : String} (serves : world.Serves server file) :
    server.number ≤ (world.connected.get? server.language).getD 0 := by
  obtain ⟨key, session, _, registered, rfl⟩ := serves
  exact placed.enrolled.counted key session registered

/-- What is open changes on one server together with what is tracked for its session. -/
theorem shift (placed : Placed world) (informed : World.Informed server told world last)
    (known : told ≠ [] → server.number ≤ (world.connected.get? server.language).getD 0)
    (unique : (last.workspace.documents.entries.map (·.1)).Nodup)
    (named : ∀ file key, last.workspace.sessionOf? file = some key →
      ∃ uri, Uri.ofFileName file = .ok uri)
    (distinct : last.workspace.Distinct)
    (attended : ∀ file key, last.workspace.sessionOf? file = some key →
      ∃ session, last.sessions.get? key = some session)
    (others : ∀ other file, other ≠ server → (last.Serves other file ↔ world.Serves other file))
    (own : ∀ opened, world.Shows server opened →
      ∃ next, told.foldlM Told.follow? opened = some next ∧ last.Shows server next) :
    Placed last where
  enrolled := placed.enrolled.informed informed known
  unique := unique
  named := named
  distinct := distinct
  attended := attended
  streams := by
    intro other
    obtain ⟨opened, followed, shows⟩ := placed.streams other
    rw [informed.received]
    by_cases same : other = server
    · subst same
      obtain ⟨next, step, after⟩ := own opened shows
      refine ⟨next, ?_, after⟩
      rw [if_pos rfl, Told.openAfter?_append, followed]
      exact step
    · refine ⟨opened, by rw [if_neg same, List.append_nil, followed], fun name => ?_⟩
      simp only [shows name, others other _ same]

/-- Documents that are changed or saved stay where they are. -/
theorem kept (placed : Placed world) (informed : World.Informed server told world last)
    (unique : (last.workspace.documents.entries.map (·.1)).Nodup)
    (same : ∀ file, last.workspace.sessionOf? file = world.workspace.sessionOf? file)
    (about : ∀ entry ∈ told, ∃ file uri, world.Serves server file ∧ Uri.ofFileName file = .ok uri ∧
      entry.Uses uri.text) : Placed last := by
  have serves (other : ServerId) (file : String) :
      last.Serves other file ↔ world.Serves other file :=
    World.serves_congr informed.sessions (same file)
  refine placed.shift informed ?_ unique ?_ ?_ ?_ (fun other file _ => serves other file) ?_
  · intro some
    obtain ⟨entry, member⟩ := List.exists_mem_of_ne_nil told some
    obtain ⟨file, _, here, _⟩ := about entry member
    exact placed.counted here
  · intro file key tracked
    exact placed.named file key ((same file).symm.trans tracked)
  · intro file other uri key twin tracked held
    exact placed.distinct file other uri key twin ((same file).symm.trans tracked)
      ((same other).symm.trans held)
  · intro file key tracked
    rw [informed.sessions]
    exact placed.attended file key ((same file).symm.trans tracked)
  · intro opened shows
    refine ⟨opened, Told.follow?_of_uses fun entry member => ?_, fun name => ?_⟩
    · obtain ⟨file, uri, here, named, use⟩ := about entry member
      exact ⟨uri.text, (shows _).mpr ⟨file, uri, here, named, rfl⟩, use⟩
    · simp only [shows name, serves]

theorem settled (placed : Placed last)
    (former : ∀ file key, last.workspace.sessionOf? file = some key →
      world.workspace.sessionOf? file = some key) : World.Settled world last where
  stays := by
    intro file key other here there
    have before := former file other there
    rw [here] at before
    exact (Option.some.inj before).symm
  distinct := placed.distinct

/-- A document that is tracked under no file yet is opened on the server of a session. -/
theorem opened (placed : Placed world) {key : SessionKey} {session : Session} {file : String}
    {uri : Uri} {version : Int} {text : Text}
    (registered : world.sessions.get? key = some session) (named : Uri.ofFileName file = .ok uri)
    (alone : ∀ other twin, world.workspace.sessionOf? other = some twin →
      Uri.ofFileName other ≠ .ok uri)
    (informed : World.Informed session.server [.notice (.opened uri.text version text)] world last)
    (unique : (last.workspace.documents.entries.map (·.1)).Nodup)
    (track : ∀ other, last.workspace.sessionOf? other =
      if file = other then some key else world.workspace.sessionOf? other) :
    Placed last := by
  have untracked : world.workspace.sessionOf? file = none := by
    by_contra tracked
    obtain ⟨twin, tracked⟩ := Option.ne_none_iff_exists'.mp tracked
    exact alone file twin tracked named
  have serves (server : ServerId) (other : String) : last.Serves server other ↔
      file = other ∧ server = session.server ∨ world.Serves server other := by
    unfold World.Serves
    rw [informed.sessions, track]
    split
    · rename_i same
      subst same
      simp [untracked, registered, eq_comm]
    · rename_i apart
      simp [apart]
  refine placed.shift informed ?_ unique ?_ ?_ ?_ ?_ ?_
  · exact fun _ => placed.enrolled.counted key session registered
  · intro other twin tracked
    rw [track] at tracked
    split at tracked
    · rename_i same
      exact ⟨uri, same ▸ named⟩
    · exact placed.named other twin tracked
  · intro first second common its twin tracked held here there
    rw [track] at tracked held
    split at tracked <;> split at held
    · rename_i left right
      exact left.symm.trans right
    · rename_i left _
      rw [← left, named] at here
      cases here
      exact absurd there (alone second twin held)
    · rename_i _ right
      rw [← right, named] at there
      cases there
      exact absurd here (alone first its tracked)
    · exact placed.distinct first second common its twin tracked held here there
  · intro other twin tracked
    rw [informed.sessions]
    rw [track] at tracked
    split at tracked
    · cases tracked
      exact ⟨session, registered⟩
    · exact placed.attended other twin tracked
  · intro server other apart
    rw [serves]
    exact ⟨fun given => given.resolve_left fun same => apart same.2, .inr⟩
  · intro opened shows
    have closed : uri.text ∉ opened := by
      intro member
      obtain ⟨other, twin, ⟨its, _, tracked, _⟩, again, text⟩ := (shows _).mp member
      rw [Uri.eq_of_text_eq again named text] at again
      exact alone other its tracked again
    refine ⟨uri.text :: opened, ?_, fun name => ?_⟩
    · simp [Told.follow?, closed]
    · rw [List.mem_cons, shows name]
      constructor
      · rintro (rfl | ⟨other, twin, here, again, text⟩)
        · exact ⟨file, uri, (serves _ _).mpr (.inl ⟨rfl, rfl⟩), named, rfl⟩
        · exact ⟨other, twin, (serves _ _).mpr (.inr here), again, text⟩
      · rintro ⟨other, twin, here, again, text⟩
        rcases (serves _ _).mp here with ⟨rfl, _⟩ | before
        · rw [named] at again
          cases again
          exact .inl text.symm
        · exact .inr ⟨other, twin, before, again, text⟩

/-- A document is closed on the server of its session. -/
theorem closed (placed : Placed world) {key : SessionKey} {session : Session} {file : String}
    {uri : Uri} (tracked : world.workspace.sessionOf? file = some key)
    (registered : world.sessions.get? key = some session) (named : Uri.ofFileName file = .ok uri)
    (informed : World.Informed session.server [.notice (.closed uri.text)] world last)
    (unique : (last.workspace.documents.entries.map (·.1)).Nodup)
    (erase : ∀ other, last.workspace.sessionOf? other =
      if file = other then none else world.workspace.sessionOf? other) :
    Placed last := by
  have serves (server : ServerId) (other : String) : last.Serves server other ↔
      file ≠ other ∧ world.Serves server other := by
    unfold World.Serves
    rw [informed.sessions, erase]
    split
    · rename_i same
      simp [same]
    · rename_i apart
      simp [apart]
  have former {other : String} {twin : SessionKey}
      (held : last.workspace.sessionOf? other = some twin) :
      file ≠ other ∧ world.workspace.sessionOf? other = some twin := by
    rw [erase] at held
    split at held
    · cases held
    · rename_i apart
      exact ⟨apart, held⟩
  have here : world.Serves session.server file := ⟨key, session, tracked, registered, rfl⟩
  refine placed.shift informed ?_ unique ?_ ?_ ?_ ?_ ?_
  · exact fun _ => placed.counted here
  · exact fun other twin held => placed.named other twin (former held).2
  · exact fun first second common its twin held kept =>
      placed.distinct first second common its twin (former held).2 (former kept).2
  · intro other twin held
    rw [informed.sessions]
    exact placed.attended other twin (former held).2
  · intro server other apart
    rw [serves]
    refine ⟨And.right, fun served => ⟨?_, served⟩⟩
    rintro rfl
    obtain ⟨its, _, held, registered', rfl⟩ := served
    rw [tracked] at held
    cases held
    rw [registered] at registered'
    cases registered'
    exact apart rfl
  · intro opened shows
    have open' : uri.text ∈ opened := (shows _).mpr ⟨file, uri, here, named, rfl⟩
    refine ⟨opened.filter (· ≠ uri.text), ?_, fun name => ?_⟩
    · simp [Told.follow?, open']
    · rw [List.mem_filter, shows name, decide_eq_true_eq]
      constructor
      · rintro ⟨⟨other, twin, served, again, rfl⟩, apart⟩
        refine ⟨other, twin, (serves _ _).mpr ⟨?_, served⟩, again, rfl⟩
        rintro rfl
        rw [named] at again
        cases again
        exact apart rfl
      · rintro ⟨other, twin, served, again, rfl⟩
        obtain ⟨apart, before⟩ := (serves _ _).mp served
        refine ⟨⟨other, twin, before, again, rfl⟩, fun same => apart ?_⟩
        obtain ⟨its, _, held, _⟩ := before
        rw [Uri.eq_of_text_eq again named same] at again
        exact placed.distinct file other uri key its tracked held named again

/-- Sessions for which nothing is tracked come into use and go out of it. -/
theorem rearranged (placed : Placed world) (enrolled : Enrolled last)
    (workspace : last.workspace = world.workspace)
    (told : ∀ server, last.toldTo server = world.toldTo server)
    (same : ∀ file key, world.workspace.sessionOf? file = some key →
      last.sessions.get? key = world.sessions.get? key) : Placed last := by
  have serves (server : ServerId) (file : String) :
      last.Serves server file ↔ world.Serves server file := by
    unfold World.Serves
    rw [workspace]
    constructor
    · rintro ⟨key, session, tracked, here, own⟩
      exact ⟨key, session, tracked, (same file key tracked).symm.trans here, own⟩
    · rintro ⟨key, session, tracked, here, own⟩
      exact ⟨key, session, tracked, (same file key tracked).trans here, own⟩
  refine ⟨enrolled, ?_, ?_, ?_, ?_, ?_⟩
  · rw [workspace]
    exact placed.unique
  · rw [workspace]
    exact placed.named
  · rw [workspace]
    exact placed.distinct
  · intro file key tracked
    rw [workspace] at tracked
    obtain ⟨session, here⟩ := placed.attended file key tracked
    exact ⟨session, (same file key tracked).trans here⟩
  · intro server
    obtain ⟨opened, followed, shows⟩ := placed.streams server
    refine ⟨opened, by rw [told, followed], fun name => ?_⟩
    simp only [shows name, serves]

/-- A session for which nothing is tracked is put out of use. -/
theorem emptied (placed : Placed world) {key : SessionKey}
    (none : world.workspace.documentsOf key = []) :
    Placed { world with sessions := world.sessions.erase key } := by
  have untracked := (Workspace.documentsOf_eq_nil_iff placed.unique key).mp none
  refine placed.rearranged (placed.enrolled.dropped key) rfl (fun _ => rfl) ?_
  intro file other tracked
  have apart : key ≠ other := by
    rintro rfl
    exact untracked file tracked
  simp [apart]

end Placed

end LanguageBridge
