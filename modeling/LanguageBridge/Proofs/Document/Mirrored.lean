import LanguageBridge.Proofs.Document.Mirror
import LanguageBridge.Proofs.Session.Start

/-!
What holds between any two operations on documents, and that every operation keeps it: the server of
a session that is still there has the documents of the session.
-/
namespace LanguageBridge

/-- What holds between any two operations. -/
structure Mirrored (owner : String → SessionKey) (files : String → Prop) (world : World) :
    Prop where
  filed : world.workspace.Filed owner files
  keyed : ∀ key session, world.sessions.get? key = some session → session.key = key
  counted : ∀ key session, world.sessions.get? key = some session →
    session.server.number ≤ (world.connected.get? session.server.language).getD 0
  apart : ∀ key other session twin, world.sessions.get? key = some session →
    world.sessions.get? other = some twin → session.server = twin.server → key = other
  fresh : ∀ server : ServerId, (world.connected.get? server.language).getD 0 < server.number →
    world.noticesTo server = []
  followed : ∀ server, ∃ replica, Replica.replay? (world.noticesTo server) = some replica
  current : ∀ key session replica, world.sessions.get? key = some session →
    world.isAlive session.peer = true →
    Replica.replay? (world.noticesTo session.server) = some replica →
    Mirrors (world.workspace.documentsOf key) replica

namespace Mirrored

variable {owner : String → SessionKey} {files : String → Prop} {world last : World}

theorem undisturbed (mirrored : Mirrored owner files world) (drift : world.Undisturbed last) :
    Mirrored owner files last where
  filed := by rw [drift.workspace]; exact mirrored.filed
  keyed := by rw [drift.sessions]; exact mirrored.keyed
  counted := by rw [drift.sessions, drift.connected]; exact mirrored.counted
  apart := by rw [drift.sessions]; exact mirrored.apart
  fresh := by simpa only [World.noticesTo, drift.traffic, drift.connected] using mirrored.fresh
  followed := by simpa only [World.noticesTo, drift.traffic] using mirrored.followed
  current := by
    intro key session replica here alive replayed
    rw [drift.sessions] at here
    rw [World.noticesTo, drift.traffic] at replayed
    rw [drift.workspace]
    exact mirrored.current key session replica here (drift.dead _ alive) replayed

/-- A session's server gets notices that bring it from the documents of the session to those that
are tracked afterwards. -/
theorem notified (mirrored : Mirrored owner files world) {key : SessionKey} {session : Session}
    {workspace : Workspace} {notices : List Notice}
    (here : world.sessions.get? key = some session) (filed : workspace.Filed owner files)
    (others : ∀ name, owner name ≠ key →
      workspace.documents.get? name = world.workspace.documents.get? name)
    (told : World.Notified session.server notices { world with workspace } last)
    (follows : ∀ replica, Mirrors (world.workspace.documentsOf key) replica →
      ∃ next, Replica.takeAll? replica notices = some next ∧
        (last.isAlive session.peer = true → Mirrors (workspace.documentsOf key) next)) :
    Mirrored owner files last where
  filed := by rw [told.workspace]; exact filed
  keyed := by rw [told.sessions]; exact mirrored.keyed
  counted := by rw [told.sessions, told.connected]; exact mirrored.counted
  apart := by rw [told.sessions]; exact mirrored.apart
  fresh := by
    intro server beyond
    rw [told.connected] at beyond
    have other : server ≠ session.server := by
      rintro rfl
      exact absurd (mirrored.counted key session here) (Nat.not_le.mpr beyond)
    rw [told.received, if_neg other, List.append_nil]
    exact mirrored.fresh server beyond
  followed := by
    intro server
    obtain ⟨replica, replayed⟩ := mirrored.followed server
    rw [told.received]
    by_cases same : server = session.server
    · subst same
      rw [if_pos rfl, Replica.replay?_append]
      by_cases none : notices = []
      · exact ⟨replica, by rw [none]; exact congrArg (Option.bind · _) replayed⟩
      · have mirrors := mirrored.current key session replica here (told.heard none) replayed
        obtain ⟨next, taken, _⟩ := follows replica mirrors
        exact ⟨next, (congrArg (Option.bind · _) replayed).trans taken⟩
    · rw [if_neg same, List.append_nil]
      exact ⟨replica, replayed⟩
  current := by
    intro other twin replica there alive replayed
    rw [told.sessions] at there
    rw [told.workspace]
    rw [told.received] at replayed
    by_cases same : twin.server = session.server
    · obtain rfl : other = key := mirrored.apart other key twin session there here same
      obtain rfl : twin = session := Option.some.inj (there.symm.trans here)
      rw [if_pos rfl, Replica.replay?_append, Option.bind_eq_some_iff] at replayed
      obtain ⟨before, followed, taken⟩ := replayed
      have mirrors := mirrored.current other twin before here (told.dead _ alive) followed
      obtain ⟨next, reached, now⟩ := follows before mirrors
      rw [taken] at reached
      obtain rfl := Option.some.inj reached
      exact now alive
    · rw [if_neg same, List.append_nil] at replayed
      have mirrors := mirrored.current other twin replica there (told.dead _ alive) replayed
      have different : other ≠ key := by
        rintro rfl
        exact same (congrArg Session.server (Option.some.inj (there.symm.trans here)))
      refine mirrors.congr (Workspace.mem_documentsOf_of_same mirrored.filed filed ?_)
      rintro name rfl
      exact others name different

theorem quiet (mirrored : Mirrored owner files world) {key : SessionKey} {session : Session}
    (here : world.sessions.get? key = some session)
    (idle : world.Notified session.server [] last) : Mirrored owner files last :=
  mirrored.notified here mirrored.filed (fun _ _ => rfl) idle
    fun replica mirrors => ⟨replica, rfl, fun _ => mirrors⟩

/-- No other tracked document of the session has the URI of a file that is used. -/
theorem alone (mirrored : Mirrored owner files world) (distinct : UrisApart owner files)
    {file : String} (used : files file) {uri : Uri} (named : Uri.ofFileName file = .ok uri)
    (entry : String × Document) (member : entry ∈ world.workspace.documentsOf (owner file))
    (again : Uri.ofFileName entry.1 = .ok uri) : entry.1 = file := by
  obtain ⟨here, mine⟩ := (Workspace.mem_documentsOf mirrored.filed _ entry).mp member
  exact distinct entry.1 file uri (mirrored.filed.owned _ _ here).1 used mine again named

theorem get?_track_of_ne {workspace : Workspace} {file : String} (document : Document)
    {name : String} (other : owner name ≠ owner file) :
    (workspace.track file document).documents.get? name = workspace.documents.get? name := by
  have apart : file ≠ name := fun same => other (congrArg owner same).symm
  simp [Workspace.track, apart]

/-- A server follows when a document of its session is put in: its copy of the document is as it
should be, and the other copies are as they were. -/
theorem tracked (mirrored : Mirrored owner files world) (distinct : UrisApart owner files)
    {file : String} (used : files file) {session : Session}
    (here : world.sessions.get? (owner file) = some session) {uri : Uri}
    (named : Uri.ofFileName file = .ok uri) {document : Document}
    (belongs : document.session = owner file) {notices : List Notice}
    (told : World.Notified session.server notices
      { world with workspace := world.workspace.track file document } last)
    (follows : ∀ replica, Mirrors (world.workspace.documentsOf (owner file)) replica →
      ∃ next, Replica.takeAll? replica notices = some next ∧
        (last.isAlive session.peer = true →
          (∃ copy, next.get? uri.text = some copy ∧ copy.version = document.version ∧
            Text.Alike copy.text document.text) ∧
          ∀ name, name ≠ uri.text → next.get? name = replica.get? name)) :
    Mirrored owner files last := by
  have filed := mirrored.filed.track used belongs named
  refine mirrored.notified here filed (fun _ other => get?_track_of_ne document other) told ?_
  intro replica mirrors
  obtain ⟨next, taken, good⟩ := follows replica mirrors
  refine ⟨next, taken, fun alive => ?_⟩
  obtain ⟨⟨copy, there, version, alike⟩, elsewhere⟩ := good alive
  exact mirrors.put (Workspace.mem_documentsOf_track mirrored.filed filed) named
    (mirrored.alone distinct used named) there version alike elsewhere

/-- The copy of a tracked document. -/
theorem copyOf (mirrored : Mirrored owner files world) {file : String} {document : Document}
    (here : world.workspace.documents.get? file = some document) {uri : Uri}
    (named : Uri.ofFileName file = .ok uri) {replica : Table String Copy}
    (mirrors : Mirrors (world.workspace.documentsOf (owner file)) replica) :
    ∃ copy, replica.get? uri.text = some copy ∧ copy.version = document.version ∧
      Text.Alike copy.text document.text := by
  have member := (Workspace.mem_documentsOf mirrored.filed (owner file) (file, document)).mpr
    ⟨here, rfl⟩
  obtain ⟨twin, copy, again, there, rest⟩ := mirrors.held _ member
  obtain rfl := Except.ok.inj (again.symm.trans named)
  exact ⟨copy, there, rest⟩

theorem synced (mirrored : Mirrored owner files world) (distinct : UrisApart owner files)
    {file : String} (used : files file) {session : Session}
    (here : world.sessions.get? (owner file) = some session) {uri : Uri}
    (named : Uri.ofFileName file = .ok uri) {text : Text}
    (effect : Synced session uri file text world last) : Mirrored owner files last := by
  have own : session.key = owner file := mirrored.keyed _ _ here
  cases effect with
  | unchanged idle => exact mirrored.quiet here idle
  | @changed document owned differs told =>
    rw [own, Workspace.ownedBy?_eq mirrored.filed] at owned
    have belongs := (mirrored.filed.owned file document owned).2.1
    refine mirrored.tracked distinct used here named
      ((Document.session_update document text).trans belongs) told ?_
    intro replica mirrors
    obtain ⟨copy, there, version, _⟩ := mirrored.copyOf owned named mirrors
    have newer : copy.version < (document.version : Int) + 1 := by omega
    refine ⟨replica.insert uri.text ⟨(document.version + 1 : Nat), text⟩, ?_, fun _ => ⟨?_, ?_⟩⟩
    · simp [Replica.takeAll?_cons, Replica.take?, there, newer]
    · rw [Document.update_of_ne differs]
      exact ⟨⟨_, text⟩, by simp, rfl, (Text.alike_joinLines_splitLines text).symm⟩
    · intro name other
      simp [Ne.symm other]
  | @lost document owned differs gone told =>
    rw [own, Workspace.ownedBy?_eq mirrored.filed] at owned
    have belongs := (mirrored.filed.owned file document owned).2.1
    refine mirrored.tracked distinct used here named
      ((Document.session_update document text).trans belongs) told ?_
    intro replica mirrors
    refine ⟨replica, rfl, fun alive => ?_⟩
    rw [gone] at alive
    cases alive
  | opened fresh told =>
    rw [own, Workspace.ownedBy?_eq mirrored.filed] at fresh
    rw [own] at told
    refine mirrored.tracked distinct used here named rfl told ?_
    intro replica mirrors
    have free : replica.get? uri.text = none := by
      refine mirrors.absent named fun entry member again => ?_
      have same := mirrored.alone distinct used named entry member again
      have tracked := ((Workspace.mem_documentsOf mirrored.filed _ entry).mp member).1
      rw [same, fresh] at tracked
      cases tracked
    let document := Document.ofText (owner file) text
    refine ⟨replica.insert uri.text ⟨0, document.text⟩, ?_, fun _ => ⟨?_, ?_⟩⟩
    · simp [Replica.takeAll?_cons, Replica.take?, Table.contains, free, document]
    · exact ⟨⟨0, document.text⟩, by simp, rfl, .refl _⟩
    · intro name other
      simp [Ne.symm other]

theorem saved (mirrored : Mirrored owner files world) (distinct : UrisApart owner files)
    {file : String} (used : files file) {session : Session}
    (here : world.sessions.get? (owner file) = some session) {document : Document}
    (owned : world.workspace.ownedBy? session.key file = some document)
    (idle : World.Notified session.server []
      { world with workspace := world.workspace.markSaved file } last) :
    Mirrored owner files last := by
  rw [mirrored.keyed _ _ here, Workspace.ownedBy?_eq mirrored.filed] at owned
  obtain ⟨_, belongs, uri, named⟩ := mirrored.filed.owned file document owned
  have marked : world.workspace.markSaved file =
      world.workspace.track file { document with dirty := false } := by
    simp [Workspace.markSaved, Workspace.track, Table.modify_of_present owned]
  rw [marked] at idle
  refine mirrored.tracked distinct used here named ?_ idle ?_
  · exact belongs
  · intro replica mirrors
    exact ⟨replica, rfl, fun _ => ⟨mirrored.copyOf owned named mirrors, fun _ _ => rfl⟩⟩

theorem closed (mirrored : Mirrored owner files world) (distinct : UrisApart owner files)
    {file : String} (used : files file) {session : Session}
    (here : world.sessions.get? (owner file) = some session)
    (effect : Closed session file world last) : Mirrored owner files last := by
  have others {workspace : Workspace}
      (erased : workspace.documents = world.workspace.documents.erase file) (name : String)
      (other : owner name ≠ owner file) :
      workspace.documents.get? name = world.workspace.documents.get? name := by
    have apart : file ≠ name := fun same => other (congrArg owner same).symm
    simp [erased, apart]
  cases effect with
  | forgotten erased silent told =>
    refine mirrored.notified here (mirrored.filed.erase erased) (others erased) told ?_
    intro replica mirrors
    refine ⟨replica, rfl, fun alive => mirrors.congr fun entry => ?_⟩
    rw [Workspace.mem_documentsOf_erase mirrored.filed erased]
    constructor
    · exact And.left
    · intro member
      refine ⟨member, ?_⟩
      rintro rfl
      have tracked := ((Workspace.mem_documentsOf mirrored.filed _ entry).mp member).1
      rcases silent with none | gone | ⟨failure, bad⟩
      · rw [none] at tracked
        cases tracked
      · rw [gone] at alive
        cases alive
      · obtain ⟨_, _, uri, named⟩ := mirrored.filed.owned _ _ tracked
        rw [bad] at named
        cases named
  | @told workspace uri erased named present told =>
    refine mirrored.notified here (mirrored.filed.erase erased) (others erased) told ?_
    intro replica mirrors
    obtain ⟨document, tracked⟩ := Option.ne_none_iff_exists'.mp present
    obtain ⟨copy, there, _⟩ := mirrored.copyOf tracked named mirrors
    refine ⟨replica.erase uri.text, ?_, fun _ => ?_⟩
    · simp [Replica.takeAll?_cons, Replica.take?, Table.contains, there]
    · exact mirrors.drop (Workspace.mem_documentsOf_erase mirrored.filed erased) named
        (mirrored.alone distinct used named)

end Mirrored

/-- A server that is told of documents one after the other has all of them. -/
theorem Mirrors.openAll {seen entries : List (String × Document)} {replica : Table String Copy}
    (mirrors : Mirrors seen replica) (unique : ((seen ++ entries).map (·.1)).Nodup)
    (named : ∀ entry ∈ entries, ∃ uri, Uri.ofFileName entry.1 = .ok uri)
    (apart : ∀ entry ∈ seen ++ entries, ∀ other ∈ seen ++ entries, ∀ uri,
      Uri.ofFileName entry.1 = .ok uri → Uri.ofFileName other.1 = .ok uri → entry.1 = other.1) :
    ∃ final, Replica.takeAll? replica (entries.filterMap Notice.opening?) = some final ∧
      Mirrors (seen ++ entries) final := by
  induction entries generalizing seen replica with
  | nil => exact ⟨replica, rfl, by rwa [List.append_nil]⟩
  | cons entry rest ih =>
    obtain ⟨uri, here⟩ := named entry List.mem_cons_self
    have opens : Notice.opening? entry =
        some (.opened uri.text entry.2.version entry.2.text) := by
      simp [Notice.opening?, here]
    have between : entry ∈ seen ++ entry :: rest := by simp
    have fresh : ∀ old ∈ seen, old.1 ≠ entry.1 := by
      rw [List.map_append, List.nodup_append] at unique
      intro old member
      exact unique.2.2 _ (List.mem_map_of_mem member) _ (by simp)
    have alone : ∀ old ∈ seen, Uri.ofFileName old.1 ≠ .ok uri := fun old member again =>
      fresh old member (apart old (List.mem_append_left _ member) entry between uri again here)
    have free := mirrors.absent here alone
    let next := replica.insert uri.text ⟨entry.2.version, entry.2.text⟩
    have there : next.get? uri.text = some ⟨entry.2.version, entry.2.text⟩ := by simp [next]
    have members : ∀ other, other ∈ seen ++ [entry] ↔
        other = (entry.1, entry.2) ∨ other ∈ seen ∧ other.1 ≠ entry.1 := by
      intro other
      rw [List.mem_append, List.mem_singleton]
      constructor
      · rintro (old | rfl)
        · exact .inr ⟨old, fresh other old⟩
        · exact .inl rfl
      · rintro (rfl | ⟨old, _⟩)
        · exact .inr rfl
        · exact .inl old
    have more : Mirrors (seen ++ [entry]) next :=
      mirrors.put members here (fun old member again => absurd again (alone old member)) there rfl
        (.refl _) fun name other => by simp [next, Ne.symm other]
    rw [List.append_cons] at unique apart ⊢
    obtain ⟨final, taken, all⟩ := ih more unique
      (fun other member => named other (List.mem_cons_of_mem _ member)) apart
    refine ⟨final, ?_, all⟩
    rw [List.filterMap_cons_some opens, Replica.takeAll?_cons]
    simpa [Replica.take?, Table.contains, free] using taken

namespace Mirrored

variable {owner : String → SessionKey} {files : String → Prop} {world last : World}

/-- A new server that is told of documents of a session can follow. -/
theorem opened (mirrored : Mirrored owner files world) (distinct : UrisApart owner files)
    {key : SessionKey} {done : List (String × Document)}
    (part : done <+: world.workspace.documentsOf key) :
    ∃ replica, Replica.takeAll? ∅ (done.filterMap Notice.opening?) = some replica ∧
      Mirrors done replica := by
  have member {entry : String × Document} (inside : entry ∈ done) :=
    (Workspace.mem_documentsOf mirrored.filed key entry).mp (part.subset inside)
  have unique : (done.map (·.1)).Nodup := by
    have whole : ((world.workspace.documentsOf key).map (·.1)).Nodup :=
      mirrored.filed.unique.sublist (List.filter_sublist.map _)
    exact whole.sublist (part.sublist.map _)
  refine Mirrors.nil.openAll unique ?_ ?_
  · intro entry inside
    exact (mirrored.filed.owned _ _ (member inside).1).2.2
  · intro entry inside other beside uri named again
    obtain ⟨here, mine⟩ := member inside
    obtain ⟨there, its⟩ := member beside
    exact distinct _ _ uri (mirrored.filed.owned _ _ here).1 (mirrored.filed.owned _ _ there).1
      (mine.trans its.symm) named again

theorem dropped (mirrored : Mirrored owner files world) (key : SessionKey) :
    Mirrored owner files { world with sessions := world.sessions.erase key } where
  filed := mirrored.filed
  keyed := by
    intro other session here
    rw [Table.get?_erase] at here
    split at here
    · cases here
    · exact mirrored.keyed other session here
  counted := by
    intro other session here
    rw [Table.get?_erase] at here
    split at here
    · cases here
    · exact mirrored.counted other session here
  apart := by
    intro first second session twin here there
    rw [Table.get?_erase] at here there
    split at here
    · cases here
    split at there
    · cases there
    exact mirrored.apart first second session twin here there
  fresh := mirrored.fresh
  followed := mirrored.followed
  current := by
    intro other session replica here
    rw [Table.get?_erase] at here
    split at here
    · cases here
    · exact mirrored.current other session replica here

/-- One more server, not in use yet, that was told of documents of a session. -/
theorem begun (mirrored : Mirrored owner files world) (distinct : UrisApart owner files)
    {key : SessionKey} {done : List (String × Document)}
    (part : done <+: world.workspace.documentsOf key)
    (told : World.Notified (world.connect key.language).2 (done.filterMap Notice.opening?)
      (world.connect key.language).1 last) : Mirrored owner files last := by
  have grown (language : String) : (world.connected.get? language).getD 0 ≤
      (last.connected.get? language).getD 0 := by
    rw [told.connected]
    simp only [World.connect, Table.get?_insert]
    split
    · rename_i same
      subst same
      simp
    · exact le_refl _
  have untold : world.noticesTo (world.connect key.language).2 = [] :=
    mirrored.fresh _ (by simp [World.connect])
  have former {server : ServerId} (old : server ≠ (world.connect key.language).2) :
      last.noticesTo server = world.noticesTo server := by
    rw [told.received, if_neg old, List.append_nil]
    rfl
  have sessions : last.sessions = world.sessions := told.sessions
  have known {other : SessionKey} {session : Session}
      (here : world.sessions.get? other = some session) :
      session.server ≠ (world.connect key.language).2 := by
    intro same
    have bounded := mirrored.counted other session here
    rw [same] at bounded
    exact Nat.not_succ_le_self _ bounded
  refine ⟨?_, ?_, ?_, ?_, ?_, ?_, ?_⟩
  · rw [told.workspace]
    exact mirrored.filed
  · rw [sessions]
    exact mirrored.keyed
  · intro other session here
    rw [sessions] at here
    exact (mirrored.counted other session here).trans (grown _)
  · rw [sessions]
    exact mirrored.apart
  · intro server beyond
    have old : server ≠ (world.connect key.language).2 := by
      rintro rfl
      rw [told.connected] at beyond
      simp [World.connect] at beyond
    rw [former old]
    exact mirrored.fresh server (Nat.lt_of_le_of_lt (grown _) beyond)
  · intro server
    by_cases same : server = (world.connect key.language).2
    · obtain ⟨replica, taken, _⟩ := mirrored.opened distinct part
      refine ⟨replica, ?_⟩
      rw [same, told.received, if_pos rfl]
      change Replica.replay? (world.noticesTo _ ++ _) = _
      rw [untold]
      exact taken
    · rw [former same]
      exact mirrored.followed server
  · intro other session replica here alive
    rw [sessions] at here
    rw [former (known here), told.workspace]
    exact mirrored.current other session replica here (told.dead _ alive)

/-- A server that has the documents of its session is put in use. -/
theorem registered (mirrored : Mirrored owner files world) {session : Session}
    (counted : session.server.number ≤
      (world.connected.get? session.server.language).getD 0)
    (unused : ∀ other twin, world.sessions.get? other = some twin → twin.server ≠ session.server)
    (current : ∀ replica, Replica.replay? (world.noticesTo session.server) = some replica →
      Mirrors (world.workspace.documentsOf session.key) replica) :
    Mirrored owner files
      { world with sessions := world.sessions.insert session.key session } where
  filed := mirrored.filed
  keyed := by
    intro other twin here
    rw [Table.get?_insert] at here
    split at here
    · cases here
      assumption
    · exact mirrored.keyed other twin here
  counted := by
    intro other twin here
    rw [Table.get?_insert] at here
    split at here
    · cases here
      exact counted
    · exact mirrored.counted other twin here
  apart := by
    intro first second former twin here there same
    rw [Table.get?_insert] at here there
    split at here <;> split at there
    · rename_i left right
      exact left.symm.trans right
    · cases here
      exact absurd same.symm (unused _ _ there)
    · cases there
      exact absurd same (unused _ _ here)
    · exact mirrored.apart first second former twin here there same
  fresh := mirrored.fresh
  followed := mirrored.followed
  current := by
    intro other twin replica here alive replayed
    rw [Table.get?_insert] at here
    split at here
    · cases here
      rename_i same
      subst same
      exact current replica replayed
    · exact mirrored.current other twin replica here alive replayed

theorem restarted (mirrored : Mirrored owner files world) (distinct : UrisApart owner files)
    {setup : Setup} {host : Host} {thread : Nat} {key : SessionKey} {outcome : Outcome Session}
    (runs : Job.Runs host thread (Session.getOrStart key (Session.start setup key)) world outcome
      last) : Mirrored owner files last := by
  cases Session.getOrStart_effect runs with
  | found _ drift => exact mirrored.undisturbed drift
  | failed _ drift starting rest =>
    have dropped := (mirrored.dropped key).undisturbed drift
    cases Session.start_effect starting with
    | refused _ idle => exact (dropped.undisturbed idle).undisturbed rest
    | begun part told => exact (dropped.begun distinct part told).undisturbed rest
  | @started before after _ session _ drift starting rest =>
    have dropped := (mirrored.dropped key).undisturbed drift
    cases Session.start_effect starting with
    | refused failed => cases failed
    | @begun done part told ready =>
      obtain ⟨own, new, all⟩ := ready session rfl
      rw [← own] at rest
      have begun := dropped.begun distinct part told
      refine (begun.registered ?_ ?_ ?_).undisturbed rest
      · rw [new, told.connected]
        simp [World.connect]
      · intro other twin here same
        rw [told.sessions] at here
        have bounded := dropped.counted other twin here
        rw [same, new] at bounded
        exact Nat.not_succ_le_self _ bounded
      · intro replica replayed
        obtain ⟨copies, taken, mirrors⟩ := dropped.opened distinct part
        have untold : before.noticesTo (before.connect key.language).2 = [] :=
          dropped.fresh _ (by simp [World.connect])
        rw [new, told.received, if_pos rfl] at replayed
        change Replica.replay? (before.noticesTo _ ++ _) = _ at replayed
        rw [untold] at replayed
        obtain rfl := Option.some.inj (replayed.symm.trans taken)
        rw [told.workspace, own]
        rw [all] at mirrors
        exact mirrors

end Mirrored

end LanguageBridge
