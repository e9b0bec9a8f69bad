import Mathlib.Data.List.Nodup
import LanguageBridge.Proofs.Document.Upkeep
import LanguageBridge.Proofs.Script.Idle

/-!
The text of a document that its server holds. A server gets a text as a whole: cut into lines and
joined again when the document is opened, for the first time or anew, but as it is when the document
is changed. So the server holds the tracked text unless a line of the change ends in a carriage
return.
-/
namespace LanguageBridge

namespace Notice

/-- The text of a document that a server holds after a notice. -/
def heldAfter (uri : String) (held : Option Text) : Notice → Option Text
  | .opened name _ text => if name = uri then some text else held
  | .changed name _ text => if name = uri then some text else held
  | .closed name => if name = uri then none else held

theorem heldAfter_of_ne {uri : String} {notice : Notice} (other : notice.uri ≠ uri)
    (held : Option Text) : notice.heldAfter uri held = held := by
  cases notice <;> exact if_neg other

/-- Notices about other documents leave the text of one alone. -/
theorem foldl_heldAfter_of_ne {uri : String} {notices : List Notice}
    (others : ∀ notice ∈ notices, notice.uri ≠ uri) (held : Option Text) :
    notices.foldl (heldAfter uri) held = held := by
  induction notices generalizing held with
  | nil => rfl
  | cons notice rest ih =>
    obtain ⟨here, later⟩ := List.forall_mem_cons.mp others
    rw [List.foldl_cons, heldAfter_of_ne here, ih later]

end Notice

/-- The text of a document that a server holds. -/
def World.heldBy (world : World) (server : ServerId) (uri : String) : Option Text :=
  (world.noticesTo server).foldl (Notice.heldAfter uri) none

/-- A server that could follow what it was told holds the text of its copy. -/
theorem Replica.text_of_takeAll? {replica final : Table String Copy} {notices : List Notice}
    (taken : takeAll? replica notices = some final) (uri : String) :
    (final.get? uri).map Copy.text =
      notices.foldl (Notice.heldAfter uri) ((replica.get? uri).map Copy.text) := by
  induction notices generalizing replica with
  | nil =>
    cases taken
    rfl
  | cons notice rest ih =>
    rw [takeAll?_cons, Option.bind_eq_some_iff] at taken
    obtain ⟨next, applied, others⟩ := taken
    rw [List.foldl_cons, ih others]
    congr 1
    cases notice with
    | opened name version text =>
      simp only [take?, Option.ite_none_left_eq_some, Option.some.injEq] at applied
      rw [← applied.2, Table.get?_insert, Notice.heldAfter]
      split <;> rfl
    | changed name version text =>
      simp only [take?] at applied
      split at applied
      · simp only [Option.ite_none_right_eq_some, Option.some.injEq] at applied
        rw [← applied.2, Table.get?_insert, Notice.heldAfter]
        split <;> rfl
      · cases applied
    | closed name =>
      simp only [take?, Option.ite_none_right_eq_some, Option.some.injEq] at applied
      rw [← applied.2, Table.get?_erase, Notice.heldAfter]
      split <;> rfl

/-- The last that a server was told of a document is the text of its lines when it was opened, and a
text with its lines when it was changed. -/
inductive ToldLast (uri : String) (document : Document) (notices : List Notice) : Prop
  | opened {earlier later : List Notice} {version : Int}
      (split : notices = earlier ++ .opened uri version document.text :: later)
      (since : ∀ notice ∈ later, notice.uri ≠ uri)
  | changed {earlier later : List Notice} {version : Int} {text : Text}
      (split : notices = earlier ++ .changed uri version text :: later)
      (lines : text.splitLines = document.lines)
      (since : ∀ notice ∈ later, notice.uri ≠ uri)

namespace ToldLast

variable {uri : String} {document : Document} {notices : List Notice}

theorem append (told : ToldLast uri document notices) {more : List Notice}
    (others : ∀ notice ∈ more, notice.uri ≠ uri) : ToldLast uri document (notices ++ more) := by
  cases told with
  | @opened earlier later version split since =>
    subst split
    refine .opened (List.append_assoc earlier (_ :: later) more) fun notice member => ?_
    exact (List.mem_append.mp member).elim (since notice) (others notice)
  | @changed earlier later version text split lines since =>
    subst split
    refine .changed (List.append_assoc earlier (_ :: later) more) lines fun notice member => ?_
    exact (List.mem_append.mp member).elim (since notice) (others notice)

/-- Only the lines of a document matter. -/
theorem congr (told : ToldLast uri document notices) {other : Document}
    (same : other.lines = document.lines) : ToldLast uri other notices := by
  cases told with
  | opened split since =>
    have text : document.text = other.text := congrArg Text.joinLines same.symm
    exact .opened (text ▸ split) since
  | changed split lines since => exact .changed split (lines.trans same.symm) since

end ToldLast

/-- The server of each session that is still there was told of each tracked document of the session
last what the document is. -/
def Faithful (world : World) : Prop :=
  ∀ key session file document uri, world.sessions.get? key = some session →
    world.isAlive session.peer = true → world.workspace.documents.get? file = some document →
    document.session = key → Uri.ofFileName file = .ok uri →
    ToldLast uri.text document (world.noticesTo session.server)

namespace Faithful

variable {owner : String → SessionKey} {files : String → Prop} {world last : World}

theorem undisturbed (faithful : Faithful world) (drift : world.Undisturbed last) :
    Faithful last := by
  intro key session file document uri here alive tracked belongs named
  rw [drift.sessions] at here
  rw [drift.workspace] at tracked
  rw [World.noticesTo, drift.traffic]
  exact faithful key session file document uri here (drift.dead _ alive) tracked belongs named

/-- The server of a session gets notices that tell what the documents of the session are; those of
other sessions are as they were. -/
theorem notified (faithful : Faithful world) (mirrored : Mirrored owner files world)
    {key : SessionKey} {session : Session} {workspace : Workspace} {notices : List Notice}
    (here : world.sessions.get? key = some session)
    (told : World.Notified session.server notices { world with workspace } last)
    (others : ∀ file document, workspace.documents.get? file = some document →
      document.session ≠ key → world.workspace.documents.get? file = some document)
    (own : last.isAlive session.peer = true → ∀ file document uri,
      workspace.documents.get? file = some document → document.session = key →
      Uri.ofFileName file = .ok uri →
      ToldLast uri.text document (world.noticesTo session.server ++ notices)) : Faithful last := by
  intro other twin file document uri there alive tracked belongs named
  rw [told.sessions] at there
  rw [told.workspace] at tracked
  rw [told.received]
  by_cases same : twin.server = session.server
  · obtain rfl : other = key := mirrored.apart other key twin session there here same
    obtain rfl : twin = session := Option.some.inj (there.symm.trans here)
    rw [if_pos rfl]
    exact own alive file document uri tracked belongs named
  · have different : document.session ≠ key := by
      rw [belongs]
      rintro rfl
      exact same (congrArg Session.server (Option.some.inj (there.symm.trans here)))
    rw [if_neg same, List.append_nil]
    exact faithful other twin file document uri there (told.dead _ alive)
      (others file document tracked different) belongs named

/-- A file is put in, and its server is told what it is, or is gone. -/
theorem tracked (faithful : Faithful world) (mirrored : Mirrored owner files world)
    (distinct : UrisApart owner files) {file : String} (used : files file) {session : Session}
    (here : world.sessions.get? (owner file) = some session) {uri : Uri}
    (named : Uri.ofFileName file = .ok uri) {document : Document}
    (belongs : document.session = owner file) {notices : List Notice}
    (told : World.Notified session.server notices
      { world with workspace := world.workspace.track file document } last)
    (about : ∀ notice ∈ notices, notice.uri = uri.text)
    (own : last.isAlive session.peer = true →
      ToldLast uri.text document (world.noticesTo session.server ++ notices)) : Faithful last := by
  refine faithful.notified mirrored here told ?_ ?_
  · intro name found there different
    have apart : file ≠ name := by
      rintro rfl
      simp only [Workspace.track, Table.get?_insert, if_true, Option.some.injEq] at there
      exact different (there ▸ belongs)
    simpa [Workspace.track, apart] using there
  · intro alive name found twin there its again
    by_cases same : file = name
    · subst same
      simp only [Workspace.track, Table.get?_insert, if_true, Option.some.injEq] at there
      obtain rfl := Except.ok.inj (again.symm.trans named)
      exact there ▸ own alive
    · have before : world.workspace.documents.get? name = some found := by
        simpa [Workspace.track, same] using there
      have told := faithful (owner file) session name found twin here (told.dead _ alive) before its
        again
      refine told.append fun notice member text => same ?_
      have one : twin = uri := Uri.eq_of_text_eq again named (text.symm.trans (about notice member))
      have filed := mirrored.filed.owned name found before
      exact distinct file name uri used filed.1 (its.symm.trans filed.2.1) named (one ▸ again)

theorem quiet (faithful : Faithful world) (mirrored : Mirrored owner files world)
    {key : SessionKey} {session : Session} (here : world.sessions.get? key = some session)
    (idle : world.Notified session.server [] last) : Faithful last := by
  refine faithful.notified mirrored here idle (fun _ _ there _ => there) ?_
  intro alive file document uri there its named
  rw [List.append_nil]
  exact faithful key session file document uri here (idle.dead _ alive) there its named

theorem synced (faithful : Faithful world) (mirrored : Mirrored owner files world)
    (distinct : UrisApart owner files) {file : String} (used : files file) {session : Session}
    (here : world.sessions.get? (owner file) = some session) {uri : Uri}
    (named : Uri.ofFileName file = .ok uri) {text : Text}
    (effect : Synced session uri file text world last) : Faithful last := by
  have own : session.key = owner file := mirrored.keyed _ _ here
  cases effect with
  | unchanged idle => exact faithful.quiet mirrored here idle
  | @changed document owned differs told =>
    rw [own, Workspace.ownedBy?_eq mirrored.filed] at owned
    have belongs := (mirrored.filed.owned file document owned).2.1
    refine faithful.tracked mirrored distinct used here named
      ((Document.session_update document text).trans belongs) told (by simp [Notice.uri]) ?_
    intro _
    exact .changed rfl (by rw [Document.update_of_ne differs]) (by simp)
  | @lost document owned differs gone told =>
    rw [own, Workspace.ownedBy?_eq mirrored.filed] at owned
    have belongs := (mirrored.filed.owned file document owned).2.1
    refine faithful.tracked mirrored distinct used here named
      ((Document.session_update document text).trans belongs) told (by simp) ?_
    intro alive
    rw [gone] at alive
    cases alive
  | opened fresh told =>
    rw [own] at told
    exact faithful.tracked mirrored distinct used here named rfl told (by simp [Notice.uri])
      fun _ => .opened rfl (by simp)

theorem saved (faithful : Faithful world) (mirrored : Mirrored owner files world)
    (distinct : UrisApart owner files) {file : String} (used : files file) {session : Session}
    (here : world.sessions.get? (owner file) = some session) {document : Document}
    (owned : world.workspace.ownedBy? session.key file = some document)
    (idle : World.Notified session.server []
      { world with workspace := world.workspace.markSaved file } last) : Faithful last := by
  rw [mirrored.keyed _ _ here, Workspace.ownedBy?_eq mirrored.filed] at owned
  obtain ⟨_, belongs, uri, named⟩ := mirrored.filed.owned file document owned
  have marked : world.workspace.markSaved file =
      world.workspace.track file { document with dirty := false } := by
    simp [Workspace.markSaved, Workspace.track, Table.modify_of_present owned]
  rw [marked] at idle
  refine faithful.tracked mirrored distinct used here named ?_ idle (by simp) ?_
  · exact belongs
  intro alive
  rw [List.append_nil]
  have told := faithful _ session file document uri here (idle.dead _ alive) owned belongs named
  exact told.congr rfl

theorem closed (faithful : Faithful world) (mirrored : Mirrored owner files world)
    (distinct : UrisApart owner files) {file : String} (used : files file) {session : Session}
    (here : world.sessions.get? (owner file) = some session)
    (effect : Closed session file world last) : Faithful last := by
  have kept {workspace : Workspace}
      (erased : workspace.documents = world.workspace.documents.erase file) {name : String}
      {document : Document} (there : workspace.documents.get? name = some document) :
      file ≠ name ∧ world.workspace.documents.get? name = some document := by
    rw [erased, Table.get?_erase] at there
    split at there
    · cases there
    · rename_i apart
      exact ⟨apart, there⟩
  cases effect with
  | forgotten erased silent told =>
    refine faithful.notified mirrored here told (fun _ _ there _ => (kept erased there).2) ?_
    intro alive name document uri there its named
    rw [List.append_nil]
    exact faithful _ session name document uri here (told.dead _ alive) (kept erased there).2 its
      named
  | @told workspace uri erased named present told =>
    refine faithful.notified mirrored here told (fun _ _ there _ => (kept erased there).2) ?_
    intro alive name document twin there its again
    obtain ⟨apart, before⟩ := kept erased there
    have told := faithful _ session name document twin here (told.dead _ alive) before its again
    refine told.append fun notice member text => apart ?_
    obtain rfl := List.mem_singleton.mp member
    have one : twin = uri := Uri.eq_of_text_eq again named text.symm
    have filed := mirrored.filed.owned name document before
    exact distinct file name uri used filed.1 (its.symm.trans filed.2.1) named (one ▸ again)

/-- With fewer sessions in use there is less to be told. -/
theorem dropped (faithful : Faithful world) (key : SessionKey) :
    Faithful { world with sessions := world.sessions.erase key } := by
  intro other session file document uri here
  rw [Table.get?_erase] at here
  split at here
  · cases here
  · exact faithful other session file document uri here

/-- Another server that is not in use is told of documents. -/
theorem begun (faithful : Faithful world) (mirrored : Mirrored owner files world)
    {key : SessionKey} {notices : List Notice}
    (told : World.Notified (world.connect key.language).2 notices
      (world.connect key.language).1 last) : Faithful last := by
  intro other session file document uri here alive tracked belongs named
  have sessions : last.sessions = world.sessions := told.sessions
  rw [sessions] at here
  rw [told.workspace] at tracked
  have known : session.server ≠ (world.connect key.language).2 := by
    intro same
    have bounded := mirrored.counted other session here
    rw [same] at bounded
    exact Nat.not_succ_le_self _ bounded
  rw [told.received, if_neg known, List.append_nil]
  exact faithful other session file document uri here (told.dead _ alive) tracked belongs named

end Faithful

/-- A server that was told to open documents, no two of which have one URI, was told of each last
what it is. -/
theorem ToldLast.of_openings {entries : List (String × Document)} {entry : String × Document}
    {uri : Uri} (unique : (entries.map (·.1)).Nodup) (member : entry ∈ entries)
    (named : Uri.ofFileName entry.1 = .ok uri)
    (apart : ∀ other ∈ entries, Uri.ofFileName other.1 = .ok uri → other.1 = entry.1) :
    ToldLast uri.text entry.2 (entries.filterMap Notice.opening?) := by
  obtain ⟨before, after, rfl⟩ := List.append_of_mem member
  have opens : Notice.opening? entry =
      some (.opened uri.text entry.2.version entry.2.text) := by
    simp [Notice.opening?, named]
  rw [List.filterMap_append, List.filterMap_cons_some opens]
  refine .opened rfl fun notice there text => ?_
  obtain ⟨other, later, opening⟩ := List.mem_filterMap.mp there
  unfold Notice.opening? at opening
  split at opening
  · rename_i twin again
    cases opening
    have one : twin = uri := Uri.eq_of_text_eq again named text
    have same := apart other (List.mem_append_right _ (List.mem_cons_of_mem _ later)) (one ▸ again)
    rw [List.map_append, List.map_cons, List.nodup_middle] at unique
    refine (List.nodup_cons.mp unique).1 (List.mem_append_right _ ?_)
    rw [← same]
    exact List.mem_map_of_mem later
  · cases opening

namespace Faithful

variable {setup : Setup} {owner : String → SessionKey} {files : String → Prop} {world last : World}

/-- A server that was told to open all documents of its session is put in use. -/
theorem registered (faithful : Faithful world) (mirrored : Mirrored owner files world)
    (distinct : UrisApart owner files) {session : Session}
    (told : world.noticesTo session.server =
      (world.workspace.documentsOf session.key).filterMap Notice.opening?) :
    Faithful { world with sessions := world.sessions.insert session.key session } := by
  intro other twin file document uri here alive tracked belongs named
  rw [Table.get?_insert] at here
  split at here
  · rename_i same
    cases here
    subst same
    have filed := mirrored.filed.owned file document tracked
    have member : (file, document) ∈ world.workspace.documentsOf session.key :=
      (Workspace.mem_documentsOf mirrored.filed _ _).mpr ⟨tracked, filed.2.1.symm.trans belongs⟩
    have unique : ((world.workspace.documentsOf session.key).map (·.1)).Nodup :=
      mirrored.filed.unique.sublist (List.filter_sublist.map _)
    change ToldLast uri.text document (world.noticesTo session.server)
    rw [told]
    refine ToldLast.of_openings unique member named fun entry beside again => ?_
    obtain ⟨there, mine⟩ := (Workspace.mem_documentsOf mirrored.filed _ entry).mp beside
    have owns : owner file = session.key := filed.2.1.symm.trans belongs
    exact distinct entry.1 file uri (mirrored.filed.owned _ _ there).1 filed.1
      (mine.trans owns.symm) again named
  · exact faithful other twin file document uri here alive tracked belongs named

theorem restarted (faithful : Faithful world) (mirrored : Mirrored owner files world)
    (distinct : UrisApart owner files) {host : Host} {thread : Nat} {key : SessionKey}
    {outcome : Outcome Session}
    (runs : Job.Runs host thread (Session.getOrStart key (Session.start setup key)) world outcome
      last) : Faithful last := by
  cases Session.getOrStart_effect runs with
  | found _ drift => exact faithful.undisturbed drift
  | failed _ drift starting rest =>
    have dropped := (faithful.dropped key).undisturbed drift
    cases Session.start_effect starting with
    | refused _ idle => exact (dropped.undisturbed idle).undisturbed rest
    | begun part told =>
      have former := (mirrored.dropped key).undisturbed drift
      exact (dropped.begun former told).undisturbed rest
  | @started before after _ session _ drift starting rest =>
    have dropped := (faithful.dropped key).undisturbed drift
    have former := (mirrored.dropped key).undisturbed drift
    cases Session.start_effect starting with
    | refused failed => cases failed
    | @begun done part told ready =>
      obtain ⟨own, new, all⟩ := ready session rfl
      rw [← own] at rest
      refine ((dropped.begun former told).registered (former.begun distinct part told) distinct
        ?_).undisturbed rest
      have untold : before.noticesTo (before.connect key.language).2 = [] :=
        former.fresh _ (by simp [World.connect])
      rw [new, told.received, if_pos rfl, told.workspace, own]
      change before.noticesTo _ ++ _ = (before.workspace.documentsOf key).filterMap _
      rw [untold, List.nil_append, all]

theorem turn (faithful : Faithful world) (mirrored : Mirrored owner files world)
    (distinct : UrisApart owner files) (turn : Turn setup owner files world last) :
    Faithful last := by
  cases turn with
  | @sync context file text thread outcome _ used registered runs =>
    cases here : world.sessions.get? (owner file) with
    | none =>
      rw [here] at registered
      exact faithful.undisturbed (Context.idle registered runs)
    | some session =>
      rw [here] at registered
      rcases Context.sync_effect registered runs with idle | ⟨uri, named, effect⟩
      · exact faithful.quiet mirrored here idle
      · exact faithful.synced mirrored distinct used here named effect
  | @save context file thread outcome _ used registered runs =>
    cases here : world.sessions.get? (owner file) with
    | none =>
      rw [here] at registered
      exact faithful.undisturbed (Context.idle registered runs)
    | some session =>
      rw [here] at registered
      rcases Context.didSave_effect registered runs with idle | ⟨⟨document, owned⟩, told⟩
      · exact faithful.quiet mirrored here idle
      · exact faithful.saved mirrored distinct used here owned told
  | @close context file thread outcome _ used registered runs =>
    cases here : world.sessions.get? (owner file) with
    | none =>
      rw [here] at registered
      exact faithful.undisturbed (Context.idle registered runs)
    | some session =>
      rw [here] at registered
      exact faithful.closed mirrored distinct used here (Context.didClose_effect registered runs)
  | restart runs => exact faithful.restarted mirrored distinct runs
  | happen happening => exact faithful.undisturbed (.happening world happening)

/-- Whatever turns there were, servers were told last what the documents are. -/
theorem reached (distinct : UrisApart owner files) {tree : FileTree} {extensions : Extensions}
    (reached : Reached setup owner files { tree, extensions } world) : Faithful world := by
  induction reached with
  | refl =>
    intro key session file document uri impossible
    cases impossible
  | tail before turn ih =>
    exact ih.turn ((Mirrored.start tree extensions).reached distinct before) distinct turn

end Faithful

/-- The text of a tracked document that a server holds. If the server was told last to open the
document, for the first time or anew, it holds the tracked text; if it was told last of a change, it
holds the text as it came, which is the tracked text exactly if no line of it ends in a carriage
return. -/
inductive TextHeld (world : World) (server : ServerId) (uri : String) (tracked : Text) : Prop
  | opened {earlier later : List Notice} {version : Int}
      (split : world.noticesTo server = earlier ++ .opened uri version tracked :: later)
      (since : ∀ notice ∈ later, notice.uri ≠ uri)
      (holds : world.heldBy server uri = some tracked)
  | changed {earlier later : List Notice} {version : Int} {text : Text}
      (split : world.noticesTo server = earlier ++ .changed uri version text :: later)
      (since : ∀ notice ∈ later, notice.uri ≠ uri)
      (holds : world.heldBy server uri = some text)
      (tracks : tracked = Text.joinLines text.splitLines)
      (exactly : world.heldBy server uri = some tracked ↔ text.hasReturns = false)

theorem ToldLast.textHeld {world : World} {server : ServerId} {uri : String} {document : Document}
    (told : ToldLast uri document (world.noticesTo server)) :
    TextHeld world server uri document.text := by
  cases told with
  | opened split since =>
    refine .opened split since ?_
    rw [World.heldBy, split, List.foldl_append, List.foldl_cons,
      Notice.foldl_heldAfter_of_ne since, Notice.heldAfter, if_pos rfl]
  | @changed _ _ _ text split lines since =>
    have holds : world.heldBy server uri = some text := by
      rw [World.heldBy, split, List.foldl_append, List.foldl_cons,
        Notice.foldl_heldAfter_of_ne since, Notice.heldAfter, if_pos rfl]
    have tracks : document.text = Text.joinLines text.splitLines := by rw [lines, Document.text]
    refine .changed split since holds tracks ?_
    rw [holds, Option.some.injEq, tracks, eq_comm, Text.joinLines_splitLines_eq_iff]

/-- A file was brought up to date with a text: its server was told to open the document with the text
of its lines, or got the text as it is, or was told nothing as it had these lines. -/
inductive Brought (server : ServerId) (uri : String) (file : String) (text : Text) (version : Nat)
    (before after : World) : Prop
  | opened (told : after.noticesTo server =
      before.noticesTo server ++ [.opened uri version (Text.joinLines text.splitLines)])
  | changed (told : after.noticesTo server =
      before.noticesTo server ++ [.changed uri version text])
  | kept (tracked : before.workspace.contentAt file =
        some (Text.joinLines text.splitLines, version))
      (told : after.noticesTo server = before.noticesTo server)

section Bringing

variable {host : Host} {thread : Nat} {world last : World} {session : Session} {uri : Uri}
  {file : String} {text : Text} {version : Nat}

theorem World.Notified.received_self {server : ServerId} {notices : List Notice}
    {before after : World} (told : World.Notified server notices before after) :
    after.noticesTo server = before.noticesTo server ++ notices := by
  rw [told.received, if_pos rfl]

theorem Workspace.contentAt_track (workspace : Workspace) (file : String) (document : Document) :
    (workspace.track file document).contentAt file = some (document.text, document.version) := by
  simp [contentAt, track]

/-- Once a file is up to date with a text, the text of its lines is tracked. -/
theorem Session.syncHeld_brought
    (runs : Job.Runs host thread (session.syncHeld uri file text) world (.ok version) last) :
    last.workspace.contentAt file = some (Text.joinLines text.splitLines, version) ∧
      Brought session.server uri.text file text version world last := by
  cases Session.syncHeld_syncing runs with
  | @kept document owned same idle =>
    have tracked : world.workspace.contentAt file =
        some (Text.joinLines text.splitLines, document.version) := by
      rw [same, Workspace.contentAt, (Option.filter_eq_some_iff.mp owned).1]
      rfl
    refine ⟨by rw [idle.workspace, tracked], .kept tracked ?_⟩
    rw [idle.received_self, List.append_nil]
  | changed _ differs told =>
    rw [Document.update_of_ne differs] at told
    refine ⟨?_, .changed told.received_self⟩
    rw [told.workspace]
    exact Workspace.contentAt_track ..
  | opened _ told =>
    refine ⟨?_, .opened told.received_self⟩
    rw [told.workspace]
    exact Workspace.contentAt_track ..

theorem Context.sync_brought {context : Context} (held : context.session = some session)
    (named : Uri.ofFileName file = .ok uri)
    (runs : Job.Runs host thread (context.sync file text) world (.ok version) last) :
    last.workspace.contentAt file = some (Text.joinLines text.splitLines, version) ∧
      Brought session.server uri.text file text version world last := by
  unfold sync at runs
  rw [attached_eq held, pure_bind, named] at runs
  obtain ⟨first, there, before, inside, after⟩ := Job.Runs.of_holding runs
  obtain ⟨tracked, brought⟩ := Session.syncHeld_brought inside
  have start : first.noticesTo session.server = world.noticesTo session.server := by
    rw [World.noticesTo, World.noticesTo, before.traffic]
  have final : last.noticesTo session.server = there.noticesTo session.server := by
    rw [World.noticesTo, World.noticesTo, after.traffic]
  refine ⟨by rw [after.workspace, tracked], ?_⟩
  cases brought with
  | opened told => exact .opened (by rw [final, told, start])
  | changed told => exact .changed (by rw [final, told, start])
  | kept same told => exact .kept (before.workspace ▸ same) (by rw [final, told, start])

end Bringing

/-- Texts come to servers in three ways, and what the servers hold of them is as it should be but for
carriage returns at the ends of the lines of a change. -/
structure TextsHeld (setup : Setup) (world : World) : Prop where
  held : ∀ (key : SessionKey) (session : Session) (file : String) (document : Document),
    world.sessions.get? key = some session → world.isAlive session.peer = true →
    world.workspace.ownedBy? key file = some document →
    world.workspace.contentAt file = some (document.text, document.version) ∧
      ∃ uri replica, Uri.ofFileName file = .ok uri ∧
        TextHeld world session.server uri.text document.text ∧
        Replica.replay? (world.noticesTo session.server) = some replica ∧
        (replica.get? uri.text).map Copy.text = world.heldBy session.server uri.text
  brought : ∀ (context : Context) (session : Session) (file : String) (uri : Uri) (text : Text)
    (version thread : Nat) (last : World), context.session = some session →
    Uri.ofFileName file = .ok uri →
    Job.Runs setup.host thread (context.sync file text) world (.ok version) last →
    last.workspace.contentAt file = some (Text.joinLines text.splitLines, version) ∧
      Brought session.server uri.text file text version world last
  reopened : ∀ (session : Session) (thread : Nat) (last : World),
    Job.Runs setup.host thread session.reopen world (.ok ()) last →
    last.workspace = world.workspace ∧ last.noticesTo session.server =
      world.noticesTo session.server ++
        (world.workspace.documentsOf session.key).filterMap Notice.opening?

/-- Whatever is synchronized, saved and closed one after the other, and whenever servers go away and
are started again, the server of a session holds the tracked text of a document exactly if it was told
last to open the document, or of a change to a text none of whose lines ends in a carriage return. -/
theorem texts_held {setup : Setup} {owner : String → SessionKey} {files : String → Prop}
    {world : World} (distinct : UrisApart owner files) {tree : FileTree} {extensions : Extensions}
    (reached : Reached setup owner files { tree, extensions } world) : TextsHeld setup world where
  held := by
    intro key session file document here alive owned
    obtain ⟨there, belongs⟩ := Option.filter_eq_some_iff.mp owned
    have mirrored := (Mirrored.start tree extensions).reached distinct reached
    obtain ⟨_, _, uri, named⟩ := mirrored.filed.owned file document there
    have told := Faithful.reached distinct reached key session file document uri here alive there
      (of_decide_eq_true belongs) named
    obtain ⟨replica, replayed⟩ := mirrored.followed session.server
    exact ⟨by rw [Workspace.contentAt, there]; rfl, uri, replica, named, told.textHeld, replayed,
      Replica.text_of_takeAll? replayed uri.text⟩
  brought := fun _ _ _ _ _ _ _ _ held named runs => Context.sync_brought held named runs
  reopened := by
    intro session thread last runs
    obtain ⟨done, _, told, all⟩ := Session.reopen_effect runs
    rw [all rfl] at told
    exact ⟨told.workspace, told.received_self⟩

/-- The key of the only session there is. -/
def soleKey : SessionKey := ⟨"go", "/"⟩

/-- A document is opened and then changed, with a carriage return before each line end. -/
def returnsBrought : List Move :=
  [welcome 0, .restart soleKey, .sync "/a.go" "x\r\n", .sync "/a.go" "x\r\ny"]

/-- The world after moves with a document of the only session, if there is no need to wait. -/
def played? (moves : List Move) : Option World :=
  moves.foldlM (Move.play? soleServer fun _ => soleKey) { tree := ⟨[], []⟩, extensions := {} }

theorem reached_of_played? {moves : List Move} {world : World}
    (used : ∀ move ∈ moves, ∀ file, move.file? = some file → file = "/a.go")
    (played : played? moves = some world) :
    Reached soleServer (fun _ => soleKey) (· = "/a.go") { tree := ⟨[], []⟩, extensions := {} }
      world :=
  Move.reached_of_play? used played

theorem soleFile_apart : UrisApart (fun _ => soleKey) (· = "/a.go") :=
  fun _ _ _ here there _ _ _ => here.trans there.symm

/-- The server that is started anew holds the text of the lines, unlike the one before it. -/
theorem returns_lost_by_restart : ∃ world,
    Reached soleServer (fun _ => soleKey) (· = "/a.go") { tree := ⟨[], []⟩, extensions := {} }
      world ∧
    world.heldBy ⟨"go", 1⟩ "file:///a.go" = some ['x', '\r', '\n', 'y'] ∧
    world.heldBy ⟨"go", 2⟩ "file:///a.go" = some ['x', '\n', 'y'] ∧
    world.workspace.contentAt "/a.go" = some (['x', '\n', 'y'], 1) ∧
    TextsHeld soleServer world := by
  let moves : List Move := returnsBrought ++
    [.happen (.disconnect (.server ⟨"go", 1⟩)), welcome 1, .restart soleKey]
  have outcome : (played? moves).map (fun world =>
      (world.heldBy ⟨"go", 1⟩ "file:///a.go", world.heldBy ⟨"go", 2⟩ "file:///a.go",
        world.workspace.contentAt "/a.go")) =
      some (some ['x', '\r', '\n', 'y'], some ['x', '\n', 'y'],
        some (['x', '\n', 'y'], 1)) := by decide +kernel
  obtain ⟨world, played, facts⟩ := Option.map_eq_some_iff.mp outcome
  obtain ⟨raw, anew, tracked⟩ := by simpa only [Prod.mk.injEq] using facts
  have used : ∀ move ∈ moves, ∀ file, move.file? = some file → file = "/a.go" := by
    simp [moves, returnsBrought, Move.file?, welcome]
  have reached := reached_of_played? used played
  exact ⟨world, reached, raw, anew, tracked, texts_held soleFile_apart reached⟩

/-- After a change to a text with a carriage return at the end of a line, the server does not hold the
tracked text. -/
theorem changed_text_not_as_tracked :
    ¬ ∀ (setup : Setup) (owner : String → SessionKey) (files : String → Prop) (tree : FileTree)
      (extensions : Extensions) (world : World) (key : SessionKey) (session : Session)
      (file : String) (uri : Uri), UrisApart owner files →
      Reached setup owner files { tree, extensions } world →
      world.sessions.get? key = some session → world.isAlive session.peer = true →
      (world.workspace.ownedBy? key file).isSome → Uri.ofFileName file = .ok uri →
      world.heldBy session.server uri.text = (world.workspace.contentAt file).map (·.1) := by
  intro claimed
  have texts : (played? returnsBrought).map (fun world =>
      (world.heldBy ⟨"go", 1⟩ "file:///a.go", world.workspace.contentAt "/a.go")) =
      some (some ['x', '\r', '\n', 'y'], some (['x', '\n', 'y'], 1)) := by decide +kernel
  have use : (played? returnsBrought).map (fun world =>
      ((world.sessions.get? soleKey).map Session.server,
        world.isAlive (.server ⟨"go", 1⟩) && (world.workspace.ownedBy? soleKey "/a.go").isSome)) =
      some (some ⟨"go", 1⟩, true) := by decide +kernel
  obtain ⟨world, played, facts⟩ := Option.map_eq_some_iff.mp texts
  obtain ⟨raw, tracked⟩ := Prod.mk.inj facts
  rw [played, Option.map_some, Option.some.injEq] at use
  obtain ⟨registered, there⟩ := Prod.mk.inj use
  obtain ⟨alive, owned⟩ := Bool.and_eq_true_iff.mp there
  obtain ⟨session, here, server⟩ := Option.map_eq_some_iff.mp registered
  obtain ⟨uri, named, text⟩ : ∃ uri, Uri.ofFileName "/a.go" = .ok uri ∧
      uri.text = "file:///a.go" := ⟨_, rfl, by decide +kernel⟩
  have used : ∀ move ∈ returnsBrought, ∀ file, move.file? = some file → file = "/a.go" := by
    simp [returnsBrought, Move.file?, welcome]
  have same := claimed _ _ _ _ _ world soleKey session "/a.go" uri soleFile_apart
    (reached_of_played? used played) here (by rw [Session.peer, server]; exact alive) owned named
  rw [server, text, raw, tracked] at same
  cases same

end LanguageBridge
