import Mathlib.Logic.Relation
import LanguageBridge.Proofs.Document.Mirror
import LanguageBridge.Proofs.Document.Placed

/-!
What comes of syncing files with a session: documents stay where they are, or a document is opened
that no tracked file is, or else one that is open already is taken over, and then nothing that is
synced later sets that right.
-/
namespace LanguageBridge

variable {host : Host} {thread : Nat} {world middle last start : World} {key : SessionKey}
  {α : Type}

/-- What a job that tells nothing of saving tells a server is what the server notices. -/
theorem World.toldTo_of_noticesTo {server : ServerId} {notices : List Notice} {job : Job α}
    {outcome : Outcome α} (unsaving : job.Unsaving)
    (runs : Job.Runs host thread job world outcome last)
    (received : ∀ other, last.noticesTo other =
      world.noticesTo other ++ if other = server then notices else []) (other : ServerId) :
    last.toldTo other =
      world.toldTo other ++ if other = server then notices.map .notice else [] := by
  obtain ⟨added, grown, kind⟩ := Script.Says.runs unsaving runs
  have noticed : added.filterMap (Notice.heard? other) =
      if other = server then notices else [] := by
    have here := received other
    rw [noticesTo, grown, List.filterMap_append] at here
    exact List.append_cancel_left here
  have heard : added.filterMap (Told.heard? other) =
      (added.filterMap (Notice.heard? other)).map .notice := by
    rw [List.map_filterMap]
    exact List.filterMap_congr fun sent member => Told.heard?_of_not_saving (kind sent member) other
  rw [toldTo, grown, List.filterMap_append, heard, noticed]
  split <;> rfl

theorem World.informed_of_notified {server : ServerId} {notices : List Notice}
    {workspace : Workspace} {job : Job α} {outcome : Outcome α} (unsaving : job.Unsaving)
    (runs : Job.Runs host thread job world outcome last)
    (notified : Notified server notices { world with workspace } last) :
    Informed server (notices.map .notice) world last :=
  ⟨notified.sessions, notified.connected, toldTo_of_noticesTo unsaving runs notified.received⟩

theorem World.informed_of_undisturbed (drift : world.Undisturbed last) (server : ServerId) :
    Informed server [] world last := by
  refine ⟨drift.sessions, drift.connected, fun other => ?_⟩
  rw [toldTo, drift.traffic]
  split <;> exact (List.append_nil _).symm

/-- What syncing a file with the session of a key may do. -/
inductive World.Written (key : SessionKey) (world last : World) : Prop
  | kept {server : ServerId} {told : List Told} (informed : Informed server told world last)
      (own : told ≠ [] → ∃ session, world.sessions.get? key = some session ∧
        session.server = server)
      (unique : (world.workspace.documents.entries.map (·.1)).Nodup →
        (last.workspace.documents.entries.map (·.1)).Nodup)
      (same : ∀ file, last.workspace.sessionOf? file = world.workspace.sessionOf? file)
      (about : ∀ entry ∈ told, ∃ file uri, world.Serves server file ∧
        Uri.ofFileName file = .ok uri ∧ entry.Uses uri.text)
  | opened {session : Session} {file : String} {uri : Uri} {version : Int} {text : Text}
      (registered : world.sessions.get? key = some session) (named : Uri.ofFileName file = .ok uri)
      (fresh : world.workspace.sessionOf? file ≠ some key)
      (informed : Informed session.server [.notice (.opened uri.text version text)] world last)
      (unique : (world.workspace.documents.entries.map (·.1)).Nodup →
        (last.workspace.documents.entries.map (·.1)).Nodup)
      (track : ∀ other, last.workspace.sessionOf? other =
        if file = other then some key else world.workspace.sessionOf? other)

namespace World.Written

theorem sessions (written : Written key world last) : last.sessions = world.sessions := by
  cases written with
  | kept informed => exact informed.sessions
  | opened _ _ _ informed => exact informed.sessions

/-- Nothing is told, and what is tracked stays with its sessions. -/
theorem silent {server : ServerId} (informed : Informed server [] world last)
    (unique : (world.workspace.documents.entries.map (·.1)).Nodup →
      (last.workspace.documents.entries.map (·.1)).Nodup)
    (same : ∀ file, last.workspace.sessionOf? file = world.workspace.sessionOf? file) :
    Written key world last :=
  .kept informed (fun some => absurd rfl some) unique same
    fun _ member => (List.not_mem_nil member).elim

theorem of_undisturbed (drift : world.Undisturbed last) : Written key world last :=
  silent (informed_of_undisturbed drift default) (by rw [drift.workspace]; exact id)
    fun file => by rw [drift.workspace]

theorem of_notified {server : ServerId} {job : Job α} {outcome : Outcome α}
    (unsaving : job.Unsaving) (runs : Job.Runs host thread job world outcome last)
    (notified : Notified server [] world last) : Written key world last :=
  silent (informed_of_notified unsaving runs notified) (by rw [notified.workspace]; exact id)
    fun file => by rw [notified.workspace]

theorem of_sync {context : Context} {session : Session} {file : String} {text : Text}
    {outcome : Outcome Nat} (registered : world.sessions.get? key = some session)
    (keyed : session.key = key) (held : context.session = some session)
    (alive : last.isAlive session.peer = true)
    (runs : Job.Runs host thread (context.sync file text) world outcome last) :
    Written key world last := by
  have unsaving := context.sync_unsaving file text
  subst keyed
  rcases Context.sync_effect held runs with idle | ⟨uri, named, effect⟩
  · exact of_notified unsaving runs idle
  cases effect with
  | unchanged idle => exact of_notified unsaving runs idle
  | lost _ _ gone =>
    rw [gone] at alive
    cases alive
  | @changed document owned differs told =>
    obtain ⟨tracked, own⟩ := Workspace.sessionOf?_of_ownedBy? owned
    have serves : world.Serves session.server file := ⟨_, session, tracked, registered, rfl⟩
    refine .kept (informed_of_notified unsaving runs told) (fun _ => ⟨session, registered, rfl⟩)
      ?_ ?_ ?_
    · rw [told.workspace]
      exact fun unique => Table.nodup_keys_insert unique file _
    · intro other
      rw [told.workspace, Workspace.sessionOf?_track]
      split
      · rename_i same
        rw [← same, tracked]
        exact congrArg some ((Document.session_update document text).trans own)
      · rfl
    · intro entry member
      rw [List.mem_singleton.mp member]
      exact ⟨file, uri, serves, named, .inr ⟨_, _, rfl⟩⟩
  | opened fresh told =>
    refine .opened registered named (Workspace.sessionOf?_ne_of_ownedBy? fresh)
      (informed_of_notified unsaving runs told) ?_ fun other => ?_
    · rw [told.workspace]
      exact fun unique => Table.nodup_keys_insert unique file _
    · rw [told.workspace, Workspace.sessionOf?_track]
      rfl

end World.Written

/-- With the session of a key a file was taken over that another session tracked at the start, or
the document of another file that is tracked; and it shows on a server. -/
def World.Torn (key : SessionKey) (start last : World) : Prop :=
  ∃ file uri session, last.workspace.sessionOf? file = some key ∧ Uri.ofFileName file = .ok uri ∧
    last.sessions.get? key = some session ∧
    (Told.openAfter? (last.toldTo session.server) = none ∨
      ∃ server opened, server ≠ session.server ∧
        Told.openAfter? (last.toldTo server) = some opened ∧ uri.text ∈ opened) ∧
    ((∃ former, start.workspace.sessionOf? file = some former ∧ former ≠ key) ∨
      ∃ other twin, other ≠ file ∧ last.workspace.sessionOf? other = some twin ∧
        Uri.ofFileName other = .ok uri)

namespace World.Torn

theorem not_orderly (torn : Torn key start last) : ¬ last.Orderly := by
  obtain ⟨file, uri, session, tracked, named, registered, stray, _⟩ := torn
  intro orderly
  rcases stray with refused | ⟨server, opened, apart, followed, member⟩
  · obtain ⟨opened, followed, _⟩ := orderly session.server
    rw [refused] at followed
    cases followed
  · obtain ⟨known, again, _, serves⟩ := orderly server
    rw [followed] at again
    cases again
    obtain ⟨own, twin, held, here, same⟩ := (serves file uri (by simp [tracked]) named).mp member
    rw [tracked] at held
    cases held
    rw [registered] at here
    cases here
    exact apart same.symm

theorem not_settled (torn : Torn key start last) : ¬ Settled start last := by
  obtain ⟨file, uri, session, tracked, named, _, _, fault⟩ := torn
  intro settled
  rcases fault with ⟨former, before, moved⟩ | ⟨other, twin, apart, held, again⟩
  · exact moved (settled.stays file former key before tracked).symm
  · exact apart (settled.distinct other file uri twin key held tracked again named)

/-- What is torn stays so, whatever is synced with the same session. -/
theorem further (torn : Torn key start middle) (written : Written key middle last) :
    Torn key start last := by
  obtain ⟨file, uri, session, tracked, named, registered, stray, fault⟩ := torn
  have sessions : last.sessions.get? key = some session := written.sessions ▸ registered
  have stays {server : ServerId} {told : List Told} (informed : Informed server told middle last)
      (own : told ≠ [] → server = session.server) :
      Told.openAfter? (last.toldTo session.server) = none ∨
        ∃ server opened, server ≠ session.server ∧
          Told.openAfter? (last.toldTo server) = some opened ∧ uri.text ∈ opened := by
    rcases stray with refused | ⟨other, opened, apart, followed, member⟩
    · left
      rw [informed.received, Told.openAfter?_append, refused]
      rfl
    · refine .inr ⟨other, opened, apart, ?_, member⟩
      have silent : (if other = server then told else []) = [] := by
        by_contra some
        split at some
        · rename_i same
          exact apart (same.trans (own some))
        · exact some rfl
      rw [informed.received, silent, List.append_nil, followed]
  cases written with
  | kept informed own _ same =>
    refine ⟨file, uri, session, (same file).trans tracked, named, sessions, stays informed ?_, ?_⟩
    · intro some
      obtain ⟨again, here, same⟩ := own some
      rw [registered] at here
      cases here
      exact same.symm
    · refine fault.imp_right ?_
      rintro ⟨other, twin, apart, held, again⟩
      exact ⟨other, twin, apart, (same other).trans held, again⟩
  | @opened its name _ _ _ here _ _ informed _ track =>
    rw [registered] at here
    cases here
    refine ⟨file, uri, session, ?_, named, sessions, stays informed fun _ => rfl, ?_⟩
    · rw [track]
      split
      · rfl
      · exact tracked
    · refine fault.imp_right ?_
      rintro ⟨other, twin, apart, held, again⟩
      by_cases same : name = other
      · exact ⟨other, key, apart, by rw [track, if_pos same], again⟩
      · exact ⟨other, twin, apart, by rw [track, if_neg same, held], again⟩

end World.Torn

/-- What is tracked at the start stays with its session, and what else is tracked is so for the
session of a key. -/
structure World.Extends (key : SessionKey) (start last : World) : Prop where
  keeps : ∀ file former, start.workspace.sessionOf? file = some former →
    last.workspace.sessionOf? file = some former
  new : ∀ file twin, last.workspace.sessionOf? file = some twin →
    twin = key ∨ start.workspace.sessionOf? file = some twin

theorem World.Extends.refl (world : World) : Extends key world world :=
  ⟨fun _ _ tracked => tracked, fun _ _ tracked => .inr tracked⟩

theorem World.Extends.settled (extends_ : Extends key start last) (placed : Placed last) :
    Settled start last where
  stays := by
    intro file former other before after
    rw [extends_.keeps file former before] at after
    exact (Option.some.inj after).symm
  distinct := placed.distinct

/-- Opening a document that a tracked file is shows at once. -/
theorem Placed.torn (placed : Placed middle) (extended : World.Extends key start middle)
    {session : Session} {file other : String} {uri : Uri} {twin : SessionKey} {version : Int}
    {text : Text} (registered : middle.sessions.get? key = some session)
    (named : Uri.ofFileName file = .ok uri) (fresh : middle.workspace.sessionOf? file ≠ some key)
    (held : middle.workspace.sessionOf? other = some twin) (again : Uri.ofFileName other = .ok uri)
    (informed :
      World.Informed session.server [.notice (.opened uri.text version text)] middle last)
    (track : ∀ name, last.workspace.sessionOf? name =
      if file = name then some key else middle.workspace.sessionOf? name) :
    World.Torn key start last := by
  refine ⟨file, uri, session, by rw [track, if_pos rfl], named, ?_, ?_, ?_⟩
  · rw [informed.sessions]
    exact registered
  · obtain ⟨its, there⟩ := placed.attended other twin held
    obtain ⟨opened, followed, shows⟩ := placed.streams its.server
    have member : uri.text ∈ opened :=
      (shows _).mpr ⟨other, uri, ⟨twin, its, held, there, rfl⟩, again, rfl⟩
    by_cases same : its.server = session.server
    · left
      rw [informed.received, if_pos rfl, Told.openAfter?_concat, ← same, followed]
      exact if_pos member
    · refine .inr ⟨its.server, opened, same, ?_, member⟩
      rw [informed.received, if_neg same, List.append_nil, followed]
  · by_cases same : other = file
    · subst same
      have moved : twin ≠ key := by
        rintro rfl
        exact fresh held
      exact .inl ⟨twin, (extended.new other twin held).resolve_left moved, moved⟩
    · refine .inr ⟨other, twin, same, ?_, again⟩
      rw [track, if_neg (Ne.symm same)]
      exact held

/-- A file is synced: documents are as they should be, or something is torn. -/
theorem Placed.written (placed : Placed middle) (extended : World.Extends key start middle)
    (written : World.Written key middle last) :
    Placed last ∧ World.Extends key start last ∨ World.Torn key start last := by
  cases written with
  | kept informed _ unique same about =>
    refine .inl ⟨placed.kept informed (unique placed.unique) same about, ?_, ?_⟩
    · exact fun file former before => (same file).trans (extended.keeps file former before)
    · exact fun file twin tracked => extended.new file twin ((same file).symm.trans tracked)
  | @opened session file uri version text registered named fresh informed unique track =>
    by_cases alone : ∀ other twin, middle.workspace.sessionOf? other = some twin →
        Uri.ofFileName other ≠ .ok uri
    · have after := placed.opened registered named alone informed (unique placed.unique) track
      refine .inl ⟨after, ?_, ?_⟩
      · intro other former before
        have tracked := extended.keeps other former before
        rw [track, if_neg, tracked]
        rintro rfl
        exact alone file former tracked named
      · intro other twin tracked
        rw [track] at tracked
        split at tracked
        · exact .inl (Option.some.inj tracked).symm
        · exact extended.new other twin tracked
    · simp only [ne_eq, not_forall, not_not] at alone
      obtain ⟨other, twin, held, again⟩ := alone
      exact .inr (placed.torn extended registered named fresh held again informed track)

/-- Files are synced one after the other. -/
theorem Placed.writes (placed : Placed start)
    (writes : Relation.ReflTransGen (World.Written key) start last) :
    Placed last ∧ World.Extends key start last ∨ World.Torn key start last := by
  induction writes with
  | refl => exact .inl ⟨placed, .refl start⟩
  | tail _ written ih =>
    rcases ih with ⟨placed, extended⟩ | torn
    · exact placed.written extended written
    · exact .inr (torn.further written)

end LanguageBridge
