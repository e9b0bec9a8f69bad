import LanguageBridge.Proofs.Document.Upkeep
import LanguageBridge.Proofs.Restart.Steps

/-!
When a server that was started anew is up to date once the session is registered and all who held
contexts of the session before have returned: exactly if nothing was tracked differently after the
documents had been looked at for it. What is different is the text of somebody who was told that the
session has terminated, and bringing the text again sends nothing.
-/
namespace LanguageBridge

/-- The server of a session has what is tracked for the session. -/
def World.InStep (world : World) (session : Session) : Prop :=
  ∃ replica, Replica.replay? (world.noticesTo session.server) = some replica ∧
    Mirrors (world.workspace.documentsOf session.key) replica

namespace Replica

variable {replica final : Table String Copy} {entries : List (String × Document)}

/-- What a server has stays as it is while documents are opened. -/
theorem get?_of_openings {name : String} {copy : Copy} (here : replica.get? name = some copy)
    (taken : takeAll? replica (entries.filterMap Notice.opening?) = some final) :
    final.get? name = some copy := by
  induction entries generalizing replica with
  | nil =>
    cases taken
    exact here
  | cons entry rest ih =>
    cases named : Uri.ofFileName entry.1 with
    | error failure =>
      rw [List.filterMap_cons_none (by simp [Notice.opening?, named])] at taken
      exact ih here taken
    | ok uri =>
      rw [List.filterMap_cons_some (by simp only [Notice.opening?, named]; rfl), takeAll?_cons,
        Option.bind_eq_some_iff] at taken
      obtain ⟨next, opened, others⟩ := taken
      simp only [take?, Option.ite_none_left_eq_some, Option.some.injEq] at opened
      obtain ⟨fresh, rfl⟩ := opened
      have apart : uri.text ≠ name := by
        rintro rfl
        simp [Table.contains, here] at fresh
      exact ih (by simpa [apart] using here) others

/-- A server that could follow has every document that it was told to open. -/
theorem copy_of_opening {entry : String × Document} {uri : Uri} (member : entry ∈ entries)
    (named : Uri.ofFileName entry.1 = .ok uri)
    (taken : takeAll? replica (entries.filterMap Notice.opening?) = some final) :
    final.get? uri.text = some ⟨entry.2.version, entry.2.text⟩ := by
  obtain ⟨before, after, rfl⟩ := List.append_of_mem member
  have opens : Notice.opening? entry =
      some (.opened uri.text entry.2.version entry.2.text) := by
    simp [Notice.opening?, named]
  rw [List.filterMap_append, takeAll?_append, Option.bind_eq_some_iff,
    List.filterMap_cons_some opens] at taken
  obtain ⟨middle, _, taken⟩ := taken
  rw [takeAll?_cons, Option.bind_eq_some_iff] at taken
  obtain ⟨next, opened, others⟩ := taken
  simp only [take?, Option.ite_none_left_eq_some, Option.some.injEq] at opened
  refine get?_of_openings ?_ others
  simp [← opened.2]

end Replica

namespace Restart

variable {restart : Restart} {footings : Nat → Footing} {now opening : System}
  {session : Session}

/-- The session has been started anew, and all stragglers have returned. -/
structure Settled (restart : Restart) (now : System) (session : Session) : Prop where
  course : restart.Leads restart.system now
  registered : now.world.sessions.get? restart.key = some session
  new : restart.count < session.server.number
  returned : ∀ thread < restart.stragglers.length, now.outcome? (thread + 1) ≠ none

/-- No two files that are tracked for the session are one document. -/
abbrev Apart (restart : Restart) (workspace : Workspace) : Prop :=
  UrisApart (fun _ => restart.key) fun file => workspace.sessionOf? file = some restart.key

theorem sessionOf?_of_mem {workspace : Workspace} {entry : String × Document}
    (unique : (workspace.documents.entries.map (·.1)).Nodup)
    (member : entry ∈ workspace.documentsOf restart.key) :
    workspace.sessionOf? entry.1 = some restart.key := by
  obtain ⟨here, keyed⟩ := (Workspace.mem_documentsOf_iff unique _ _).mp member
  rw [Workspace.sessionOf?, here, ← keyed]
  rfl

/-- With all its documents opened on the new server, and nothing tracked differently since, the
server has what is tracked, unless two files are one document. -/
theorem Opening.inStep (told : restart.Opening footings [] opening now)
    (keyed : session.key = restart.key) (new : session.server = restart.server)
    (unique : (now.world.workspace.documents.entries.map (·.1)).Nodup)
    (apart : restart.Apart now.world.workspace)
    (same : ∀ file, now.world.workspace.documents.get? file =
      opening.world.workspace.documents.get? file) : now.world.InStep session := by
  obtain ⟨done, whole, notices, named⟩ := told.told
  rw [List.append_nil] at whole
  subst whole
  have members (entry : String × Document) :
      entry ∈ now.world.workspace.documentsOf restart.key ↔
        entry ∈ opening.world.workspace.documentsOf restart.key := by
    rw [Workspace.mem_documentsOf_iff unique, Workspace.mem_documentsOf_iff told.unique, same]
  have keys : ((opening.world.workspace.documentsOf restart.key).map (·.1)).Nodup :=
    told.unique.sublist (List.filter_sublist.map _)
  obtain ⟨replica, taken, mirrors⟩ := Mirrors.nil.openAll keys named
    fun entry member other beside uri its again => apart entry.1 other.1 uri
      (sessionOf?_of_mem unique ((members entry).mpr member))
      (sessionOf?_of_mem unique ((members other).mpr beside)) rfl its again
  refine ⟨replica, ?_, ?_⟩
  · rw [new, notices]
    exact taken
  · rw [keyed]
    exact mirrors.congr members

/-- A server that has what is tracked was told of the documents as they are. -/
theorem Opening.same_of_inStep (told : restart.Opening footings [] opening now)
    (keyed : session.key = restart.key) (new : session.server = restart.server)
    (unique : (now.world.workspace.documents.entries.map (·.1)).Nodup)
    (inStep : now.world.InStep session) :
    restart.Apart now.world.workspace ∧ ∀ file, now.world.workspace.documents.get? file =
      opening.world.workspace.documents.get? file := by
  obtain ⟨replica, replayed, mirrors⟩ := inStep
  obtain ⟨done, whole, notices, named⟩ := told.told
  rw [List.append_nil] at whole
  subst whole
  rw [new, notices] at replayed
  rw [keyed] at mirrors
  have member {file : String} {document : Document}
      (here : now.world.workspace.documents.get? file = some document)
      (own : document.session = restart.key) :
      (file, document) ∈ now.world.workspace.documentsOf restart.key :=
    (Workspace.mem_documentsOf_iff unique _ _).mpr ⟨here, own⟩
  refine ⟨fun file other uri tracked too _ its again => ?_, fun file => ?_⟩
  · obtain ⟨document, here, own⟩ := Option.map_eq_some_iff.mp tracked
    obtain ⟨twin, there, owned⟩ := Option.map_eq_some_iff.mp too
    exact congrArg Prod.fst
      (mirrors.apart _ (member here own) _ (member there owned) uri its again)
  · refine (told.since file).resolve_right ?_
    rintro ⟨_, straggler, _, rfl, _, old, changed, found, here, own, owned, higher, _⟩
    have before : (straggler.file, old) ∈ opening.world.workspace.documentsOf restart.key :=
      (Workspace.mem_documentsOf_iff told.unique _ _).mpr ⟨found, own⟩
    obtain ⟨uri, copy, its, has, version, _⟩ := mirrors.held _ (member here owned)
    have had := Replica.copy_of_opening before its replayed
    obtain rfl := Option.some.inj (had.symm.trans has)
    have equal : (old.version : Int) = changed.version := version
    omega

/-- Who has strayed has failed to tell the server of the session before. -/
theorem Guided.terminated {stage : Stage} (guided : restart.Guided stage footings now)
    (returned : ∀ thread < restart.stragglers.length, now.outcome? (thread + 1) ≠ none)
    {thread : Nat} {straggler : Straggler} (self : restart.straggler? thread = some straggler)
    (strayed : (footings thread).Strayed) :
    ∃ index, restart.stragglers[index]? = some straggler ∧
      now.outcome? (index + 1) = some (.error .terminated) := by
  cases thread with
  | zero => cases self
  | succ index =>
    refine ⟨index, self, ?_⟩
    have ended := returned index (List.getElem?_eq_some_iff.mp self).1
    unfold System.outcome? at ended ⊢
    cases here : now.threads[index + 1]? with
    | none => simp [here] at ended
    | some script =>
      cases script with
      | step operation next => simp [here] at ended
      | done outcome =>
        have fails := guided.others (index + 1) _ (Nat.succ_ne_zero index) here
        exact congrArg some (fails strayed)

end Restart

/-- Text that is tracked already is not sent again. -/
theorem Context.sync_again {session : Session} {file : String} {text : Text} {document : Document}
    {host : Host} {thread : Nat} {outcome : Outcome Nat} {world last : World}
    (owned : world.workspace.ownedBy? session.key file = some document)
    (same : text.splitLines = document.lines)
    (runs : Job.Runs host thread ((Context.ofSession session).sync file text) world outcome last) :
    last.noticesTo session.server = world.noticesTo session.server ∧
      (last.InStep session ↔ world.InStep session) := by
  have told : world.Notified session.server [] last := by
    rcases Context.sync_effect rfl runs with told | ⟨uri, _, synced⟩
    · exact told
    cases synced with
    | unchanged told => exact told
    | changed found differs | lost found differs =>
      obtain rfl := Option.some.inj (owned.symm.trans found)
      exact absurd same differs
    | opened fresh =>
      cases owned.symm.trans fresh
  have notices : last.noticesTo session.server = world.noticesTo session.server := by
    rw [told.received, if_pos rfl, List.append_nil]
  refine ⟨notices, ?_⟩
  rw [World.InStep, notices, told.workspace]
  rfl

/-- A session was started anew, and all who held contexts of the one before have returned. The new
server was told of the documents as they were at one moment, when the thread that started it looked
at them. It has what is tracked for the session exactly if no document is different since, and no
two of its files are one document. Where a document is different, somebody brought its text after
that moment, raised its version and was told that the session has terminated; and whoever brings
tracked text again leaves the server as it is. -/
theorem restarted_in_step_iff {restart : Restart} (stranded : restart.Stranded) {now : System}
    {session : Session} (settled : restart.Settled now session) :
    ∃ opening : System, restart.Leads restart.system opening ∧ restart.Leads opening now ∧
      (∃ next, opening.threads[0]? = some (.step .workspace next)) ∧
      opening.world.noticesTo session.server = [] ∧
      (now.world.InStep session ↔ restart.Apart now.world.workspace ∧
        ∀ file, now.world.workspace.documents.get? file =
          opening.world.workspace.documents.get? file) ∧
      (∀ file, now.world.workspace.documents.get? file ≠
          opening.world.workspace.documents.get? file →
        ∃ index straggler, restart.stragglers[index]? = some straggler ∧ straggler.file = file ∧
          now.outcome? (index + 1) = some (.error .terminated) ∧
          straggler.Overtakes restart.key opening.world.workspace now.world.workspace) ∧
      ∀ host thread file text document outcome last,
        now.world.workspace.ownedBy? session.key file = some document →
        text.splitLines = document.lines →
        Job.Runs host thread ((Context.ofSession session).sync file text) now.world outcome last →
        last.noticesTo session.server = now.world.noticesTo session.server ∧
          (last.InStep session ↔ now.world.InStep session) := by
  obtain ⟨stage, footings, sound⟩ := stranded.course settled.course
  obtain ⟨rfl, keyed, new⟩ := sound.registered session settled.registered settled.new
  obtain ⟨_, opening, told⟩ := sound.fits
  have unique := sound.ground.unique
  refine ⟨opening, told.before, told.after, told.reads, new ▸ told.untold, ⟨?_, ?_⟩, ?_, ?_⟩
  · exact told.same_of_inStep keyed new unique
  · rintro ⟨apart, same⟩
    exact told.inStep keyed new unique apart same
  · intro file different
    obtain ⟨thread, straggler, self, named, strayed, overtakes⟩ :=
      (told.since file).resolve_left different
    obtain ⟨index, own, ended⟩ := sound.guided.terminated settled.returned self strayed
    exact ⟨index, straggler, own, named, ended, overtakes⟩
  · exact fun _ _ _ _ _ _ _ owned same runs => Context.sync_again owned same runs

namespace Restart

/-- A document is tracked for a session whose server has gone away, and a thread that still holds a
context of the session is to bring a text. -/
def ofBereft (file text : String) : Restart where
  setup := soleServer
  key := ⟨"go", "/"⟩
  stragglers := [⟨.ofSession { key := ⟨"go", "/"⟩, server := ⟨"go", 1⟩ }, file, text.toList⟩]
  world :=
    { workspace := { documents := .ofList [("/a.go", .ofText ⟨"go", "/"⟩ ['x'])] }
      sessions := .ofList [(⟨"go", "/"⟩, { key := ⟨"go", "/"⟩, server := ⟨"go", 1⟩ })]
      connected := .ofList [("go", 1)]
      dead := [.server ⟨"go", 1⟩] }

theorem ofBereft_stranded (file text : String) : (ofBereft file text).Stranded where
  forked := rfl
  unique := List.pairwise_singleton _ "/a.go"
  holds := by
    intro straggler member
    obtain rfl := List.mem_singleton.mp member
    exact ⟨_, rfl, rfl, Nat.le_refl 1, .inl rfl⟩
  registered := by
    rintro session ⟨⟩
    exact Nat.le_refl 1
  untold := rfl
  editless := fun _ => List.forall_mem_nil _

/-- The new server is introduced and told of the document before the thread brings its text. -/
def overtaken (file text : String) : System :=
  Program.settleWithin soleServer 60
    ((ofBereft file text).system.occur (.answer 0 (.ok (.obj [("capabilities", .obj [])]))))

/-- The session that is in use, and whether the thread has returned. -/
def progress (now : System) : Option (SessionKey × ServerId) × Bool :=
  ((now.world.sessions.get? ⟨"go", "/"⟩).map fun session => (session.key, session.server),
    (now.outcome? 1).isSome)

theorem overtaken_settled {file text : String}
    (progressed : progress (overtaken file text) = (some (⟨"go", "/"⟩, ⟨"go", 2⟩), true)) :
    ∃ session, session.key = ⟨"go", "/"⟩ ∧ session.server = ⟨"go", 2⟩ ∧
      (ofBereft file text).Settled (overtaken file text) session := by
  obtain ⟨registered, returned⟩ := Prod.mk.inj progressed
  obtain ⟨session, here, same⟩ := Option.map_eq_some_iff.mp registered
  obtain ⟨keyed, server⟩ := Prod.mk.inj same
  refine ⟨session, keyed, server, Course.settle (Course.happen .refl _ trivial) 60, here, ?_, ?_⟩
  · rw [server]
    exact Nat.one_lt_two
  · intro thread within
    obtain rfl : thread = 0 := Nat.lt_one_iff.mp within
    exact Option.isSome_iff_ne_none.mp returned

end Restart

open Restart in
/-- Somebody fails to open another file on the server that has gone away, and the new server has
what is tracked. -/
theorem restarted_in_step_beside_failure : ∃ session,
    (ofBereft "/b.go" "y").Settled (overtaken "/b.go" "y") session ∧
      (overtaken "/b.go" "y").world.InStep session := by
  have facts : (progress (overtaken "/b.go" "y"),
      (overtaken "/b.go" "y").world.workspace.documents.entries) =
      ((some (⟨"go", "/"⟩, ⟨"go", 2⟩), true), [("/a.go", .ofText ⟨"go", "/"⟩ ['x'])]) := by
    decide +kernel
  obtain ⟨progressed, documents⟩ := Prod.mk.inj facts
  obtain ⟨session, _, _, settled⟩ := overtaken_settled progressed
  refine ⟨session, settled, ?_⟩
  obtain ⟨opening, _, _, _, _, exactly, changes, _⟩ :=
    restarted_in_step_iff (ofBereft_stranded "/b.go" "y") settled
  have only (name : String) (document : Document)
      (found : (overtaken "/b.go" "y").world.workspace.documents.get? name = some document) :
      name = "/a.go" := by
    have member := Table.mem_of_find? found
    rw [documents] at member
    exact congrArg Prod.fst (List.mem_singleton.mp member)
  have tracked (name : String) (has : (overtaken "/b.go" "y").world.workspace.sessionOf? name =
      some ⟨"go", "/"⟩) : name = "/a.go" := by
    obtain ⟨document, found, _⟩ := Option.map_eq_some_iff.mp has
    exact only name document found
  refine exactly.mpr ⟨fun file other _ here there _ _ _ =>
    (tracked file here).trans (tracked other there).symm, fun file => ?_⟩
  by_contra different
  obtain ⟨index, straggler, self, _, _, _, changed, _, there, _⟩ := changes file different
  obtain rfl := List.mem_singleton.mp (List.mem_of_getElem? self)
  exact absurd (only "/b.go" changed there) (by decide)

open Restart in
/-- Text that somebody brings to a server that has gone away, after the new one was told of the
document, is tracked with a version that the new server does not have. -/
theorem restarted_out_of_step :
    ¬ ∀ (restart : Restart) (now : System) (session : Session), restart.Stranded →
      restart.Settled now session → now.world.InStep session := by
  intro claimed
  have facts : (progress (overtaken "/a.go" "y"),
      (overtaken "/a.go" "y").world.noticesTo ⟨"go", 2⟩,
      ((overtaken "/a.go" "y").world.workspace.documentsOf ⟨"go", "/"⟩).map fun entry =>
        (entry.1, entry.2.version)) =
      ((some (⟨"go", "/"⟩, ⟨"go", 2⟩), true), [.opened "file:///a.go" 0 ['x']],
        [("/a.go", 1)]) := by
    decide +kernel
  simp only [Prod.mk.injEq] at facts
  obtain ⟨progressed, notices, documents⟩ := facts
  obtain ⟨session, keyed, server, settled⟩ := overtaken_settled progressed
  obtain ⟨replica, replayed, mirrors⟩ :=
    claimed _ _ session (ofBereft_stranded "/a.go" "y") settled
  rw [server, notices] at replayed
  obtain rfl := Option.some.inj replayed
  obtain ⟨⟨file, document⟩, member, same⟩ :=
    List.mem_map.mp (documents ▸ List.mem_singleton.mpr rfl)
  obtain ⟨_, version⟩ := Prod.mk.inj same
  rw [keyed] at mirrors
  obtain ⟨uri, copy, _, there, equal, _⟩ := mirrors.held _ member
  have copied : copy.version = 0 := by
    simp only [Table.get?_insert, Table.get?_empty] at there
    split at there <;> cases there
    rfl
  rw [copied] at equal
  have zero : (0 : Int) = (1 : Nat) := version ▸ equal
  cases zero

end LanguageBridge
