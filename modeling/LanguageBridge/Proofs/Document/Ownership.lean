import LanguageBridge.Proofs.Document.Attended

/-!
Documents are open where they are tracked. Whatever is synced, edited, saved and closed one after
the other, with sessions started on the way, every server is told of documents only what it may be
told and has open what is tracked for its session, exactly as long as no tracked file is taken over
by another session and no two tracked files are one document.
-/
namespace LanguageBridge

variable {setup : Setup} {world last : World}

/-- One thing at a time: a file is synced or an edit applied with the session registered for some
key, a document is saved or closed, a session is looked for and started when there is none, or the
surroundings do something. -/
inductive Deed (setup : Setup) (world : World) : World → Prop
  | sync {context : Context} {key : SessionKey} {file : String} {text : Text} {thread : Nat}
      {outcome : Outcome Nat} {last : World}
      (registered : context.session = world.sessions.get? key)
      (runs : Job.Runs setup.host thread (context.sync file text) world outcome last) :
      Deed setup world last
  | edit {context : Context} {key : SessionKey} {edit : WorkspaceEdit}
      {cursor : Option CursorPlace} {thread : Nat} {outcome : Outcome Unit} {last : World}
      (registered : context.session = world.sessions.get? key)
      (runs : Job.Runs setup.host thread (Editor.applyEdit context edit cursor) world outcome
        last) : Deed setup world last
  | save {name : DocumentName} {thread : Nat} {outcome : Outcome Unit} {last : World}
      (runs : Job.Runs setup.host thread (Editor.documentSaved name) world outcome last) :
      Deed setup world last
  | close {name : DocumentName} {thread : Nat} {outcome : Outcome Unit} {last : World}
      (runs : Job.Runs setup.host thread (Editor.documentClosed name) world outcome last) :
      Deed setup world last
  | start {key : SessionKey} {thread : Nat} {outcome : Outcome Session} {last : World}
      (runs : Job.Runs setup.host thread (Session.getOrStart key (Session.start setup key)) world
        outcome last) : Deed setup world last
  | happen (happening : Happening) : Deed setup world (world.after happening)

/-- A deed is done while the servers of all sessions are there. -/
structure World.Proceeds (setup : Setup) (world last : World) : Prop where
  deed : Deed setup world last
  served : world.Served last

theorem Placed.start (tree : FileTree) (extensions : Extensions) :
    Placed { tree, extensions } where
  enrolled := by
    refine ⟨?_, ?_, ?_, fun _ _ => rfl⟩
    · exact fun _ _ impossible => by cases impossible
    · exact fun _ _ impossible => by cases impossible
    · exact fun _ _ _ _ impossible => by cases impossible
  unique := List.nodup_nil
  named := fun _ _ impossible => by cases impossible
  distinct := fun _ _ _ _ _ impossible => by cases impossible
  attended := fun _ _ impossible => by cases impossible
  streams := by
    refine fun server => ⟨[], rfl, fun name => ⟨fun member => (List.not_mem_nil member).elim, ?_⟩⟩
    rintro ⟨_, _, ⟨_, _, impossible, _⟩, _⟩
    cases impossible

/-- A deed leaves documents where they should be, or it takes a file over and that shows at once. -/
theorem Placed.proceeds (placed : Placed world) (proceeds : world.Proceeds setup last) :
    Placed last ∧ World.Settled world last ∨ ¬ World.Settled world last ∧ ¬ last.Orderly := by
  obtain ⟨deed, served⟩ := proceeds
  have wrote {key : SessionKey}
      (writes : Relation.ReflTransGen (World.Written key) world last) :
      Placed last ∧ World.Settled world last ∨ ¬ World.Settled world last ∧ ¬ last.Orderly := by
    rcases placed.writes writes with ⟨after, extended⟩ | torn
    · exact .inl ⟨after, extended.settled after⟩
    · exact .inr ⟨torn.not_settled, torn.not_orderly⟩
  cases deed with
  | @sync context key file text thread _ _ registered runs =>
    have writing : (context.sync file text).Writes setup.host thread key _ :=
      Context.sync_writes registered (placed.enrolled.keyed key) file text
    exact wrote (writing world _ last rfl (served key) runs)
  | @edit context key edit cursor thread _ _ registered runs =>
    have writing : (Editor.applyEdit context edit cursor).Writes setup.host thread key _ :=
      Editor.applyEdit_writes registered (placed.enrolled.keyed key) edit cursor
    exact wrote (writing world _ last rfl (served key) runs)
  | save runs => exact .inl (placed.saved served runs)
  | close runs => exact .inl (placed.left served runs)
  | start runs => exact .inl (placed.joined served runs)
  | happen happening => exact .inl (placed.idle (.happening world happening))

theorem Placed.course (placed : Placed world) {worlds : List World}
    (course : List.IsChain (World.Proceeds setup) (world :: worlds)) :
    (∀ later ∈ worlds, later.Orderly) ↔ List.IsChain World.Settled (world :: worlds) := by
  induction worlds generalizing world with
  | nil => simp
  | cons next rest ih =>
    obtain ⟨proceeds, others⟩ := List.isChain_cons_cons.mp course
    rw [List.forall_mem_cons, List.isChain_cons_cons]
    rcases placed.proceeds proceeds with ⟨after, settled⟩ | ⟨unsettled, disorder⟩
    · rw [ih after others]
      exact and_congr_left fun _ => iff_of_true after.orderly settled
    · constructor
      · exact fun orderly => absurd orderly.1 disorder
      · exact fun chain => absurd chain.1 unsettled

/-- Every server is told of documents what it may be told, and has open what is tracked for its
session, after each deed, exactly if no deed takes a tracked file over or tracks a document
twice. -/
theorem documents_open_where_tracked_iff {tree : FileTree} {extensions : Extensions}
    {worlds : List World}
    (course : List.IsChain (World.Proceeds setup) ({ tree, extensions } :: worlds)) :
    (∀ world ∈ worlds, world.Orderly) ↔
      List.IsChain World.Settled ({ tree, extensions } :: worlds) :=
  (Placed.start tree extensions).course course

/-- One of the deeds, without anything else that happens meanwhile. -/
inductive Errand
  | sync (key : SessionKey) (file text : String)
  | save (file : String)
  | close (file : String)
  | start (key : SessionKey)
  | happen (happening : Happening)

namespace Errand

/-- The world that comes of an errand; `none` when it has to wait. -/
def run? (setup : Setup) (world : World) : Errand → Option World
  | .sync key file text =>
    let context : Context := { session := world.sessions.get? key }
    (Script.run? setup.host 0 (context.sync file text.toList).run world).map (·.2)
  | .save file =>
    (Script.run? setup.host 0 (Editor.documentSaved ⟨file, ""⟩).run world).map (·.2)
  | .close file =>
    (Script.run? setup.host 0 (Editor.documentClosed ⟨file, ""⟩).run world).map (·.2)
  | .start key =>
    (Script.run? setup.host 0 (Session.getOrStart key (Session.start setup key)).run world).map
      (·.2)
  | .happen happening => some (world.after happening)

/-- The worlds that come of errands, one after the other. -/
def course? (setup : Setup) (world : World) : List Errand → Option (List World)
  | [] => some []
  | errand :: rest =>
    (errand.run? setup world).bind fun next => (course? setup next rest).map (next :: ·)

theorem deed_of_run? {errand : Errand} (ran : errand.run? setup world = some last) :
    Deed setup world last := by
  cases errand with
  | sync key file text =>
    obtain ⟨⟨outcome, final⟩, done, rfl⟩ := Option.map_eq_some_iff.mp ran
    exact .sync rfl (Script.runs_of_run? done)
  | save file =>
    obtain ⟨⟨outcome, final⟩, done, rfl⟩ := Option.map_eq_some_iff.mp ran
    exact .save (Script.runs_of_run? done)
  | close file =>
    obtain ⟨⟨outcome, final⟩, done, rfl⟩ := Option.map_eq_some_iff.mp ran
    exact .close (Script.runs_of_run? done)
  | start key =>
    obtain ⟨⟨outcome, final⟩, done, rfl⟩ := Option.map_eq_some_iff.mp ran
    exact .start (Script.runs_of_run? done)
  | happen happening =>
    cases ran
    exact .happen happening

/-- Errands during which nobody goes away. -/
theorem proceeds_of_course? {errands : List Errand} {worlds : List World}
    (ran : course? setup world errands = some worlds) (alive : ∀ later ∈ worlds, later.dead = []) :
    List.IsChain (World.Proceeds setup) (world :: worlds) := by
  induction errands generalizing world worlds with
  | nil =>
    cases ran
    exact .singleton world
  | cons errand errands ih =>
    obtain ⟨next, first, rest⟩ := Option.bind_eq_some_iff.mp ran
    obtain ⟨later, others, rfl⟩ := Option.map_eq_some_iff.mp rest
    obtain ⟨there, beyond⟩ := List.forall_mem_cons.mp alive
    have served : world.Served next := fun _ _ _ => by simp [World.isAlive, there]
    exact .cons_cons ⟨deed_of_run? first, served⟩ (ih others beyond)

end Errand

/-- Files that are only ever tracked for their own sessions, under names that are not of one
document, are not taken over. -/
theorem World.Settled.of_owner {owner : String → Option SessionKey}
    (names : ∀ file other uri, owner file ≠ none → owner other ≠ none →
      Uri.ofFileName file = .ok uri → Uri.ofFileName other = .ok uri → file = other)
    (former : ∀ file key, world.workspace.sessionOf? file = some key → owner file = some key)
    (latter : ∀ file key, last.workspace.sessionOf? file = some key → owner file = some key) :
    World.Settled world last where
  stays := by
    intro file key other before after
    exact Option.some.inj ((latter file other after).symm.trans (former file key before))
  distinct := by
    intro file other uri key twin here there named again
    exact names file other uri (by simp [latter file key here]) (by simp [latter other twin there])
      named again

/-- A machine with servers for two languages. -/
def bothServers : Setup where
  settings :=
    { servers := .ofList
        [("go", { command := ["/bin/gopls"] }), ("rust", { command := ["/bin/ra"] })] }
  host := { executables := ["/bin/gopls", "/bin/ra"] }

/-- A server answers that it can do nothing in particular. -/
def Errand.welcome (ticket : Nat) : Errand :=
  .happen (.answer ticket (.ok (.obj [("capabilities", .obj [])])))

/-- Documents of two languages are synced, saved and closed, each with its own session. -/
theorem documents_of_two_languages_open :
    ∃ worlds last,
      List.IsChain (World.Proceeds bothServers)
        ({ tree := ⟨[], []⟩, extensions := {} } :: worlds) ∧
      worlds.getLast? = some last ∧
      last.toldTo ⟨"go", 1⟩ = [.notice (.opened "file:///a.go" 0 ['x']),
        .notice (.changed "file:///a.go" 1 ['y']), .saved "file:///a.go"] ∧
      last.toldTo ⟨"rust", 1⟩ = [.notice (.opened "file:///b.rs" 0 ['z']),
        .notice (.closed "file:///b.rs")] ∧
      ∀ world ∈ worlds, world.Orderly := by
  let go : SessionKey := ⟨"go", "/"⟩
  let rust : SessionKey := ⟨"rust", "/"⟩
  let owner (file : String) : Option SessionKey :=
    if file = "/a.go" then some go else if file = "/b.rs" then some rust else none
  let errands : List Errand :=
    [.welcome 0, .start go, .welcome 1, .start rust, .sync go "/a.go" "x", .sync rust "/b.rs" "z",
      .sync go "/a.go" "y", .save "/a.go", .close "/b.rs"]
  let start : World := { tree := ⟨[], []⟩, extensions := {} }
  have outcome : (Errand.course? bothServers start errands).map (fun worlds =>
      (worlds.all fun world => world.dead.isEmpty && world.workspace.documents.entries.all
        fun entry => owner entry.1 = some entry.2.session,
      worlds.getLast?.map fun last => (last.toldTo ⟨"go", 1⟩, last.toldTo ⟨"rust", 1⟩))) =
      some (true, some ([.notice (.opened "file:///a.go" 0 ['x']),
        .notice (.changed "file:///a.go" 1 ['y']), .saved "file:///a.go"],
        [.notice (.opened "file:///b.rs" 0 ['z']), .notice (.closed "file:///b.rs")])) := by
    decide +kernel
  obtain ⟨worlds, ran, facts⟩ := Option.map_eq_some_iff.mp outcome
  obtain ⟨each, ending⟩ := Prod.mk.inj facts
  obtain ⟨last, isLast, told⟩ := Option.map_eq_some_iff.mp ending
  obtain ⟨toGo, toRust⟩ := Prod.mk.inj told
  simp only [List.all_eq_true, Bool.and_eq_true, List.isEmpty_iff, decide_eq_true_eq] at each
  have course := Errand.proceeds_of_course? ran fun world member => (each world member).1
  have owned (world : World) (member : world ∈ start :: worlds) (file : String) (key : SessionKey)
      (tracked : world.workspace.sessionOf? file = some key) : owner file = some key := by
    obtain ⟨document, found, rfl⟩ := Option.map_eq_some_iff.mp tracked
    rcases List.mem_cons.mp member with rfl | later
    · cases found
    · exact (each world later).2 (file, document) (Table.mem_of_find? found)
  have names (file other : String) (uri : Uri) (here : owner file ≠ none)
      (there : owner other ≠ none) (named : Uri.ofFileName file = .ok uri)
      (again : Uri.ofFileName other = .ok uri) : file = other := by
    have spelled (name : String) (used : owner name ≠ none) : name = "/a.go" ∨ name = "/b.rs" := by
      simp only [owner] at used
      grind
    rcases spelled file here with rfl | rfl <;> rcases spelled other there with rfl | rfl
    · rfl
    · exact absurd (named.trans again.symm) (by decide +kernel)
    · exact absurd (named.trans again.symm) (by decide +kernel)
    · rfl
  have settled : List.IsChain World.Settled (start :: worlds) := by
    refine (List.pairwise_of_forall_mem_list fun before here after there => ?_).isChain
    exact .of_owner names (owned before here) (owned after there)
  exact ⟨worlds, last, course, isLast, toGo, toRust,
    (documents_open_where_tracked_iff course).mpr settled⟩

/-- A file that is synced with the session of another key is open on both servers. -/
theorem taken_over_file_open_twice :
    ¬ ∀ (setup : Setup) (tree : FileTree) (extensions : Extensions) (worlds : List World),
      List.IsChain (World.Proceeds setup) ({ tree, extensions } :: worlds) →
        ∀ world ∈ worlds, world.Orderly := by
  intro claimed
  let go : SessionKey := ⟨"go", "/"⟩
  let rust : SessionKey := ⟨"rust", "/"⟩
  let errands : List Errand :=
    [.welcome 0, .start go, .welcome 1, .start rust, .sync go "/a.go" "x", .sync rust "/a.go" "x"]
  let start : World := { tree := ⟨[], []⟩, extensions := {} }
  have outcome : (Errand.course? bothServers start errands).map (fun worlds =>
      (worlds.all fun world => world.dead.isEmpty,
      worlds.getLast?.map fun last => (last.toldTo ⟨"go", 1⟩,
        (last.workspace.sessionOf? "/a.go").bind fun key =>
          (last.sessions.get? key).map (·.server)))) =
      some (true, some ([.notice (.opened "file:///a.go" 0 ['x'])], some ⟨"rust", 1⟩)) := by
    decide +kernel
  obtain ⟨worlds, ran, facts⟩ := Option.map_eq_some_iff.mp outcome
  obtain ⟨each, ending⟩ := Prod.mk.inj facts
  obtain ⟨last, isLast, facts⟩ := Option.map_eq_some_iff.mp ending
  obtain ⟨told, served⟩ := Prod.mk.inj facts
  obtain ⟨key, tracked, registered⟩ := Option.bind_eq_some_iff.mp served
  obtain ⟨session, here, server⟩ := Option.map_eq_some_iff.mp registered
  simp only [List.all_eq_true, List.isEmpty_iff] at each
  have course := Errand.proceeds_of_course? ran each
  have orderly := claimed _ _ _ worlds course last (List.mem_of_getLast? isLast)
  obtain ⟨opened, followed, _, serves⟩ := orderly ⟨"go", 1⟩
  rw [told] at followed
  cases followed
  have named : Uri.ofFileName "/a.go" = .ok (.ofPath "/a.go".toList) := by decide +kernel
  obtain ⟨holder, twin, held, there, own⟩ :=
    (serves "/a.go" _ (by simp [tracked]) named).mp (by decide +kernel)
  rw [tracked] at held
  cases held
  rw [here] at there
  cases there
  exact absurd (server.symm.trans own) (by decide)

end LanguageBridge
