import Mathlib.Logic.Relation
import LanguageBridge.Proofs.Document.Mirrored

/-!
Servers stay up to date. Whatever is synchronized, saved and closed one after the other, and
whenever servers go away and are started again, a session's server has the documents that are
tracked for the session.
-/
namespace LanguageBridge

/-- One thing at a time: an operation on a file with the session registered for it, a look for a
session that starts one when there is none, or something that the surroundings do. -/
inductive Turn (setup : Setup) (owner : String → SessionKey) (files : String → Prop)
    (world : World) : World → Prop
  | sync {context : Context} {file : String} {text : Text} {thread : Nat} {outcome : Outcome Nat}
      {last : World} (used : files file)
      (registered : context.session = world.sessions.get? (owner file))
      (runs : Job.Runs setup.host thread (context.sync file text) world outcome last) :
      Turn setup owner files world last
  | save {context : Context} {file : String} {thread : Nat} {outcome : Outcome Unit}
      {last : World} (used : files file)
      (registered : context.session = world.sessions.get? (owner file))
      (runs : Job.Runs setup.host thread (context.didSave file) world outcome last) :
      Turn setup owner files world last
  | close {context : Context} {file : String} {thread : Nat} {outcome : Outcome Nat}
      {last : World} (used : files file)
      (registered : context.session = world.sessions.get? (owner file))
      (runs : Job.Runs setup.host thread (context.didClose file) world outcome last) :
      Turn setup owner files world last
  | restart {key : SessionKey} {thread : Nat} {outcome : Outcome Session} {last : World}
      (runs : Job.Runs setup.host thread (Session.getOrStart key (Session.start setup key)) world
        outcome last) : Turn setup owner files world last
  | happen (happening : Happening) : Turn setup owner files world (world.after happening)

/-- The worlds that come of a fresh one by turns. -/
abbrev Reached (setup : Setup) (owner : String → SessionKey) (files : String → Prop)
    (start world : World) : Prop :=
  Relation.ReflTransGen (Turn setup owner files) start world

variable {setup : Setup} {owner : String → SessionKey} {files : String → Prop}
  {world last : World}

theorem Mirrored.start (tree : FileTree) (extensions : Extensions) :
    Mirrored owner files { tree, extensions } where
  filed := ⟨List.nodup_nil, fun _ _ impossible => by cases impossible⟩
  keyed := fun _ _ impossible => by cases impossible
  counted := fun _ _ impossible => by cases impossible
  apart := fun _ _ _ _ impossible => by cases impossible
  fresh := fun _ _ => rfl
  followed := fun _ => ⟨∅, rfl⟩
  current := fun _ _ _ impossible => by cases impossible

theorem Mirrored.turn (mirrored : Mirrored owner files world) (distinct : UrisApart owner files)
    (turn : Turn setup owner files world last) : Mirrored owner files last := by
  cases turn with
  | @sync context file text thread outcome _ used registered runs =>
    cases here : world.sessions.get? (owner file) with
    | none =>
      rw [here] at registered
      exact mirrored.undisturbed (Context.idle registered runs)
    | some session =>
      rw [here] at registered
      rcases Context.sync_effect registered runs with idle | ⟨uri, named, effect⟩
      · exact mirrored.quiet here idle
      · exact mirrored.synced distinct used here named effect
  | @save context file thread outcome _ used registered runs =>
    cases here : world.sessions.get? (owner file) with
    | none =>
      rw [here] at registered
      exact mirrored.undisturbed (Context.idle registered runs)
    | some session =>
      rw [here] at registered
      rcases Context.didSave_effect registered runs with idle | ⟨⟨document, owned⟩, told⟩
      · exact mirrored.quiet here idle
      · exact mirrored.saved distinct used here owned told
  | @close context file thread outcome _ used registered runs =>
    cases here : world.sessions.get? (owner file) with
    | none =>
      rw [here] at registered
      exact mirrored.undisturbed (Context.idle registered runs)
    | some session =>
      rw [here] at registered
      exact mirrored.closed distinct used here (Context.didClose_effect registered runs)
  | restart runs => exact mirrored.restarted distinct runs
  | happen happening => exact mirrored.undisturbed (.happening world happening)

theorem Mirrored.reached {start : World} (mirrored : Mirrored owner files start)
    (distinct : UrisApart owner files) (reached : Reached setup owner files start world) :
    Mirrored owner files world := by
  induction reached with
  | refl => exact mirrored
  | tail _ turn ih => exact ih.turn distinct turn

/-- Servers are up to date: the server of a live session could follow all that it was told of
documents and has exactly the documents tracked for the session, and every server was told rising
versions. -/
def ServersUpToDate (world : World) : Prop :=
  (∀ key session, world.sessions.get? key = some session → world.isAlive session.peer = true →
    ∃ replica, Replica.replay? (world.noticesTo session.server) = some replica ∧
      Mirrors (world.workspace.documentsOf key) replica) ∧
  ∀ server, VersionsRise (world.noticesTo server)

theorem servers_up_to_date (distinct : UrisApart owner files) {tree : FileTree}
    {extensions : Extensions}
    (reached : Reached setup owner files { tree, extensions } world) : ServersUpToDate world := by
  have mirrored := (Mirrored.start tree extensions).reached distinct reached
  constructor
  · intro key session here alive
    obtain ⟨replica, replayed⟩ := mirrored.followed session.server
    exact ⟨replica, replayed, mirrored.current key session replica here alive replayed⟩
  · intro server
    obtain ⟨replica, replayed⟩ := mirrored.followed server
    exact Replica.versionsRise_of_replay? replayed

/-- One of the turns, without anything else that happens meanwhile. -/
inductive Move
  | sync (file text : String)
  | save (file : String)
  | close (file : String)
  | restart (key : SessionKey)
  | happen (happening : Happening)

namespace Move

/-- The file of a move. -/
def file? : Move → Option String
  | .sync file _ => some file
  | .save file => some file
  | .close file => some file
  | .restart _ => none
  | .happen _ => none

/-- The world that comes of a move; `none` when it has to wait. -/
def play? (setup : Setup) (owner : String → SessionKey) (world : World) : Move → Option World
  | .sync file text =>
    let context : Context := { session := world.sessions.get? (owner file) }
    (Script.run? setup.host 0 (context.sync file text.toList).run world).map (·.2)
  | .save file =>
    let context : Context := { session := world.sessions.get? (owner file) }
    (Script.run? setup.host 0 (context.didSave file).run world).map (·.2)
  | .close file =>
    let context : Context := { session := world.sessions.get? (owner file) }
    (Script.run? setup.host 0 (context.didClose file).run world).map (·.2)
  | .restart key =>
    (Script.run? setup.host 0 (Session.getOrStart key (Session.start setup key)).run world).map
      (·.2)
  | .happen happening => some (world.after happening)

theorem turn_of_play? {move : Move} (used : ∀ file, move.file? = some file → files file)
    (played : play? setup owner world move = some last) : Turn setup owner files world last := by
  cases move with
  | sync file text =>
    obtain ⟨⟨outcome, final⟩, ran, rfl⟩ := Option.map_eq_some_iff.mp played
    exact .sync (used file rfl) rfl (Script.runs_of_run? ran)
  | save file =>
    obtain ⟨⟨outcome, final⟩, ran, rfl⟩ := Option.map_eq_some_iff.mp played
    exact .save (used file rfl) rfl (Script.runs_of_run? ran)
  | close file =>
    obtain ⟨⟨outcome, final⟩, ran, rfl⟩ := Option.map_eq_some_iff.mp played
    exact .close (used file rfl) rfl (Script.runs_of_run? ran)
  | restart key =>
    obtain ⟨⟨outcome, final⟩, ran, rfl⟩ := Option.map_eq_some_iff.mp played
    exact .restart (Script.runs_of_run? ran)
  | happen happening =>
    cases played
    exact .happen happening

theorem reached_of_play? {moves : List Move}
    (used : ∀ move ∈ moves, ∀ file, move.file? = some file → files file)
    (played : moves.foldlM (play? setup owner) world = some last) :
    Reached setup owner files world last := by
  induction moves generalizing world with
  | nil =>
    cases played
    exact .refl
  | cons move rest ih =>
    rw [List.foldlM_cons] at played
    obtain ⟨next, first, others⟩ := Option.bind_eq_some_iff.mp played
    have turn := turn_of_play? (used move List.mem_cons_self) first
    exact .head turn (ih (fun other member => used other (List.mem_cons_of_mem _ member)) others)

end Move

/-- A machine with a server for one language. -/
def soleServer : Setup where
  settings := { servers := .ofList [("go", { command := ["/bin/gopls"] })] }
  host := { executables := ["/bin/gopls"] }

/-- A server answers that it can do nothing in particular. -/
def welcome (ticket : Nat) : Move :=
  .happen (.answer ticket (.ok (.obj [("capabilities", .obj [])])))

/-- A document is changed, its server goes away, and the next server gets the document as it is. -/
theorem restarted_server_up_to_date :
    ∃ world, Reached soleServer (fun _ => ⟨"go", "/"⟩) (· = "/a.go")
        { tree := ⟨[], []⟩, extensions := {} } world ∧
      (world.sessions.get? ⟨"go", "/"⟩).map Session.server = some ⟨"go", 2⟩ ∧
      world.noticesTo ⟨"go", 2⟩ = [.opened "file:///a.go" 1 ['y']] ∧ ServersUpToDate world := by
  let moves : List Move :=
    [welcome 0, .restart ⟨"go", "/"⟩, .sync "/a.go" "x", .sync "/a.go" "y",
      .happen (.disconnect (.server ⟨"go", 1⟩)), welcome 1, .restart ⟨"go", "/"⟩]
  let start : World := { tree := ⟨[], []⟩, extensions := {} }
  have outcome : (moves.foldlM (Move.play? soleServer fun _ => ⟨"go", "/"⟩) start).map
      (fun world => ((world.sessions.get? ⟨"go", "/"⟩).map Session.server,
        world.noticesTo ⟨"go", 2⟩)) =
      some (some ⟨"go", 2⟩, [.opened "file:///a.go" 1 ['y']]) := by decide +kernel
  obtain ⟨world, played, facts⟩ := Option.map_eq_some_iff.mp outcome
  obtain ⟨session, notices⟩ := Prod.mk.inj facts
  have distinct : UrisApart (fun _ => ⟨"go", "/"⟩) (· = "/a.go") :=
    fun _ _ _ here there _ _ _ => here.trans there.symm
  have used : ∀ move ∈ moves, ∀ file, move.file? = some file → file = "/a.go" := by
    simp [moves, Move.file?, welcome]
  have reached := Move.reached_of_play? used played
  exact ⟨world, reached, session, notices, servers_up_to_date distinct reached⟩

/-- Two names of one file make its server open it twice. -/
theorem alias_opened_twice :
    ¬ ∀ (setup : Setup) (owner : String → SessionKey) (files : String → Prop) (tree : FileTree)
      (extensions : Extensions) (world : World),
      Reached setup owner files { tree, extensions } world → ServersUpToDate world := by
  intro claimed
  let moves : List Move :=
    [welcome 0, .restart ⟨"go", "/"⟩, .sync "/a.go" "x", .sync "//a.go" "y"]
  let start : World := { tree := ⟨[], []⟩, extensions := {} }
  have outcome : (moves.foldlM (Move.play? soleServer fun _ => ⟨"go", "/"⟩) start).map
      (fun world => world.noticesTo ⟨"go", 1⟩) =
      some [.opened "file:///a.go" 0 ['x'], .opened "file:///a.go" 0 ['y']] := by decide +kernel
  obtain ⟨world, played, notices⟩ := Option.map_eq_some_iff.mp outcome
  have reached := Move.reached_of_play? (fun _ _ _ _ => trivial) played
  have rise := (claimed _ _ _ _ _ world reached).2 ⟨"go", 1⟩
  rw [notices] at rise
  have higher := rise [] [] [] _ _ "file:///a.go" 0 0 rfl rfl rfl List.not_mem_nil
  exact Int.lt_irrefl 0 higher

end LanguageBridge
