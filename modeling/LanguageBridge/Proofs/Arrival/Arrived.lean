import LanguageBridge.Proofs.Arrival.Following
import LanguageBridge.Proofs.Document.Upkeep

/-!
Which texts arrive. Once all messages of the editor have been handled, the text of the last one
that carried a text for a file is what is tracked and what the server was told last, unless its
lines were changed afterwards to those of an earlier message or by a rename.
-/
namespace LanguageBridge

/-- A file is tracked with the lines of a text, which is what the server of its session was last
told. -/
def World.UpToDate (world : World) (file : String) (text : Text) : Prop :=
  ∃ document session uri, world.workspace.documents.get? file = some document ∧
    document.lines = text.splitLines ∧
    world.sessions.get? document.session = some session ∧
    Uri.ofFileName file = .ok uri ∧ world.LastTold session.server uri text

/-- A message carries the last text for a file, not counting those that were left to a floating
preview. -/
structure CarriesLast (chronicle : Chronicle) (index : Nat) (content : BufferContent) : Prop where
  carries : Carries chronicle index content
  done : ¬ chronicle.Entered index
  last : ∀ later other, index < later → Carries chronicle later other →
    other.file = content.file → chronicle.Entered later

theorem Handled.not_fails {system : System} (handled : Handled system) {thread : Nat}
    {script : Script (Outcome Json)} (there : system.threads[thread]? = some script) :
    ¬ script.Fails := by
  intro fails
  rcases handled.threads script (List.mem_of_getElem? there) with
    ⟨outcome, rfl⟩ | ⟨peer, next, rfl⟩
  · exact fails
  · rcases fails with shows | ⟨quiet, _⟩
    · exact shows
    · exact quiet trivial

namespace Ledger

variable {roots : Roots} {tree : FileTree} {ledger : Ledger} {system : System} {index : Nat}
  {content : BufferContent}

/-- Who waits for a message owes nothing. -/
theorem unbound_of_receive {α : Type} {stance : Stance} {peer : Peer}
    {next : Option Message → Script α} {post : α → Stance → Prop}
    (obeys : Script.Obeys roots (.step (.receive peer) next) stance post) : stance.Unbound := by
  rcases obeys with (shows | ⟨quiet, _⟩) | obeys
  · exact shows.elim
  · exact absurd trivial quiet
  · cases peer with
    | editor =>
      -- any message will do, so one that carries no text
      obtain ⟨_, _, _, shift, _⟩ := obeys (some (.notification true "" .none)) ⟨fun _ => [], none⟩
        ⟨_, rfl, by decide, by decide, rfl, by simp⟩
      cases shift with
      | harmless harmless => exact harmless.elim
      | receive _ unbound => exact unbound
    | server server =>
      obtain ⟨_, _, _, shift, _⟩ := obeys none ⟨fun _ => [], none⟩ (by simp [Expects])
      cases shift with
      | harmless harmless => exact harmless.elim
      | listen unbound => exact unbound

/-- Once all messages have been handled no thread owes anything. -/
theorem Tracks.unbound (tracks : ledger.Tracks roots system) (manned : ledger.Manned)
    (handled : Handled system) (thread : Nat) : (ledger.stances thread).Unbound := by
  by_cases born : thread < system.threads.length
  · have there := List.getElem?_eq_getElem born
    have obeys := tracks.obeys thread _ there
    rcases handled.threads _ (List.getElem_mem born) with ⟨outcome, same⟩ | ⟨peer, next, same⟩ <;>
      rw [same] at obeys
    · exact obeys
    · exact unbound_of_receive obeys
  · rw [tracks.threads] at born
    rw [manned.unborn thread (Nat.not_lt.mp born)]
    exact ⟨rfl, rfl⟩

/-- Once all messages have been handled nothing has to be written any more. -/
theorem Tracks.not_pending (tracks : ledger.Tracks roots system) (kept : ledger.Kept roots)
    (handled : Handled system) (parcel : Parcel) : ¬ ledger.Pending parcel := by
  rintro (⟨thread, owed⟩ | ⟨key, queued⟩)
  · rw [(tracks.unbound kept.manned handled thread).debts] at owed
    cases owed
  · have lined := (kept.stored.lined key).1
    rw [← tracks.world, handled.queue] at lined
    split at lined
    · rename_i none
      rw [none] at queued
      cases queued
    · cases lined

/-- A text that came with a later message for the same file is only left to a preview. -/
theorem Given.not_superseded (given : ledger.Given) {parcel : Parcel}
    (last : ∀ later other, parcel.index < later → Carries ledger.chronicle later other →
      other.file = parcel.content.file → ledger.chronicle.Entered later) :
    ¬ ledger.Superseded parcel := by
  rintro ⟨later, came, file, after, effective⟩
  obtain ⟨message, arrived, carried, _, kind⟩ := Chronicle.parcelAt_eq_some.mp came
  obtain ⟨thread, entered, task⟩ := last later.index later.content after
    ⟨message, arrived, carried⟩ file
  rcases effective with event | ⟨other, again, _, early⟩
  · have action := given.action thread later.index message task arrived
    rw [← kind, event] at action
    cases action
  · exact early (given.once thread other later.index task again ▸ entered)

/-- What a message carried last for a file is what its lines were last changed to, or it was
overtaken. -/
theorem Sound.changed (sound : ledger.Sound tree) (tracks : ledger.Tracks tree.roots system)
    (handled : Handled system) (last : CarriesLast ledger.chronicle index content) :
    ∃ change, ledger.chronicle.latest content.file = some change ∧
      (change.lines = content.text.splitLines ∨ index < change.arrived ∧
        Belated ledger.chronicle tree index content change) := by
  obtain ⟨⟨message, arrived, carried⟩, done, last⟩ := last
  let parcel : Parcel := ⟨index, content, Editor.isEvent message.method⟩
  have came : ledger.chronicle.parcelAt parcel.index = some parcel :=
    Chronicle.parcelAt_eq_some.mpr ⟨message, arrived, carried, rfl, rfl⟩
  have taken : parcel.index < ledger.taken := by
    have within := (List.getElem?_eq_some_iff.mp arrived).1
    have all : ledger.taken = ledger.chronicle.arrived.length := by
      rw [Ledger.taken, Chronicle.taken, ← tracks.world, handled.waiting]
      rfl
    rw [all]
    exact within
  rcases sound.fated parcel came taken with pending | entered | ⟨_, change, latest, why⟩
  · exact absurd pending (tracks.not_pending sound.kept handled parcel)
  · exact absurd entered done
  · refine ⟨change, latest, why.imp_right fun rest => rest.resolve_left ?_⟩
    exact sound.kept.given.not_superseded last

/-- Once all messages have been handled, the server of a tracked file was last told its lines. -/
theorem Sound.tells (sound : ledger.Sound tree) (tracks : ledger.Tracks tree.roots system)
    (handled : Handled system) {file : String} {document : Document}
    (found : system.world.workspace.documents.get? file = some document)
    (apart : ¬ system.world.workspace.Aliased file) : system.world.Tells file document := by
  rw [tracks.world] at found apart ⊢
  cases sound.told.tracked file document found with
  | aliased aliased => exact absurd aliased apart
  | @underway thread uri held =>
    rw [(tracks.unbound sound.kept.manned handled thread).documents] at held
    cases held
  | told tells => exact tells

end Ledger

variable {setup : Setup} {tree : FileTree} {system : System} {chronicle : Chronicle} {index : Nat}
  {content : BufferContent}

/-- Once all messages have been handled a ledger tells of all threads, unless the user was shown a
failure. -/
theorem Came.followed (came : Came setup tree system chronicle) (handled : Handled system)
    (quiet : ¬ ErrorShown system.world) : ∃ ledger : Ledger,
      ledger.Tracks tree.roots system ∧ ledger.chronicle = chronicle ∧ ledger.Sound tree := by
  cases came.standing.2 with
  | shown shown => exact absurd shown quiet
  | failing there fails => exact absurd fails (handled.not_fails there)
  | followed tracks same sound => exact ⟨_, tracks, same, sound⟩

/-- A file whose lines were last changed to those of a text is up to date with it. -/
theorem Ledger.Sound.upToDate {ledger : Ledger} (sound : ledger.Sound tree)
    (tracks : ledger.Tracks tree.roots system) (handled : Handled system) {file : String}
    {text : Text} {change : Change} (latest : ledger.chronicle.latest file = some change)
    (lines : change.lines = text.splitLines)
    (apart : ¬ system.world.workspace.Aliased file) : system.world.UpToDate file text := by
  have tracked := sound.lasting.latest file
  rw [latest, ← tracks.world] at tracked
  obtain ⟨document, found, (same : document.lines = change.lines)⟩ :=
    Option.map_eq_some_iff.mp tracked
  obtain ⟨session, uri, there, named, told, heard, alike⟩ := sound.tells tracks handled found apart
  refine ⟨document, session, uri, found, same.trans lines, there, named, told, heard, ?_⟩
  rw [Document.text, same, lines] at alike
  exact Eq.trans alike (Text.alike_joinLines_splitLines text)

/-- Once all messages have been handled, in whatever order the threads went on, what the last
message that carried a text for a file carried is what is tracked and what the server was told last,
exactly if it was not overtaken: by the text of an action that came before it, by the text of an
event that came before it and belongs to another session, or by a rename. -/
theorem last_text_arrives_iff (came : Came setup tree system chronicle) (handled : Handled system)
    (quiet : ¬ ErrorShown system.world) (last : CarriesLast chronicle index content)
    (apart : ¬ system.world.workspace.Aliased content.file) :
    system.world.UpToDate content.file content.text ↔ ¬ Overtaken chronicle tree index content := by
  obtain ⟨ledger, tracks, rfl, sound⟩ := came.followed handled quiet
  constructor
  · rintro ⟨document, _, _, found, lines, _⟩ ⟨change, latest, _, differs, _⟩
    have tracked := sound.lasting.latest content.file
    rw [latest, ← tracks.world, Workspace.linesOf?, found] at tracked
    exact differs ((Option.some.inj tracked).symm.trans lines)
  · intro spared
    obtain ⟨change, latest, why⟩ := sound.changed tracks handled last
    refine sound.upToDate tracks handled latest ?_ apart
    by_contra differs
    obtain ⟨after, belated⟩ := why.resolve_left differs
    exact spared ⟨change, latest, after, differs, belated⟩

/-- A hover over a document, with the text of its buffer. -/
def hovering (text : String) : Message :=
  .call true (.number 1) "textDocument/hover" (Params.ofJson (.obj
    [("text_document", .str "/a.go"), ("language_id", .str "go"), ("line", .nat 1),
      ("column", .nat 1), ("text", .str text)]))

/-- A change of the document. -/
def changing (text : String) : Message :=
  .notification true "textDocument/didChange" (Params.ofJson (.obj
    [("text_document", .str "/a.go"), ("language_id", .str "go"), ("text", .str text)]))

/-- Two messages come while the server of the document starts; then it answers the start and the
hover. -/
def whileStarting (first second : Message) : System × Chronicle :=
  Chronicle.play soleServer 60
    [.deliver .editor first, .deliver .editor second,
      .answer 0 (.ok (.obj [("capabilities", .obj [])])), .answer 1 (.ok .null)]
    (listening soleServer ⟨[], []⟩, {})

theorem came_whileStarting {first second : Message}
    (mild : ∀ message ∈ [first, second],
      message.method ≠ "textDocument/didClose" ∧ message.method ≠ "vlc/shutdown") :
    Came soleServer ⟨[], []⟩ (whileStarting first second).1 (whileStarting first second).2 := by
  refine Came.play .refl 60 fun happening member tree => ?_
  simp only [List.mem_cons, List.not_mem_nil, or_false] at member
  rcases member with rfl | rfl | rfl | rfl
  · exact mild first (by simp)
  · exact mild second (by simp)
  · trivial
  · trivial

theorem not_errorShown {world : World} (quiet : (world.traffic.all fun
    | .notification .editor _ _ => false
    | _ => true) = true) : ¬ ErrorShown world := by
  rintro ⟨message, member⟩
  cases List.all_eq_true.mp quiet _ member

/-- A hover that came after a change sends its text after it. -/
theorem later_hover_arrives : ∃ system chronicle, Came soleServer ⟨[], []⟩ system chronicle ∧
    Handled system ∧ CarriesLast chronicle 1 ⟨"/a.go", ['y'], "go"⟩ ∧
    system.world.UpToDate "/a.go" ['y'] := by
  let state := whileStarting (changing "x") (hovering "y")
  have came : Came soleServer ⟨[], []⟩ state.1 state.2 := came_whileStarting (by decide)
  have handled : Handled state.1 := .of_rests (by decide +kernel)
  have quiet : ¬ ErrorShown state.1.world := not_errorShown (by decide +kernel)
  have contents : state.2.arrived.map (·.content?) =
      [some ⟨"/a.go", ['x'], "go"⟩, some ⟨"/a.go", ['y'], "go"⟩] := by decide +kernel
  have entered : state.2.entered = [] := by decide +kernel
  have latest : state.2.latest "/a.go" = some ⟨[['y']], 4, 2⟩ := by decide +kernel
  have files : state.1.world.workspace.documents.entries.map (·.1) = ["/a.go"] := by decide +kernel
  have last : CarriesLast state.2 1 ⟨"/a.go", ['y'], "go"⟩ := by
    refine ⟨by rw [carries_iff, contents]; rfl, ?_, fun later other after carries => ?_⟩
    · rintro ⟨thread, member, _⟩
      rw [entered] at member
      cases member
    · rw [carries_iff, contents] at carries
      have within := (List.getElem?_eq_some_iff.mp carries).1
      simp at within
      omega
  have apart : ¬ state.1.world.workspace.Aliased "/a.go" := by
    rintro ⟨other, _, differs, tracked, _⟩
    obtain ⟨lines, tracked⟩ := Option.ne_none_iff_exists'.mp tracked
    obtain ⟨document, found, _⟩ := Option.map_eq_some_iff.mp tracked
    have named : other ∈ state.1.world.workspace.documents.entries.map (·.1) :=
      List.mem_map_of_mem (Table.mem_of_find? found)
    rw [files] at named
    exact differs (List.mem_singleton.mp named)
  refine ⟨state.1, state.2, came, handled, last,
    (last_text_arrives_iff came handled quiet last apart).mpr ?_⟩
  rintro ⟨change, found, _, differs, _⟩
  rw [latest] at found
  cases found
  exact differs rfl

/-- A hover that came before a change sends its older text after it. -/
theorem earlier_hover_overtakes :
    ¬ ∀ (setup : Setup) (tree : FileTree) (system : System) (chronicle : Chronicle) (index : Nat)
      (content : BufferContent), Came setup tree system chronicle → Handled system →
      ¬ ErrorShown system.world → Carries chronicle index content →
      (∀ later other, index < later → Carries chronicle later other →
        other.file ≠ content.file) →
      system.world.UpToDate content.file content.text := by
  intro claimed
  let state := whileStarting (hovering "x") (changing "y")
  have came : Came soleServer ⟨[], []⟩ state.1 state.2 := came_whileStarting (by decide)
  have handled : Handled state.1 := .of_rests (by decide +kernel)
  have quiet : ¬ ErrorShown state.1.world := not_errorShown (by decide +kernel)
  have contents : state.2.arrived.map (·.content?) =
      [some ⟨"/a.go", ['x'], "go"⟩, some ⟨"/a.go", ['y'], "go"⟩] := by decide +kernel
  have lines : state.1.world.workspace.linesOf? "/a.go" = some [['x']] := by decide +kernel
  obtain ⟨document, _, _, found, same, _⟩ := claimed _ _ _ _ 1 ⟨"/a.go", ['y'], "go"⟩ came handled
    quiet (by rw [carries_iff, contents]; rfl) fun later other after carries => by
      rw [carries_iff, contents] at carries
      have within := (List.getElem?_eq_some_iff.mp carries).1
      simp at within
      omega
  rw [Workspace.linesOf?, found] at lines
  exact absurd (same.symm.trans (Option.some.inj lines)) (by decide)

/-- The text of the last event arrives, when all that came before it for its file are events of its
session and nothing is renamed. -/
theorem last_event_arrives (came : Came setup tree system chronicle) (handled : Handled system)
    (quiet : ¬ ErrorShown system.world) (last : CarriesLast chronicle index content)
    (apart : ¬ system.world.workspace.Aliased content.file)
    (events : ∀ (earlier : Nat) (message : Message) (former : BufferContent), earlier < index →
      chronicle.arrived[earlier]? = some message → message.content? = some former →
      former.file = content.file → Editor.isEvent message.method = true ∧
        SessionKey.ofFile tree former.language former.file =
          SessionKey.ofFile tree content.language content.file)
    (plain : ∀ message ∈ chronicle.arrived, message.method ≠ "textDocument/rename") :
    system.world.UpToDate content.file content.text := by
  obtain ⟨ledger, tracks, rfl, sound⟩ := came.followed handled quiet
  obtain ⟨change, latest, why⟩ := sound.changed tracks handled last
  refine sound.upToDate tracks handled latest (why.resolve_right ?_) apart
  rintro ⟨_, belated⟩
  cases belated with
  | @action earlier former before task carried file =>
    obtain ⟨message, arrived, same⟩ := carried
    have action := sound.kept.given.action change.thread earlier message task arrived
    rw [(events earlier message former before arrived same file).1] at action
    cases action
  | event before arrived event carried file _ elsewhere =>
    exact elsewhere (events _ _ _ before arrived carried file).2
  | rename _ arrived method => exact plain _ (List.mem_of_getElem? arrived) method

end LanguageBridge
