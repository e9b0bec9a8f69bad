import LanguageBridge.Editor.Actions
import LanguageBridge.Proofs.Edit.Gathering
import LanguageBridge.Proofs.Rpc.Messages
import LanguageBridge.Proofs.Script.Exchanges
import LanguageBridge.Proofs.Text.Columns
import LanguageBridge.Proofs.Text.Lines
import LanguageBridge.Server.Inbound

/-!
Positions that were read have 32 bits.
-/
namespace LanguageBridge

/-- A place whose numbers have 32 bits. -/
structure ProtocolPosition.Counted (position : ProtocolPosition) : Prop where
  line : position.line < 4294967296
  character : position.character < 4294967296

theorem Json.lt_of_readNat32 {json : Json} {value : Nat} (found : json.readNat32 = .ok value) :
    value < 4294967296 := by
  unfold readNat32 readInt at found
  split at found
  · split at found
    · rename_i bounds
      cases found
      omega
    · cases found
  · cases found

open Record

theorem ProtocolPosition.counted_of_read {json : Json} {position : ProtocolPosition}
    (found : read json = .ok position) : position.Counted := by
  obtain ⟨source, built⟩ := built_of_readAs found
  obtain ⟨_, character, toLine, characterBuilt, rfl⟩ := built_of_seq built
  obtain ⟨line, lineBuilt, rfl⟩ := built_of_map toLine
  obtain ⟨_, lineRead⟩ := read_of_required lineBuilt
  obtain ⟨_, characterRead⟩ := read_of_required characterBuilt
  exact ⟨Json.lt_of_readNat32 lineRead, Json.lt_of_readNat32 characterRead⟩

theorem Span.counted_of_read {json : Json} {span : Span} (found : read json = .ok span) :
    span.start.Counted := by
  obtain ⟨source, built⟩ := built_of_readAs found
  obtain ⟨_, stop, toStart, _, rfl⟩ := built_of_seq built
  obtain ⟨start, startBuilt, rfl⟩ := built_of_map toStart
  obtain ⟨_, startRead⟩ := read_of_required startBuilt
  exact ProtocolPosition.counted_of_read startRead

theorem Diagnostic.counted_of_read {json : Json} {diagnostic : Diagnostic}
    (found : read json = .ok diagnostic) : diagnostic.span.start.Counted := by
  obtain ⟨source, built⟩ := built_of_readAs found
  -- The span is the first field: the others are taken off from the last.
  obtain ⟨_, _, toTags, _, rfl⟩ := built_of_seq built
  obtain ⟨_, _, toRelated, _, rfl⟩ := built_of_seq toTags
  obtain ⟨_, _, toMessage, _, rfl⟩ := built_of_seq toRelated
  obtain ⟨_, _, toSource, _, rfl⟩ := built_of_seq toMessage
  obtain ⟨_, _, toCodePage, _, rfl⟩ := built_of_seq toSource
  obtain ⟨_, _, toCode, _, rfl⟩ := built_of_seq toCodePage
  obtain ⟨_, _, toSeverity, _, rfl⟩ := built_of_seq toCode
  obtain ⟨_, _, toSpan, _, rfl⟩ := built_of_seq toSeverity
  obtain ⟨span, spanBuilt, rfl⟩ := built_of_map toSpan
  obtain ⟨_, spanRead⟩ := read_of_required spanBuilt
  exact Span.counted_of_read spanRead

/-- The diagnostics that a server publishes start at places whose numbers have 32 bits. -/
theorem Server.PublishedDiagnostics.counted_of_read {json : Json}
    {published : PublishedDiagnostics} (found : read json = .ok published) :
    ∀ diagnostic ∈ published.diagnostics, diagnostic.span.start.Counted := by
  obtain ⟨source, built⟩ := built_of_readAs found
  obtain ⟨_, _, toDiagnostics, _, rfl⟩ := built_of_seq built
  obtain ⟨_, diagnostics, toUri, listBuilt, rfl⟩ := built_of_seq toDiagnostics
  obtain ⟨uri, _, rfl⟩ := built_of_map toUri
  obtain ⟨list, listRead⟩ := read_of_required listBuilt
  intro diagnostic member
  cases list with
  | arr items =>
    obtain ⟨_, _, here⟩ := exists_of_forall₂_right (forall₂_of_mapM listRead) member
    exact Diagnostic.counted_of_read here
  | _ => cases listRead

end LanguageBridge

/-!
What is listed and what is explained. Diagnostics are listed at the editor's places for the starts of
their spans, and a start comes back from its place, so that whoever asks there is shown the message.
-/
namespace LanguageBridge

namespace Diagnostic

/-- The lines of diagnostics numbered from one. -/
def numbered (diagnostics : List Diagnostic) : List Text :=
  (diagnostics.zipIdx 1).flatMap fun entry => Text.pieces (entry.1.explained entry.2).toList

theorem explanationLines_eq (number : Nat) (diagnostics : List Diagnostic) :
    explanationLines number diagnostics = (diagnostics.zipIdx number).flatMap fun entry =>
      Text.pieces (entry.1.explained entry.2).toList := by
  induction diagnostics generalizing number with
  | nil => rfl
  | cons diagnostic rest ih => rw [explanationLines, ih, List.zipIdx_cons, List.flatMap_cons]

theorem message_suffix_explained (diagnostic : Diagnostic) (number : Nat) :
    diagnostic.message.toList <:+ (diagnostic.explained number).toList := by
  unfold explained
  split
  · rename_i source _
    exact ⟨(toString number ++ ". " ++ source ++ ": ").toList, by simp [toString]⟩
  · exact ⟨(toString number ++ ". ").toList, by simp [toString]⟩

/-- The message of each of several diagnostics stands in their lines. -/
theorem message_infix_numbered {diagnostics : List Diagnostic} {diagnostic : Diagnostic}
    (member : diagnostic ∈ diagnostics) :
    diagnostic.message.toList <:+: Text.joinLines (numbered diagnostics) := by
  obtain ⟨place, here⟩ := List.mem_iff_getElem?.mp member
  have entry : (diagnostic, 1 + place) ∈ diagnostics.zipIdx 1 :=
    List.mem_of_getElem? (by rw [List.getElem?_zipIdx, here]; rfl)
  have among : (diagnostic.explained (1 + place)).toList ∈
      (diagnostics.zipIdx 1).map fun entry => (entry.1.explained entry.2).toList :=
    List.mem_map_of_mem entry
  have whole := Text.infix_joinLines_pieces among
  rw [List.flatMap_map] at whole
  exact (message_suffix_explained diagnostic _).isInfix.trans whole

end Diagnostic

variable {host : Host} {thread : Nat} {setup : Setup} {world last : World} {file : String}

/-- What comes of diagnostics that are published for a document: they are kept, and the editor is
shown each at the place where its span starts in the document's lines. -/
inductive Listed (file : String) (document : Document) (diagnostics : List Diagnostic)
    (world last : World) : Outcome Unit → Prop
  | shown {signs : List Json}
      (told : World.Becomes
        { world.workspace with
          diagnostics := world.workspace.diagnostics.insert file diagnostics }
        [.notification .editor "vim#show_diagnostics" (Params.ofJson (.arr [.str file,
          .arr (diagnostics.map fun diagnostic =>
            (Server.shownDiagnostic file document.lines diagnostic).quickfixItem.toJson),
          .arr signs]))] world last) : Listed file document diagnostics world last (.ok ())
  | lost (gone : last.isAlive .editor = false)
      (kept : World.Becomes
        { world.workspace with
          diagnostics := world.workspace.diagnostics.insert file diagnostics } [] world last) :
      Listed file document diagnostics world last (.error .terminated)

theorem Listed.workspace {document : Document} {diagnostics : List Diagnostic}
    {outcome : Outcome Unit} (listed : Listed file document diagnostics world last outcome) :
    last.workspace =
      { world.workspace with
        diagnostics := world.workspace.diagnostics.insert file diagnostics } := by
  cases listed with
  | shown told => exact told.workspace
  | lost _ kept => exact kept.workspace

theorem Server.publish_listed {published : PublishedDiagnostics} {document : Document}
    {outcome : Outcome Unit} (enabled : setup.settings.showDiagnostics = true)
    (named : published.uri.fileName = .ok file)
    (tracked : world.workspace.documents.get? file = some document)
    (runs : Job.Runs host thread (publish setup published) world outcome last) :
    Listed file document published.diagnostics world last outcome := by
  unfold publish at runs
  rw [named] at runs
  rcases runs.of_bind with ⟨failure, _, naming⟩ | ⟨name, start, naming, rest⟩
  · cases naming.of_ofOutcome.1
  obtain ⟨same, begun⟩ := naming.of_ofOutcome
  obtain rfl : name = file := Except.ok.inj same
  have kept {lines : Outcome (List Text)} {here : World}
      (keeping : Job.Runs host thread (Job.holding .documents .exclusive (do
        let workspace ← Job.ask .workspace
        let _ ← Job.ask (.setWorkspace
          { workspace with
            diagnostics := workspace.diagnostics.insert name published.diagnostics })
        let tree ← Job.ask .disk
        return workspace.linesOrNone tree name)) start lines here) :
      lines = .ok document.lines ∧ World.Becomes
        { world.workspace with
          diagnostics := world.workspace.diagnostics.insert name published.diagnostics }
        [] world here := by
    obtain ⟨first, there, before, inside, after⟩ := keeping.of_holding
    obtain ⟨read, reading, inside⟩ := inside.of_workspace
    obtain ⟨stored, set, inside⟩ := inside.of_setWorkspace
    obtain ⟨moment, waiting, inside⟩ := inside.of_disk_meanwhile
    obtain ⟨done, ending⟩ := inside.of_pure
    have path := (begun.trans before).trans reading
    have whole := (((path.withWorkspace _).trans set).trans waiting.undisturbed).trans
      (ending.trans after)
    rw [(begun.trans before).workspace] at done whole
    refine ⟨?_, whole.becomes_tracked⟩
    rw [done]
    simp [Workspace.linesOrNone, Workspace.lines, tracked]
  rcases rest.of_bind with ⟨failure, _, keeping⟩ | ⟨lines, here, keeping, rest⟩
  · cases (kept keeping).1
  obtain ⟨same, becomes⟩ := kept keeping
  obtain rfl : lines = document.lines := Except.ok.inj same
  rw [if_pos enabled] at rest
  rcases rest.notifies with ⟨rfl, told⟩ | ⟨rfl, gone, silent⟩
  · have whole := becomes.tells told
    simp only [List.map_map, List.nil_append] at whole
    exact .shown whole
  · exact .lost gone (becomes.tells silent)

/-- What comes of asking for the diagnostics at a place, given those there: the editor is shown them
numbered, or nothing when there are none. -/
inductive Explained (found : List Diagnostic) (world last : World) : Outcome Json → Prop
  | nothing (none : found = []) (silent : World.Becomes world.workspace [] world last) :
      Explained found world last (.ok .null)
  | shown (some : found ≠ [])
      (told : World.Becomes world.workspace
        [.notification .editor "vim#show_scratch" (Params.ofJson (.arr [(Preview.mk
          Diagnostic.explanationBuffer "" (Diagnostic.numbered found)).toJson]))] world last) :
      Explained found world last (.ok .null)
  | lost (some : found ≠ []) (gone : last.isAlive .editor = false)
      (silent : World.Becomes world.workspace [] world last) :
      Explained found world last (.error .terminated)

theorem Explained.undisturbed {found : List Diagnostic} {middle : World} {outcome : Outcome Json}
    (explained : Explained found world middle outcome) (drift : middle.Undisturbed last) :
    Explained found world last outcome := by
  cases explained with
  | nothing none silent => exact .nothing none (silent.undisturbed drift)
  | shown some told => exact .shown some (told.undisturbed drift)
  | lost some gone silent => exact .lost some (drift.gone gone) (silent.undisturbed drift)

namespace Editor

theorem act_explaining {params : Json} {cursor : CursorPlace}
    (read : CursorPlace.read params = .ok cursor) :
    act setup "vlc/explainErrorAtPoint" params = explain cursor >>= fun _ => pure .null := by
  change (Job.ofShaped (CursorPlace.read params) >>= fun cursor =>
    explain cursor >>= fun _ => (pure .null : Job Json)) = _
  rw [read]
  rfl

theorem explaining_inTurns (cursor : CursorPlace) :
    (explain cursor >>= fun _ => (pure .null : Job Json)).InTurns false := by
  refine Job.InTurns.bind (Job.InTurns.ask_bind rfl fun workspace => ?_) fun _ => .pure _
  dsimp only
  split
  · exact .pure _
  · exact .notify ..

theorem explaining_explained {cursor : CursorPlace} {outcome : Outcome Json}
    (runs : Job.Runs host thread (explain cursor >>= fun _ => pure .null) world outcome last) :
    Explained (world.workspace.diagnosticsAt cursor.file
      (world.workspace.toProtocol cursor.file cursor.position)) world last outcome := by
  have explained {given : Outcome Unit} {here : World}
      (explaining : Job.Runs host thread (explain cursor) world given here) :
      Explained (world.workspace.diagnosticsAt cursor.file
        (world.workspace.toProtocol cursor.file cursor.position)) world here
          (given.map fun _ => .null) := by
    obtain ⟨start, drift, rest⟩ := explaining.of_workspace
    dsimp only at rest
    split at rest
    · rename_i none
      obtain ⟨rfl, after⟩ := rest.of_pure
      exact .nothing none (drift.trans after).becomes
    · rename_i some
      rcases Job.Runs.notifies rest with ⟨rfl, told⟩ | ⟨rfl, gone, silent⟩
      · have whole := drift.becomes_of told
        rw [drift.workspace] at whole
        rw [Diagnostic.explanation, Diagnostic.explanationLines_eq] at whole
        exact .shown some whole
      · have whole := drift.becomes_of silent
        rw [drift.workspace] at whole
        exact .lost some gone whole
  rcases runs.of_bind with ⟨failure, rfl, explaining⟩ | ⟨_, here, explaining, rest⟩
  · exact explained explaining
  · obtain ⟨rfl, after⟩ := rest.of_pure
    exact (explained explaining).undisturbed after

end Editor

theorem Span.contains_start {span : Span} (ordered : span.start.notAfter span.stop = true) :
    span.contains span.start = true := by
  have same : span.start.notAfter span.start = true := by simp [ProtocolPosition.notAfter]
  rw [contains, same, ordered]
  rfl

/-- Where a diagnostic's span starts, the document has no line, or a place between two characters of
its line. -/
def Diagnostic.Anchored (diagnostic : Diagnostic) (document : Document) : Prop :=
  ∀ line, document.line? diagnostic.span.start.line = some line → diagnostic.span.start.Parts line

/-- The place at which a diagnostic is listed leads back to where its span starts. -/
theorem Diagnostic.Anchored.start_of_shown {diagnostic : Diagnostic} {document : Document}
    (anchored : diagnostic.Anchored document) (counted : diagnostic.span.start.Counted)
    (file : String) :
    let place := (Server.shownDiagnostic file document.lines diagnostic).quickfixItem.position
    place.toProtocol (document.line? (place.line - 1)) = diagnostic.span.start :=
  ProtocolPosition.toProtocol_toEditor anchored counted.line counted.character

/-- The diagnostics that were published for a document and hold the editor's place. -/
def Document.held (document : Document) (published : List Diagnostic) (place : EditorPosition) :
    List Diagnostic :=
  published.filter (·.span.contains (place.toProtocol (document.line? (place.line - 1))))

/-- Published diagnostics are listed each at its place. As long as neither the document nor its
diagnostics change, asking for those at a place never gets stuck and has the editor shown exactly
those whose span holds it, in order and numbered; and at the place listed for a diagnostic, its
message is among them. -/
theorem listed_diagnostics_explained (setup : Setup) (session : Session) (host : Host)
    (thread : Nat) {params : Json} {published : Server.PublishedDiagnostics} {document : Document}
    {world here : World} {outcome : Outcome Unit} (enabled : setup.settings.showDiagnostics = true)
    (read : Server.PublishedDiagnostics.read params = .ok published)
    (named : published.uri.fileName = .ok file)
    (tracked : world.workspace.documents.get? file = some document)
    (publishing : Job.Runs host thread (Server.handleNotification setup session
      "textDocument/publishDiagnostics" params) world outcome here) :
    Listed file document published.diagnostics world here outcome ∧
    ∀ (explainer : Nat) (later : World) (asked : Json) (cursor : CursorPlace),
      later.workspace.documents.get? file = here.workspace.documents.get? file →
      later.workspace.diagnostics.get? file = here.workspace.diagnostics.get? file →
      CursorPlace.read asked = .ok cursor → cursor.file = file →
      (later.held = [] → ∀ left there,
        (Editor.act setup "vlc/explainErrorAtPoint" asked).run.Reaches host explainer
          Script.Surroundings later left there → left.Proceeds host explainer there) ∧
      (∀ result last, Job.Runs host explainer (Editor.act setup "vlc/explainErrorAtPoint" asked)
        later result last →
          Explained (document.held published.diagnostics cursor.position) later last result) ∧
      ∀ diagnostic ∈ published.diagnostics, diagnostic.Anchored document →
        diagnostic.span.start.notAfter diagnostic.span.stop = true →
        cursor.position =
            (Server.shownDiagnostic file document.lines diagnostic).quickfixItem.position →
          diagnostic ∈ document.held published.diagnostics cursor.position ∧
            diagnostic.message.toList <:+: Text.joinLines
              (Diagnostic.numbered (document.held published.diagnostics cursor.position)) := by
  have publish : Server.handleNotification setup session "textDocument/publishDiagnostics" params =
      Server.publish setup published := by
    change (Job.ofShaped (Server.PublishedDiagnostics.read params) >>= fun published =>
      Server.publish setup published) = _
    rw [read]
    rfl
  rw [publish] at publishing
  have listed := Server.publish_listed enabled named tracked publishing
  refine ⟨listed, ?_⟩
  rintro explainer later asked cursor sameDocument sameDiagnostics asking rfl
  rw [listed.workspace] at sameDocument sameDiagnostics
  rw [Editor.act_explaining asking]
  refine ⟨fun free left there reaches => ?_, fun result last runs => ?_, ?_⟩
  · exact Script.InTurns.proceeds (Editor.explaining_inTurns cursor) free reaches
  · have explained := Editor.explaining_explained runs
    have found : later.workspace.diagnosticsAt cursor.file
        (later.workspace.toProtocol cursor.file cursor.position) =
          document.held published.diagnostics cursor.position := by
      simp [Workspace.diagnosticsAt, Workspace.toProtocol, Workspace.line?, sameDocument, tracked,
        sameDiagnostics, Document.held]
    rwa [found] at explained
  · intro diagnostic member anchored ordered place
    have counted := Server.PublishedDiagnostics.counted_of_read read diagnostic member
    have start := anchored.start_of_shown counted cursor.file
    have among : diagnostic ∈ document.held published.diagnostics cursor.position := by
      refine List.mem_filter.mpr ⟨member, ?_⟩
      rw [place, start]
      exact Span.contains_start ordered
    exact ⟨among, Diagnostic.message_infix_numbered among⟩

/-- A document with a wide character. -/
def accentedDocument : Document := .ofText ⟨"go", "/"⟩ "é x".toList

/-- The document is tracked. -/
def accentedWorld : World where
  workspace := { documents := .ofList [("/a.go", accentedDocument)] }

/-- A diagnostic of the letter behind the wide character and the blank. -/
def unusedLetter : Diagnostic where
  span := ⟨⟨0, 2⟩, ⟨0, 3⟩⟩
  message := "unused"

/-- What the server publishes for the document. -/
def publishedLetter : Server.PublishedDiagnostics where
  uri :=
    { scheme := "file", authority := some "", host := none, path := "/a.go".toList,
      isOpaque := false, query := none, fragment := none }
  diagnostics := [unusedLetter]

def publishingLetter : Json :=
  .obj [("uri", .str "file:///a.go"), ("diagnostics", .arr [unusedLetter.toJson])]

/-- The editor asks where the diagnostic is listed, at the fourth byte. -/
def askingAtLetter : Json :=
  .obj [("text_document", .str "/a.go"), ("language_id", .str "go"), ("line", .int 1),
    ("column", .int 4)]

/-- The diagnostic is listed behind three bytes, and whoever asks there is shown its message. -/
theorem unused_letter_explained : ∃ here last,
    Listed "/a.go" accentedDocument [unusedLetter] accentedWorld here (.ok ()) ∧
    Job.Runs {} 1 (Editor.act {} "vlc/explainErrorAtPoint" askingAtLetter) here (.ok .null) last ∧
    World.Becomes here.workspace [.notification .editor "vim#show_scratch" (Params.ofJson (.arr
      [(Preview.mk Diagnostic.explanationBuffer "" (Diagnostic.numbered
        (accentedDocument.held [unusedLetter] ⟨1, 4⟩))).toJson]))] here last ∧
    "unused".toList <:+: Text.joinLines
      (Diagnostic.numbered (accentedDocument.held [unusedLetter] ⟨1, 4⟩)) := by
  let session : Session := { key := ⟨"go", "/"⟩, server := ⟨"go", 1⟩ }
  have ran : ((Server.handleNotification {} session "textDocument/publishDiagnostics"
      publishingLetter).run.run? {} 0 accentedWorld).bind (fun first =>
        ((Editor.act {} "vlc/explainErrorAtPoint" askingAtLetter).run.run? {} 1 first.2).map
          fun second => (first.1.toOption, second.1.isOk)) = some (some (), true) := by
    decide +kernel
  obtain ⟨⟨outcome, here⟩, published, asked⟩ := Option.bind_eq_some_iff.mp ran
  obtain ⟨⟨result, last⟩, explained, facts⟩ := Option.map_eq_some_iff.mp asked
  obtain ⟨done, shown⟩ := Prod.mk.inj facts
  cases outcome with
  | error failure => cases done
  | ok value =>
    have read : Server.PublishedDiagnostics.read publishingLetter = .ok publishedLetter := by rfl
    have asking : CursorPlace.read askingAtLetter =
        .ok { file := "/a.go", language := "go", position := ⟨1, 4⟩ } := by
      rfl
    have named : publishedLetter.uri.fileName = .ok "/a.go" := by decide +kernel
    have runs := Script.runs_of_run? explained
    obtain ⟨listed, answers⟩ := listed_diagnostics_explained {} session {} 0 rfl read named rfl
      (Script.runs_of_run? published)
    obtain ⟨_, explains, contained⟩ := answers 1 here askingAtLetter _ rfl rfl asking rfl
    have anchored : unusedLetter.Anchored accentedDocument := by
      rintro line ⟨⟩
      exact ⟨['é', ' '], ['x'], rfl, rfl⟩
    obtain ⟨among, message⟩ :=
      contained unusedLetter (List.mem_singleton.mpr rfl) anchored rfl rfl
    cases explains result last runs with
    | nothing none =>
      rw [none] at among
      cases among
    | shown _ told => exact ⟨here, last, listed, runs, told, message⟩
    | lost => cases shown

end LanguageBridge
