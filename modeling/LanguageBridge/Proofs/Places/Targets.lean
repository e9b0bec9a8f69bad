import Mathlib.Data.List.Forall2
import LanguageBridge.Proofs.Script.Reaches
import LanguageBridge.Proofs.Text.Columns
import LanguageBridge.Server.Requests

/-!
By which line places are converted, on their own and in the requests that servers are sent. Meant is
the line that the file has now, tracked or on disk; a file that is not tracked is converted as if it
had no lines, which comes to the same where its line on disk has the same columns in bytes and in
units.
-/
namespace LanguageBridge

namespace Workspace

variable (workspace : Workspace) (tree : FileTree) (file : String)

/-- The line of a file as it is now, if the file can be read and has it. -/
def presentLine? (index : Nat) : Option Text :=
  match workspace.lines tree file with
  | .ok lines => lines[index]?
  | .error _ => none

/-- An editor's place in a file as the line there has it. -/
def protocolPlace (position : EditorPosition) : ProtocolPosition :=
  position.toProtocol (workspace.presentLine? tree file (position.line - 1))

/-- A protocol's place in a file as the line there has it. -/
def editorPlace (position : ProtocolPosition) : EditorPosition :=
  position.toEditor (workspace.presentLine? tree file position.line)

variable {workspace tree file}

/-- Tracked files are converted by the lines that they have now. -/
theorem line?_of_tracked (tree : FileTree) {document : Document}
    (tracked : workspace.documents.get? file = some document) (index : Nat) :
    workspace.line? file index = workspace.presentLine? tree file index := by
  simp [line?, presentLine?, lines, tracked, Document.line?]

/-- Files that are not tracked are converted without a line. -/
theorem line?_of_untracked (untracked : workspace.documents.get? file = none) (index : Nat) :
    workspace.line? file index = none := by
  simp [line?, untracked]

/-- The line of a place, when it is on disk only. -/
def OnDisk (workspace : Workspace) (tree : FileTree) (file : String) (index : Nat) (line : Text) :
    Prop :=
  workspace.documents.get? file = none ∧ workspace.presentLine? tree file index = some line

/-- Which line a place is converted by makes no difference where the line is on disk only and gives
the same as none. -/
theorem converted_iff {β : Type} (convert : Option Text → β) (index : Nat) :
    convert (workspace.line? file index) = convert (workspace.presentLine? tree file index) ↔
      ∀ line, workspace.OnDisk tree file index line → convert none = convert (some line) := by
  cases known : workspace.documents.get? file with
  | some document =>
    simp [line?_of_tracked tree known, OnDisk, known]
  | none =>
    rw [line?_of_untracked known]
    constructor
    · rintro same line ⟨_, present⟩
      rw [same, present]
    · intro same
      cases present : workspace.presentLine? tree file index with
      | none => rfl
      | some line => exact same line ⟨known, present⟩

theorem toProtocol_eq_iff (position : EditorPosition) :
    workspace.toProtocol file position = workspace.protocolPlace tree file position ↔
      ∀ line, workspace.OnDisk tree file (position.line - 1) line →
        narrow (line.unitsBefore (position.column - 1)) = narrow (position.column - 1) := by
  rw [toProtocol, protocolPlace, converted_iff position.toProtocol]
  simp only [EditorPosition.toProtocol, ProtocolPosition.mk.injEq, true_and, eq_comm]

theorem toEditor_eq_iff (position : ProtocolPosition) :
    workspace.toEditor file position = workspace.editorPlace tree file position ↔
      ∀ line, workspace.OnDisk tree file position.line line →
        line.SingleBytes position.character ∨
          line.unitLength ≤ position.character ∧ line.byteLength = position.character := by
  rw [toEditor, editorPlace, converted_iff position.toEditor]
  simp only [ProtocolPosition.toEditor, EditorPosition.mk.injEq, true_and, Nat.add_right_cancel_iff,
    eq_comm (a := position.character), Text.byteAt_eq_iff]

/-- Columns that the protocol can tell apart are the same in units exactly where that many
characters of one byte come first. -/
theorem narrow_unitsBefore_iff {line : Text} {offset : Nat} (small : offset < 4294967296) :
    narrow (line.unitsBefore offset) = narrow offset ↔ line.SingleBytes offset := by
  have less := line.unitsBefore_le offset
  rw [narrow_of_lt small, narrow_of_lt (by omega), Text.unitsBefore_eq_iff]

end Workspace

/-- Whenever a job calls anybody, it names a place of a file: the place of the cursor as it was
converted when the documents were last looked at. -/
def Job.AsksAt {α : Type} (cursor : CursorPlace) (job : Job α) : Prop :=
  ∀ (host : Host) (thread : Nat) (others : World → World → Prop) (world now : World) (peer : Peer)
    (method : String) (params : Json)
    (next : Operation.Answer (.call peer method params) → Script (Outcome α)),
    job.run.Reaches host thread others world (.step (.call peer method params) next) now →
      ∃ first, Relation.ReflTransGen others world first ∧ Relation.ReflTransGen others first now ∧
        params.get? "position" =
          some (first.workspace.toProtocol cursor.file cursor.position).toJson

namespace Context

variable {α β : Type}

/-- An operation that calls nobody. -/
def NoCall (operation : Operation) : Prop :=
  ∀ peer method params, operation ≠ .call peer method params

/-- Once a request has been sent nobody is called for it. -/
theorem quiet_await {method : String} {read : Json → Shaped α} {next : α → Job β}
    (quiet : ∀ value, (next value).Each NoCall) (sent : Outcome Nat) :
    Job.Each NoCall ((Job.ofOutcome sent >>= fun ticket =>
      (ExceptT.mk (Script.ask (.await ticket)) : Job Json) >>= fun result =>
        match read result with
        | .ok value => pure value
        | .error _ => throw (.malformedResult method)) >>= next) := by
  refine .bind (.bind (.ofOutcome _) fun ticket => .bind ?_ fun result => ?_) quiet
  · exact ⟨by simp [NoCall], fun _ => trivial⟩
  · split <;> trivial

/-- A request that is the only call, at the moment of the call. -/
theorem request_reaches {context : Context} {method asked : String} {params given : Json}
    {read : Json → Shaped α} {next : α → Job β} (quiet : ∀ value, (next value).Each NoCall)
    {host : Host} {thread : Nat} {others : World → World → Prop} {world now : World} {peer : Peer}
    {onward : Operation.Answer (.call peer asked given) → Script (Outcome β)}
    (reaches : (context.request method params read >>= next).run.Reaches host thread others world
      (.step (.call peer asked given) onward) now) :
    given = params ∧ Relation.ReflTransGen others world now := by
  cases attached : context.session with
  | none =>
    rw [request, Context.attached, attached] at reaches
    cases Script.Reaches.of_done reaches
  | some session =>
    rw [request, Context.attached, attached] at reaches
    rcases Script.Reaches.stands_or_goes reaches with ⟨same, path⟩ | ⟨_, _, outcome, _, _, rest⟩
    · cases same
      exact ⟨rfl, path⟩
    · have last : Script.Each NoCall _ := Script.Each.reaches (quiet_await quiet outcome) rest
      exact absurd rfl (last.1 _ _ _)

/-- A request whose parameters name the place of a cursor, and then no other. -/
theorem asksAt {context : Context} {cursor : CursorPlace} {method : String}
    {read : Json → Shaped α} (params : List (String × Json) → Json) (next : α → Job β)
    (named : ∀ document position,
      (params [("textDocument", document), ("position", position)]).get? "position" =
        some position)
    (quiet : ∀ value, (next value).Each NoCall) :
    (positionMembers cursor.file cursor.position >>= fun members =>
      context.request method (params members) read >>= next).AsksAt cursor := by
  intro host thread others world now peer asked given onward reaches
  unfold positionMembers at reaches
  cases found : Uri.ofFileName cursor.file with
  | error failure =>
    rw [found] at reaches
    cases Script.Reaches.of_done reaches
  | ok uri =>
    rw [found] at reaches
    rcases Script.Reaches.of_step reaches with
      impossible | ⟨first, later, workspace, before, looked, rest⟩
    · cases impossible
    simp only [World.perform] at looked
    split at looked <;> cases looked
    obtain ⟨rfl, after⟩ := request_reaches quiet rest
    exact ⟨_, before, after, named _ _⟩

/-- A request that ends with its answer. -/
theorem asksAt_last {context : Context} {cursor : CursorPlace} {method : String}
    {read : Json → Shaped α} (params : List (String × Json) → Json)
    (named : ∀ document position,
      (params [("textDocument", document), ("position", position)]).get? "position" =
        some position) :
    (positionMembers cursor.file cursor.position >>= fun members =>
      context.request method (params members) read).AsksAt cursor := by
  have asking : (positionMembers cursor.file cursor.position >>= fun members =>
      context.request method (params members) read >>= pure).AsksAt cursor :=
    asksAt params pure named fun _ => trivial
  simpa only [bind_pure] using asking

theorem definition_asksAt (context : Context) (cursor : CursorPlace) :
    (context.definition cursor).AsksAt cursor :=
  asksAt_last .obj fun _ _ => rfl

theorem references_asksAt (context : Context) (cursor : CursorPlace) :
    (context.references cursor).AsksAt cursor := by
  let params (members : List (String × Json)) : Json :=
    .obj (members ++ [("context", .obj [("includeDeclaration", .bool true)])])
  let next (answer : Option (List Location)) : Job (List Location) := pure (answer.getD [])
  have named (document position : Json) :
      (params [("textDocument", document), ("position", position)]).get? "position" =
        some position := rfl
  have asking : (positionMembers cursor.file cursor.position >>= fun members =>
      context.request "textDocument/references" (params members)
        (Json.readOption (Json.readList Location.read)) >>= next).AsksAt cursor :=
    asksAt params next named fun _ => trivial
  exact asking

theorem hover_asksAt (context : Context) (cursor : CursorPlace) :
    (context.hover cursor).AsksAt cursor :=
  asksAt_last .obj fun _ _ => rfl

theorem rename_asksAt (context : Context) (request : RenameRequest) :
    (context.rename request).AsksAt request.cursor := by
  let params (members : List (String × Json)) : Json :=
    .obj (members ++ [("newName", .str request.newName)])
  have named (document position : Json) :
      (params [("textDocument", document), ("position", position)]).get? "position" =
        some position := rfl
  exact asksAt_last params named

end Context

/-- Places are converted by the line that the file has now exactly if that line is tracked, or not
there at all, or gives on disk the same column as plain offset does: for columns that the protocol
can tell apart, where that many characters of one byte come first, and towards the editor also where
the line ends before and has as many bytes. The place that a definition, references, hover or rename
request names is the one converted so when the documents were looked at for it. -/
theorem places_converted_by_line_iff (workspace : Workspace) (tree : FileTree) (file : String) :
    (∀ position : EditorPosition,
      workspace.toProtocol file position = workspace.protocolPlace tree file position ↔
        ∀ line, workspace.OnDisk tree file (position.line - 1) line →
          narrow (line.unitsBefore (position.column - 1)) = narrow (position.column - 1)) ∧
    (∀ (line : Text) (offset : Nat), offset < 4294967296 →
      (narrow (line.unitsBefore offset) = narrow offset ↔ line.SingleBytes offset)) ∧
    (∀ position : ProtocolPosition,
      workspace.toEditor file position = workspace.editorPlace tree file position ↔
        ∀ line, workspace.OnDisk tree file position.line line →
          line.SingleBytes position.character ∨
            line.unitLength ≤ position.character ∧ line.byteLength = position.character) ∧
    ∀ (context : Context) (cursor : CursorPlace) (newName : String),
      (context.definition cursor).AsksAt cursor ∧ (context.references cursor).AsksAt cursor ∧
        (context.hover cursor).AsksAt cursor ∧
          (context.rename ⟨newName, cursor⟩).AsksAt cursor := by
  refine ⟨Workspace.toProtocol_eq_iff, fun _ _ => Workspace.narrow_unitsBefore_iff,
    Workspace.toEditor_eq_iff, fun context cursor newName => ?_⟩
  exact ⟨context.definition_asksAt cursor, context.references_asksAt cursor,
    context.hover_asksAt cursor, context.rename_asksAt ⟨newName, cursor⟩⟩

/-- A disk with a single file, `/a`. -/
def diskWith (text : String) : FileTree := ⟨[], [(["a"], .file text.toUTF8.toList)]⟩

/-- Of a file that is only on disk, a line of single bytes is converted as it should be. -/
theorem plain_line_converted :
    Workspace.toProtocol {} "/a" ⟨1, 3⟩ =
      Workspace.protocolPlace {} (diskWith "abc") "/a" ⟨1, 3⟩ := by
  refine ((places_converted_by_line_iff {} (diskWith "abc") "/a").1 ⟨1, 3⟩).mpr ?_
  rintro line ⟨_, present⟩
  have here : Workspace.presentLine? {} (diskWith "abc") "/a" 0 = some ['a', 'b', 'c'] := by
    decide +kernel
  obtain rfl := Option.some.inj (here.symm.trans present)
  decide

/-- Behind an accented letter of a file that is only on disk, places are not converted by the line:
the byte column is taken for one in units. -/
theorem accented_line_passed_over :
    ¬ ∀ (workspace : Workspace) (tree : FileTree) (file : String) (position : EditorPosition),
      workspace.toProtocol file position = workspace.protocolPlace tree file position := by
  intro claimed
  exact absurd (claimed {} (diskWith "é x") "/a" ⟨1, 4⟩) (by decide +kernel)

end LanguageBridge

/-!
Where a single place is jumped to, and how a list shows it. A list goes by the lines that the file
has now; a jump looks for the line on disk as well when a tracked document is too short to have it.
-/
namespace LanguageBridge

namespace LocationItem

/-- A list shows every place as the lines of its file have it, as if each file were read anew for
every place. -/
theorem collectFrom_ok (linesOf : String → List Text) (known : Table String (List Text))
    {locations : List Location}
    (read : ∀ file lines, known.get? file = some lines → lines = linesOf file)
    (named : ∀ location ∈ locations, ∃ file, location.uri.fileName = .ok file) :
    ∃ items, collectFrom linesOf known locations = .ok items ∧
      List.Forall₂ (fun location item => ∃ file, location.uri.fileName = .ok file ∧
        item = ofLines file (linesOf file) location.span.start) locations items := by
  induction locations generalizing known with
  | nil => exact ⟨[], rfl, .nil⟩
  | cons location rest ih =>
    obtain ⟨file, here⟩ := named location List.mem_cons_self
    have lines : (known.get? file).getD (linesOf file) = linesOf file := by
      cases found : known.get? file with
      | none => rfl
      | some lines => exact read file lines found
    have kept : ∀ name lines, (known.insert file (linesOf file)).get? name = some lines →
        lines = linesOf name := by
      intro name lines found
      rw [Table.get?_insert] at found
      split at found
      · rename_i same
        rw [← same, Option.some.inj found]
      · exact read name lines found
    obtain ⟨items, collected, shown⟩ :=
      ih _ kept fun other member => named other (List.mem_cons_of_mem _ member)
    refine ⟨ofLines file (linesOf file) location.span.start :: items, ?_,
      .cons ⟨file, here, rfl⟩ shown⟩
    rw [collectFrom, here]
    change ((collectFrom linesOf (known.insert file ((known.get? file).getD (linesOf file))) rest)
      >>= fun items => _) = _
    rw [lines, collected]
    rfl

end LocationItem

namespace Workspace

variable {workspace : Workspace} {tree : FileTree} {file : String}

theorem linesOrNone_get (workspace : Workspace) (tree : FileTree) (file : String) (index : Nat) :
    (workspace.linesOrNone tree file)[index]? = workspace.presentLine? tree file index := by
  unfold linesOrNone presentLine?
  cases workspace.lines tree file <;> rfl

/-- A line that the disk has and the tracked document of the file does not. -/
def BehindTracked (workspace : Workspace) (tree : FileTree) (file : String) (index : Nat)
    (line : Text) : Prop :=
  ∃ document lines, workspace.documents.get? file = some document ∧
    document.lines.length ≤ index ∧ tree.readLines file = .ok lines ∧ lines[index]? = some line

/-- The line that a jump goes by. -/
def soughtLine? (workspace : Workspace) (tree : FileTree) (file : String) (index : Nat) :
    Option Text :=
  match workspace.line? file index with
  | some line => some line
  | none =>
    match tree.readLines file with
    | .ok lines => lines[index]?
    | .error _ => none

theorem jumpTarget_eq {uri : Uri} (named : uri.fileName = .ok file) (position : ProtocolPosition) :
    workspace.jumpTarget tree uri position =
      .ok ⟨file, position.toEditor (workspace.soughtLine? tree file position.line)⟩ := by
  rw [jumpTarget, named]
  rfl

/-- A jump goes by the line that the file has now, or else by one behind the tracked document. -/
theorem soughtLine?_cases (workspace : Workspace) (tree : FileTree) (file : String) (index : Nat) :
    workspace.soughtLine? tree file index = workspace.presentLine? tree file index ∧
        (∀ line, ¬ workspace.BehindTracked tree file index line) ∨
      workspace.presentLine? tree file index = none ∧ ∃ line,
        workspace.soughtLine? tree file index = some line ∧
          ∀ other, workspace.BehindTracked tree file index other ↔ other = line := by
  cases known : workspace.documents.get? file with
  | none =>
    refine .inl ⟨?_, by simp [BehindTracked, known]⟩
    cases disk : tree.readLines file <;>
      simp [soughtLine?, line?_of_untracked known, presentLine?, lines, known, disk]
  | some document =>
    have present := line?_of_tracked tree known index
    have own : workspace.line? file index = document.lines[index]? := by
      simp [line?, known, Document.line?]
    cases here : document.lines[index]? with
    | some line =>
      have within : ¬ document.lines.length ≤ index := by
        rw [← List.getElem?_eq_none_iff, here]
        exact Option.some_ne_none line
      refine .inl ⟨?_, by simp [BehindTracked, known, within]⟩
      rw [← present, soughtLine?, own, here]
    | none =>
      have short : document.lines.length ≤ index := List.getElem?_eq_none_iff.mp here
      rw [← present, soughtLine?, own, here]
      cases disk : tree.readLines file with
      | error _ => exact .inl ⟨rfl, by simp [BehindTracked, disk]⟩
      | ok lines =>
        cases there : lines[index]? with
        | none => exact .inl ⟨there, by simp [BehindTracked, disk, there]⟩
        | some line =>
          exact .inr ⟨rfl, line, there, by simp [BehindTracked, known, short, disk, there, eq_comm]⟩

/-- A jump and the list differ only in the column of a place on a line behind the tracked document,
where the column is not the same in bytes and in units. -/
theorem toEditor_sought_iff (position : ProtocolPosition) :
    position.toEditor (workspace.soughtLine? tree file position.line) =
        position.toEditor (workspace.presentLine? tree file position.line) ↔
      ∀ line, workspace.BehindTracked tree file position.line line →
        line.SingleBytes position.character ∨
          line.unitLength ≤ position.character ∧ line.byteLength = position.character := by
  rcases workspace.soughtLine?_cases tree file position.line with
    ⟨same, nowhere⟩ | ⟨absent, line, sought, only⟩
  · simp [same, nowhere]
  · simp only [absent, sought, only, forall_eq, ProtocolPosition.toEditor, EditorPosition.mk.injEq,
      true_and, Nat.add_right_cancel_iff, Text.byteAt_eq_iff]

/-- A list has an entry for every place in a file, and the place itself is jumped to in the same
file and line; the column is the same exactly if no line of that number is on disk behind the end of
the tracked document, or the column in that line is the same in bytes and in units. -/
theorem jumps_where_listed_iff (workspace : Workspace) (tree : FileTree)
    {locations : List Location}
    (named : ∀ location ∈ locations, ∃ file, location.uri.fileName = .ok file) :
    ∃ items, workspace.locationItems tree locations = .ok items ∧
      List.Forall₂ (fun location item => ∃ target,
        workspace.jumpTarget tree location.uri location.span.start = .ok target ∧
          target.file = item.file ∧ target.position.line = item.position.line ∧
          (target.position.column = item.position.column ↔
            ∀ line, workspace.BehindTracked tree item.file location.span.start.line line →
              line.SingleBytes location.span.start.character ∨
                line.unitLength ≤ location.span.start.character ∧
                  line.byteLength = location.span.start.character)) locations items := by
  obtain ⟨items, collected, shown⟩ :=
    LocationItem.collectFrom_ok (workspace.linesOrNone tree) ∅ (by simp) named
  refine ⟨items, collected, shown.imp ?_⟩
  rintro location item ⟨file, here, rfl⟩
  refine ⟨_, jumpTarget_eq here _, rfl, rfl, ?_⟩
  rw [← toEditor_sought_iff, LocationItem.ofLines, linesOrNone_get]
  simp [ProtocolPosition.toEditor]

/-- A file `/a` that is tracked with a single line. -/
def shortened : Workspace := { documents := .ofList [("/a", .ofText ⟨"go", "/"⟩ ['x'])] }

/-- The place of the third unit in the second line of `/a`. -/
def secondLine : Location := ⟨.ofPath "/a".toList, ⟨1, 2⟩, ⟨1, 2⟩⟩

/-- Behind a tracked document, a line of single bytes on disk makes no difference. -/
theorem plain_line_jumped_to : ∃ items,
    shortened.locationItems (diskWith "x\nabc") [secondLine] = .ok items ∧
      List.Forall₂ (fun location item => ∃ target,
        shortened.jumpTarget (diskWith "x\nabc") location.uri location.span.start = .ok target ∧
          target.file = item.file ∧ target.position.line = item.position.line ∧
          (target.position.column = item.position.column ↔
            ∀ line, shortened.BehindTracked (diskWith "x\nabc") item.file
                location.span.start.line line →
              line.SingleBytes location.span.start.character ∨
                line.unitLength ≤ location.span.start.character ∧
                  line.byteLength = location.span.start.character)) [secondLine] items :=
  jumps_where_listed_iff shortened (diskWith "x\nabc") (by
    intro location member
    rw [List.mem_singleton.mp member]
    exact ⟨"/a", by decide +kernel⟩)

/-- Where the file on disk has an accented line behind the end of the tracked document, a jump goes
to another column than the list shows. -/
theorem accented_line_jumped_past :
    ¬ ∀ (workspace : Workspace) (tree : FileTree) (location : Location) (target : FilePosition)
      (item : LocationItem),
      workspace.jumpTarget tree location.uri location.span.start = .ok target →
      workspace.locationItems tree [location] = .ok [item] → target.position = item.position := by
  intro claimed
  exact absurd (claimed shortened (diskWith "x\né y") secondLine ⟨"/a", ⟨2, 4⟩⟩ ⟨"/a", ⟨2, 3⟩, []⟩
    (by decide +kernel) (by decide +kernel)) (by decide)

end Workspace

end LanguageBridge
