import Mathlib.Data.List.Forall2
import LanguageBridge.Editor.Actions
import LanguageBridge.Proofs.Places.Targets
import LanguageBridge.Proofs.Script.Exchanges
import LanguageBridge.Proofs.Uri.FileNames

/-!
The symbols of a forest in the order in which they are listed: each before those inside it, and those
before the ones that come after it on its level.
-/
namespace LanguageBridge.NestedSymbol

/-- The symbols right inside of a symbol. -/
def children : NestedSymbol → List NestedSymbol
  | mk _ _ _ children => children

/-- The span of a symbol's name. -/
def selection : NestedSymbol → Span
  | mk _ _ selection _ => selection

/-- The place at which a symbol is listed: where its name starts. -/
def namePlace (uri : Uri) (symbol : NestedSymbol) : Location :=
  ⟨uri, ⟨symbol.selection.start, symbol.selection.start⟩⟩

/-- The symbol to which a path leads from a symbol: each number counts among the symbols right
inside of the one before. -/
def within? (symbol : NestedSymbol) : List Nat → Option NestedSymbol
  | [] => some symbol
  | index :: path => symbol.children[index]?.bind fun child => child.within? path

/-- The symbol to which a path leads in a forest. -/
def at? (forest : List NestedSymbol) : List Nat → Option NestedSymbol
  | [] => none
  | index :: path => forest[index]?.bind fun symbol => symbol.within? path

/-- All symbols of a forest with their paths, each once: those in front of others on one level
first, and each before those inside it, so that paths ascend. -/
structure InPreOrder (forest : List NestedSymbol) (entries : List (List Nat × NestedSymbol)) :
    Prop where
  ascending : entries.Pairwise fun first second => first.1 < second.1
  complete : ∀ path symbol, (path, symbol) ∈ entries ↔ at? forest path = some symbol

variable {symbol : NestedSymbol} {forest rest : List NestedSymbol}
  {entries inner outer : List (List Nat × NestedSymbol)}

/-- What holds of a forest if it holds of the symbols inside of its first and of its other trees. -/
theorem forest_induction {holds : List NestedSymbol → Prop} (nil : holds [])
    (cons : ∀ symbol rest, holds symbol.children → holds rest → holds (symbol :: rest))
    (forest : List NestedSymbol) : holds forest :=
  @NestedSymbol.rec_1 (fun symbol => holds symbol.children) holds
    (fun _ _ _ _ inside => inside) nil cons forest

theorem locationsOf_cons (uri : Uri) (symbol : NestedSymbol) (rest : List NestedSymbol) :
    locationsOf uri (symbol :: rest) =
      symbol.namePlace uri :: (locationsOf uri symbol.children ++ locationsOf uri rest) := by
  cases symbol
  rfl

/-- The entry of a symbol inside of the first of some. -/
def deeper (entry : List Nat × NestedSymbol) : List Nat × NestedSymbol := (0 :: entry.1, entry.2)

/-- The entry of a symbol behind the first of some. -/
def later (entry : List Nat × NestedSymbol) : List Nat × NestedSymbol :=
  (entry.1.modifyHead (· + 1), entry.2)

theorem InPreOrder.path_ne_nil (inOrder : InPreOrder forest entries) :
    ∀ entry ∈ entries, entry.1 ≠ [] := by
  rintro ⟨path, symbol⟩ member rfl
  cases (inOrder.complete [] symbol).mp member

theorem mem_map_deeper {path : List Nat} {found : NestedSymbol} :
    (path, found) ∈ inner.map deeper ↔ ∃ tail, path = 0 :: tail ∧ (tail, found) ∈ inner := by
  simp [deeper, eq_comm, and_comm]

theorem InPreOrder.mem_map_later (inOrder : InPreOrder forest entries) {path : List Nat}
    {found : NestedSymbol} : (path, found) ∈ entries.map later ↔
      ∃ index tail, path = (index + 1) :: tail ∧ (index :: tail, found) ∈ entries := by
  rw [List.mem_map]
  constructor
  · rintro ⟨⟨old, symbol⟩, member, same⟩
    obtain ⟨rfl, rfl⟩ := Prod.mk.inj same
    cases old with
    | nil => exact absurd rfl (inOrder.path_ne_nil ([], symbol) member)
    | cons index tail => exact ⟨index, tail, rfl, member⟩
  · rintro ⟨index, tail, rfl, member⟩
    exact ⟨_, member, rfl⟩

theorem modifyHead_succ_lt {first second : List Nat} (less : first < second) :
    first.modifyHead (· + 1) < second.modifyHead (· + 1) := by
  cases second with
  | nil => exact absurd less (List.not_lt_nil _)
  | cons index path =>
    cases first with
    | nil => exact List.nil_lt_cons ..
    | cons number tail =>
      rw [List.cons_lt_cons_iff] at less
      exact List.cons_lt_cons_iff.mpr (less.imp Nat.succ_lt_succ (.imp_left (congrArg (· + 1))))

theorem InPreOrder.cons (inside : InPreOrder symbol.children inner)
    (behind : InPreOrder rest outer) :
    InPreOrder (symbol :: rest) (([0], symbol) :: (inner.map deeper ++ outer.map later)) where
  ascending := by
    have across : ∀ entry ∈ outer.map later, ∀ tail : List Nat, 0 :: tail < entry.1 := by
      rintro ⟨path, found⟩ member tail
      obtain ⟨index, path, rfl, _⟩ := behind.mem_map_later.mp member
      exact List.cons_lt_cons_iff.mpr (.inl (Nat.succ_pos index))
    rw [List.pairwise_cons, List.pairwise_append, List.pairwise_map, List.pairwise_map]
    refine ⟨fun entry member => ?_, ?_, ?_, ?_⟩
    · rcases List.mem_append.mp member with here | there
      · obtain ⟨entry, below, rfl⟩ := List.mem_map.mp here
        obtain ⟨index, path, same⟩ := List.exists_cons_of_ne_nil (inside.path_ne_nil entry below)
        rw [deeper, same]
        exact List.cons_lt_cons_iff.mpr (.inr ⟨rfl, List.nil_lt_cons ..⟩)
      · exact across entry there []
    · exact inside.ascending.imp fun less => List.cons_lt_cons_iff.mpr (.inr ⟨rfl, less⟩)
    · exact behind.ascending.imp modifyHead_succ_lt
    · intro first here second there
      obtain ⟨entry, _, rfl⟩ := List.mem_map.mp here
      exact across second there entry.1
  complete := by
    intro path found
    rw [List.mem_cons, List.mem_append, mem_map_deeper, behind.mem_map_later]
    cases path with
    | nil => simp [at?]
    | cons index path =>
      cases index with
      | zero =>
        have first : at? (symbol :: rest) (0 :: path) = symbol.within? path := rfl
        rw [first]
        cases path with
        | nil =>
          have none : ([], found) ∉ inner := fun member => inside.path_ne_nil _ member rfl
          simp [within?, none, eq_comm]
        | cons index path =>
          have below : symbol.within? (index :: path) = at? symbol.children (index :: path) := rfl
          rw [below, ← inside.complete]
          simp
      | succ index =>
        have next : at? (symbol :: rest) ((index + 1) :: path) = at? rest (index :: path) := rfl
        rw [next, ← behind.complete]
        simp

/-- The places of a forest's symbols are those of their names in this order. -/
theorem exists_inPreOrder (forest : List NestedSymbol) : ∃ entries, InPreOrder forest entries ∧
    ∀ uri, locationsOf uri forest = entries.map fun entry => entry.2.namePlace uri := by
  induction forest using forest_induction with
  | nil => exact ⟨[], ⟨.nil, fun path _ => by cases path <;> simp [at?]⟩, fun _ => rfl⟩
  | cons symbol rest inside behind =>
    obtain ⟨inner, inside, innerPlaces⟩ := inside
    obtain ⟨outer, behind, outerPlaces⟩ := behind
    refine ⟨_, inside.cons behind, fun uri => ?_⟩
    rw [locationsOf_cons, innerPlaces, outerPlaces, List.map_cons, List.map_append, List.map_map,
      List.map_map]
    rfl

end LanguageBridge.NestedSymbol

/-!
Lists of places: references, and the symbols of a project or of a document. There is one entry for
each place that the server answered with, in their order, as the lines of its file have it when the
list is made; files that are read once show the same as if they were read anew for every entry.
-/
namespace LanguageBridge

namespace LocationItem

/-- Where a place is in no file, there is no list. -/
theorem collectFrom_error (linesOf : String → List Text) (known : Table String (List Text))
    {locations : List Location}
    (unnamed : ¬ ∀ location ∈ locations, ∃ file, location.uri.fileName = .ok file) :
    ∃ location ∈ locations, ∃ failure, location.uri.fileName = .error failure ∧
      collectFrom linesOf known locations = .error failure := by
  induction locations generalizing known with
  | nil => exact absurd (fun _ none => nomatch none) unnamed
  | cons location rest ih =>
    cases named : location.uri.fileName with
    | error failure =>
      refine ⟨location, List.mem_cons_self, failure, named, ?_⟩
      rw [collectFrom, named]
      rfl
    | ok file =>
      have later : ¬ ∀ other ∈ rest, ∃ file, other.uri.fileName = .ok file := fun each =>
        unnamed (List.forall_mem_cons.mpr ⟨⟨file, named⟩, each⟩)
      obtain ⟨other, member, failure, failed, collected⟩ :=
        ih (known.insert file ((known.get? file).getD (linesOf file))) later
      refine ⟨other, List.mem_cons_of_mem _ member, failure, failed, ?_⟩
      rw [collectFrom, named]
      change (collectFrom linesOf _ rest >>= fun items => _) = _
      rw [collected]
      rfl

end LocationItem

/-- An entry shows a place as the lines of its file have it: the file of its URI, the place in the
editor's terms and the line without blanks around it, empty if there is none. So it is listed on its
own, too. -/
structure LocationItem.Shows (workspace : Workspace) (tree : FileTree) (place : Location)
    (item : LocationItem) : Prop where
  file : place.uri.fileName = .ok item.file
  position : item.position = workspace.editorPlace tree item.file place.span.start
  text : item.text =
    ((workspace.presentLine? tree item.file place.span.start.line).map Text.trim).getD []
  alone : workspace.locationItems tree [place] = .ok [item]

/-- All places are listed, each once and in their order, or one of them is in no file. -/
theorem Workspace.locationItems_cases (workspace : Workspace) (tree : FileTree)
    (places : List Location) :
    (∃ items, workspace.locationItems tree places = .ok items ∧
      List.Forall₂ (LocationItem.Shows workspace tree) places items) ∨
    ∃ place ∈ places, ∃ failure, place.uri.fileName = .error failure ∧
      workspace.locationItems tree places = .error failure := by
  by_cases named : ∀ place ∈ places, ∃ file, place.uri.fileName = .ok file
  · obtain ⟨items, collected, shown⟩ :=
      LocationItem.collectFrom_ok (workspace.linesOrNone tree) ∅ (fun _ _ none => nomatch none) named
    refine .inl ⟨items, collected, shown.imp ?_⟩
    rintro place item ⟨file, here, rfl⟩
    refine ⟨here, ?_, ?_, ?_⟩
    · rw [LocationItem.ofLines, linesOrNone_get]
      rfl
    · rw [LocationItem.ofLines, linesOrNone_get]
    · rw [locationItems, LocationItem.collectFrom, here]
      rfl
  · exact .inr (LocationItem.collectFrom_error _ ∅ named)

variable {host : Host} {thread : Nat} {setup : Setup} {world last : World} {title : String}
  {places : List Location}

/-- What comes of listing places: nothing when there are none; a list of all of them, as they are
when the disk is looked at; or a failure, because the editor is gone or a place is in no file. -/
inductive Listing (setup : Setup) (title : String) (places : List Location) (world last : World) :
    Outcome Unit → Prop
  | nothing (none : places = []) (silent : World.Becomes world.workspace [] world last) :
      Listing setup title places world last (.ok ())
  | shown {moment : World} {items : List LocationItem} (some : places ≠ [])
      (meanwhile : world.Meanwhile moment)
      (shows : List.Forall₂ (LocationItem.Shows world.workspace moment.tree) places items)
      (told : World.Becomes world.workspace
        [.notification .editor "vim#set_loclist" (Params.ofJson (.arr
          [.arr (items.map LocationItem.toJson), .str title,
            .bool setup.settings.openLocations]))] world last) :
      Listing setup title places world last (.ok ())
  | lost (some : places ≠ []) (gone : last.isAlive .editor = false)
      (silent : World.Becomes world.workspace [] world last) :
      Listing setup title places world last (.error .terminated)
  | unnamed {place : Location} {failure : Failure} (member : place ∈ places)
      (failed : place.uri.fileName = .error failure)
      (silent : World.Becomes world.workspace [] world last) :
      Listing setup title places world last (.error failure)

theorem Editor.showLocations_listing {outcome : Outcome Unit}
    (runs : Job.Runs host thread (showLocations setup title places) world outcome last) :
    Listing setup title places world last outcome := by
  unfold showLocations at runs
  split at runs
  · rename_i none
    obtain ⟨rfl, drift⟩ := runs.of_pure
    exact .nothing (List.isEmpty_iff.mp none) drift.becomes
  · rename_i some
    have some : places ≠ [] := fun none => some (List.isEmpty_iff.mpr none)
    obtain ⟨start, before, runs⟩ := runs.of_workspace_meanwhile
    obtain ⟨moment, after, runs⟩ := runs.of_disk_meanwhile
    have meanwhile : world.Meanwhile moment := before.trans after
    have drift := meanwhile.undisturbed
    rcases world.workspace.locationItems_cases moment.tree places with
      ⟨items, collected, shows⟩ | ⟨place, member, failure, failed, collected⟩
    · rw [collected] at runs
      rcases Job.Runs.notifies runs with ⟨rfl, told⟩ | ⟨rfl, gone, silent⟩
      · have whole := drift.becomes_of told
        rw [drift.workspace] at whole
        exact .shown some meanwhile shows whole
      · have whole := drift.becomes_of silent
        rw [drift.workspace] at whole
        exact .lost some gone whole
    · rw [collected] at runs
      obtain ⟨rfl, ending⟩ := Job.Runs.of_throw runs
      exact .unnamed member failed (drift.trans ending).becomes

theorem Editor.showLocations_inTurns (title : String) (places : List Location) :
    (showLocations setup title places).InTurns false := by
  unfold showLocations
  split
  · exact .pure _
  · exact .ask_bind rfl fun _ => .ask_bind rfl fun _ => (Job.InTurns.ofOutcome _).bind fun _ =>
      .notify ..

/-- A job that never gets stuck on its own: with nobody else about, it waits only for answers to
what it asked. -/
def Job.GoesOn {α : Type} (job : Job α) : Prop :=
  ∀ (host : Host) (thread : Nat) (world there : World) (left : Script (Outcome α)),
    world.held = [] → job.run.Reaches host thread Script.Surroundings world left there →
      left.Proceeds host thread there

theorem Job.InTurns.goesOn {α : Type} {job : Job α} (turns : job.InTurns false) : job.GoesOn :=
  fun _ _ _ _ _ alone reaches => Script.InTurns.proceeds turns alone reaches

namespace Context

variable {context : Context} {α : Type} {method : String} {params : Json} {read : Json → Shaped α}
  {answer : α}

/-- The server of a context was asked once, and what it answered is read as a value. -/
inductive Heard (context : Context) (method : String) (read : Json → Shaped α) (answer : α)
    (world last : World) : Prop
  | mk {session : Session} {ticket : Nat} {params : Params}
      (attached : context.session = some session)
      (answered : Job.Answered last ticket method read (.ok answer))
      (asked : World.Becomes world.workspace [.call session.peer ticket method params] world last)

theorem Heard.after {start : World} (drift : world.Undisturbed start)
    (heard : Heard context method read answer start last) :
    Heard context method read answer world last := by
  obtain ⟨attached, answered, asked⟩ := heard
  rw [drift.workspace] at asked
  exact ⟨attached, answered, drift.becomes_of asked⟩

theorem request_heard (runs : Job.Runs host thread (context.request method params read) world
    (.ok answer) last) : Heard context method read answer world last := by
  unfold request attached at runs
  split at runs
  · rename_i session attached
    rcases Job.Runs.calls runs with ⟨ticket, answered, asked⟩ | ⟨failed, _⟩
    · exact ⟨attached, answered, asked⟩
    · cases failed
  · cases (Job.Runs.of_throw runs).1

/-- Of an answer only what is made of it is returned. -/
theorem request_heard_map {β : Type} {make : α → β} {value : β}
    (runs : Job.Runs host thread (context.request method params read >>= fun answer =>
      pure (make answer)) world (.ok value) last) :
    ∃ answer, Heard context method read answer world last ∧ value = make answer := by
  obtain ⟨answer, here, requested, rest⟩ := runs.of_bind_ok
  obtain ⟨same, after⟩ := rest.of_pure
  obtain ⟨attached, ⟨given, found, read⟩, asked⟩ := request_heard requested
  exact ⟨answer, ⟨attached, ⟨given, Script.Runs.answers rest found, read⟩, asked.undisturbed after⟩,
    Except.ok.inj same⟩

theorem references_heard {cursor : CursorPlace} {places : List Location}
    (runs : Job.Runs host thread (context.references cursor) world (.ok places) last) :
    ∃ answer, Heard context "textDocument/references"
      (Json.readOption (Json.readList Location.read)) answer world last ∧
        places = answer.getD [] := by
  obtain ⟨members, start, naming, rest⟩ := runs.of_bind_ok
  have drift : world.Undisturbed start := by
    obtain ⟨uri, here, named, looking⟩ := naming.of_bind_ok
    obtain ⟨first, before, ending⟩ := looking.of_workspace
    exact (named.of_ofOutcome.2.trans before).trans ending.of_pure.2
  obtain ⟨answer, heard, same⟩ := request_heard_map rest
  exact ⟨answer, heard.after drift, same⟩

theorem workspaceSymbols_heard {query : String} {symbols : List ListedSymbol}
    (runs : Job.Runs host thread (context.workspaceSymbols query) world (.ok symbols) last) :
    ∃ answer, Heard context "workspace/symbol"
      (Json.readOption (Json.readList ListedSymbol.read)) answer world last ∧
        symbols = answer.getD [] :=
  request_heard_map runs

theorem documentSymbols_heard {file : String} {answer : Option SymbolAnswer}
    (runs : Job.Runs host thread (context.documentSymbols file) world (.ok answer) last) :
    (∃ uri, Uri.ofFileName file = .ok uri) ∧ Heard context "textDocument/documentSymbol"
      (Json.readOption SymbolAnswer.read) answer world last := by
  obtain ⟨uri, start, named, rest⟩ := runs.of_bind_ok
  obtain ⟨found, drift⟩ := named.of_ofOutcome
  exact ⟨⟨uri, found.symm⟩, (request_heard rest).after drift⟩

theorem request_inTurns : (context.request method params read).InTurns false :=
  context.attached_inTurns.bind fun _ => .call ..

theorem references_inTurns (cursor : CursorPlace) : (context.references cursor).InTurns false := by
  have naming : (positionMembers cursor.file cursor.position).InTurns false :=
    (Job.InTurns.ofOutcome _).bind fun _ => .ask_bind rfl fun _ => .pure _
  exact naming.bind fun _ => request_inTurns.bind fun _ => .pure _

theorem workspaceSymbols_inTurns (query : String) :
    (context.workspaceSymbols query).InTurns false :=
  request_inTurns.bind fun _ => .pure _

theorem documentSymbols_inTurns (file : String) : (context.documentSymbols file).InTurns false :=
  (Job.InTurns.ofOutcome _).bind fun _ => request_inTurns

end Context

/-- The places that an answer with a document's symbols comes to. -/
inductive SymbolPlaces (file : String) : Option SymbolAnswer → List Location → Prop
  | none : SymbolPlaces file none []
  | listed (symbols : List ListedSymbol) :
      SymbolPlaces file (some (.listed symbols)) (symbols.map (·.location))
  | nested {forest : List NestedSymbol} {entries : List (List Nat × NestedSymbol)} {uri : Uri}
      {name : String} (document : Uri.ofFileName file = .ok uri) (named : uri.fileName = .ok name)
      (inOrder : NestedSymbol.InPreOrder forest entries) :
      SymbolPlaces file (some (.nested forest))
        (entries.map fun entry => entry.2.namePlace uri)

namespace Editor

/-- What comes of asking for places and listing them: a failure before the server is asked or in
asking it, or an answer and what comes of listing the places in it. -/
inductive Sought {α β : Type} (host : Host) (thread : Nat) (setup : Setup) (cursor : CursorPlace)
    (title method : String) (request : Context → Job β) (read : Json → Shaped α)
    (comes : α → List Location → Prop) (world last : World) : Outcome Unit → Prop
  | unprepared {failure : Failure}
      (failed : Job.Runs host thread (cursorContext setup cursor) world (.error failure) last) :
      Sought host thread setup cursor title method request read comes world last (.error failure)
  | unanswered {context : Context} {start : World} {failure : Failure}
      (prepared : Job.Runs host thread (cursorContext setup cursor) world (.ok context) start)
      (failed : Job.Runs host thread (request context) start (.error failure) last) :
      Sought host thread setup cursor title method request read comes world last (.error failure)
  | answered {context : Context} {start middle : World} {answer : α} {places : List Location}
      {outcome : Outcome Unit}
      (prepared : Job.Runs host thread (cursorContext setup cursor) world (.ok context) start)
      (heard : Context.Heard context method read answer start middle)
      (made : comes answer places) (listing : Listing setup title places middle last outcome) :
      Sought host thread setup cursor title method request read comes world last outcome

variable {cursor : CursorPlace} {search : SymbolSearch} {outcome : Outcome Unit}

theorem sought_of_runs {α β : Type} {method : String} {request : Context → Job β}
    {read : Json → Shaped α} {comes : α → List Location → Prop} {onward : β → Job Unit}
    (goes : ∀ {context : Context} {response : β} {start middle : World},
      Job.Runs host thread (request context) start (.ok response) middle →
        ∃ answer places, Context.Heard context method read answer start middle ∧
          comes answer places ∧ ∀ {outcome : Outcome Unit} {last : World},
            Job.Runs host thread (onward response) middle outcome last →
              Listing setup title places middle last outcome)
    (runs : Job.Runs host thread (cursorContext setup cursor >>= fun context =>
      request context >>= onward) world outcome last) :
    Sought host thread setup cursor title method request read comes world last outcome := by
  rcases runs.of_bind with ⟨failure, rfl, failed⟩ | ⟨context, start, prepared, rest⟩
  · exact .unprepared failed
  rcases rest.of_bind with ⟨failure, rfl, failed⟩ | ⟨response, middle, requested, listed⟩
  · exact .unanswered prepared failed
  obtain ⟨answer, places, heard, made, listing⟩ := goes requested
  exact .answered prepared heard made (listing listed)

/-- Lists the symbols that an answer holds. -/
def listSymbols (setup : Setup) (cursor : CursorPlace) : Option SymbolAnswer → Job Unit
  | none => return
  | some answer => do
    showLocations setup "Document symbols" (← Job.ofOutcome (symbolLocations cursor.file answer))

theorem listDocumentSymbols_eq (setup : Setup) (cursor : CursorPlace) :
    listDocumentSymbols setup cursor = cursorContext setup cursor >>= fun context =>
      context.documentSymbols cursor.file >>= listSymbols setup cursor := by
  unfold listDocumentSymbols
  refine congrArg _ (funext fun context => congrArg _ (funext fun answer => ?_))
  cases answer <;> rfl

/-- The places of a document's symbols are listed in the order of the forest. -/
theorem listSymbols_listing {answer : Option SymbolAnswer}
    (document : ∃ uri, Uri.ofFileName cursor.file = .ok uri) :
    ∃ places, SymbolPlaces cursor.file answer places ∧ ∀ {outcome : Outcome Unit} {last : World},
      Job.Runs host thread (listSymbols setup cursor answer) world outcome last →
        Listing setup "Document symbols" places world last outcome := by
  obtain ⟨uri, document⟩ := document
  cases answer with
  | none =>
    refine ⟨[], .none, fun runs => ?_⟩
    obtain ⟨rfl, drift⟩ := Job.Runs.of_pure runs
    exact .nothing rfl drift.becomes
  | some answer =>
    cases answer with
    | listed symbols => exact ⟨_, .listed symbols, showLocations_listing⟩
    | nested forest =>
      obtain ⟨name, named⟩ := Uri.exists_fileName_of_ofFileName document
      obtain ⟨entries, inOrder, places⟩ := NestedSymbol.exists_inPreOrder forest
      refine ⟨_, .nested document named inOrder, fun runs => ?_⟩
      rw [listSymbols, symbolLocations, document] at runs
      rw [← places]
      exact showLocations_listing runs

theorem listReferences_sought
    (runs : Job.Runs host thread (listReferences setup cursor) world outcome last) :
    Sought host thread setup cursor "References" "textDocument/references" (·.references cursor)
      (Json.readOption (Json.readList Location.read)) (fun answer places => places = answer.getD [])
      world last outcome := by
  refine sought_of_runs (fun requested => ?_) runs
  obtain ⟨answer, heard, made⟩ := Context.references_heard requested
  exact ⟨answer, _, heard, made, showLocations_listing⟩

theorem listWorkspaceSymbols_sought
    (runs : Job.Runs host thread (listWorkspaceSymbols setup search) world outcome last) :
    Sought host thread setup search.cursor "Workspace symbols" "workspace/symbol"
      (·.workspaceSymbols search.query) (Json.readOption (Json.readList ListedSymbol.read))
      (fun answer places => places = (answer.getD []).map (·.location)) world last outcome := by
  refine sought_of_runs (fun requested => ?_) runs
  obtain ⟨answer, heard, made⟩ := Context.workspaceSymbols_heard requested
  exact ⟨answer, _, heard, congrArg (List.map ListedSymbol.location) made, showLocations_listing⟩

theorem listDocumentSymbols_sought
    (runs : Job.Runs host thread (listDocumentSymbols setup cursor) world outcome last) :
    Sought host thread setup cursor "Document symbols" "textDocument/documentSymbol"
      (·.documentSymbols cursor.file) (Json.readOption SymbolAnswer.read)
      (SymbolPlaces cursor.file) world last outcome := by
  rw [listDocumentSymbols_eq] at runs
  refine sought_of_runs (fun requested => ?_) runs
  obtain ⟨document, heard⟩ := Context.documentSymbols_heard requested
  obtain ⟨places, made, listing⟩ := listSymbols_listing document
  exact ⟨_, places, heard, made, listing⟩

theorem listSymbols_inTurns (setup : Setup) (cursor : CursorPlace) (answer : Option SymbolAnswer) :
    (listSymbols setup cursor answer).InTurns false := by
  cases answer with
  | none => exact .pure _
  | some _ => exact (Job.InTurns.ofOutcome _).bind fun _ => showLocations_inTurns ..

/-- References and symbols are listed as the server answered. With the request once sent and its
answer read, the list shows one entry for each place of the answer, in its order, and for a forest
of symbols one for each symbol at its name, each before those inside it; the entry's file, place and
text are those that the place has on its own by the lines that the file has then. Nothing else is
sent, nothing is shown if there are no places, and a list fails only when the editor is gone or the
URI of a place stands for no file. Once the buffer text is sent nothing gets stuck, but for an answer
that does not come. -/
theorem places_listed_in_order (host : Host) (thread : Nat) (setup : Setup) (cursor : CursorPlace)
    (search : SymbolSearch) :
    (∀ world outcome last, Job.Runs host thread (listReferences setup cursor) world outcome last →
      Sought host thread setup cursor "References" "textDocument/references" (·.references cursor)
        (Json.readOption (Json.readList Location.read))
        (fun answer places => places = answer.getD []) world last outcome) ∧
    (∀ world outcome last,
      Job.Runs host thread (listWorkspaceSymbols setup search) world outcome last →
        Sought host thread setup search.cursor "Workspace symbols" "workspace/symbol"
          (·.workspaceSymbols search.query) (Json.readOption (Json.readList ListedSymbol.read))
          (fun answer places => places = (answer.getD []).map (·.location)) world last outcome) ∧
    (∀ world outcome last,
      Job.Runs host thread (listDocumentSymbols setup cursor) world outcome last →
        Sought host thread setup cursor "Document symbols" "textDocument/documentSymbol"
          (·.documentSymbols cursor.file) (Json.readOption SymbolAnswer.read)
          (SymbolPlaces cursor.file) world last outcome) ∧
    ∀ context : Context,
      (context.references cursor >>= showLocations setup "References").GoesOn ∧
      (context.workspaceSymbols search.query >>= fun symbols =>
        showLocations setup "Workspace symbols" (symbols.map (·.location))).GoesOn ∧
      (context.documentSymbols cursor.file >>= listSymbols setup cursor).GoesOn := by
  refine ⟨fun _ _ _ => listReferences_sought, fun _ _ _ => listWorkspaceSymbols_sought,
    fun _ _ _ => listDocumentSymbols_sought, fun context => ⟨?_, ?_, ?_⟩⟩
  · exact ((context.references_inTurns cursor).bind fun _ => showLocations_inTurns ..).goesOn
  · exact ((context.workspaceSymbols_inTurns _).bind fun _ => showLocations_inTurns ..).goesOn
  · exact ((context.documentSymbols_inTurns _).bind fun _ => listSymbols_inTurns ..).goesOn

/-- A function in a line of a file, as a server describes it. -/
def describedSymbol (name : String) (line : Nat) (inside : List Json) : Json :=
  let span := Span.toJson ⟨⟨line, 5⟩, ⟨line, 6⟩⟩
  .obj [("name", .str name), ("kind", .int 12), ("range", span), ("selectionRange", span),
    ("children", .arr inside)]

/-- A server is about to answer with two symbols of a document and one that is inside the first. -/
def describingWorld : World where
  workspace :=
    { documents := .ofList [("/a.go", .ofText ⟨"go", "/"⟩ "func f\n  é: x\nfunc g".toList)] }
  sessions := .ofList [(⟨"go", "/"⟩, { key := ⟨"go", "/"⟩, server := ⟨"go", 1⟩ })]
  answers := .ofList [(0, .ok (.arr
    [describedSymbol "f" 0 [describedSymbol "x" 1 []], describedSymbol "g" 2 []]))]

/-- The cursor is in that document. -/
def describedCursor : CursorPlace := { file := "/a.go", language := "go", position := ⟨1, 1⟩ }

/-- All three are listed, the inner one between the others. -/
theorem described_symbols_listed : ∃ last,
    Job.Runs {} 0 (listDocumentSymbols {} describedCursor) describingWorld (.ok ()) last ∧
    Sought {} 0 {} describedCursor "Document symbols" "textDocument/documentSymbol"
      (·.documentSymbols "/a.go") (Json.readOption SymbolAnswer.read) (SymbolPlaces "/a.go")
      describingWorld last (.ok ()) ∧
    last.traffic.getLast? = some (.notification .editor "vim#set_loclist" (Params.ofJson (.arr
      [.arr ([⟨"/a.go", ⟨1, 6⟩, "func f".toList⟩, ⟨"/a.go", ⟨2, 7⟩, "é: x".toList⟩,
          ⟨"/a.go", ⟨3, 6⟩, "func g".toList⟩].map LocationItem.toJson),
        .str "Document symbols", .bool true]))) := by
  have ran : ((listDocumentSymbols {} describedCursor).run.run? {} 0 describingWorld).map
      (fun result => (result.1.toOption, result.2.traffic.getLast?)) = some (some (),
        some (.notification .editor "vim#set_loclist" (Params.ofJson (.arr
          [.arr ([⟨"/a.go", ⟨1, 6⟩, "func f".toList⟩, ⟨"/a.go", ⟨2, 7⟩, "é: x".toList⟩,
              ⟨"/a.go", ⟨3, 6⟩, "func g".toList⟩].map LocationItem.toJson),
            .str "Document symbols", .bool true])))) := rfl
  obtain ⟨⟨outcome, last⟩, listed, facts⟩ := Option.map_eq_some_iff.mp ran
  obtain ⟨done, told⟩ := Prod.mk.inj facts
  cases outcome with
  | error failure => cases done
  | ok value =>
    have runs := Script.runs_of_run? listed
    exact ⟨last, runs, (places_listed_in_order {} 0 {} describedCursor ⟨"", describedCursor⟩).2.2.1
      _ _ _ runs, told⟩

end Editor

end LanguageBridge
