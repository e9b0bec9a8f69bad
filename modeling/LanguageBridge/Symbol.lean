import LanguageBridge.Diagnostic

/-!
Places in answers of servers: definitions, and symbols either in one list or as a forest. A forest
is listed with every symbol before those inside it, each at its name.
-/
namespace LanguageBridge

/-- A definition together with the span that led to it. -/
structure LocationLink where
  target : Uri
  span : Span
  selection : Span
  deriving DecidableEq, Repr

/-- The forms in which a server answers where something is defined. -/
inductive Definition
  | one (location : Location)
  | many (locations : List Location)
  | links (found : List LocationLink)
  deriving DecidableEq, Repr

/-- A symbol in a list. -/
structure ListedSymbol where
  name : String
  kind : Nat
  location : Location
  deriving DecidableEq, Repr

/-- A symbol and those inside it; `selection` is the span of its name. -/
inductive NestedSymbol
  | mk (name : String) (kind : Nat) (selection : Span) (children : List NestedSymbol)
  deriving Repr

/-- The forms in which a server lists the symbols of a document. -/
inductive SymbolAnswer
  | listed (symbols : List ListedSymbol)
  | nested (symbols : List NestedSymbol)
  deriving Repr

namespace Definition

def readLink : Json → Shaped LocationLink :=
  ((fun _ target span selection => ⟨target, span, selection⟩)
    <$> .optional "originSelectionRange" Span.read <*> .required "targetUri" Uri.read
    <*> .required "targetRange" Span.read <*> .required "targetSelectionRange" Span.read :
    Record LocationLink).read "struct LocationLink"

def read : Json → Shaped Definition :=
  Json.readEither "GotoDefinitionResponse"
    [fun json => (Location.read json).map .one,
      fun json => (Json.readList Location.read json).map .many,
      fun json => (Json.readList readLink json).map .links]

/-- The places, whatever form they came in. -/
def locations : Definition → List Location
  | .one location => [location]
  | .many locations => locations
  | .links found => found.map fun link => ⟨link.target, link.selection⟩

end Definition

/-- The number of a kind of symbol that has no number of its own. -/
def unknownSymbolKind : Nat := 255

/-- The number of a kind of symbol. -/
def readSymbolKind (json : Json) : Shaped Nat := do
  let code ← Json.readCode 1 unknownSymbolKind json
  if code ≤ 26 ∨ code = unknownSymbolKind then return code
  throw (.outOfRange json.described "a kind of symbol")

/-- The numbers of a symbol's tags. -/
def readSymbolTags : Json → Shaped (List Nat) := Json.readList (Json.readCode 1 1)

def ListedSymbol.read : Json → Shaped ListedSymbol :=
  ((fun name kind _ _ location _ => ⟨name, kind, location⟩)
    <$> .required "name" Json.readString <*> .required "kind" readSymbolKind
    <*> .optional "tags" readSymbolTags <*> .optional "deprecated" Json.readBool
    <*> .required "location" Location.read <*> .optional "containerName" Json.readString :
    Record ListedSymbol).read "struct SymbolInformation"

namespace NestedSymbol

/-- Reads a symbol whose children are nested no deeper than the bound. -/
def readWithin : Nat → Json → Shaped NestedSymbol
  | 0, json => .error (.unexpected json.described "struct DocumentSymbol")
  | bound + 1, json =>
    ((fun name _ kind _ _ _ selection children => mk name kind selection (children.getD []))
      <$> .required "name" Json.readString <*> .optional "detail" Json.readString
      <*> .required "kind" readSymbolKind <*> .optional "tags" readSymbolTags
      <*> .optional "deprecated" Json.readBool <*> .required "range" Span.read
      <*> .required "selectionRange" Span.read
      <*> .optional "children" (Json.readList (readWithin bound)) : Record NestedSymbol).read
      "struct DocumentSymbol" json

def read (json : Json) : Shaped NestedSymbol := readWithin json.depth json

mutual
/-- The symbol's place and then those of the symbols inside it. -/
def locations (uri : Uri) : NestedSymbol → List Location
  | mk _ _ selection children =>
    ⟨uri, ⟨selection.start, selection.start⟩⟩ :: locationsOf uri children

/-- The places of a forest. -/
def locationsOf (uri : Uri) : List NestedSymbol → List Location
  | [] => []
  | symbol :: rest => locations uri symbol ++ locationsOf uri rest
end

end NestedSymbol

def SymbolAnswer.read : Json → Shaped SymbolAnswer :=
  Json.readEither "DocumentSymbolResponse"
    [fun json => (Json.readList ListedSymbol.read json).map .listed,
      fun json => (Json.readList NestedSymbol.read json).map .nested]

end LanguageBridge
