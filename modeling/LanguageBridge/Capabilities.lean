import LanguageBridge.Json.Shape

/-!
What servers say they can do. The answer is checked against the shapes that the protocol gives to
its members, and what the protocol does not name is left out.
-/
namespace LanguageBridge

/-- Whether a member of a record has to be there. One that may be left out is not written when it is
absent or `null`; a nullable one is then written as `null`. -/
inductive Presence
  | needed
  | leftOut
  | nullable
  deriving DecidableEq, Repr

/-- A shape of JSON values. An ordered record may also be written as an array of all its members. -/
inductive Shape
  | any
  | boolean
  | string
  | code (low high : Nat)
  | named (known : List String)
  | list (item : Shape)
  | record (ordered : Bool) (members : List (String × Presence × Shape))
  | either (choices : List Shape)

namespace Shape

mutual
/-- The value in its shape, members that the shape does not name left out; `none` when it does not
fit. -/
def fit? : Shape → Json → Option Json
  | .any, json => some json.merged
  | .boolean, .bool value => some (.bool value)
  | .string, .str value => some (.str value)
  | .code low high, json => (Json.readCode low high json).toOption.map .nat
  | .named known, json =>
    (Json.readVariant (known.map fun name => (name, name)) json).toOption.map .str
  | .list item, .arr items => (items.mapM (fit? item)).map .arr
  | .record _ members, .obj given => (fitMembers? members given).map .obj
  | .record true members, .arr given => (fitOrdered? members given).map .obj
  | .either choices, json => fitFirst? choices json
  | _, _ => none
termination_by structural shape => shape

/-- The members of a record, each in its shape. -/
def fitMembers? : List (String × Presence × Shape) → List (String × Json) →
    Option (List (String × Json))
  | [], _ => some []
  | (name, presence, shape) :: rest, given => do
    let others ← fitMembers? rest given
    match Json.member? name given, presence with
    | none, .needed => none
    | none, .leftOut => return others
    | none, .nullable => return (name, .null) :: others
    | some .null, .leftOut => return others
    | some .null, .nullable => return (name, .null) :: others
    | some json, _ =>
      let json ← fit? shape json
      return (name, json) :: others
termination_by structural members => members

/-- The members of an ordered record, each in its shape. -/
def fitOrdered? : List (String × Presence × Shape) → List Json → Option (List (String × Json))
  | [], [] => some []
  | (name, presence, shape) :: rest, json :: given => do
    let others ← fitOrdered? rest given
    match json, presence with
    | .null, .leftOut => return others
    | .null, .nullable => return (name, .null) :: others
    | json, _ =>
      let json ← fit? shape json
      return (name, json) :: others
  | _, _ => none
termination_by structural members => members

/-- The first of some shapes that fits. -/
def fitFirst? : List Shape → Json → Option Json
  | [], _ => none
  | shape :: rest, json =>
    match fit? shape json with
    | some json => some json
    | none => fitFirst? rest json
termination_by structural choices => choices
end

/-- Members that may all be left out. -/
def leftOut (members : List (String × Shape)) : List (String × Presence × Shape) :=
  members.map fun member => (member.1, .leftOut, member.2)

/-- An ordered record of members that may be left out. -/
def options (members : List (String × Shape)) : Shape := record true (leftOut members)

/-- A record of members that may be left out, and whether progress is reported. Such a record is
always an object. -/
def progressOptions (members : List (String × Shape)) : Shape :=
  record false (leftOut (members ++ [("workDoneProgress", boolean)]))

def strings : Shape := list string

/-- Which documents a registration is about. -/
def selector : String × Presence × Shape :=
  ("documentSelector", .nullable,
    list (options [("language", string), ("scheme", string), ("pattern", string)]))

/-- The name by which a registration is taken back. -/
def registrationId : String × Presence × Shape := ("id", .leftOut, string)

/-- A registration that can be named again. -/
def registration : Shape := record true [selector, registrationId]

/-- A truth value, or options of its own. -/
def switch (choices : List Shape) : Shape := either (boolean :: choices)

/-- A truth value, or whether progress is reported. -/
def progressSwitch : Shape := switch [progressOptions []]

/-- A truth value, or a registration, of which an object shows nothing. -/
def bareSwitch : Shape := switch [options [], registration]

/-- How documents are kept in step. -/
def documentSync : Shape :=
  either
    [code 0 2,
      options [("openClose", boolean), ("change", code 0 2), ("willSave", boolean),
        ("willSaveWaitUntil", boolean),
        ("save", switch [options [("includeText", boolean)]])]]

/-- What semantic tokens a server gives. -/
def semanticTokens : Shape :=
  let members :=
    [("workDoneProgress", .leftOut, boolean),
      ("legend", .needed,
        record true [("tokenTypes", .needed, strings), ("tokenModifiers", .needed, strings)]),
      ("range", .leftOut, boolean),
      ("full", .leftOut, switch [record false (leftOut [("delta", boolean)])])]
  record false members

/-- Which operations on files a server wants to hear of. -/
def fileOperations : Shape :=
  let filter :=
    record true [("scheme", .nullable, string),
      ("pattern", .needed,
        record true [("glob", .needed, string),
          ("matches", .leftOut, named ["file", "folder"]),
          ("options", .leftOut, options [("ignoreCase", boolean)])])]
  let registered := record true [("filters", .needed, list filter)]
  options
    [("didCreate", registered), ("willCreate", registered), ("didRename", registered),
      ("willRename", registered), ("didDelete", registered), ("willDelete", registered)]

/-- All that a server can do. -/
def serverCapabilities : Shape :=
  options
    [("textDocumentSync", documentSync),
      ("selectionRangeProvider", progressSwitch),
      ("hoverProvider", progressSwitch),
      ("completionProvider",
        progressOptions [("resolveProvider", boolean), ("triggerCharacters", strings)]),
      ("signatureHelpProvider",
        progressOptions [("triggerCharacters", strings), ("retriggerCharacters", strings)]),
      ("definitionProvider", progressSwitch),
      ("typeDefinitionProvider", switch [registration]),
      ("implementationProvider", switch [registration]),
      ("referencesProvider", progressSwitch),
      ("documentHighlightProvider", progressSwitch),
      ("documentSymbolProvider", switch [progressOptions [("label", string)]]),
      ("workspaceSymbolProvider", progressSwitch),
      ("codeActionProvider",
        switch [progressOptions [("codeActionKinds", strings), ("resolveProvider", boolean)]]),
      ("codeLensProvider", options [("resolveProvider", boolean)]),
      ("documentFormattingProvider", progressSwitch),
      ("documentRangeFormattingProvider", progressSwitch),
      ("documentOnTypeFormattingProvider",
        record true [("firstTriggerCharacter", .needed, string),
          ("moreTriggerCharacter", .leftOut, strings)]),
      ("renameProvider", switch [progressOptions [("prepareProvider", boolean)]]),
      ("documentLinkProvider", progressOptions [("resolveProvider", boolean)]),
      ("colorProvider", bareSwitch),
      ("foldingRangeProvider", bareSwitch),
      ("declarationProvider",
        switch
          [record false [("workDoneProgress", .leftOut, boolean), selector, registrationId],
            progressOptions []]),
      ("executeCommandProvider",
        record false [("commands", .needed, strings), ("workDoneProgress", .leftOut, boolean)]),
      ("workspace",
        options
          [("workspaceFolders",
              options [("supported", boolean), ("changeNotifications", switch [string])]),
            ("fileOperations", fileOperations)]),
      ("callHierarchyProvider", progressSwitch),
      ("semanticTokensProvider", semanticTokens),
      ("monikerProvider", progressSwitch),
      ("linkedEditingRangeProvider", progressOptions []),
      ("experimental", any)]

end Shape

/-- Reads what a server can do. -/
def readCapabilities (json : Json) : Shaped Json :=
  match Shape.serverCapabilities.fit? json with
  | some capabilities => .ok capabilities
  | none => .error (.unexpected json.described "struct ServerCapabilities")

/-- Reads the name and version of a server, of which only the shape matters. -/
def readServerInfo : Json → Shaped Unit :=
  ((fun _ _ => ()) <$> .required "name" Json.readString <*> .optional "version" Json.readString :
    Record Unit).read "struct ServerInfo"

/-- Reads the answer to the first request that a server gets. -/
def readIntroduced : Json → Shaped Json :=
  ((fun capabilities _ => capabilities) <$> .required "capabilities" readCapabilities
    <*> .optional "serverInfo" readServerInfo : Record Json).read "struct InitializeResult"

end LanguageBridge
