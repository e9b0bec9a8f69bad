import LanguageBridge.Expansion
import LanguageBridge.Json.Parser
import LanguageBridge.Preview

/-!
The settings of the program. Every setting has a default, so that any part of them may be left out.
-/
namespace LanguageBridge

/-- How much is logged, least first. -/
inductive LogLevel
  | off
  | error
  | warn
  | info
  | debug
  | trace
  deriving DecidableEq, Repr

/-- Where hover answers are shown. -/
inductive HoverStrategy
  | preview
  | floatingWindow
  deriving DecidableEq, Repr

/-- How a server is started and what it is told. -/
structure ServerSettings where
  command : List String := []
  initializationOptions : Option Json := none
  deriving Repr

/-- The settings of the program. -/
structure Settings where
  logOutput : String := "/tmp/vlc.log"
  logLevel : LogLevel := .error
  hoverStrategy : HoverStrategy := .floatingWindow
  markupKinds : List MarkupKind := [.markdown, .plaintext]
  showDiagnostics : Bool := true
  showSigns : Bool := true
  openLocations : Bool := true
  servers : Table String ServerSettings := ∅
  deriving Repr

namespace LogLevel

def name : LogLevel → String
  | .off => "OFF"
  | .error => "ERROR"
  | .warn => "WARN"
  | .info => "INFO"
  | .debug => "DEBUG"
  | .trace => "TRACE"

def all : List LogLevel := [.off, .error, .warn, .info, .debug, .trace]

/-- Reads a level by its name in letters of either case. -/
def read (json : Json) : Shaped LogLevel :=
  let raised : Json :=
    match json with
    | .str name => .str (String.ofList (name.toList.map Char.toUpper))
    | .obj [(name, .null)] => .str (String.ofList (name.toList.map Char.toUpper))
    | other => other
  Json.readVariant (all.map fun level => (level.name, level)) raised

end LogLevel

namespace HoverStrategy

def name : HoverStrategy → String
  | .preview => "preview"
  | .floatingWindow => "floating_window"

def read : Json → Shaped HoverStrategy :=
  Json.readVariant [("preview", .preview), ("floating_window", .floatingWindow)]

end HoverStrategy

namespace Settings

/-- How deep arrays and objects may be nested in settings, those of the settings themselves
included. -/
def depthLimit : Nat := 127

/-- Options that a server gets as they are; they stand inside three objects. -/
def readOptions (json : Json) : Shaped Json :=
  if json.depth + 3 ≤ depthLimit then Json.readAny json
  else .error (.refused "recursion limit exceeded")

def readServer : Json → Shaped ServerSettings :=
  (ServerSettings.mk <$> .defaulted "command" [] (Json.readList Json.readString)
    <*> .optionalTail "initialization_options" readOptions : Record ServerSettings).read
    "struct ServerConfig"

/-- The log settings of `settings`, replaced by those that the value has. -/
def readLog (settings : Settings) : Json → Shaped Settings :=
  ((fun output level => { settings with logOutput := output, logLevel := level })
    <$> .defaulted "output" settings.logOutput Json.readString
    <*> .defaulted "level" settings.logLevel LogLevel.read : Record Settings).read "struct Log"

/-- The hover settings of `settings`, replaced by those that the value has. -/
def readHover (settings : Settings) : Json → Shaped Settings :=
  ((fun strategy kinds => { settings with hoverStrategy := strategy, markupKinds := kinds })
    <$> .defaulted "strategy" settings.hoverStrategy HoverStrategy.read
    <*> .defaulted "preferred_markup_kind" settings.markupKinds (Json.readList MarkupKind.read) :
    Record Settings).read "struct Hover"

/-- The diagnostics settings of `settings`, replaced by those that the value has. -/
def readDiagnostics (settings : Settings) : Json → Shaped Settings :=
  ((fun enabled signs => { settings with showDiagnostics := enabled, showSigns := signs })
    <$> .defaulted "enabled" settings.showDiagnostics Json.readBool
    <*> .defaulted "show_signs" settings.showSigns Json.readBool : Record Settings).read
    "struct Diagnostics"

/-- The location settings of `settings`, replaced by those that the value has. -/
def readLocations (settings : Settings) : Json → Shaped Settings :=
  ((fun autoOpen => { settings with openLocations := autoOpen })
    <$> .defaulted "auto_open" settings.openLocations Json.readBool : Record Settings).read
    "struct Locations"

def readServers (json : Json) : Shaped (Table String ServerSettings) :=
  (Json.readTable readServer json).map Table.ofList

/-- Puts together the parts of the settings, each read for itself. -/
def ofParts (log hover diagnostics locations : Settings) (servers : Table String ServerSettings) :
    Settings where
  logOutput := log.logOutput
  logLevel := log.logLevel
  hoverStrategy := hover.hoverStrategy
  markupKinds := hover.markupKinds
  showDiagnostics := diagnostics.showDiagnostics
  showSigns := diagnostics.showSigns
  openLocations := locations.openLocations
  servers := servers

def read : Json → Shaped Settings :=
  (ofParts <$> .defaulted "log" {} (readLog {}) <*> .defaulted "hover" {} (readHover {})
    <*> .defaulted "diagnostics" {} (readDiagnostics {})
    <*> .defaulted "locations" {} (readLocations {})
    <*> .defaulted "servers" ∅ readServers : Record Settings).read "struct Config"

/-- The parts of a settings text that are read; what else stands there need not have a value. -/
def interest : Json.Interest :=
  .fields
    [("log", .fields [("output", .whole), ("level", .whole)]),
      ("hover", .fields [("strategy", .whole), ("preferred_markup_kind", .whole)]),
      ("diagnostics", .fields [("enabled", .whole), ("show_signs", .whole)]),
      ("locations", .fields [("auto_open", .whole)]),
      ("servers",
        .values (.fields [("command", .whole), ("initialization_options", .whole)]))]

/-- The settings in a JSON text. -/
def ofText (text : String) : Outcome Settings :=
  match Json.parseIn? interest text with
  | none => .error .notJson
  | some json => Outcome.ofShaped (read json)

/-- The settings in a file; the defaults when no file is named or it cannot be read. -/
def ofFile (environment : Environment) (tree : FileTree) (path : String) : Outcome Settings := do
  if path = "" then return {}
  match tree.readText (← environment.expand path) with
  | .ok text => ofText text
  | .error _ => return {}

/-- The file that the log goes to. -/
def logFile (environment : Environment) (settings : Settings) : Outcome String :=
  environment.expand settings.logOutput

end Settings

end LanguageBridge
