import LanguageBridge.Json.Basic
import LanguageBridge.Table
import LanguageBridge.Text.Blank

/-!
What users plug in while the program runs: commands that start servers, and editor functions that
take messages of servers. Registering a name again replaces what it had.
-/
namespace LanguageBridge

/-- Something registered under a name. -/
inductive Extension
  | serverCommand (words : List String)
  | handler (function : String)
  deriving DecidableEq, Repr

/-- Why a registration is refused. -/
inductive RegistrationError
  | notStrings (name : String)
  | noProgram (name : String)
  | noFunction (name : String)
  deriving DecidableEq, Repr

def RegistrationError.message : RegistrationError → String
  | .notStrings name => s!"{name}: command must be a list of strings"
  | .noProgram name => s!"{name}: command is empty"
  | .noFunction name => s!"{name}: handler must be a function name"

/-- What became of one registration: nothing to say, or why it was refused. -/
abbrev Registration := Option RegistrationError

def Registration.toJson : Registration → Json
  | none => .obj [("result", .null)]
  | some error => .obj [("result", .null), ("error", .obj [("message", .str error.message)])]

/-- What is registered, by name. -/
structure Extensions where
  entries : Table String Extension := ∅
  deriving Repr

namespace Extensions

instance : Inhabited Extensions := ⟨{}⟩

/-- The strings of a list of strings. -/
def strings? : List Json → Option (List String)
  | [] => some []
  | .str value :: rest => (strings? rest).map (value :: ·)
  | _ :: _ => none

/-- The words of a command given as a string or as a list of strings. -/
def wordsOf? : Json → Option (List String)
  | .str value => some ((Text.words value.toList).map String.ofList)
  | .arr items => strings? items
  | _ => none

/-- Reads a command; its first word is the program. -/
def readCommand (name : String) (json : Json) : Except RegistrationError Extension :=
  match wordsOf? json with
  | none => .error (.notStrings name)
  | some words =>
    if words.head?.getD "" = "" then .error (.noProgram name) else .ok (.serverCommand words)

/-- Reads the name of a function of the editor. -/
def readHandler (name : String) : Json → Except RegistrationError Extension
  | .str value =>
    let function := Text.trim value.toList
    if function.isEmpty then .error (.noFunction name)
    else .ok (.handler (String.ofList function))
  | _ => .error (.noFunction name)

/-- Registers every entry of a mapping that can be read, and says what became of each. -/
def register (read : String → Json → Except RegistrationError Extension)
    (extensions : Extensions) : List (String × Json) → Extensions × List Registration
  | [] => (extensions, [])
  | (name, value) :: rest =>
    match read name value with
    | .ok extension =>
      let (final, results) := register read ⟨extensions.entries.insert name extension⟩ rest
      (final, none :: results)
    | .error error =>
      let (final, results) := register read extensions rest
      (final, some error :: results)

def registerServerCommands : Extensions → List (String × Json) → Extensions × List Registration :=
  register readCommand

def registerHandlers : Extensions → List (String × Json) → Extensions × List Registration :=
  register readHandler

/-- The command registered for a language. -/
def serverCommand? (extensions : Extensions) (language : String) : Option (List String) :=
  match extensions.entries.get? language with
  | some (.serverCommand words) => some words
  | _ => none

/-- The handler registered for a method. -/
def handler? (extensions : Extensions) (method : String) : Option String :=
  match extensions.entries.get? method with
  | some (.handler function) => some function
  | _ => none

end Extensions

end LanguageBridge
