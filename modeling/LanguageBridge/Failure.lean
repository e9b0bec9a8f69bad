import LanguageBridge.FileTree
import LanguageBridge.Json.Shape

/-!
Everything that can go wrong, as causes. The wording of each is in one place, and the one failure
that callers recover from, a connection that is gone, can be told apart.
-/
namespace LanguageBridge

/-- Why something was not done. -/
inductive Failure
  | unavailable (language reason : String)
  | terminated
  | violation (reason : String)
  | conflict (file first second : String)
  | notOpened (file reason : String)
  | notFilePath (text : String)
  | notJson
  | shape (error : ShapeError)
  | remote (code : Int) (message : String)
  | system (error : SystemError)
  | encoding (error : Utf8Error)
  | unsetVariable (name : String)
  | malformedResult (method : String)
  | noParent (path : String)
  deriving DecidableEq, Repr

namespace Failure

/-- What the code of a remote error stands for. -/
def described (code : Int) : String :=
  if code = -32700 then "Parse error"
  else if code = -32600 then "Invalid request"
  else if code = -32601 then "Method not found"
  else if code = -32602 then "Invalid params"
  else if code = -32603 then "Internal error"
  else "Server error"

/-- The wording of a failure. -/
def message : Failure → String
  | .unavailable language reason => s!"language server for {language} is unavailable: {reason}"
  | .terminated => "language server session terminated"
  | .violation reason => s!"protocol violation: {reason}"
  | .conflict file first second => s!"overlapping edits in {file}: {first} and {second}"
  | .notOpened file reason => s!"could not open {file}: {reason}"
  | .notFilePath text => s!"not a file path: {text}"
  | .notJson => "malformed JSON"
  | .shape error => error.message
  | .remote code message => s!"{described code}: {message}"
  | .system error => error.message
  | .encoding error => error.message
  | .unsetVariable name =>
    s!"error looking key '{name}' up: environment variable not found"
  | .malformedResult method => s!"malformed result of {method}"
  | .noParent path => s!"Failed to get parent dir! path: {Text.quoted path}"

/-- Whether the failure is a connection that is gone, so that trying again may help. -/
def isTermination : Failure → Bool
  | .terminated => true
  | _ => false

end Failure

/-- The outcome of something that can fail. -/
abbrev Outcome (α : Type) := Except Failure α

namespace Outcome

/-- A shape error as a failure. -/
def ofShaped {α : Type} : Shaped α → Outcome α
  | .ok value => .ok value
  | .error error => .error (.shape error)

/-- A refusal of the system as a failure. -/
def ofSystem {α : Type} : Except SystemError α → Outcome α
  | .ok value => .ok value
  | .error error => .error (.system error)

end Outcome

end LanguageBridge
