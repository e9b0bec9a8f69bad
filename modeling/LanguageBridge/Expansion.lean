import LanguageBridge.Failure
import LanguageBridge.Table
import LanguageBridge.Text.Letters

/-!
Expansion of variables and of the home directory in file and program names, the way shells do it.
-/
namespace LanguageBridge

/-- The environment of the program: its variables. -/
structure Environment where
  values : Table String String := ∅
  deriving Repr

namespace Environment

/-- Whether a character may stand in the name of a variable. -/
def isNameChar (c : Char) : Bool := Text.isLetterOrDigit c || c = '_'

/-- The text before the first `:-` and the text after it. -/
def splitDefault? : List Char → Option (List Char × List Char)
  | ':' :: '-' :: rest => some ([], rest)
  | c :: rest => (splitDefault? rest).map fun (before, after) => (c :: before, after)
  | [] => none

/-- The value of what stands between braces: a variable, perhaps with a default after `:-`. -/
def braced (environment : Environment) (body : List Char) : Outcome (List Char) :=
  let (name, default) :=
    match splitDefault? body with
    | some ([], _) => (body, none)
    | some (name, default) => (name, some default)
    | none => (body, none)
  match environment.values.get? (String.ofList name), default with
  | some value, _ => .ok value.toList
  | none, some default => .ok default
  | none, none => .error (.unsetVariable (String.ofList name))

/-- Replaces variables by their values. A doubled dollar is one, and a dollar that begins no
variable stays; each turn passes at least one character. -/
def expandVariables (environment : Environment) : Nat → List Char → Outcome (List Char)
  | 0, input => .ok input
  | fuel + 1, input =>
    match input with
    | [] => .ok []
    | '$' :: '\x7b' :: rest =>
      let body := rest.takeWhile (· ≠ '\x7d')
      match rest.drop body.length with
      | [] => do return '$' :: '\x7b' :: (← expandVariables environment fuel rest)
      | _ :: rest => do
        let value ← environment.braced body
        return value ++ (← expandVariables environment fuel rest)
    | '$' :: '$' :: rest => do return '$' :: (← expandVariables environment fuel rest)
    | '$' :: rest =>
      let name := rest.takeWhile isNameChar
      if name.isEmpty then do return '$' :: (← expandVariables environment fuel rest)
      else
        match environment.values.get? (String.ofList name) with
        | some value => do
          return value.toList ++ (← expandVariables environment fuel (rest.drop name.length))
        | none => .error (.unsetVariable (String.ofList name))
    | c :: rest => do return c :: (← expandVariables environment fuel rest)

/-- Replaces a tilde at the front, alone or before a slash, by the home directory. -/
def expandHome (environment : Environment) (input : List Char) : List Char :=
  match input with
  | '~' :: rest =>
    if rest.isEmpty ∨ rest.head? = some '/' then
      match environment.values.get? "HOME" with
      | some home => home.toList ++ rest
      | none => input
    else input
  | _ => input

/-- Expands variables and then the home directory; a tilde out of a variable stays. -/
def expand (environment : Environment) (input : String) : Outcome String := do
  let characters := input.toList
  let expanded ← environment.expandVariables characters.length characters
  if characters.head? = some '~' ∨ expanded.head? ≠ some '~' then
    return String.ofList (environment.expandHome expanded)
  else return String.ofList expanded

end Environment

end LanguageBridge
