import LanguageBridge.Double

/-!
JSON values whose objects keep the order in which their members were written. Integers are exact;
any other number is a double.
-/
namespace LanguageBridge

/-- A JSON value. -/
inductive Json
  | null
  | bool (value : Bool)
  | int (value : Int)
  | float (value : Double)
  | str (value : String)
  | arr (items : List Json)
  | obj (members : List (String × Json))
  deriving Inhabited, Repr

namespace Json

/-- The first member of that name. -/
def member? (name : String) : List (String × Json) → Option Json
  | [] => none
  | (key, value) :: rest => if key = name then some value else member? name rest

/-- Gives a member its new value where it stands, or adds it at the end. -/
def setMember (name : String) (value : Json) : List (String × Json) → List (String × Json)
  | [] => [(name, value)]
  | (key, old) :: rest =>
    if key = name then (key, value) :: rest else (key, old) :: setMember name value rest

/-- The member of that name, when the value is an object that has one. -/
def get? (name : String) : Json → Option Json
  | .obj members => member? name members
  | _ => none

mutual
/-- Of members with one name the last gives the value and the first the place. -/
def merged : Json → Json
  | .arr items => .arr (mergedItems items)
  | .obj members => .obj (mergedMembers [] members)
  | other => other

def mergedItems : List Json → List Json
  | [] => []
  | item :: rest => merged item :: mergedItems rest

def mergedMembers (seen : List (String × Json)) :
    List (String × Json) → List (String × Json)
  | [] => seen
  | (key, value) :: rest => mergedMembers (setMember key (merged value) seen) rest
end

mutual
/-- How many arrays and objects stand around the innermost one, itself counted. -/
def depth : Json → Nat
  | .arr items => depthItems items + 1
  | .obj members => depthMembers members + 1
  | _ => 0

def depthItems : List Json → Nat
  | [] => 0
  | item :: rest => max (depth item) (depthItems rest)

def depthMembers : List (String × Json) → Nat
  | [] => 0
  | (_, value) :: rest => max (depth value) (depthMembers rest)
end

/-- A list of strings as an array. -/
def strings (values : List String) : Json := .arr (values.map .str)

/-- A natural number as a value. -/
def nat (value : Nat) : Json := .int value

/-- A text of characters as a string value. -/
def text (value : List Char) : Json := .str (String.ofList value)

end Json

end LanguageBridge
