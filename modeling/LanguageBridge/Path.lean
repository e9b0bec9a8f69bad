/-!
File paths: components between slashes, where empty ones and single dots count for nothing except a
dot at the front.
-/
namespace LanguageBridge.Path

/-- The pieces between slashes. -/
def pieces : List Char → List (List Char)
  | [] => [[]]
  | c :: rest =>
    if c = '/' then [] :: pieces rest
    else
      match pieces rest with
      | [] => [[c]]
      | piece :: others => (c :: piece) :: others

/-- Whether a piece is a component: neither empty nor a single dot. -/
def isComponent (piece : List Char) : Bool := piece ≠ [] && piece ≠ ['.']

/-- Whether a path starts at the root. -/
def isAbsolute (path : String) : Bool := path.toList.head? = some '/'

/-- The components of a path, a root and a leading dot apart. -/
def components (path : String) : List String :=
  ((pieces path.toList).filter isComponent).map String.ofList

/-- How many characters stand before the components: the root, or the dot at the front. -/
def frontLength (path : List Char) : Nat :=
  match path with
  | '/' :: _ => 1
  | ['.'] => 1
  | '.' :: '/' :: _ => 1
  | _ => 0

/-- Drops slashes and single dots at the end; the path is given backwards. -/
def dropIdle (fuel : Nat) (backwards : List Char) : List Char :=
  match fuel with
  | 0 => backwards
  | fuel + 1 =>
    let piece := backwards.takeWhile (· ≠ '/')
    let rest := backwards.drop piece.length
    if isComponent piece then backwards
    else
      match rest with
      | [] => []
      | _ :: rest => dropIdle fuel rest

/-- Drops the last component and the slash before it; the path is given backwards. -/
def dropLast (backwards : List Char) : List Char :=
  (backwards.drop (backwards.takeWhile (· ≠ '/')).length).drop 1

/-- The path without its last component. -/
def parent? (path : String) : Option String :=
  let path := path.toList
  let front := path.take (frontLength path)
  let body := dropIdle path.length (path.drop front.length).reverse
  if body.isEmpty then
    if front = ['.'] then some "" else none
  else
    let rest := dropLast body
    some (String.ofList (front ++ (dropIdle path.length rest).reverse))

/-- A path inside a directory. -/
def join (directory name : String) : String :=
  if directory = "" then name
  else if directory.toList.getLast? = some '/' then directory ++ name
  else directory ++ "/" ++ name

/-- The last component, unless it leads upwards. -/
def fileName? (path : String) : Option String :=
  match (components path).getLast? with
  | some ".." => none
  | last => last

/-- What follows the last dot of a file name, when something stands before that dot. -/
def extension? (name : String) : Option String :=
  if name = ".." then none
  else
    let backwards := name.toList.reverse
    let suffix := backwards.takeWhile (· ≠ '.')
    match backwards.drop suffix.length with
    | _ :: _ :: _ => some (String.ofList suffix.reverse)
    | _ => none

/-- The path, its parent, the parent's parent and so on, at most `count` of them. -/
def climb (count : Nat) (path : String) : List String :=
  match count with
  | 0 => []
  | count + 1 =>
    match parent? path with
    | some parent => path :: climb count parent
    | none => [path]

/-- The path and everything above it, nearest first; each parent is shorter than its child. -/
def chain (path : String) : List String := climb (path.length + 1) path

end LanguageBridge.Path
