import LanguageBridge.Failure
import LanguageBridge.Uri.Escape

/-!
URIs, and those that name files. A file's URI holds the escaped names of its path.
-/
namespace LanguageBridge

/-- A parsed URI. `authority` is what stands between two slashes and the path, `host` the part of it
that names a machine; an opaque path belongs to a URI without a hierarchy. -/
structure Uri where
  scheme : String
  authority : Option String
  host : Option String
  path : List Char
  isOpaque : Bool
  query : Option (List Char)
  fragment : Option (List Char)
  deriving DecidableEq, Repr

namespace Uri

/-- The characters of the authority of a URI. Where there is none, a path that starts with two
slashes has a dot put before it, so that it is not read as an authority. -/
def authorityCharacters (uri : Uri) : List Char :=
  match uri.authority, uri.path with
  | some authority, _ => '/' :: '/' :: authority.toList
  | none, '/' :: '/' :: _ => ['/', '.']
  | none, _ => []

/-- The characters of a URI. -/
def characters (uri : Uri) : List Char :=
  uri.scheme.toList ++ ':' ::
    (uri.authorityCharacters ++ uri.path ++ (uri.query.map ('?' :: ·)).getD [] ++
      (uri.fragment.map ('#' :: ·)).getD [])

/-- The text of a URI. -/
def text (uri : Uri) : String := String.ofList uri.characters

/-- The file URI with a path. -/
def ofPath (path : List Char) : Uri where
  scheme := "file"
  authority := some ""
  host := none
  path := path
  isOpaque := false
  query := none
  fragment := none

/-- The URI of an absolute file name. -/
def ofFileName? (name : String) : Option Uri :=
  if Path.isAbsolute name then
    let path := (Path.components name).flatMap fun component =>
      '/' :: escape .pathName component.toList
    some (ofPath (if path.isEmpty then ['/'] else path))
  else none

/-- The URI of an absolute file name. -/
def ofFileName (name : String) : Outcome Uri :=
  match ofFileName? name with
  | some uri => .ok uri
  | none => .error (.notFilePath name)

/-- The URI of an absolute directory name, with a slash at the end. -/
def ofDirectoryName (name : String) : Outcome Uri :=
  (ofFileName name).map fun uri =>
    if uri.path.getLast? = some '/' then uri else { uri with path := uri.path ++ ['/'] }

/-- Whether a path ends like a drive: a letter and a colon or bar. -/
def endsLikeDrive (bytes : List UInt8) : Bool :=
  match bytes.reverse with
  | mark :: letter :: _ :: _ =>
    (Char.ofNat letter.toNat).isAlpha && letter.toNat < 128 &&
      (mark = 58 || mark = 124)
  | _ => false

/-- The file name that a URI stands for, if it has a hierarchy and names no other machine; one that
ends like a drive gets a slash. -/
def fileName? (uri : Uri) : Option String :=
  if uri.isOpaque ∨ uri.path.head? ≠ some '/' then none
  else if uri.host.isSome ∧ uri.host ≠ some "localhost" then none
  else
    let bytes := unescape uri.path
    some (Utf8.decodeLossy (if endsLikeDrive bytes then bytes ++ [47] else bytes))

/-- The file name that a URI stands for. -/
def fileName (uri : Uri) : Outcome String :=
  match uri.fileName? with
  | some name => .ok name
  | none => .error (.notFilePath uri.text)

/-- The URI as a JSON string. -/
def toJson (uri : Uri) : Json := .str uri.text

end Uri

end LanguageBridge
