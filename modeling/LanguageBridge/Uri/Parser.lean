import LanguageBridge.Uri.Address
import LanguageBridge.Uri.Basic
import LanguageBridge.Uri.DomainName

/-!
The hosts of URIs. Schemes that the web knows have names of domains and addresses; any other scheme
has a host of its own making, or an address in brackets.
-/
namespace LanguageBridge.Uri

/-- Characters that no host has. -/
def hostBreaks : List Char :=
  ['\x00', '\t', '\n', '\r', ' ', '#', '/', ':', '<', '>', '?', '@', '[', '\\', ']', '^', '|']

/-- Characters that no host of a special scheme has. -/
def isForbiddenInHost (c : Char) : Bool :=
  c.toNat < 32 || c.toNat = 127 || c = '%' || hostBreaks.contains c

/-- The long address between two brackets. -/
def bracketed? (host : List Char) : Option String := do
  if host.getLast? ≠ some ']' then none
  let pieces ← longAddress? (host.drop 1).dropLast
  return "[" ++ longAddressText pieces ++ "]"

/-- The host of a special scheme: the name of a domain, or an address. -/
def specialHost? (host : List Char) : Option String :=
  if host.head? = some '[' then bracketed? host
  else do
    let name ← DomainName.ascii? (Utf8.decodeLossy (unescape host)).toList
    if name.isEmpty ∨ name.any isForbiddenInHost then none
    else if endsInNumber name then address? name
    else some (String.ofList name)

/-- The host of any other scheme: an address, or a text, escaped. -/
def otherHost? (host : List Char) : Option String :=
  if host.head? = some '[' then bracketed? host
  else if host.any hostBreaks.contains then none
  else some (String.ofList (escape .control host))

/-!
Reading URIs as browsers do: blanks at the ends and line breaks anywhere are dropped, dots in a
path are followed, and what may not stand in a part is escaped. A letter with a colon or bar at the
front of a path is a drive, which two dots do not leave.
-/

/-- Drops controls and blanks at both ends, and tabs and line breaks everywhere. -/
def cleaned (input : List Char) : List Char :=
  let idle (c : Char) : Bool := c.toNat ≤ 32
  let trimmed := ((input.dropWhile idle).reverse.dropWhile idle).reverse
  trimmed.filter fun c => c ≠ '\t' && c ≠ '\n' && c ≠ '\r'

/-- Whether a piece is a drive: a letter and a colon or bar. -/
def isDrive : List Char → Bool
  | [letter, mark] => letter.isAlpha && (mark = ':' || mark = '|')
  | _ => false

/-- Whether a path is a slash and a drive, then nothing or another part. -/
def startsWithDrive : List Char → Bool
  | '/' :: letter :: mark :: rest =>
    letter.isAlpha && (mark = ':' || mark = '|') &&
      (rest.isEmpty || ['/', '\\', '?', '#'].contains (rest.headD ' '))
  | _ => false

/-- The part of a path up to its last slash, that slash included. -/
def throughLastSlash (path : List Char) : List Char :=
  (path.reverse.dropWhile (· ≠ '/')).reverse

/-- The part of a path from its last slash on. -/
def fromLastSlash (path : List Char) : List Char :=
  path.drop ((throughLastSlash path).length - 1)

/-- How the parts of a URI with some scheme are read. -/
structure Rules where
  /-- Backslashes are slashes. -/
  isSpecial : Bool
  isFile : Bool

/-- A name at the front of what is left of a path, escaped, then whether a slash ends it, and the
rest. -/
def readName (rules : Rules) : List Char → List Char × Bool × List Char
  | [] => ([], false, [])
  | c :: rest =>
    if c = '/' ∨ (rules.isSpecial ∧ c = '\\') then ([], true, rest)
    else if c = '?' ∨ c = '#' then ([], false, c :: rest)
    else
      let (name, slash, rest) := readName rules rest
      (escapeChar .path c ++ name, slash, rest)

/-- Whether a name stands for the directory above. -/
def isDoubleDot (name : List Char) : Bool :=
  ["..", "%2e%2e", "%2e.", ".%2e"].contains (String.ofList (name.map Char.toLower))

/-- Whether a name stands for the directory itself. -/
def isSingleDot (name : List Char) : Bool :=
  [".", "%2e"].contains (String.ofList (name.map Char.toLower))

/-- Goes up one directory; a drive at the front is never left. -/
def goUp (path : List Char) : List Char :=
  let before := path.dropLast
  let removable :=
    path.getLast? = some '/' && before.contains '/' &&
      !startsWithDrive (fromLastSlash before ++ ['/'])
  throughLastSlash (if removable then before else path)

/-- Puts a name behind a path, with the slash that ends it. -/
def addName (path name : List Char) (slash : Bool) : List Char :=
  let slashed (path : List Char) : List Char :=
    if path.getLast? = some '/' then path else path ++ ['/']
  if isDoubleDot name then
    let path := goUp path
    if slash then slashed path else path
  else if isSingleDot name then slashed path
  else path ++ name ++ (if slash then ['/'] else [])

/-- Reads names onto a path until the path ends. -/
def readNames (rules : Rules) : Nat → List Char → List Char → List Char × List Char
  | 0, path, input => (path, input)
  | fuel + 1, path, input =>
    let (name, slash, rest) := readName rules input
    let path := addName path name slash
    if slash then readNames rules fuel path rest else (path, rest)

/-- Reads a path that starts with what is in `path`. -/
def readPath (rules : Rules) (path input : List Char) : List Char × List Char :=
  let (path, rest) := readNames rules (input.length + 1) path input
  if rules.isFile then ('/' :: path.dropWhile (· = '/'), rest) else (path, rest)

/-- Reads the path after an authority. -/
def readPathAfter (rules : Rules) (input : List Char) : List Char × List Char :=
  if rules.isSpecial then
    match input with
    | c :: rest =>
      if c = '/' ∨ c = '\\' then readPath rules ['/'] rest else readPath rules ['/'] input
    | [] => readPath rules ['/'] []
  else
    match input with
    | [] => ([], [])
    | c :: rest =>
      if c = '?' ∨ c = '#' then ([], input)
      else if c = '/' then readPath rules ['/'] rest
      else readPath rules ['/'] input

/-- Puts a query and a fragment after a path. -/
def withEnd (rules : Rules) (uri : Uri) (input : List Char) : Uri :=
  let (query, rest) :=
    match input with
    | '?' :: rest => (some (rest.takeWhile (· ≠ '#')), rest.dropWhile (· ≠ '#'))
    | rest => (none, rest)
  let fragment :=
    match rest with
    | '#' :: rest => some rest
    | _ => none
  let set := if rules.isSpecial then EscapeSet.specialQuery else EscapeSet.query
  { uri with query := query.map (escape set), fragment := fragment.map (escape .fragment) }

/-- The service number of a scheme that need not be written. -/
def usualService : String → Option Nat
  | "http" | "ws" => some 80
  | "https" | "wss" => some 443
  | "ftp" => some 21
  | _ => none

/-- The service number of an authority: digits for one below 65536, left out when it is the usual
one. Gives what is left behind the digits, which a backslash may start. -/
def service? (scheme : String) (input : List Char) : Option (String × List Char) :=
  let digits := input.takeWhile Char.isDigit
  let rest := input.drop digits.length
  let number := digits.foldl (fun total c => total * 10 + (c.toNat - 48)) 0
  if (rest.head?.getD '\\') ≠ '\\' ∨ 65535 < number then none
  else if digits.isEmpty ∨ usualService scheme = some number then some ("", rest)
  else some (":" ++ toString number, rest)

/-- The user of an authority, with its at sign. -/
def userText (user : List Char) : List Char :=
  let name := user.takeWhile (· ≠ ':')
  let password := (user.drop name.length).drop 1
  let text :=
    escape .userInfo name ++ (if password.isEmpty then [] else ':' :: escape .userInfo password)
  if text.isEmpty then [] else text ++ ['@']

/-- Splits a host from what follows the colon after it; a colon in brackets does not count. -/
def splitService (inBrackets : Bool) : List Char → List Char × Option (List Char)
  | [] => ([], none)
  | c :: rest =>
    if c = ':' ∧ !inBrackets then ([], some rest)
    else
      let inBrackets := if c = '[' then true else if c = ']' then false else inBrackets
      let (host, service) := splitService inBrackets rest
      (c :: host, service)

/-- Splits an authority into the user before its last at sign, if there is one, and the place. -/
def splitUser (authority : List Char) : Option (List Char) × List Char :=
  let place := (authority.reverse.takeWhile (· ≠ '@')).reverse
  if place.length < authority.length then
    (some (authority.take (authority.length - place.length - 1)), place)
  else (none, place)

/-- Reads what follows two slashes in a scheme that is not for files. -/
def readAuthority? (scheme : String) (rules : Rules) (input : List Char) : Option Uri := do
  let isEnd (c : Char) : Bool := c = '/' || c = '?' || c = '#' || (rules.isSpecial && c = '\\')
  let authority := input.takeWhile (!isEnd ·)
  let rest := input.drop authority.length
  let (user, place) := splitUser authority
  if user = some [] ∧ place.isEmpty ∧ ¬ rest.isEmpty then none
  let user := userText (user.getD [])
  let (host, service) := splitService false place
  if host.isEmpty ∧ (rules.isSpecial ∨ ¬ user.isEmpty ∨ service.isSome) then none
  let host ← if rules.isSpecial then specialHost? host else otherHost? host
  let (service, left) ← service? scheme (service.getD [])
  let (path, rest) := readPathAfter rules (left ++ rest)
  return withEnd rules
    { scheme := scheme
      authority := some (String.ofList user ++ host ++ service)
      host := if host = "" then none else some host
      path := path
      isOpaque := false
      query := none
      fragment := none } rest

/-- Reads what follows the colon of a file's URI. -/
def readFile? (input : List Char) : Option Uri := do
  let rules : Rules := ⟨true, true⟩
  let isSlash (c : Char) : Bool := c = '/' || c = '\\'
  match input with
  | first :: second :: rest =>
    if isSlash first && isSlash second then
      let host := rest.takeWhile fun c => !isSlash c && c ≠ '?' && c ≠ '#'
      if isDrive host then
        let (path, rest) := readPath rules ['/'] rest
        return withEnd rules (ofPath path) rest
      else
        let rest := rest.drop host.length
        let host ← if host.isEmpty then some "" else specialHost? host
        let host := if host = "localhost" then "" else host
        let (path, rest) :=
          if host = "" then readPath rules [] rest else readPathAfter rules rest
        return withEnd rules
          { ofPath path with
            authority := some host
            host := if host = "" then none else some host } rest
    else if isSlash first then
      let (path, rest) := readPath rules [] input
      return withEnd rules (ofPath path) rest
    else
      let (path, rest) := readPath rules ['/'] input
      return withEnd rules (ofPath path) rest
  | _ =>
    let (path, rest) :=
      if (input.head?.map isSlash).getD false then readPath rules [] input
      else readPath rules ['/'] input
    return withEnd rules (ofPath path) rest

/-- Reads a URI; one without a scheme is refused. -/
def parse? (input : String) : Option Uri := do
  let input := cleaned input.toList
  let scheme := input.takeWhile fun c => c.isAlphanum || c = '+' || c = '-' || c = '.'
  if !((scheme.head?.map Char.isAlpha).getD false) then none
  let rest ←
    match input.drop scheme.length with
    | ':' :: rest => some rest
    | _ => none
  let scheme := String.ofList (scheme.map Char.toLower)
  if scheme = "file" then readFile? rest
  else if (usualService scheme).isSome then
    readAuthority? scheme ⟨true, false⟩ (rest.dropWhile fun c => c = '/' || c = '\\')
  else
    let rules : Rules := ⟨false, false⟩
    let bare : Uri := { ofPath [] with scheme := scheme, authority := none }
    match rest with
    | '/' :: '/' :: rest => readAuthority? scheme rules rest
    | '/' :: rest =>
      let (path, rest) := readPath rules ['/'] rest
      return withEnd rules { bare with path := path } rest
    | rest =>
      let path := rest.takeWhile fun c => c ≠ '?' && c ≠ '#'
      return withEnd rules
        { bare with path := escape .control path, isOpaque := true } (rest.drop path.length)

/-- Reads a URI out of a JSON string. -/
def read (json : Json) : Shaped Uri := do
  let text ← Json.readString json
  match parse? text with
  | some uri => return uri
  | none => throw (.refused s!"relative URL without a base: {Text.quoted text}")

end LanguageBridge.Uri
