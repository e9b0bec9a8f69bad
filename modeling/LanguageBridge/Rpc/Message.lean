import LanguageBridge.Failure
import LanguageBridge.Json.Parser

/-!
The messages of JSON-RPC: calls, notifications and responses. A message is read as the first of
these that it fits, and members that do not belong to it are refused.
-/
namespace LanguageBridge

/-- What ties a response to its call. -/
inductive RequestId
  | null
  | number (value : Nat)
  | text (value : String)
  deriving DecidableEq, Repr, Inhabited

/-- The parameters of a call or notification. -/
inductive Params
  | none
  | list (items : List Json)
  | named (members : List (String × Json))
  deriving Repr

/-- What a call that failed on the other side comes back with. -/
structure RemoteError where
  code : Int
  message : String
  data : Option Json := .none
  deriving Repr

/-- A response; `versioned` says that it names the protocol's version. -/
inductive Response
  | success (versioned : Bool) (id : RequestId) (result : Json)
  | failure (versioned : Bool) (id : RequestId) (error : RemoteError)
  deriving Repr

/-- A message; `versioned` says that it names the protocol's version. -/
inductive Message
  | call (versioned : Bool) (id : RequestId) (method : String) (params : Params)
  | notification (versioned : Bool) (method : String) (params : Params)
  | response (response : Response)
  deriving Repr

namespace RequestId

/-- The id as messages name it. -/
def described : RequestId → String
  | .null => "Null"
  | .number value => s!"Num({value})"
  | .text value => s!"Str({Text.quoted value})"

def toJson : RequestId → Json
  | .null => .null
  | .number value => .nat value
  | .text value => .str value

def read : Json → Shaped RequestId
  | .null => .ok .null
  | .str value => .ok (.text value)
  | json => (Json.readNat64 json).map .number

end RequestId

namespace Params

/-- Any value as parameters; one that is neither array nor object stands alone in an array. -/
def ofJson : Json → Params
  | .null => .none
  | .arr items => .list items
  | .obj members => .named members
  | other => .list [other]

def toJson : Params → Json
  | .none => .null
  | .list items => .arr items
  | .named members => .obj members

def read (json : Json) : Shaped Params :=
  match json.merged with
  | .null => .ok .none
  | .arr items => .ok (.list items)
  | .obj members => .ok (.named members)
  | _ => .error (.noAlternative "Params")

end Params

namespace RemoteError

def read : Json → Shaped RemoteError :=
  (mk <$> .required "code" Json.readInt64 <*> .required "message" Json.readString
    <*> .optional "data" Json.readAny : Record RemoteError).readClosed "struct Error"

def toJson (error : RemoteError) : Json :=
  .obj ([("code", .int error.code), ("message", .str error.message)] ++
    match error.data with
    | some data => [("data", data)]
    | none => [])

end RemoteError

/-- Whether the version is named; the only one is 2.0. -/
def readVersion (json : Json) : Shaped Unit := do
  if (← Json.readString json) = "2.0" then return ()
  throw (.refused "invalid version")

namespace Response

def id : Response → RequestId
  | .success _ id _ => id
  | .failure _ id _ => id

def readSuccess : Json → Shaped Response :=
  ((fun version result id => success version.isSome id result)
    <$> .optional "jsonrpc" readVersion <*> .required "result" Json.readAny
    <*> .required "id" RequestId.read : Record Response).readClosed "struct Success"

def readFailure : Json → Shaped Response :=
  ((fun version error id => failure version.isSome id error)
    <$> .optional "jsonrpc" readVersion <*> .required "error" RemoteError.read
    <*> .required "id" RequestId.read : Record Response).readClosed "struct Failure"

def read : Json → Shaped Response := Json.readEither "Output" [readSuccess, readFailure]

/-- The version as the first member, when it is named. -/
def versionMember (versioned : Bool) : List (String × Json) :=
  if versioned then [("jsonrpc", .str "2.0")] else []

def toJson : Response → Json
  | .success versioned id result =>
    .obj (versionMember versioned ++ [("result", result), ("id", id.toJson)])
  | .failure versioned id error =>
    .obj (versionMember versioned ++ [("error", error.toJson), ("id", id.toJson)])

/-- The error code that stands for a connection that is gone. -/
def terminationCode : Int := -32099

/-- The response that a waiter gets when the connection is gone. -/
def terminated (id : RequestId) : Response :=
  .failure true id { code := terminationCode, message := Failure.terminated.message }

/-- What a response means to the caller. -/
def outcome : Response → Outcome Json
  | .success _ _ result => .ok result
  | .failure _ _ error =>
    if error.code = terminationCode then .error .terminated
    else .error (.remote error.code error.message)

end Response

namespace Message

/-- The method of a call or notification; a response has none. -/
def method : Message → String
  | .call _ _ method _ => method
  | .notification _ method _ => method
  | .response _ => ""

/-- The id of a call or response. -/
def id : Message → RequestId
  | .call _ id _ _ => id
  | .notification .. => .null
  | .response answer => answer.id

def readCall : Json → Shaped Message :=
  ((fun version method params id => call version.isSome id method params)
    <$> .optional "jsonrpc" readVersion <*> .required "method" Json.readString
    <*> .defaulted "params" .none Params.read <*> .required "id" RequestId.read :
    Record Message).readClosed "struct MethodCall"

def readNotification : Json → Shaped Message :=
  ((fun version method params => notification version.isSome method params)
    <$> .optional "jsonrpc" readVersion <*> .required "method" Json.readString
    <*> .defaulted "params" .none Params.read : Record Message).readClosed "struct Notification"

def read : Json → Shaped Message :=
  Json.readEither "Message"
    [readCall, readNotification, fun json => (Response.read json).map .response]

/-- The version as a member, `null` when it is not named. -/
def versionJson (versioned : Bool) : Json := if versioned then .str "2.0" else .null

def toJson : Message → Json
  | .call versioned id method params =>
    .obj [("jsonrpc", versionJson versioned), ("method", .str method), ("params", params.toJson),
      ("id", id.toJson)]
  | .notification versioned method params =>
    .obj [("jsonrpc", versionJson versioned), ("method", .str method), ("params", params.toJson)]
  | .response answer => answer.toJson

/-- How deep arrays and objects may be nested in a message. -/
def depthLimit : Nat := 127

/-- Reads a message from its text. -/
def ofText (text : String) : Outcome Message :=
  match Json.parse? text with
  | none => .error .notJson
  | some json =>
    if json.depth ≤ depthLimit then Outcome.ofShaped (read json) else .error .notJson

/-- The text of a message. -/
def text (message : Message) : String := message.toJson.compact

end Message

end LanguageBridge
