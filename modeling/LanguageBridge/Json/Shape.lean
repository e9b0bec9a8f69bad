import LanguageBridge.Json.Printer
import LanguageBridge.Text.Basic
import LanguageBridge.Text.Visible

/-!
Reading typed data out of JSON values. A record is an object, or an array of its fields in order;
members that it does not name are passed over unless it is closed. The first fault in the order of
the value's own members is the one reported.
-/
namespace LanguageBridge

/-- Why a value does not have the wanted shape. -/
inductive ShapeError
  | unexpected (found expected : String)
  | outOfRange (found expected : String)
  | missing (field : String)
  | duplicate (field : String)
  | unknownField (field : String) (known : List String)
  | unknownVariant (found : String) (known : List String)
  | tooShort (length : Nat) (expected : String)
  | tooLong (length : Nat)
  | noAlternative (name : String)
  | refused (reason : String)
  deriving DecidableEq, Repr

/-- Names in backticks, the last joined by "or" when there are two. -/
def ShapeError.listed (names : List String) : String :=
  match names with
  | [] => "nothing"
  | [name] => "`" ++ name ++ "`"
  | [first, second] => "`" ++ first ++ "` or `" ++ second ++ "`"
  | names => "one of " ++ String.intercalate ", " (names.map fun name => "`" ++ name ++ "`")

/-- The wording of the error. -/
def ShapeError.message : ShapeError → String
  | .unexpected found expected => s!"invalid type: {found}, expected {expected}"
  | .outOfRange found expected => s!"invalid value: {found}, expected {expected}"
  | .missing field => "missing field `" ++ field ++ "`"
  | .duplicate field => "duplicate field `" ++ field ++ "`"
  | .unknownField field known =>
    "unknown field `" ++ field ++ "`, expected " ++ ShapeError.listed known
  | .unknownVariant found known =>
    "unknown variant `" ++ found ++ "`, expected " ++ ShapeError.listed known
  | .tooShort length expected => s!"invalid length {length}, expected {expected}"
  | .tooLong length => s!"invalid length {length}, expected fewer elements in array"
  | .noAlternative name => s!"data did not match any variant of untagged enum {name}"
  | .refused reason => reason

/-- The outcome of reading a typed value. -/
abbrev Shaped (α : Type) := Except ShapeError α

namespace Json

/-- What a value is, as messages name it. -/
def described : Json → String
  | .null => "null"
  | .bool value => "boolean `" ++ (if value then "true" else "false") ++ "`"
  | .int value => "integer `" ++ String.ofList (integer value) ++ "`"
  | .float value => "floating point `" ++ String.ofList value.text ++ "`"
  | .str value => "string " ++ Text.quoted value
  | .arr _ => "sequence"
  | .obj _ => "map"

/-- An integer between two bounds. -/
def readInt (low high : Int) (expected : String) : Json → Shaped Int
  | .int value =>
    if low ≤ value ∧ value ≤ high then .ok value
    else .error (.outOfRange (described (.int value)) expected)
  | other => .error (.unexpected (described other) expected)

/-- A natural number of 64 bits. -/
def readNat64 (json : Json) : Shaped Nat :=
  (readInt 0 18446744073709551615 "u64" json).map Int.toNat

/-- A natural number of 32 bits. -/
def readNat32 (json : Json) : Shaped Nat :=
  (readInt 0 4294967295 "u32" json).map Int.toNat

/-- An integer of 32 bits. -/
def readInt32 (json : Json) : Shaped Int := readInt (-2147483648) 2147483647 "i32" json

/-- An integer of 64 bits. -/
def readInt64 (json : Json) : Shaped Int :=
  readInt (-9223372036854775808) 9223372036854775807 "i64" json

/-- One of the natural numbers from `low` to `high`. -/
def readCode (low high : Nat) (json : Json) : Shaped Nat := do
  let code ← readInt low high "u8" json
  return code.toNat

/-- A string. -/
def readString : Json → Shaped String
  | .str value => .ok value
  | other => .error (.unexpected (described other) "a string")

/-- A string, as the text of a document. -/
def readText (json : Json) : Shaped Text := (readString json).map String.toList

/-- A truth value. -/
def readBool : Json → Shaped Bool
  | .bool value => .ok value
  | other => .error (.unexpected (described other) "a boolean")

/-- Any value, members of one name made one. -/
def readAny (json : Json) : Shaped Json := .ok json.merged

/-- `null`, or a value of a shape. -/
def readOption {α : Type} (read : Json → Shaped α) : Json → Shaped (Option α)
  | .null => .ok none
  | other => (read other).map some

/-- An array of values of one shape. -/
def readList {α : Type} (read : Json → Shaped α) : Json → Shaped (List α)
  | .arr items => items.mapM read
  | other => .error (.unexpected (described other) "a sequence")

/-- An object with values of one shape, later members winning. -/
def readTable {α : Type} (read : Json → Shaped α) : Json → Shaped (List (String × α))
  | .obj members => members.mapM fun (key, value) => do return (key, ← read value)
  | other => .error (.unexpected (described other) "a map")

/-- An object as its members. -/
def readMembers : Json → Shaped (List (String × Json))
  | .obj members =>
    match Json.merged (.obj members) with
    | .obj merged => .ok merged
    | _ => .ok members
  | other => .error (.unexpected (described other) "a map")

/-- One of several names, also written as the only member of an object with `null`. -/
def readVariant {α : Type} (variants : List (String × α)) (json : Json) : Shaped α :=
  let find (name : String) : Shaped α :=
    match variants.find? (·.1 = name) with
    | some variant => .ok variant.2
    | none => .error (.unknownVariant name (variants.map (·.1)))
  match json with
  | .str name => find name
  | .obj [(name, .null)] => find name
  | other => .error (.unexpected (described other) "string or map")

/-- The first of several shapes that fits. -/
def readEither {α : Type} (name : String) (readers : List (Json → Shaped α)) (json : Json) :
    Shaped α :=
  match readers with
  | [] => .error (.noAlternative name)
  | read :: others =>
    match read json with
    | .ok value => .ok value
    | .error _ => readEither name others json

end Json

/-- An error together with the place among a record's members at which it shows. -/
structure Misfit where
  place : Nat
  error : ShapeError
  deriving DecidableEq, Repr

/-- The misfit that shows first; of two at one place the former. -/
def Misfit.earlier (first second : Misfit) : Misfit :=
  if second.place < first.place then second else first

/-- Where a record's fields come from, each with its place, and what is wrong when one is not
there. -/
structure FieldSource where
  value? : String → Option (Nat × Json)
  absent : String → Misfit
  inOrder : Bool

/-- How to read a record: the names of its fields in order and what to build of them. -/
structure Record (α : Type) where
  names : List String
  build : FieldSource → Except Misfit α

namespace Record

variable {α β : Type}

/-- Applies what was built to what was built; every misfit is looked at before one is reported. -/
def combine : Except Misfit (α → β) → Except Misfit α → Except Misfit β
  | .ok function, .ok value => .ok (function value)
  | .ok _, .error second => .error second
  | .error first, .ok _ => .error first
  | .error first, .error second => .error (first.earlier second)

instance : Applicative Record where
  map f record := { record with build := fun source => (record.build source).map f }
  pure value := { names := [], build := fun _ => .ok value }
  seq f x :=
    let x := x ()
    { names := f.names ++ x.names
      build := fun source => combine (f.build source) (x.build source) }

/-- A field, and what stands for it when it is absent. -/
def fieldOr (name : String) (read : Json → Shaped α) (absent : FieldSource → Except Misfit α) :
    Record α where
  names := [name]
  build source :=
    match source.value? name with
    | some (place, value) => (read value).mapError (Misfit.mk place)
    | none => absent source

/-- A field that has to be there. -/
def required (name : String) (read : Json → Shaped α) : Record α :=
  fieldOr name read fun source => .error (source.absent name)

/-- A field that may be `null` and, in an object, absent. -/
def optional (name : String) (read : Json → Shaped α) : Record (Option α) :=
  fieldOr name (Json.readOption read) fun source =>
    if source.inOrder then .error (source.absent name) else .ok none

/-- A field with a default for when it is absent. -/
def defaulted (name : String) (default : α) (read : Json → Shaped α) : Record α :=
  fieldOr name read fun _ => .ok default

/-- A field that may be `null` or absent, in arrays too. -/
def optionalTail (name : String) (read : Json → Shaped α) : Record (Option α) :=
  fieldOr name (Json.readOption read) fun _ => .ok none

/-- The first member whose name is already taken or, in a closed record, not a field's. -/
def strayMember? (names : List String) (closed : Bool) (seen : List String) (place : Nat) :
    List (String × Json) → Option Misfit
  | [] => none
  | (key, _) :: rest =>
    if names.contains key then
      if seen.contains key then some ⟨place, .duplicate key⟩
      else strayMember? names closed (key :: seen) (place + 1) rest
    else if closed then some ⟨place, .unknownField key names⟩
    else strayMember? names closed seen (place + 1) rest

/-- The value of the first member of a name, with its place. -/
def placed? (name : String) (members : List (String × Json)) : Option (Nat × Json) :=
  (members.findIdx? (·.1 = name)).bind fun place =>
    members[place]?.map fun member => (place, member.2)

/-- The source of an object's members. -/
def ofMembers (members : List (String × Json)) : FieldSource where
  value? name := placed? name members
  absent name := ⟨members.length, .missing name⟩
  inOrder := false

/-- How many fields a record has, as messages say it. -/
def sized (label : String) (count : Nat) : String :=
  if count = 1 then s!"{label} with 1 element" else s!"{label} with {count} elements"

/-- The source of an array's items, given in the order of the fields. -/
def ofItems (label : String) (names : List String) (items : List Json) : FieldSource where
  value? name := placed? name (names.zip items)
  absent name := ⟨names.idxOf name, .tooShort (names.idxOf name) (sized label names.length)⟩
  inOrder := true

/-- Builds a record of an object's members. -/
def buildOfMembers (closed : Bool) (record : Record α) (members : List (String × Json)) :
    Shaped α :=
  match record.build (ofMembers members), strayMember? record.names closed [] 0 members with
  | .ok value, none => .ok value
  | .ok _, some stray => .error stray.error
  | .error misfit, none => .error misfit.error
  | .error misfit, some stray => .error (misfit.earlier stray).error

/-- Reads a record; a closed one refuses members that it does not name. -/
def readAs (closed : Bool) (label : String) (record : Record α) (json : Json) : Shaped α :=
  match json with
  | .obj members => buildOfMembers closed record members
  | .arr items => do
    let value ← (record.build (ofItems label record.names items)).mapError Misfit.error
    if record.names.length < items.length then throw (.tooLong items.length)
    return value
  | other => .error (.unexpected other.described label)

/-- Reads a record, passing over members that it does not name. -/
def read (label : String) (record : Record α) : Json → Shaped α := record.readAs false label

/-- Reads a record that has no other members. -/
def readClosed (label : String) (record : Record α) : Json → Shaped α := record.readAs true label

/-- Reads a record and, from the members it does not name, a second value. -/
def readWith (label : String) (record : Record α) (others : List (String × Json) → Shaped β)
    (json : Json) : Shaped (α × β) :=
  match json with
  | .obj members => do
    let value ← buildOfMembers false record members
    let other ← others (members.filter fun member => !record.names.contains member.1)
    return (value, other)
  | other => .error (.unexpected other.described label)

/-- One of several variants by its name or by its place among them. -/
def readTag (variants : List (String × (Json → Shaped α))) (json : Json) :
    Shaped (Json → Shaped α) :=
  match json with
  | .str _ => Json.readVariant variants json
  | .int (.ofNat place) =>
    match variants[place]? with
    | some variant => .ok variant.2
    | none => .error (.outOfRange json.described s!"variant index 0 <= i < {variants.length}")
  | other => .error (.unexpected other.described "variant identifier")

/-- Reads a value told apart by the member `tag`, whose variant then reads the other members. -/
def readTagged (label tag : String) (variants : List (String × (Json → Shaped α))) (json : Json) :
    Shaped α :=
  let choose (name : Json) (rest : Json) : Shaped α := do
    let read ← readTag variants name
    read rest
  match json with
  | .obj members =>
    match Json.member? tag members with
    | some name => choose name (.obj (members.filter fun member => member.1 ≠ tag))
    | none => .error (.missing tag)
  | .arr (name :: rest) => choose name (.arr rest)
  | other => .error (.unexpected other.described label)

end Record

end LanguageBridge
