import LanguageBridge.Failure
import LanguageBridge.Json.Printer
import LanguageBridge.Text.Blank

/-!
Frames: header lines of which one gives the length of the body in bytes, an empty line, and the
body. Other header lines are passed over, and blank lines before a length as well.
-/
namespace LanguageBridge.Frame

/-- What reading one frame comes to. `starved` says that the bytes so far hold no whole frame and
more may come. -/
inductive Reading
  | body (text : String) (rest : List UInt8)
  | ended
  | failed (failure : Failure)
  | starved
  deriving DecidableEq, Repr

/-- The line feed. -/
def feed : UInt8 := 10

/-- The first line with its line feed, and what follows; a line without line feed is one only when
no more bytes will come. -/
def takeLine (ended : Bool) : List UInt8 → Option (List UInt8 × List UInt8)
  | [] => if ended then some ([], []) else none
  | byte :: rest =>
    if byte = feed then some ([byte], rest)
    else (takeLine ended rest).map fun (line, after) => (byte :: line, after)

theorem takeLine_length {ended : Bool} {input line rest : List UInt8}
    (taken : takeLine ended input = some (line, rest)) :
    line.length + rest.length = input.length := by
  induction input generalizing line with
  | nil =>
    cases ended <;> simp [takeLine] at taken
    simp [taken]
  | cons byte tail ih =>
    by_cases isFeed : byte = feed
    · simp [takeLine, isFeed] at taken
      rcases taken with ⟨rfl, rfl⟩
      simp [Nat.add_comm]
    · simp only [takeLine, isFeed, if_false, Option.map_eq_some_iff] at taken
      rcases taken with ⟨⟨before, after⟩, taken, same⟩
      cases same
      have := ih taken
      simp only [List.length_cons] at *
      omega

/-- The name and the value of a header line, the value empty when there is no colon. -/
def splitHeader (line : Text) : Text × Text :=
  let name := line.takeWhile (· ≠ ':')
  (Text.trim name, Text.trim ((line.drop name.length).drop 1))

/-- Why a text is no length. -/
inductive LengthError
  | empty
  | notDigit
  | tooLarge
  deriving DecidableEq, Repr

def LengthError.message : LengthError → String
  | .empty => "cannot parse integer from empty string"
  | .notDigit => "invalid digit found in string"
  | .tooLarge => "number too large to fit in target type"

/-- Reads decimal digits behind `value`; every value has to fit in 64 bits. -/
def readDigits (value : Nat) : Text → Except LengthError Nat
  | [] => .ok value
  | c :: rest =>
    if '0' ≤ c ∧ c ≤ '9' then
      let value := value * 10 + (c.toNat - 48)
      if 18446744073709551615 < value then .error .tooLarge else readDigits value rest
    else .error .notDigit

/-- Reads a length: decimal digits, perhaps with a plus sign before them. -/
def readLength : Text → Except LengthError Nat
  | [] => .error .empty
  | '+' :: [] => .error .notDigit
  | '+' :: rest => readDigits 0 rest
  | text => readDigits 0 text

/-- Whether a header's name says that its value is the length, in letters of either case. -/
def isLengthName (name : Text) : Bool :=
  name.map Char.toLower = "content-length".toList

/-- The length that a header line gives, if it gives one. -/
def lengthOf (line : Text) : Outcome (Option Nat) :=
  let (name, value) := splitHeader line
  if isLengthName name then
    match readLength value with
    | .ok length => .ok (some length)
    | .error error =>
      .error (.violation
        s!"invalid Content-Length {Text.quoted (String.ofList value)}: {error.message}")
  else .ok none

/-- Reads a body of `length` bytes. -/
def readBody (ended : Bool) (length : Nat) (input : List UInt8) : Reading :=
  let bytes := input.take length
  if bytes.length < length then
    if ended then .failed (.system .cutShort) else .starved
  else
    match Utf8.decode bytes with
    | .ok text => .body text (input.drop length)
    | .error error => .failed (.encoding error)

/-- Reads header lines up to the blank one after a length, and then the body; `length` is the last
length given so far. -/
def readFrom (ended : Bool) (length : Option Nat) (input : List UInt8) : Reading :=
  match _taken : takeLine ended input with
  | none => .starved
  | some ([], _) => .ended
  | some (byte :: line, rest) =>
    match Utf8.decode (byte :: line) with
    | .error _ => .failed (.system .notText)
    | .ok text =>
      let header := Text.trim text.toList
      if header.isEmpty then
        match length with
        | some length => readBody ended length rest
        | none => readFrom ended none rest
      else
        match lengthOf header with
        | .error failure => .failed failure
        | .ok (some length) => readFrom ended (some length) rest
        | .ok none => readFrom ended length rest
  termination_by input.length
  decreasing_by
    all_goals
      have := takeLine_length _taken
      simp only [List.length_cons] at this
      omega

/-- Reads one frame; `ended` says that no more bytes will come. -/
def read (ended : Bool) (input : List UInt8) : Reading := readFrom ended none input

/-- The frame of a body. -/
def encode (body : String) : List UInt8 :=
  let bytes := Utf8.encode body
  Utf8.encode s!"Content-Length: {String.ofList (Json.digits bytes.length)}\r\n\r\n" ++ bytes

/-- All frames of bytes that have ended, and why reading stopped if not for their end. -/
def readAll (fuel : Nat) (input : List UInt8) : List String × Option Failure :=
  match fuel with
  | 0 => ([], none)
  | fuel + 1 =>
    match read true input with
    | .body text rest =>
      let (bodies, failure) := readAll fuel rest
      (text :: bodies, failure)
    | .failed failure => ([], some failure)
    | .ended | .starved => ([], none)

end LanguageBridge.Frame
