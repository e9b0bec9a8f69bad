import LanguageBridge.LocationList
import LanguageBridge.Preview
import LanguageBridge.Session.Context
import LanguageBridge.TextEdit

/-!
What the editor is asked to do.
-/
namespace LanguageBridge.Editor

/-- A command for the editor to carry out. -/
structure Command where
  action : String
  command : String
  deriving DecidableEq, Repr

def Command.toJson (command : Command) : Json :=
  .obj [("action", .str command.action), ("command", .str command.command)]

/-- How grave a message to the user is. -/
inductive MessageLevel
  | error
  | warning
  | info
  | log
  deriving DecidableEq, Repr

def MessageLevel.name : MessageLevel → String
  | .error => "Error"
  | .warning => "Warning"
  | .info => "Info"
  | .log => "Log"

/-- Has commands carried out one after the other. -/
def execute (commands : List Command) : Job Unit := do
  let _ ← Job.call .editor "execute" (.arr (commands.map Command.toJson))
    (Json.readOption (Json.readList Json.readAny))

/-- The command that puts the cursor at a place. -/
def moveCursor (position : EditorPosition) : Command where
  action := "call"
  command := s!"cursor({position.line}, {position.column})"

/-- A file name with a backslash before every blank. -/
def escapeBlanks (file : String) : String :=
  String.ofList (file.toList.flatMap fun c => if c = ' ' then ['\\', ' '] else [c])

/-- The command that opens a file. -/
def openFile (file : String) : Command where
  action := "execute"
  command := "edit " ++ escapeBlanks file

/-- Goes to a place, in another file if need be. -/
def jump (context : Context) (target : FilePosition) : Job Unit :=
  execute
    ((if target.file ≠ context.file then [openFile target.file] else []) ++
      [moveCursor target.position])

/-- Fills the location list. -/
def setLocations (setup : Setup) (title : String) (items : List LocationItem) : Job Unit :=
  Job.notify .editor "vim#set_loclist"
    (.arr [.arr (items.map LocationItem.toJson), .str title, .bool setup.settings.openLocations])

/-- Lists places, unless there are none. -/
def showLocations (setup : Setup) (title : String) (locations : List Location) : Job Unit := do
  if locations.isEmpty then return
  let workspace ← Job.ask .workspace
  let tree ← Job.ask .disk
  let items ← Job.ofOutcome (workspace.locationItems tree locations)
  setLocations setup title items

/-- Where to jump for a place of a file. -/
def jumpTarget (location : Location) : Job FilePosition := do
  let workspace ← Job.ask .workspace
  let tree ← Job.ask .disk
  Job.ofOutcome (workspace.jumpTarget tree location.uri location.span.start)

/-- Shows a preview in a buffer of its own. -/
def showScratch (preview : Preview) : Job Unit :=
  Job.notify .editor "vim#show_scratch" (.arr [preview.toJson])

/-- Asks for a floating window with a preview; none when the editor cannot float one. -/
def openFloat (preview : Preview) : Job (Option Surface) :=
  Job.call .editor "vim#open_float_win" (.arr [preview.toJson]) (Json.readOption Surface.read)

/-- Carries out an effect on floating windows. -/
def carryOut : FloatEffect → Job Unit
  | .destroy surface => Job.notify .editor "vim#close_float_win" (.arr [surface.toJson])
  | .wipe buffer =>
    execute [{ action := "execute", command := s!"silent! bwipeout! {buffer}" }]
  | .focus window => execute [{ action := "call", command := s!"win_gotoid({window})" }]

/-- Carries out effects one after the other. -/
def carryOutAll (effects : List FloatEffect) : Job Unit := effects.forM carryOut

/-- Loads a file into a buffer and gives the buffer's number. -/
def loadBuffer (file : String) : Job Nat := do
  let buffer ← Job.call .editor "vim#load_buffer" (.arr [.str file]) Json.readInt64
  if buffer < 0 then throw (.notOpened file "the editor could not load it")
  return buffer.toNat

/-- Replaces the lines of a buffer. -/
def setBufferLines (buffer : Nat) (file : String) (lines : List Text) : Job Unit :=
  Job.notify .editor "vim#set_buffer_lines"
    (.arr [.obj [("bufnr", .nat buffer), ("text_document", .str file),
      ("lines", .arr (lines.map .text))]])

/-- Shows the diagnostics of a file, with signs if the settings want them. -/
def showDiagnostics (setup : Setup) (file : String) (shown : List ShownDiagnostic) : Job Unit :=
  let signs := if setup.settings.showSigns then shown.map (·.sign.toJson) else []
  Job.notify .editor "vim#show_diagnostics"
    (.arr [.str file, .arr (shown.map (·.quickfixItem.toJson)), .arr signs])

/-- Shows a message to the user. -/
def showMessage (level : MessageLevel) (message : String) : Job Unit :=
  Job.notify .editor "vim#show_message"
    (.arr [.obj [("level", .str level.name), ("message", .str message)]])

/-- Shows a failure to the user. -/
def showFailure (failure : Failure) : Job Unit := showMessage .error failure.message

/-- Gives the parameters of a server's message to a function of the editor. -/
def callHandler (handler : String) (params : Json) : Job Unit :=
  Job.notify .editor "vim#call_handler" (.arr [.str handler, params])

/-- Shows a failure to the user, if the editor is still there. -/
def report (failure : Failure) : Script Unit := do
  let _ ← (showFailure failure).run
  return ()

end LanguageBridge.Editor
