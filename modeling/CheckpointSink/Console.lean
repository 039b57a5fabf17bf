import CheckpointSink.Event
import CheckpointSink.Text.Quoted

/-!
Events printed as lines. Only the first console that is installed prints; each event takes one line,
or more where a plain field holds line ends.
-/

namespace CheckpointSink

open CheckpointSink.Number CheckpointSink.Text

structure Console where
  /-- The least grave level that is printed. -/
  level : Level
  withTarget : Bool
  ansi : Bool
  deriving DecidableEq

/-- The texts of the times on a line. -/
structure Dial where
  timestamp : String
  measured : Nat → String

/-- An event to print: those of a sink, and those of a program around it. -/
structure Notice where
  level : Level
  target : String
  message : String
  fields : List (String × FieldValue)

def Event.notice (event : Event) : Notice :=
  ⟨event.level, event.target, event.message, event.fields⟩

namespace Console

def standard : Console := ⟨.info, true, true⟩

def ofLevel (level : Level) : Console :=
  { standard with level }

def escapeCode (code : String) : String :=
  "\x1b[" ++ code ++ "m"

/-- Text in a style, which ends with it. -/
def styled (console : Console) (code text : String) : String :=
  if console.ansi then escapeCode code ++ text ++ escapeCode "0" else text

def colorCode : Level → String
  | .trace => "35"
  | .debug => "34"
  | .info => "32"
  | .warn => "33"
  | .error => "31"

def dimCode : String := "2"

def italicCode : String := "3"

/-- The name of a level, five characters wide. -/
def levelText (level : Level) : String :=
  if level.name.length < 5 then " " ++ level.name else level.name

def valueText (dial : Dial) : FieldValue → String
  | .text value => quoted value
  | .plain value => value
  | .number value => intText value
  | .measured milliseconds => dial.measured milliseconds

def fieldText (console : Console) (dial : Dial) (field : String × FieldValue) : String :=
  " " ++ console.styled italicCode field.1 ++ console.styled dimCode "=" ++
    valueText dial field.2

def targetText (console : Console) (target : String) : String :=
  if console.withTarget then
    console.styled dimCode target ++ console.styled dimCode ":" ++ " "
  else ""

def noticeText (console : Console) (dial : Dial) (notice : Notice) : String :=
  console.styled dimCode dial.timestamp ++ " " ++
    console.styled (colorCode notice.level) (levelText notice.level) ++ " " ++
    console.targetText notice.target ++ notice.message ++
    String.join (notice.fields.map (console.fieldText dial))

/-- A carriage return at the end of a line belongs to the line end. -/
def withoutReturn (line : List Char) : List Char :=
  if line.getLast? = some '\r' then line.dropLast else line

def linesOf (text : List Char) : List String :=
  (text.splitOn '\n').map fun line => String.ofList (withoutReturn line)

/-- The lines of what is shown of some notices. -/
def lines (console : Console) (dial : Dial) (notices : List Notice) : List String :=
  (notices.filter fun notice => console.level.shows notice.level).flatMap fun notice =>
    linesOf (console.noticeText dial notice).toList

/-- The text of the error of an installation after the first. -/
def alreadyInstalled : String := "a global default trace dispatcher has already been set"

/-- Whether each installation succeeds, and the console that prints from then on. -/
def install : List Console → List Bool × Option Console
  | [] => ([], none)
  | first :: rest => (true :: rest.map (fun _ => false), some first)

/-- The lines of the installed console, if there is one. -/
def installedLines (console : Option Console) (dial : Dial) (notices : List Notice) :
    List String :=
  match console with
  | none => []
  | some console => console.lines dial notices

end Console
end CheckpointSink
