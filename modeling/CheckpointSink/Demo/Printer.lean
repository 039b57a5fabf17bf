import CheckpointSink.Console
import CheckpointSink.Session.Script

/-!
A session whose events are printed as they occur, between the lines of the program that drives it.
-/

namespace CheckpointSink.Demo

open CheckpointSink.Settlement

/-- How lines look: the texts of everything that is measured, and whether styles are shown. -/
structure Screen where
  dial : Dial
  duration : String
  rate : String
  ansi : Bool

def Screen.console (screen : Screen) (level : Level) : Console :=
  { Console.ofLevel level with ansi := screen.ansi }

structure Printer (ε : Type) where
  screen : Screen
  level : Level
  session : Session ε
  /-- The newest line first. -/
  printed : List String

namespace Printer

variable {ε : Type}

def print (printer : Printer ε) (lines : List String) : Printer ε :=
  { printer with printed := lines.reverse ++ printer.printed }

def notice (printer : Printer ε) (notice : Notice) : Printer ε :=
  printer.print ((printer.screen.console printer.level).lines printer.screen.dial [notice])

/-- Prints the events that the session has entered, the oldest first. -/
def flush (printer : Printer ε) : Printer ε :=
  let events := printer.session.timeline.ledger.entries.reverse.filterMap Entry.event?
  let lines :=
    (printer.screen.console printer.level).lines printer.screen.dial (events.map Event.notice)
  { printer with session := printer.session.clear }.print lines

def act (printer : Printer ε) (step : SessionStep ε) : SessionReport × Printer ε :=
  let stepped := printer.session.step step
  (stepped.1, { printer with session := stepped.2 }.flush)

def actAll (printer : Printer ε) (steps : List (SessionStep ε)) : Printer ε :=
  steps.foldl (fun printer step => (printer.act step).2) printer

def lines (printer : Printer ε) : List String :=
  printer.printed.reverse

end Printer
end CheckpointSink.Demo
