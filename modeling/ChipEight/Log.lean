/-!
# Log levels

A line of the log has a level.  A log is read with a threshold: lines that are
more talkative than the threshold are left out, and with the threshold `off`
there are none.
-/

namespace ChipEight

/-- How important a line of the log is, the most important first. -/
inductive LogLevel where
  /-- The program could not do what it was asked. -/
  | error
  /-- Something is doubtful. -/
  | warn
  /-- The program says what it does. -/
  | info
  /-- The program says what happens inside. -/
  | debug
  /-- Every single instruction. -/
  | trace
deriving DecidableEq

namespace LogLevel

/-- The place of a level, the most important first. -/
def rank : LogLevel → Nat
  | error => 1
  | warn => 2
  | info => 3
  | debug => 4
  | trace => 5

/-- A level in text. -/
def name : LogLevel → String
  | error => "ERROR"
  | warn => "WARN"
  | info => "INFO"
  | debug => "DEBUG"
  | trace => "TRACE"

/-- All levels, the most important first. -/
def all : List LogLevel := [error, warn, info, debug, trace]

end LogLevel

/-- The most talkative level that is shown, or nothing at all. -/
abbrev LogThreshold := Option LogLevel

namespace LogThreshold

/-- Whether a line of the given level is shown. -/
def shows (threshold : LogThreshold) (level : LogLevel) : Bool :=
  match threshold with
  | some most => level.rank ≤ most.rank
  | none => false

/-- The threshold with the given name in any case, if it is one. -/
def ofName? (name : String) : Option LogThreshold :=
  if name.toUpper = "OFF" then some none
  else (LogLevel.all.find? fun level => level.name = name.toUpper).map some

end LogThreshold

/-- A line of the log. -/
structure LogLine where
  /-- How important the line is. -/
  level : LogLevel
  text : String
deriving DecidableEq

namespace LogLine

/-- A line of the log in text: its level, a blank and what it says. -/
def render (line : LogLine) : String :=
  line.level.name ++ " " ++ line.text

end LogLine
end ChipEight
