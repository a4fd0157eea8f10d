import ChipEight.Command.FileTree
import ChipEight.Log

/-!
# Scripts

A script is what a program does with the world: it writes lines, reads and
writes files, asks for a seed, waits, and ends with an exit code.  How the
world answers is not part of the script, so that one script can be carried out
by a host with real files as well as in a tree of files that is a value.
-/

namespace ChipEight

/-- Something that is shown. -/
inductive Output where
  /-- A line of the log. -/
  | log (line : LogLine)
  /-- A text, with its line breaks. -/
  | text (text : String)
  /-- How long the program has run in real time. -/
  | elapsed
deriving DecidableEq

namespace Output

/-- Something as it is shown; `elapsed` is the time in milliseconds. -/
def render (threshold : LogThreshold) (elapsedMs : String) : Output → String
  | .log line => if threshold.shows line.level then line.render ++ "\n" else ""
  | .text shown => shown
  | .elapsed => "time taken: " ++ elapsedMs ++ "ms\n"

end Output

/-- What a program does, step by step. -/
inductive Script where
  /-- End with an exit code. -/
  | exit (code : UInt8)
  /-- Show something. -/
  | emit (output : Output) (next : Script)
  /-- Read a file. -/
  | read (path : String) (next : Except FileError (List UInt8) → Script)
  /-- Write a file. -/
  | write (path : String) (content : List UInt8) (next : Except FileError Unit → Script)
  /-- Ask for a random seed. -/
  | seed (next : UInt64 → Script)
  /-- Wait. -/
  | wait (nanos : Nat) (next : Script)

namespace Script

/-- Show several things. -/
def emitAll (outputs : List Output) (next : Script) : Script :=
  outputs.foldr emit next

/-- Write a line of the log. -/
def log (level : LogLevel) (text : String) (next : Script) : Script :=
  emit (.log ⟨level, text⟩) next

end Script

/-! ## Carrying out a script among given files -/

/-- What a script leaves behind. -/
structure Transcript where
  /-- What has been shown. -/
  outputs : List Output
  /-- The exit code. -/
  exitCode : UInt8
  /-- The files. -/
  tree : FileTree

namespace Transcript

/-- Everything that has been shown, as one text. -/
def text (transcript : Transcript) (threshold : LogThreshold) (elapsedMs : String) : String :=
  String.join (transcript.outputs.map (·.render threshold elapsedMs))

/-- A line without the carriage return that may belong to its line break. -/
def dropReturn (line : String) : String :=
  if line.endsWith "\r" then String.ofList line.toList.dropLast else line

/-- The lines of a text.  A line break at the end begins no further line. -/
def linesOf (text : String) : List String :=
  let lines := text.splitOn "\n"
  let last := lines.getLastD ""
  lines.dropLast.map dropReturn ++ (if last = "" then [] else [last])

/-- Everything that has been shown, line by line. -/
def lines (transcript : Transcript) (threshold : LogThreshold) (elapsedMs : String) :
    List String :=
  linesOf (transcript.text threshold elapsedMs)

end Transcript

namespace Script

/-- Carry out a script among given files; a script that asks for a seed gets the
given one. -/
def runIn (given : UInt64) : Script → FileTree → Transcript
  | exit code, tree => ⟨[], code, tree⟩
  | emit output next, tree =>
    let transcript := next.runIn given tree
    { transcript with outputs := output :: transcript.outputs }
  | read path next, tree => (next (tree.read path)).runIn given tree
  | write path content next, tree =>
    match tree.write path content with
    | .ok tree => (next (.ok ())).runIn given tree
    | .error error => (next (.error error)).runIn given tree
  | seed next, tree => (next given).runIn given tree
  | wait _ next, tree => next.runIn given tree

end Script
end ChipEight
