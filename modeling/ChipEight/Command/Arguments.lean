/-!
# Arguments of the command line

There are two commands, and each is followed by the file it is about.  The
first runs a program and has two options, each with a value; an option given
more than once has its last value, and anything may be a value, even the name
of an option.  The second lists a program and does not look at what follows.
-/

namespace ChipEight

/-- What the command line asks for. -/
inductive Command where
  /-- Run a program, with a configuration and a file for the memory image. -/
  | run (file : String) (config dump : Option String)
  /-- List a program. -/
  | list (file : String)
deriving DecidableEq

/-- Why arguments are not a command. -/
inductive UsageError where
  /-- There are no arguments. -/
  | missingCommand
  /-- An argument is missing. -/
  | missingArgument (name : String)
  /-- There is no such option. -/
  | unknownOption (option : String)
  /-- There is no such command. -/
  | unknownCommand (command : String)
deriving DecidableEq

namespace UsageError

/-- The error in words. -/
def message : UsageError → String
  | missingCommand => "missing command"
  | missingArgument name => "missing argument " ++ name
  | unknownOption option => "unknown option: " ++ option
  | unknownCommand command => "unknown command: " ++ command

end UsageError

namespace Command

/-- The option for a configuration. -/
def configOption : String := "--config"

/-- The option for a memory image. -/
def dumpOption : String := "--dump-ram"

/-- Read the options of a run, after those that have been read. -/
def parseOptions (file : String) (config dump : Option String) :
    List String → Except UsageError Command
  | [] => .ok (.run file config dump)
  | [option] =>
    if option = configOption ∨ option = dumpOption then
      .error (.missingArgument (option ++ " PATH"))
    else .error (.unknownOption option)
  | option :: value :: rest =>
    if option = configOption then parseOptions file (some value) dump rest
    else if option = dumpOption then parseOptions file config (some value) rest
    else .error (.unknownOption option)

/-- Read the arguments of the command line. -/
def parse : List String → Except UsageError Command
  | [] => .error .missingCommand
  | [_] => .error (.missingArgument "FILE")
  | command :: file :: rest =>
    if command = "run" then parseOptions file none none rest
    else if command = "dis" then .ok (.list file)
    else .error (.unknownCommand command)

end Command
end ChipEight
