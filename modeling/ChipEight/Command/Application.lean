import ChipEight.Command.Arguments
import ChipEight.Command.Script
import ChipEight.Listing
import ChipEight.Machine.Report
import ChipEight.Random.ChaCha
import ChipEight.Run.Describe
import ChipEight.Run.Read
import ChipEight.Run.Schedule

/-!
# The command line

What the program does for its arguments, as a script.  A run reads its
configuration first and the program after it; then it executes the program,
shows the counters, the registers and the picture, and writes the memory image
if it is asked to.  A fault of the program is held back until all that is done.

Arguments that are no command and configurations that break a bound end with
exit code 64 and a usage text, every other failure with exit code 1.
-/

namespace ChipEight
namespace Application

/-- The name and the version of the program. -/
def version : String := "Chip8 v0.4.0"

/-- How the program is used. -/
def usage : String :=
"
usage: chip8 CMD FILE [OPTIONS]

commands:
    run     Run the target ROM file headless, then print the display
    dis     Disassemble the target ROM into readable assembly

options:
    --config PATH     YAML run configuration
    --dump-ram PATH   Write the memory image to a file after running

examples:
    chip8 run breakout.rom
    chip8 run breakout.rom --config breakout.yaml
    chip8 dis breakout.rom
"

/-! ## Failures -/

/-- Why the program did not do what it was asked. -/
inductive Failure where
  /-- The arguments are no command. -/
  | usage (error : UsageError)
  /-- The configuration breaks a bound. -/
  | refused (refusal : ConfigRefusal)
  /-- A file cannot be read or written. -/
  | file (error : FileError)
  /-- The configuration is something that has no content. -/
  | configFile (error : FileError)
  /-- The configuration cannot be read. -/
  | config (error : Yaml.DecodeError)
  /-- The program is not loaded. -/
  | load (error : LoadError)
  /-- The program has failed. -/
  | fault (fault : Fault)
deriving DecidableEq

namespace Failure

/-- The failure in words. -/
def message : Failure → String
  | .usage error => error.message
  | .refused refusal => refusal.message
  | .file error => error.message
  | .configFile error => "invalid config: " ++ error.message
  | .config error => "invalid config: " ++ error.message
  | .load error => error.message
  | .fault cause => cause.message

/-- Whether the failure shows how the program is used. -/
def showsUsage : Failure → Bool
  | .usage _ => true
  | .refused _ => true
  | _ => false

/-- The failure of a configuration. -/
def ofConfigError : ConfigError → Failure
  | .unreadable error => .config error
  | .refused refusal => .refused refusal

/-- The failure to read the file of a configuration.  A directory can be
opened, so it fails as a configuration. -/
def ofConfigFile (error : FileError) : Failure :=
  match error with
  | .isDirectory => .configFile error
  | _ => .file error

/-- The failure as the program reports it. -/
def report (failure : Failure) : String :=
  "application error: " ++ failure.message

end Failure

/-- End with a failure. -/
def fail (failure : Failure) : Script :=
  .log .error failure.report <|
    if failure.showsUsage then
      .emit (.text (version ++ "\n" ++ usage ++ "\n")) (.exit 64)
    else .exit 1

/-! ## Listing a program -/

/-- List a program. -/
def list (path : String) : Script :=
  .log .info "running disassembler" <|
    .read path fun
      | .error error => fail (.file error)
      | .ok program => .emit (.text (Listing.text program ++ "\n")) (.exit 0)

/-! ## Running a program -/

/-- The line with the counters of a run. -/
def counters (run : Run ChaChaSource) : String :=
  "steps: " ++ Numeral.decimal run.steps ++ ", timer ticks: " ++ Numeral.decimal run.ticks
    ++ ", draws: " ++ Numeral.decimal run.draws ++ "\n"

/-- The end of a run: the fault that was held back, or success. -/
def conclude (run : Run ChaChaSource) : Script :=
  match run.fault? with
  | some fault => fail (.fault fault)
  | none => .exit 0

/-- Write the memory image, if a file for it is given. -/
def writeImage (run : Run ChaChaSource) : Option String → Script
  | none => conclude run
  | some path =>
    .log .info ("dump ram: " ++ path) <|
      .write path run.interpreter.machine.memory.toList fun
        | .error error => fail (.file error)
        | .ok () => conclude run

/-- What is shown of a run that has ended. -/
def results (run : Run ChaChaSource) : List Output :=
  run.log.reverse.map (fun notice => Output.log notice.line) ++ [.elapsed]
    ++ (match run.fault? with
        | some _ => []
        | none => [.text (counters run)])
    ++ [.text run.interpreter.machine.registerReport,
        .text (run.interpreter.machine.screenReport ++ "\n")]

/-- How long a run takes in real time: one cycle for each tick, if it keeps to
real time. -/
def realTime (config : RunConfig) (run : Run ChaChaSource) : Nat :=
  if config.throttle then run.ticks * cycleNanos config.timerFrequency else 0

/-- Show the results of a run. -/
def present (config : RunConfig) (dump : Option String) (run : Run ChaChaSource) : Script :=
  .wait (realTime config run) (.emitAll (results run) (writeImage run dump))

/-- Load a program and run it with a seed. -/
def runWith (config : RunConfig) (dump : Option String) (program : List UInt8) (seed : UInt64) :
    Script :=
  let interpreter := Interpreter.new (ChaChaSource.ofSeed seed) config.machine.stackLimit
  match interpreter.load program with
  | .error error => fail (.load error)
  | .ok interpreter =>
    .emit (.log (Notice.loaded program.length).line)
      (present config dump (Run.execute interpreter config))

/-- Run a program as a configuration says. -/
def runConfigured (path : String) (dump : Option String) (config : RunConfig) : Script :=
  .log .info ("load rom: " ++ path) <|
    .read path fun
      | .error error => fail (.file error)
      | .ok program =>
        match config.machine.seed with
        | some seed => runWith config dump program (UInt64.ofNat seed)
        | none => .seed (runWith config dump program)

/-- Read a configuration and go on with it. -/
def withConfig (path : String) (next : RunConfig → Script) : Script :=
  .read path fun
    | .error error => fail (Failure.ofConfigFile error)
    | .ok bytes =>
      match RunConfig.ofDocument (Yaml.Document.ofOctets bytes) with
      | .error error => fail (Failure.ofConfigError error)
      | .ok config =>
        .log .debug ("loaded run config: " ++ "\n".intercalate config.describe) (next config)

/-- Run a program. -/
def run (path : String) (config dump : Option String) : Script :=
  .log .info "running bytecode interpreter" <|
    match config with
    | some file => withConfig file (runConfigured path dump)
    | none => runConfigured path dump RunConfig.default

/-! ## All commands -/

/-- What the program does for its arguments. -/
def script (arguments : List String) : Script :=
  match Command.parse arguments with
  | .ok (.run path config dump) => run path config dump
  | .ok (.list path) => list path
  | .error error => fail (.usage error)

end Application
end ChipEight
