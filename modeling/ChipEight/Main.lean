import ChipEight.Command.Application

/-!
# The program

Carries out the script of the command line with real files, a real clock and
standard output.  The level of the log is taken from the environment.
-/

namespace ChipEight
namespace Host

/-- A failure of the host's file system. -/
def fileError : IO.Error → FileError
  | .noFileOrDirectory _ _ _ => .notFound
  | .inappropriateType _ code _ => if code = 21 then .isDirectory else .notDirectory
  | .invalidArgument _ code details =>
    if code = 36 then .nameTooLong
    else .other (details ++ " (os error " ++ Numeral.decimal code.toNat ++ ")")
  | .permissionDenied _ code details =>
    .other (details ++ " (os error " ++ Numeral.decimal code.toNat ++ ")")
  | error => .other (toString error)

/-- Carry out an action on a file. -/
def attempt {α : Type} (action : IO α) : IO (Except FileError α) := do
  try
    let value ← action
    return .ok value
  catch error =>
    return .error (fileError error)

/-- The time since `started` in milliseconds. -/
def elapsedMs (started : Nat) : IO String := do
  let now ← IO.monoNanosNow
  let micros := (now - started) / 1000
  return Numeral.decimal (micros / 1000) ++ "."
    ++ String.ofList (Numeral.padLeft '0' 3 (Nat.toDigits 10 (micros % 1000)))

/-- Carry out a script. -/
def carryOut (threshold : LogThreshold) (started : Nat) : Script → IO UInt32
  | .exit code => return code.toUInt32
  | .emit output next => do
    IO.print (output.render threshold (← elapsedMs started))
    carryOut threshold started next
  | .read path next => do
    let content ← attempt (IO.FS.readBinFile path)
    carryOut threshold (← IO.monoNanosNow) (next (content.map (·.toList)))
  | .write path content next => do
    let done ← attempt (IO.FS.writeBinFile path ⟨content.toArray⟩)
    carryOut threshold started (next done)
  | .seed next => do
    let seed ← IO.rand 0 (2 ^ 64 - 1)
    carryOut threshold started (next (UInt64.ofNat seed))
  | .wait nanos next => do
    IO.sleep (UInt32.ofNat (nanos / 1000000))
    carryOut threshold started next

end Host
end ChipEight

open ChipEight in
/-- The command line. -/
def main (arguments : List String) : IO UInt32 := do
  let level ← IO.getEnv "RUST_LOG"
  let threshold := (level.bind LogThreshold.ofName?).getD (some .trace)
  Host.carryOut threshold (← IO.monoNanosNow) (Application.script arguments)
