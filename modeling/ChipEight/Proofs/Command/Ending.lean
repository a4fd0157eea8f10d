import Mathlib
import ChipEight.Command.Application
import ChipEight.Proofs.Command.FileTree
import ChipEight.Proofs.Loading
import ChipEight.Proofs.Run.Reading

/-!
# How the command line ends

A command can fail before its program is executed, and once more while it is.  The exit
code, what is shown and whether the image of memory is written depend on which failure
comes first: that of the arguments, then of the configuration, then of the program, then
of its size.  A fault of the program comes last.  It changes the exit code and hides
the counters, but the registers, the picture and the image are those of the machine at
the fault (`endsAsDocumented`).

Each part of the script is looked at once, by what it shows beside the log, its exit code
and the files it leaves (`Transcript.unlogged`).  `Ending` lists the five ways in which
these parts come together.
-/

namespace ChipEight

/-! ## Transcripts without the log -/

namespace Output

/-- Whether something is a line of the log. -/
def isLog : Output → Bool
  | log _ => true
  | _ => false

end Output

namespace Transcript

/-- A transcript in which the log is left out. -/
def unlogged (transcript : Transcript) : Transcript :=
  { transcript with outputs := transcript.outputs.filter (!·.isLog) }

theorem text_mem_unlogged {transcript : Transcript} {text : String} :
    .text text ∈ transcript.unlogged.outputs ↔ .text text ∈ transcript.outputs := by
  simp [unlogged, Output.isLog]

end Transcript

namespace Script

variable (given : UInt64) (tree : FileTree)

theorem unlogged_log (level : LogLevel) (text : String) (next : Script) :
    ((log level text next).runIn given tree).unlogged = (next.runIn given tree).unlogged :=
  rfl

theorem unlogged_emit (output : Output) (next : Script) :
    ((emit output next).runIn given tree).unlogged =
      { (next.runIn given tree).unlogged with
        outputs := [output].filter (!·.isLog) ++ (next.runIn given tree).unlogged.outputs } := by
  cases output <;> rfl

theorem unlogged_emitAll (outputs : List Output) (next : Script) :
    ((emitAll outputs next).runIn given tree).unlogged =
      { (next.runIn given tree).unlogged with
        outputs := outputs.filter (!·.isLog) ++ (next.runIn given tree).unlogged.outputs } := by
  induction outputs with
  | nil => rfl
  | cons output rest ih =>
      change ((emit output (emitAll rest next)).runIn given tree).unlogged = _
      rw [unlogged_emit, ih, ← List.append_assoc, ← List.filter_append, List.singleton_append]

end Script

/-! ## Configurations that are not used -/

namespace RunConfig

theorem ofDocument_of_unreadable {document : Yaml.Document} {error : Yaml.DecodeError}
    (hdecode : document.decode readPlace = .error error) :
    ofDocument document = .error (.unreadable error) := by
  rw [ofDocument, hdecode]

/-- The numbers of a configuration break one of the three bounds. -/
def BreaksBound (config : RunConfig) : Prop :=
  config.timerFrequency = 0 ∨
    2 ^ 64 ≤ config.durationMs * config.timerFrequency ∨
      2 ^ 64 ≤ config.cpuFrequency + config.timerFrequency

theorem breaksBound_iff (config : RunConfig) : config.BreaksBound ↔ config.refusal? ≠ none := by
  have hbound : wordBound = 2 ^ 64 := by decide
  rw [ne_eq, refusal?_eq_none_iff, hbound, BreaksBound]
  omega

/-- The seed of the random source: its own, or else the given one. -/
def seedOr (config : RunConfig) (given : UInt64) : UInt64 :=
  match config.machine.seed with
  | some seed => UInt64.ofNat seed
  | none => given

end RunConfig

/-- The file that a command is about. -/
def Command.file : Command → String
  | run file _ _ => file
  | list file => file

namespace Application

/-! ## What arguments and files come to -/

/-- The configuration that a run goes by: that of its file, or else the default. -/
inductive Configures (tree : FileTree) : Option String → RunConfig → Prop where
  | default : Configures tree none RunConfig.default
  | file {file : String} {bytes : List UInt8} {config : RunConfig}
      (hread : tree.read file = .ok bytes)
      (haccepted : RunConfig.ofDocument (Yaml.Document.ofOctets bytes) = .ok config) :
      Configures tree (some file) config

/-- The arguments ask for a run; its configuration and its program are read, and the
program is loaded and executed.  `dump` is the file for the image, and `run` is the run
when the execution has stopped. -/
inductive Executes (arguments : List String) (given : UInt64) (tree : FileTree) :
    (dump : Option String) → (run : Run ChaChaSource) → Prop where
  | intro {path : String} {file dump : Option String} (config : RunConfig)
      {program : List UInt8} {interpreter : Interpreter ChaChaSource}
      (hparse : Command.parse arguments = .ok (.run path file dump))
      (hconfig : Configures tree file config)
      (hread : tree.read path = .ok program)
      (hload : (Interpreter.new (ChaChaSource.ofSeed (config.seedOr given))
        config.machine.stackLimit).load program = .ok interpreter) :
      Executes arguments given tree dump (Run.execute interpreter config)

/-- The arguments are no command, or the configuration of a run breaks a bound. -/
inductive Misused (arguments : List String) (tree : FileTree) : Prop where
  | arguments (error : UsageError) (hparse : Command.parse arguments = .error error)
  | bound (path file : String) (dump : Option String) (bytes : List UInt8) (config : RunConfig)
      (hparse : Command.parse arguments = .ok (.run path (some file) dump))
      (hread : tree.read file = .ok bytes)
      (hdecode : (Yaml.Document.ofOctets bytes).decode RunConfig.readPlace = .ok config)
      (hbreaks : config.BreaksBound)

/-- A file is missing or cannot be used, or the execution ends with a fault. -/
inductive Fails (arguments : List String) (given : UInt64) (tree : FileTree) : Prop where
  | programMissing (command : Command) (error : FileError)
      (hparse : Command.parse arguments = .ok command)
      (hread : tree.read command.file = .error error)
  | configMissing (path file : String) (dump : Option String) (error : FileError)
      (hparse : Command.parse arguments = .ok (.run path (some file) dump))
      (hread : tree.read file = .error error)
  | configUnreadable (path file : String) (dump : Option String) (bytes : List UInt8)
      (error : Yaml.DecodeError)
      (hparse : Command.parse arguments = .ok (.run path (some file) dump))
      (hread : tree.read file = .ok bytes)
      (hdecode : (Yaml.Document.ofOctets bytes).decode RunConfig.readPlace = .error error)
  | programSize (path : String) (file dump : Option String) (program : List UInt8)
      (hparse : Command.parse arguments = .ok (.run path file dump))
      (hread : tree.read path = .ok program)
      (hsize : program.length = 0 ∨ 3583 < program.length)
  | fault (dump : Option String) (run : Run ChaChaSource) (fault : Fault)
      (hexecutes : Executes arguments given tree dump run) (hfault : run.fault? = some fault)

/-- Wherever the arguments want the image of memory, it can be written. -/
def TakesImage (arguments : List String) (tree : FileTree) : Prop :=
  ∀ path file dump, Command.parse arguments = .ok (.run path file (some dump)) →
    ∀ image, ∃ after, tree.write dump image = .ok after

/-! ## The parts of the script -/

/-- The text that the program shows when it is not used as it should be. -/
def usageText : String :=
  version ++ "\n" ++ usage ++ "\n"

/-- The exit code of a run that has been executed. -/
def codeOf (run : Run ChaChaSource) : UInt8 :=
  match run.fault? with
  | some _ => 1
  | none => 0

/-- What is shown of a run beside the log. -/
def shownOf (run : Run ChaChaSource) : List Output :=
  .elapsed ::
    (match run.fault? with
      | some _ => []
      | none => [.text (counters run)])
    ++ [.text run.interpreter.machine.registerReport,
        .text (run.interpreter.machine.screenReport ++ "\n")]

section Parts

variable (given : UInt64) {tree after : FileTree} {path file : String} {dump : Option String}
  {config : RunConfig} {program bytes : List UInt8}

theorem unlogged_fail_of_usage {failure : Failure} (husage : failure.showsUsage = true) :
    ((fail failure).runIn given tree).unlogged = ⟨[.text usageText], 64, tree⟩ := by
  rw [fail, husage]
  rfl

theorem unlogged_fail {failure : Failure} (hother : failure.showsUsage = false) :
    ((fail failure).runIn given tree).unlogged = ⟨[], 1, tree⟩ := by
  rw [fail, hother]
  rfl

/-! ### The configuration -/

section Configuration

variable (next : RunConfig → Script)

theorem unlogged_withConfig_missing {error : FileError} (hread : tree.read file = .error error) :
    ((withConfig file next).runIn given tree).unlogged = ⟨[], 1, tree⟩ := by
  rw [withConfig, Script.runIn, hread]
  refine unlogged_fail given ?_
  cases error <;> rfl

theorem unlogged_withConfig_unreadable {error : Yaml.DecodeError}
    (hread : tree.read file = .ok bytes)
    (hdocument : RunConfig.ofDocument (Yaml.Document.ofOctets bytes) =
      .error (.unreadable error)) :
    ((withConfig file next).runIn given tree).unlogged = ⟨[], 1, tree⟩ := by
  rw [withConfig, Script.runIn, hread]
  simp only [hdocument]
  exact unlogged_fail given rfl

theorem unlogged_withConfig_refused {refusal : ConfigRefusal}
    (hread : tree.read file = .ok bytes)
    (hdocument : RunConfig.ofDocument (Yaml.Document.ofOctets bytes) =
      .error (.refused refusal)) :
    ((withConfig file next).runIn given tree).unlogged = ⟨[.text usageText], 64, tree⟩ := by
  rw [withConfig, Script.runIn, hread]
  simp only [hdocument]
  exact unlogged_fail_of_usage given rfl

theorem unlogged_withConfig_accepted (hread : tree.read file = .ok bytes)
    (hdocument : RunConfig.ofDocument (Yaml.Document.ofOctets bytes) = .ok config) :
    ((withConfig file next).runIn given tree).unlogged =
      ((next config).runIn given tree).unlogged := by
  rw [withConfig, Script.runIn, hread]
  simp only [hdocument]
  rfl

end Configuration

/-! ### The program -/

theorem unlogged_runConfigured_missing {error : FileError}
    (hread : tree.read path = .error error) :
    ((runConfigured path dump config).runIn given tree).unlogged = ⟨[], 1, tree⟩ := by
  rw [runConfigured, Script.unlogged_log, Script.runIn, hread]
  exact unlogged_fail given rfl

theorem unlogged_runConfigured (hread : tree.read path = .ok program) :
    ((runConfigured path dump config).runIn given tree).unlogged =
      ((runWith config dump program (config.seedOr given)).runIn given tree).unlogged := by
  rw [runConfigured, Script.unlogged_log, Script.runIn, hread, RunConfig.seedOr]
  cases config.machine.seed <;> rfl

theorem unlogged_runWith_refused {seed : UInt64} {error : LoadError}
    (hload : (Interpreter.new (ChaChaSource.ofSeed seed) config.machine.stackLimit).load program =
      .error error) :
    ((runWith config dump program seed).runIn given tree).unlogged = ⟨[], 1, tree⟩ := by
  rw [runWith, hload]
  exact unlogged_fail given rfl

theorem unlogged_runWith {seed : UInt64} {interpreter : Interpreter ChaChaSource}
    (hload : (Interpreter.new (ChaChaSource.ofSeed seed) config.machine.stackLimit).load program =
      .ok interpreter) :
    ((runWith config dump program seed).runIn given tree).unlogged =
      ((present config dump (Run.execute interpreter config)).runIn given tree).unlogged := by
  rw [runWith, hload]
  rfl

/-! ### The results -/

variable (run : Run ChaChaSource)

theorem unlogged_conclude :
    ((conclude run).runIn given tree).unlogged = ⟨[], codeOf run, tree⟩ := by
  rw [conclude, codeOf]
  cases run.fault? with
  | none => rfl
  | some fault => exact unlogged_fail given rfl

theorem filter_results : (results run).filter (!·.isLog) = shownOf run := by
  have hlog : (run.log.reverse.map fun notice => Output.log notice.line).filter (!·.isLog) =
      [] := by
    simp [Output.isLog]
  rw [results, shownOf, List.filter_append, List.filter_append, List.filter_append, hlog]
  cases run.fault? <;> rfl

theorem unlogged_present_without :
    ((present config none run).runIn given tree).unlogged =
      ⟨shownOf run, codeOf run, tree⟩ := by
  rw [present, Script.runIn, Script.unlogged_emitAll, writeImage, unlogged_conclude,
    filter_results, List.append_nil]

theorem unlogged_present_with
    (hwrite : tree.write path run.interpreter.machine.memory.toList = .ok after) :
    ((present config (some path) run).runIn given tree).unlogged =
      ⟨shownOf run, codeOf run, after⟩ := by
  have himage : ((writeImage run (some path)).runIn given tree).unlogged =
      ⟨[], codeOf run, after⟩ := by
    rw [writeImage, Script.unlogged_log, Script.runIn, hwrite]
    exact unlogged_conclude given run
  rw [present, Script.runIn, Script.unlogged_emitAll, himage, filter_results, List.append_nil]

end Parts

/-! ## The script as a whole -/

section Whole

variable {arguments : List String} {given : UInt64} {tree : FileTree} {path file : String}
  {config? dump : Option String} {config : RunConfig}

theorem script_of_run (hparse : Command.parse arguments = .ok (.run path config? dump)) :
    script arguments = run path config? dump := by
  rw [script, hparse]

theorem unlogged_run_none :
    ((run path none dump).runIn given tree).unlogged =
      ((runConfigured path dump RunConfig.default).runIn given tree).unlogged :=
  rfl

theorem unlogged_run_some :
    ((run path (some file) dump).runIn given tree).unlogged =
      ((withConfig file (runConfigured path dump)).runIn given tree).unlogged :=
  rfl

theorem unlogged_run (hconfig : Configures tree config? config) :
    ((run path config? dump).runIn given tree).unlogged =
      ((runConfigured path dump config).runIn given tree).unlogged := by
  cases hconfig with
  | default => exact unlogged_run_none
  | file hread haccepted =>
      rw [unlogged_run_some]
      exact unlogged_withConfig_accepted given _ hread haccepted

/-- Misuse is found before anything else is done. -/
theorem unlogged_of_misused (hmisused : Misused arguments tree) :
    ((script arguments).runIn given tree).unlogged = ⟨[.text usageText], 64, tree⟩ := by
  cases hmisused with
  | arguments error hparse =>
      rw [script, hparse]
      exact unlogged_fail_of_usage given rfl
  | bound path file dump bytes config hparse hread hdecode hbreaks =>
      rw [script_of_run hparse, unlogged_run_some]
      rcases RunConfig.ofDocument_cases (Yaml.Document.ofOctets bytes) with
        ⟨error, hunreadable, -⟩ | ⟨other, hother, ⟨refusal, -, hrefused⟩ | ⟨hnone, -⟩⟩
      · rw [hdecode] at hunreadable
        cases hunreadable
      · exact unlogged_withConfig_refused given _ hread hrefused
      · rw [hdecode] at hother
        cases hother
        exact absurd hnone (config.breaksBound_iff.mp hbreaks)

/-- A run has a configuration, or it is misused, or it fails for its configuration. -/
theorem configures_or (hparse : Command.parse arguments = .ok (.run path config? dump)) :
    (∃ config, Configures tree config? config) ∨ Misused arguments tree ∨
      Fails arguments given tree ∧
        ((script arguments).runIn given tree).unlogged = ⟨[], 1, tree⟩ := by
  rw [script_of_run hparse]
  cases config? with
  | none => exact .inl ⟨_, .default⟩
  | some file =>
      rw [unlogged_run_some]
      cases hread : tree.read file with
      | error error =>
          exact .inr (.inr ⟨.configMissing path file dump error hparse hread,
            unlogged_withConfig_missing given _ hread⟩)
      | ok bytes =>
          rcases RunConfig.ofDocument_cases (Yaml.Document.ofOctets bytes) with
            ⟨error, hdecode, hunreadable⟩ |
            ⟨config, hdecode, ⟨refusal, hrefusal, -⟩ | ⟨-, haccepted⟩⟩
          · exact .inr (.inr ⟨.configUnreadable path file dump bytes error hparse hread hdecode,
              unlogged_withConfig_unreadable given _ hread hunreadable⟩)
          · have hbreaks : config.BreaksBound := by
              rw [config.breaksBound_iff, hrefusal]
              exact Option.some_ne_none refusal
            exact .inr (.inl (.bound path file dump bytes config hparse hread hdecode hbreaks))
          · exact .inl ⟨_, .file hread haccepted⟩

/-- A run that is executed presents its results. -/
theorem exists_present {executed : Run ChaChaSource}
    (hexecutes : Executes arguments given tree dump executed) :
    ∃ config, ((script arguments).runIn given tree).unlogged =
      ((present config dump executed).runIn given tree).unlogged := by
  cases hexecutes with
  | intro config hparse hconfig hread hload =>
      refine ⟨config, ?_⟩
      rw [script_of_run hparse, unlogged_run hconfig, unlogged_runConfigured given hread,
        unlogged_runWith given hload]

theorem unlogged_of_executes_with {executed : Run ChaChaSource} {after : FileTree}
    (hexecutes : Executes arguments given tree (some path) executed)
    (hwrite : tree.write path executed.interpreter.machine.memory.toList = .ok after) :
    ((script arguments).runIn given tree).unlogged =
      ⟨shownOf executed, codeOf executed, after⟩ := by
  obtain ⟨config, hpresent⟩ := exists_present hexecutes
  rw [hpresent, unlogged_present_with given executed hwrite]

theorem unlogged_of_executes_without {executed : Run ChaChaSource}
    (hexecutes : Executes arguments given tree none executed) :
    ((script arguments).runIn given tree).unlogged =
      ⟨shownOf executed, codeOf executed, tree⟩ := by
  obtain ⟨config, hpresent⟩ := exists_present hexecutes
  rw [hpresent, unlogged_present_without given executed]

theorem Executes.exists_parse {executed : Run ChaChaSource}
    (hexecutes : Executes arguments given tree dump executed) :
    ∃ path config?, Command.parse arguments = .ok (.run path config? dump) := by
  obtain ⟨-, hparse, -, -, -⟩ := hexecutes
  exact ⟨_, _, hparse⟩

/-- What is shown and the exit code do not depend on whether the image is written. -/
theorem exists_unlogged_of_executes (htakes : TakesImage arguments tree)
    {executed : Run ChaChaSource} (hexecutes : Executes arguments given tree dump executed) :
    ∃ after, ((script arguments).runIn given tree).unlogged =
      ⟨shownOf executed, codeOf executed, after⟩ := by
  cases dump with
  | none => exact ⟨tree, unlogged_of_executes_without hexecutes⟩
  | some path =>
      obtain ⟨source, config?, hparse⟩ := hexecutes.exists_parse
      obtain ⟨after, hwrite⟩ := htakes _ _ _ hparse executed.interpreter.machine.memory.toList
      exact ⟨after, unlogged_of_executes_with hexecutes hwrite⟩

theorem text_mem_of_executes (htakes : TakesImage arguments tree) {text : String}
    {executed : Run ChaChaSource} (hexecutes : Executes arguments given tree dump executed) :
    .text text ∈ ((script arguments).runIn given tree).outputs ↔
      .text text ∈ shownOf executed := by
  obtain ⟨after, hafter⟩ := exists_unlogged_of_executes htakes hexecutes
  rw [← Transcript.text_mem_unlogged, hafter]

/-- Misuse is found before anything is executed. -/
theorem Executes.not_misused (htakes : TakesImage arguments tree) {executed : Run ChaChaSource}
    (hexecutes : Executes arguments given tree dump executed) : ¬ Misused arguments tree := by
  intro hmisused
  obtain ⟨after, hafter⟩ := exists_unlogged_of_executes htakes hexecutes
  have hcode : 64 = codeOf executed :=
    congrArg Transcript.exitCode ((unlogged_of_misused hmisused).symm.trans hafter)
  rw [codeOf] at hcode
  cases hfault : executed.fault? <;> simp [hfault] at hcode

/-- What a transcript comes to, the log left out: misuse, a failure before the execution,
a listing, or an execution without or with an image. -/
inductive Ending (arguments : List String) (given : UInt64) (tree : FileTree) :
    Transcript → Prop where
  | misused (hmisused : Misused arguments tree) :
      Ending arguments given tree ⟨[.text usageText], 64, tree⟩
  | failed (hfails : Fails arguments given tree) : Ending arguments given tree ⟨[], 1, tree⟩
  | listed (path : String) (program : List UInt8)
      (hparse : Command.parse arguments = .ok (.list path))
      (hread : tree.read path = .ok program) :
      Ending arguments given tree ⟨[.text (Listing.text program ++ "\n")], 0, tree⟩
  | executed (run : Run ChaChaSource) (hexecutes : Executes arguments given tree none run) :
      Ending arguments given tree ⟨shownOf run, codeOf run, tree⟩
  | executedWithImage (path : String) (run : Run ChaChaSource) (after : FileTree)
      (hexecutes : Executes arguments given tree (some path) run)
      (hwrite : tree.write path run.interpreter.machine.memory.toList = .ok after) :
      Ending arguments given tree ⟨shownOf run, codeOf run, after⟩

/-- Listing a program fails only if it cannot be read. -/
theorem ending_list (hparse : Command.parse arguments = .ok (.list path)) :
    Ending arguments given tree ((script arguments).runIn given tree).unlogged := by
  rw [script, hparse]
  change Ending _ _ _ ((list path).runIn given tree).unlogged
  rw [list, Script.unlogged_log, Script.runIn]
  cases hread : tree.read path with
  | error error =>
      rw [unlogged_fail given rfl]
      exact .failed (.programMissing (.list path) error hparse hread)
  | ok program => exact .listed path program hparse hread

/-- A run with a configuration fails for its program, or is executed. -/
theorem ending_of_configures (htakes : TakesImage arguments tree)
    (hparse : Command.parse arguments = .ok (.run path config? dump))
    (hconfig : Configures tree config? config) :
    Ending arguments given tree ((script arguments).runIn given tree).unlogged := by
  cases hread : tree.read path with
  | error error =>
      rw [script_of_run hparse, unlogged_run hconfig, unlogged_runConfigured_missing given hread]
      exact .failed (.programMissing _ error hparse hread)
  | ok program =>
      cases hload : (Interpreter.new (ChaChaSource.ofSeed (config.seedOr given))
          config.machine.stackLimit).load program with
      | error error =>
          have hsize : program.length = 0 ∨ 3583 < program.length :=
            (Interpreter.exists_load_eq_error_iff _).mp ⟨error, hload⟩
          rw [script_of_run hparse, unlogged_run hconfig, unlogged_runConfigured given hread,
            unlogged_runWith_refused given hload]
          exact .failed (.programSize path config? dump program hparse hread hsize)
      | ok interpreter =>
          have hexecutes := Executes.intro config hparse hconfig hread hload
          cases dump with
          | none =>
              rw [unlogged_of_executes_without hexecutes]
              exact .executed _ hexecutes
          | some file =>
              obtain ⟨after, hwrite⟩ := htakes path config? file hparse
                (Run.execute interpreter config).interpreter.machine.memory.toList
              rw [unlogged_of_executes_with hexecutes hwrite]
              exact .executedWithImage file _ after hexecutes hwrite

/-- There is no other way to end. -/
theorem ending (htakes : TakesImage arguments tree) :
    Ending arguments given tree ((script arguments).runIn given tree).unlogged := by
  cases hparse : Command.parse arguments with
  | error error =>
      have hmisused : Misused arguments tree := .arguments error hparse
      rw [unlogged_of_misused hmisused]
      exact .misused hmisused
  | ok command =>
      cases command with
      | list path => exact ending_list hparse
      | run path config? dump =>
          rcases configures_or hparse with ⟨config, hconfig⟩ | hmisused | ⟨hfails, hfailed⟩
          · exact ending_of_configures htakes hparse hconfig
          · rw [unlogged_of_misused hmisused]
            exact .misused hmisused
          · rw [hfailed]
            exact .failed hfails

/-- Unless there is misuse, every failure ends with the same exit code. -/
theorem exitCode_of_fails (htakes : TakesImage arguments tree)
    (hused : ¬ Misused arguments tree) (hfails : Fails arguments given tree) :
    ((script arguments).runIn given tree).unlogged.exitCode = 1 := by
  cases hfails with
  | programMissing command error hparse hread =>
      cases command with
      | list path =>
          rw [Command.file] at hread
          rw [script, hparse]
          change ((list path).runIn given tree).unlogged.exitCode = 1
          rw [list, Script.unlogged_log, Script.runIn, hread, unlogged_fail given rfl]
      | run path config? dump =>
          rw [Command.file] at hread
          rcases configures_or hparse with ⟨config, hconfig⟩ | hmisused | ⟨-, hfailed⟩
          · rw [script_of_run hparse, unlogged_run hconfig,
              unlogged_runConfigured_missing given hread]
          · exact absurd hmisused hused
          · rw [hfailed]
  | configMissing path file dump error hparse hread =>
      rw [script_of_run hparse, unlogged_run_some, unlogged_withConfig_missing given _ hread]
  | configUnreadable path file dump bytes error hparse hread hdecode =>
      have hunreadable := RunConfig.ofDocument_of_unreadable hdecode
      rw [script_of_run hparse, unlogged_run_some,
        unlogged_withConfig_unreadable given _ hread hunreadable]
  | programSize path config? dump program hparse hread hsize =>
      rcases configures_or hparse with ⟨config, hconfig⟩ | hmisused | ⟨-, hfailed⟩
      · obtain ⟨error, hload⟩ := (Interpreter.exists_load_eq_error_iff (Interpreter.new
          (ChaChaSource.ofSeed (config.seedOr given)) config.machine.stackLimit)).mpr hsize
        rw [script_of_run hparse, unlogged_run hconfig, unlogged_runConfigured given hread,
          unlogged_runWith_refused given hload]
      · exact absurd hmisused hused
      · rw [hfailed]
  | fault dump run fault hexecutes hfault =>
      obtain ⟨after, hafter⟩ := exists_unlogged_of_executes htakes hexecutes
      rw [hafter]
      change codeOf run = 1
      rw [codeOf, hfault]

end Whole

/-! ## What is shown

Reports of registers, pictures, counters, listings and the usage are told apart by their
first characters. -/

section Shown

variable {arguments : List String} {given : UInt64} {tree : FileTree} {summary : Transcript}
  {run : Run ChaChaSource} {text : String}

/-- The first character of a text. -/
def opening (text : String) : Option Char :=
  text.toList.head?

theorem opening_append {first second : String} {character : Char}
    (hfirst : opening first = some character) : opening (first ++ second) = some character := by
  rw [opening] at hfirst
  rw [opening, String.toList_append, List.head?_append, hfirst]
  rfl

theorem opening_registerReport (machine : Machine) :
    opening machine.registerReport = some 'V' := by
  have hentries : opening (String.join ((List.finRange 16).map machine.registerEntry)) =
      some 'V' := by
    rw [List.finRange_succ, List.map_cons, String.join_cons, Machine.registerEntry]
    simp only [String.append_assoc]
    exact opening_append rfl
  rw [Machine.registerReport]
  simp only [String.append_assoc]
  exact opening_append hentries

theorem opening_screenReport (machine : Machine) :
    opening machine.screenReport = some (Machine.pixelChar (machine.screen.pixel 0 0)) := by
  have hline : opening (machine.screenLine 0) =
      some (Machine.pixelChar (machine.screen.pixel 0 0)) := by
    rw [Machine.screenLine, opening, String.toList_ofList]
    rfl
  rw [Machine.screenReport, List.range_succ_eq_map, List.map_cons, String.join_cons]
  exact opening_append (opening_append hline)

theorem opening_counters (run : Run ChaChaSource) : opening (counters run) = some 's' := by
  rw [counters]
  simp only [String.append_assoc]
  exact opening_append rfl

theorem opening_usageText : opening usageText = some 'C' := by
  rw [usageText]
  simp only [String.append_assoc]
  exact opening_append rfl

/-- A listing begins with the address of the first word, unless there is none. -/
theorem opening_listing (program : List UInt8) :
    opening (Listing.text program ++ "\n") = some '0' ∨
      opening (Listing.text program ++ "\n") = some '\n' := by
  have hline (rest : List String) :
      opening (String.join (Numeral.hex 4 programStart :: rest) ++ "\n") = some '0' := by
    have haddress : opening (Numeral.hex 4 programStart) = some '0' := by decide
    rw [String.join_cons]
    exact opening_append (opening_append haddress)
  rcases program with - | ⟨high, - | ⟨low, rest⟩⟩
  · right
    rfl
  · left
    exact hline _
  · left
    exact hline _

theorem text_mem_shownOf (hshown : .text text ∈ shownOf run) :
    text = run.interpreter.machine.registerReport ∨
      text = run.interpreter.machine.screenReport ++ "\n" ∨
        run.fault? = none ∧ text = counters run := by
  rw [shownOf] at hshown
  cases hfault : run.fault? with
  | some fault =>
      rw [hfault] at hshown
      simpa using hshown
  | none =>
      rw [hfault] at hshown
      simp only [List.cons_append, List.nil_append, List.mem_cons, reduceCtorEq, Output.text.injEq,
        List.not_mem_nil, or_false, false_or] at hshown
      rcases hshown with hcounters | hregisters | hscreen
      · exact .inr (.inr ⟨rfl, hcounters⟩)
      · exact .inl hregisters
      · exact .inr (.inl hscreen)

theorem results_mem_shownOf (run : Run ChaChaSource) :
    .text run.interpreter.machine.registerReport ∈ shownOf run ∧
      .text (run.interpreter.machine.screenReport ++ "\n") ∈ shownOf run := by
  simp [shownOf]

theorem counters_mem_shownOf (hfault : run.fault? = none) :
    .text (counters run) ∈ shownOf run := by
  simp [shownOf, hfault]

/-- A text that begins like neither the usage nor a listing is a result of an execution. -/
theorem exists_executes_of_mem {character : Char} (hending : Ending arguments given tree summary)
    (hshown : .text text ∈ summary.outputs) (hopening : opening text = some character)
    (hresult : character ∉ ['C', '0', '\n']) :
    ∃ dump run, Executes arguments given tree dump run ∧ .text text ∈ shownOf run := by
  cases hending with
  | misused hmisused =>
      rw [List.mem_singleton, Output.text.injEq] at hshown
      rw [hshown, opening_usageText] at hopening
      cases hopening
      exact absurd (by decide) hresult
  | failed hfails => exact absurd hshown List.not_mem_nil
  | listed path program hparse hread =>
      rw [List.mem_singleton, Output.text.injEq] at hshown
      rw [hshown] at hopening
      rcases opening_listing program with hdigit | hbreak
      · cases hopening.symm.trans hdigit
        exact absurd (by decide) hresult
      · cases hopening.symm.trans hbreak
        exact absurd (by decide) hresult
  | executed run hexecutes => exact ⟨_, run, hexecutes, hshown⟩
  | executedWithImage path run after hexecutes hwrite => exact ⟨_, run, hexecutes, hshown⟩

end Shown

/-! ## The ending -/

/-- How a transcript ends: with which exit code, with which files and with what shown. -/
structure EndsAsDocumented (arguments : List String) (given : UInt64) (tree : FileTree)
    (after : Transcript) : Prop where
  /-- Misuse comes before everything else. -/
  misused : after.exitCode = 64 ↔ Misused arguments tree
  /-- Every other failure has one exit code. -/
  failed : ¬ Misused arguments tree → (after.exitCode = 1 ↔ Fails arguments given tree)
  /-- All else is success. -/
  succeeded : ¬ Misused arguments tree → ¬ Fails arguments given tree → after.exitCode = 0
  /-- The image is all the memory at the end of the execution, with or without a fault. -/
  image (path : String) (run : Run ChaChaSource)
      (hexecutes : Executes arguments given tree (some path) run) :
    tree.write path run.interpreter.machine.memory.toList = .ok after.tree ∧
      after.tree.read path = .ok run.interpreter.machine.memory.toList ∧
        run.interpreter.machine.memory.toList.length = 4096
  /-- Without an execution that has an image, no file is written. -/
  noImage (hnone : ¬ ∃ path run, Executes arguments given tree (some path) run) :
    after.tree = tree
  /-- The registers and the picture at the end of the execution are shown. -/
  results (dump : Option String) (run : Run ChaChaSource)
      (hexecutes : Executes arguments given tree dump run) :
    .text run.interpreter.machine.registerReport ∈ after.outputs ∧
      .text (run.interpreter.machine.screenReport ++ "\n") ∈ after.outputs
  /-- Without an execution, neither registers nor a picture are shown, of any machine. -/
  resultsOnly (machine : Machine)
      (hshown : .text machine.registerReport ∈ after.outputs ∨
        .text (machine.screenReport ++ "\n") ∈ after.outputs) :
    ∃ dump run, Executes arguments given tree dump run
  /-- A fault hides the counters, and nothing else does. -/
  counters (dump : Option String) (run : Run ChaChaSource)
      (hexecutes : Executes arguments given tree dump run) :
    .text (counters run) ∈ after.outputs ↔ run.fault? = none
  /-- Counters are shown of an execution without a fault only. -/
  countersOnly (ended : Run ChaChaSource)
      (hshown : .text (Application.counters ended) ∈ after.outputs) :
    ∃ dump run, Executes arguments given tree dump run ∧ run.fault? = none

section Documented

variable {arguments : List String} {given : UInt64} {tree : FileTree} {summary : Transcript}
  {run : Run ChaChaSource} {text : String}

/-- The exit codes, read off an ending. -/
theorem exitCode_of_ending (hending : Ending arguments given tree summary) :
    summary.exitCode = 64 ∧ Misused arguments tree ∨
      summary.exitCode = 1 ∧ Fails arguments given tree ∨ summary.exitCode = 0 := by
  have hrun {dump : Option String} {run : Run ChaChaSource}
      (hexecutes : Executes arguments given tree dump run) :
      codeOf run = 1 ∧ Fails arguments given tree ∨ codeOf run = 0 := by
    rw [codeOf]
    cases hfault : run.fault? with
    | none => exact .inr rfl
    | some fault => exact .inl ⟨rfl, .fault dump run fault hexecutes hfault⟩
  cases hending with
  | misused hmisused => exact .inl ⟨rfl, hmisused⟩
  | failed hfails => exact .inr (.inl ⟨rfl, hfails⟩)
  | listed path program hparse hread => exact .inr (.inr rfl)
  | executed run hexecutes => exact .inr (hrun hexecutes)
  | executedWithImage path run after hexecutes hwrite => exact .inr (hrun hexecutes)

/-- Only an execution that has an image changes the files. -/
theorem tree_of_ending (hending : Ending arguments given tree summary)
    (hnone : ¬ ∃ path run, Executes arguments given tree (some path) run) :
    summary.tree = tree := by
  cases hending with
  | executedWithImage path run after hexecutes hwrite =>
      exact absurd ⟨path, run, hexecutes⟩ hnone
  | misused | failed | listed | executed => rfl

/-- The counters are no report of registers and no picture. -/
theorem fault?_of_counters_mem {ended : Run ChaChaSource}
    (hshown : .text (counters ended) ∈ shownOf run) : run.fault? = none := by
  have hopening := opening_counters ended
  rcases text_mem_shownOf hshown with hregisters | hscreen | ⟨hnone, -⟩
  · rw [hregisters, opening_registerReport] at hopening
    cases hopening
  · rw [hscreen, opening_append (opening_screenReport _), Machine.pixelChar] at hopening
    split at hopening <;> cases hopening
  · exact hnone

/-- Every run of the program ends as documented, if the image can be written wherever the
arguments want it. -/
theorem endsAsDocumented (htakes : TakesImage arguments tree) :
    EndsAsDocumented arguments given tree ((script arguments).runIn given tree) := by
  have hending : Ending arguments given tree ((script arguments).runIn given tree).unlogged :=
    ending htakes
  have hcode := exitCode_of_ending hending
  constructor
  case misused =>
    constructor
    · intro hexit
      rcases hcode with ⟨-, hmisused⟩ | ⟨hother, -⟩ | hother
      · exact hmisused
      · exact absurd (hexit.symm.trans hother) (by decide)
      · exact absurd (hexit.symm.trans hother) (by decide)
    · intro hmisused
      exact congrArg Transcript.exitCode (unlogged_of_misused hmisused)
  case failed =>
    intro hused
    constructor
    · intro hexit
      rcases hcode with ⟨-, hmisused⟩ | ⟨-, hfails⟩ | hother
      · exact absurd hmisused hused
      · exact hfails
      · exact absurd (hexit.symm.trans hother) (by decide)
    · exact exitCode_of_fails htakes hused
  case succeeded =>
    intro hused hworks
    rcases hcode with ⟨-, hmisused⟩ | ⟨-, hfails⟩ | hexit
    · exact absurd hmisused hused
    · exact absurd hfails hworks
    · exact hexit
  case image =>
    intro path run hexecutes
    obtain ⟨source, config?, hparse⟩ := hexecutes.exists_parse
    obtain ⟨after, hwrite⟩ := htakes _ _ _ hparse run.interpreter.machine.memory.toList
    have htree : ((script arguments).runIn given tree).tree = after :=
      congrArg Transcript.tree (unlogged_of_executes_with hexecutes hwrite)
    rw [htree]
    exact ⟨hwrite, FileTree.read_of_write hwrite, Memory.length_toList _⟩
  case noImage =>
    intro hnone
    have htree : ((script arguments).runIn given tree).unlogged.tree = tree :=
      tree_of_ending hending hnone
    exact htree
  case results =>
    intro dump run hexecutes
    rw [text_mem_of_executes htakes hexecutes, text_mem_of_executes htakes hexecutes]
    exact results_mem_shownOf run
  case resultsOnly =>
    rintro machine (hregisters | hscreen)
    · obtain ⟨dump, run, hexecutes, -⟩ := exists_executes_of_mem hending
        (Transcript.text_mem_unlogged.mpr hregisters) (opening_registerReport machine) (by decide)
      exact ⟨dump, run, hexecutes⟩
    · have hpixel : Machine.pixelChar (machine.screen.pixel 0 0) ∉ ['C', '0', '\n'] := by
        cases machine.screen.pixel 0 0 <;> decide
      obtain ⟨dump, run, hexecutes, -⟩ := exists_executes_of_mem hending
        (Transcript.text_mem_unlogged.mpr hscreen)
        (opening_append (opening_screenReport machine)) hpixel
      exact ⟨dump, run, hexecutes⟩
  case counters =>
    intro dump run hexecutes
    rw [text_mem_of_executes htakes hexecutes]
    exact ⟨fault?_of_counters_mem, counters_mem_shownOf⟩
  case countersOnly =>
    intro ended hshown
    obtain ⟨dump, run, hexecutes, hmem⟩ := exists_executes_of_mem hending
      (Transcript.text_mem_unlogged.mpr hshown) (opening_counters ended) (by decide)
    exact ⟨dump, run, hexecutes, fault?_of_counters_mem hmem⟩

/-- A program that returns with nothing on the stack, and a configuration for it. -/
def strayReturn : FileTree :=
  FileTree.ofFiles [("rom", [0x60, 0x2A, 0x00, 0xEE]), ("cfg", "max_steps: 9".toUTF8.toList)]

/-- The program ends with a fault, and its memory is written all the same. -/
theorem endsAsDocumented_strayReturn :
    TakesImage ["run", "rom", "--config", "cfg", "--dump-ram", "ram"] strayReturn ∧
      let after := (script ["run", "rom", "--config", "cfg", "--dump-ram", "ram"]).runIn 7
        strayReturn
      after.exitCode = 1 ∧ ∃ run : Run ChaChaSource,
        run.fault? = some (.stackUnderflow 0x204) ∧
          after.tree.read "ram" = .ok run.interpreter.machine.memory.toList ∧
          .text run.interpreter.machine.registerReport ∈ after.outputs ∧
          .text (counters run) ∉ after.outputs := by
  have hparse : Command.parse ["run", "rom", "--config", "cfg", "--dump-ram", "ram"] =
      .ok (.run "rom" (some "cfg") (some "ram")) := by
    decide
  have htakes : TakesImage ["run", "rom", "--config", "cfg", "--dump-ram", "ram"]
      strayReturn := by
    intro path file dump hother image
    rw [hparse] at hother
    cases hother
    refine ⟨{ strayReturn with
      files := (["ram", "work", "tmp"], image) :: strayReturn.files }, ?_⟩
    cbv
  have hread : strayReturn.read "rom" = .ok [0x60, 0x2A, 0x00, 0xEE] := by cbv
  have hfile : strayReturn.read "cfg" = .ok "max_steps: 9".toUTF8.toList := by cbv
  let config : RunConfig := { RunConfig.default with maxSteps := some 9 }
  have haccepted : RunConfig.ofDocument (Yaml.Document.ofOctets "max_steps: 9".toUTF8.toList) =
      .ok config := by
    decide +kernel
  have hfaults : ((Interpreter.new (ChaChaSource.ofSeed (config.seedOr 7))
      config.machine.stackLimit).load [0x60, 0x2A, 0x00, 0xEE]).toOption.bind
        (fun interpreter => (Run.execute interpreter config).fault?) =
      some (.stackUnderflow 0x204) := by
    decide +kernel
  cases hload : (Interpreter.new (ChaChaSource.ofSeed (config.seedOr 7))
      config.machine.stackLimit).load [0x60, 0x2A, 0x00, 0xEE] with
  | error error =>
      rw [hload] at hfaults
      cases hfaults
  | ok interpreter =>
      have hfault : (Run.execute interpreter config).fault? = some (.stackUnderflow 0x204) := by
        rwa [hload] at hfaults
      have hexecutes := Executes.intro config hparse (.file hfile haccepted) hread hload
      have hends : EndsAsDocumented _ 7 strayReturn _ := endsAsDocumented htakes
      refine ⟨htakes, ?_, _, hfault, (hends.image _ _ hexecutes).2.1,
        (hends.results _ _ hexecutes).1, ?_⟩
      · exact (hends.failed (hexecutes.not_misused htakes)).mpr (.fault _ _ _ hexecutes hfault)
      · rw [hends.counters _ _ hexecutes, hfault]
        exact Option.some_ne_none _

end Documented

end Application
end ChipEight
