import Mathlib
import ChipEight.Command.Arguments

/-!
# The grammar of the command line

The arguments behind the file of a run are taken two at a time, from the left: the name of
an option and its value.  What is a value is never looked at, so an option may have the
name of an option as its value.  `Asks` says which arguments are a command, and which one,
and `Refused` says what is wrong with all others; both are written without the function
that reads the arguments, and `parsesExactly` identifies them with it.

Reading goes on behind any number of pairs as it began, but for the values that count by
then (`parseOptions_append`), and every list of words is pairs followed by the place where
the pairs end (`exists_pairs`).
-/

namespace ChipEight
namespace Command

/-! ## Arguments in pairs -/

/-- Options with their values, as they stand in the arguments. -/
def optionWords (pairs : List (String × String)) : List String :=
  pairs.flatMap fun (name, value) => [name, value]

/-- The name of an option. -/
def IsOption (name : String) : Prop :=
  name = "--config" ∨ name = "--dump-ram"

/-- The value that is given last for an option, if any is. -/
def lastValue? (name : String) (pairs : List (String × String)) : Option String :=
  ((pairs.filter (·.1 = name)).map (·.2)).getLast?

/-- The arguments that are a command. -/
inductive Asks : List String → Command → Prop where
  | run (file : String) (pairs : List (String × String))
      (hnames : ∀ pair ∈ pairs, IsOption pair.1) :
    Asks ("run" :: file :: optionWords pairs)
      (.run file (lastValue? "--config" pairs) (lastValue? "--dump-ram" pairs))
  | list (file : String) (rest : List String) : Asks ("dis" :: file :: rest) (.list file)

/-- The arguments that are no command, with what is wrong and its text.  Of the options of
a run, the first that is not a known name with a value is reported. -/
inductive Refused : List String → UsageError → String → Prop where
  | missingCommand : Refused [] .missingCommand "missing command"
  | missingFile (word : String) : Refused [word] (.missingArgument "FILE") "missing argument FILE"
  | unknownCommand (word file : String) (rest : List String) (hrun : word ≠ "run")
      (hlist : word ≠ "dis") :
    Refused (word :: file :: rest) (.unknownCommand word) ("unknown command: " ++ word)
  | unknownOption (file : String) (pairs : List (String × String)) (name : String)
      (rest : List String) (hnames : ∀ pair ∈ pairs, IsOption pair.1) (hname : ¬ IsOption name) :
    Refused ("run" :: file :: (optionWords pairs ++ name :: rest)) (.unknownOption name)
      ("unknown option: " ++ name)
  | missingValue (file : String) (pairs : List (String × String)) (name : String)
      (hnames : ∀ pair ∈ pairs, IsOption pair.1) (hname : IsOption name) :
    Refused ("run" :: file :: (optionWords pairs ++ [name])) (.missingArgument (name ++ " PATH"))
      ("missing argument " ++ name ++ " PATH")

/-! ## Reading pairs -/

theorem optionWords_cons (name value : String) (pairs : List (String × String)) :
    optionWords ((name, value) :: pairs) = name :: value :: optionWords pairs :=
  rfl

/-- A value in front counts only if none follows for its option. -/
theorem lastValue?_cons (wanted name value : String) (pairs : List (String × String)) :
    lastValue? wanted ((name, value) :: pairs) =
      (lastValue? wanted pairs).or (if name = wanted then some value else none) := by
  unfold lastValue?
  by_cases hname : name = wanted
  · rw [List.filter_cons_of_pos (by simpa using hname), List.map_cons, List.getLast?_cons,
      if_pos hname]
    cases ((pairs.filter (·.1 = wanted)).map (·.2)).getLast? with
    | none => rfl
    | some last => rfl
  · rw [List.filter_cons_of_neg (by simpa using hname), if_neg hname, Option.or_none]

/-- Behind some pairs, reading goes on with the values that were given last. -/
theorem parseOptions_append (file : String) (config dump : Option String)
    {pairs : List (String × String)} (hnames : ∀ pair ∈ pairs, IsOption pair.1)
    (rest : List String) :
    parseOptions file config dump (optionWords pairs ++ rest) =
      parseOptions file ((lastValue? "--config" pairs).or config)
        ((lastValue? "--dump-ram" pairs).or dump) rest := by
  induction pairs generalizing config dump with
  | nil => rfl
  | cons pair pairs ih =>
      obtain ⟨name, value⟩ := pair
      obtain ⟨hname, hrest⟩ := List.forall_mem_cons.mp hnames
      rw [optionWords_cons, List.cons_append, List.cons_append, parseOptions, lastValue?_cons,
        lastValue?_cons, Option.or_assoc, Option.or_assoc]
      rcases hname with hconfig | hdump
      · have hname : name = "--config" := hconfig
        subst hname
        exact ih (some value) dump hrest
      · have hname : name = "--dump-ram" := hdump
        subst hname
        exact ih config (some value) hrest

/-- Every list of words is made of pairs, and ends with them, or with a name without a
value, or goes on with a word that is no name. -/
theorem exists_pairs (words : List String) : ∃ pairs rest,
    words = optionWords pairs ++ rest ∧ (∀ pair ∈ pairs, IsOption pair.1) ∧
      (rest = [] ∨ (∃ name, IsOption name ∧ rest = [name]) ∨
        ∃ name more, ¬ IsOption name ∧ rest = name :: more) := by
  match words with
  | [] => exact ⟨[], [], rfl, by simp, .inl rfl⟩
  | name :: more =>
      by_cases hname : IsOption name
      · match more with
        | [] => exact ⟨[], [name], rfl, by simp, .inr (.inl ⟨name, hname, rfl⟩)⟩
        | value :: later =>
            obtain ⟨pairs, rest, rfl, hnames, hend⟩ := exists_pairs later
            exact ⟨(name, value) :: pairs, rest, rfl, List.forall_mem_cons.mpr ⟨hname, hnames⟩,
              hend⟩
      · exact ⟨[], name :: more, rfl, by simp, .inr (.inr ⟨name, more, hname, rfl⟩)⟩

/-! ## The three ends of the options -/

section Ends

variable (file : String) (config dump : Option String) {name : String}

theorem parseOptions_of_isOption (hname : IsOption name) :
    parseOptions file config dump [name] = .error (.missingArgument (name ++ " PATH")) := by
  rw [parseOptions]
  exact if_pos hname

theorem parseOptions_of_not_isOption (hname : ¬ IsOption name) (rest : List String) :
    parseOptions file config dump (name :: rest) = .error (.unknownOption name) := by
  obtain ⟨hconfig, hdump⟩ := not_or.mp hname
  cases rest with
  | nil =>
      rw [parseOptions]
      exact if_neg hname
  | cons value rest =>
      rw [parseOptions]
      exact (if_neg hconfig).trans (if_neg hdump)

end Ends

/-! ## Whole command lines -/

theorem parse_of_asks {arguments : List String} {command : Command}
    (hasks : Asks arguments command) : parse arguments = .ok command := by
  cases hasks with
  | run file pairs hnames =>
      have hread := parseOptions_append file none none hnames []
      rw [List.append_nil, Option.or_none, Option.or_none] at hread
      exact hread
  | list file rest => rfl

theorem parse_of_refused {arguments : List String} {error : UsageError} {text : String}
    (hrefused : Refused arguments error text) :
    parse arguments = .error error ∧ error.message = text := by
  cases hrefused with
  | missingCommand => exact ⟨rfl, rfl⟩
  | missingFile word => exact ⟨rfl, by decide⟩
  | unknownCommand word file rest hrun hlist =>
      exact ⟨(if_neg hrun).trans (if_neg hlist), rfl⟩
  | unknownOption file pairs name rest hnames hname =>
      exact ⟨(parseOptions_append file none none hnames _).trans
        (parseOptions_of_not_isOption file _ _ hname rest), rfl⟩
  | missingValue file pairs name hnames hname =>
      exact ⟨(parseOptions_append file none none hnames _).trans
        (parseOptions_of_isOption file _ _ hname), String.append_assoc.symm⟩

/-- Arguments are a command, or something is wrong with them. -/
theorem asks_or_refused (arguments : List String) :
    (∃ command, Asks arguments command) ∨ ∃ error text, Refused arguments error text := by
  match arguments with
  | [] => exact .inr ⟨_, _, .missingCommand⟩
  | [word] => exact .inr ⟨_, _, .missingFile word⟩
  | word :: file :: rest =>
      by_cases hrun : word = "run"
      · subst hrun
        obtain ⟨pairs, last, rfl, hnames, rfl | ⟨name, hname, rfl⟩ | ⟨name, more, hname, rfl⟩⟩ :=
          exists_pairs rest
        · rw [List.append_nil]
          exact .inl ⟨_, .run file pairs hnames⟩
        · exact .inr ⟨_, _, .missingValue file pairs name hnames hname⟩
        · exact .inr ⟨_, _, .unknownOption file pairs name more hnames hname⟩
      · by_cases hlist : word = "dis"
        · subst hlist
          exact .inl ⟨_, .list file rest⟩
        · exact .inr ⟨_, _, .unknownCommand word file rest hrun hlist⟩

/-- The arguments that are read as a command are those that ask for it, and every other
list of arguments is refused with the error that belongs to it. -/
theorem parsesExactly (arguments : List String) :
    (∀ command, parse arguments = .ok command ↔ Asks arguments command) ∧
      ∀ error text, parse arguments = .error error ∧ error.message = text ↔
        Refused arguments error text := by
  rcases asks_or_refused arguments with ⟨command, hasks⟩ | ⟨error, text, hrefused⟩
  · have hparse := parse_of_asks hasks
    refine ⟨fun other => ⟨fun hother => ?_, parse_of_asks⟩,
      fun error text => ⟨fun ⟨herror, _⟩ => ?_, parse_of_refused⟩⟩
    · rw [hparse] at hother
      cases hother
      exact hasks
    · rw [hparse] at herror
      cases herror
  · obtain ⟨hparse, hmessage⟩ := parse_of_refused hrefused
    refine ⟨fun command => ⟨fun hcommand => ?_, parse_of_asks⟩,
      fun other text => ⟨fun ⟨hother, htext⟩ => ?_, parse_of_refused⟩⟩
    · rw [hparse] at hcommand
      cases hcommand
    · rw [hparse] at hother
      cases hother
      rw [← htext, hmessage]
      exact hrefused

/-- The name of an option as a value, an option given twice, and a name at the end. -/
example : parse ["run", "a", "--config", "--dump-ram", "--config", "b", "--dump-ram"] =
    .error (.missingArgument "--dump-ram PATH") := by
  decide

end Command
end ChipEight
