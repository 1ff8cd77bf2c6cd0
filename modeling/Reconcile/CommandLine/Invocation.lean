import Reconcile.CommandLine.Assignment
import Reconcile.CommandLine.Options

/-!
# Invocations

What a command line asks for: one of three commands with its options, and options that may stand
before or behind the name of the command.
-/

namespace Reconcile.CommandLine

/-- How results are written. -/
inductive Format where
  | text
  | json
  deriving DecidableEq, Repr

/-- The names of the formats. -/
def Format.names : List (String × Format) := [("text", .text), ("json", .json)]

/-- A command with its options. -/
inductive Command where
  /-- Show what an update would change. -/
  | plan (template : String) (state : Option String) (parameters : Table String) (format : Format)
  /-- Show the levels of a dependency graph. -/
  | graph (template : String) (improved : Bool) (format : Format)
  /-- Check a template and values of its parameters. -/
  | validate (template : String) (parameters : Table String) (format : Format)

/-- The files that a command reads. -/
def Command.fileNames : Command → List String
  | .plan template state _ _ => template :: state.toList
  | .graph template _ _ | .validate template _ _ => [template]

/-- What a command line asks for. -/
structure Invocation where
  command : Command
  verbose : Bool
  quiet : Bool
  /-- The configuration file. -/
  config : Option String

/-- The level of messages that are logged. -/
def Invocation.logLevel (invocation : Invocation) : String :=
  if invocation.verbose then "debug" else if invocation.quiet then "error" else "info"

/-! ### The options -/

/-- A file needs a name. -/
def refuseFile (value : String) : Option Usage := if value.isEmpty then some .invalidValue else none

/-- A format has to be known. -/
def refuseFormat (value : String) : Option Usage :=
  if (lookup value Format.names).isSome then none else some .invalidValue

/-- An assignment has to be well formed. -/
def refuseAssignment (value : String) : Option Usage :=
  match parseAssignment value with
  | .ok _ => none
  | .error _ => some .malformedValue

/-- An option that names a file. -/
def fileOption (name : String) (short : Char) : OptionRule := ⟨name, some short, .value refuseFile false⟩

/-- The option that gives a parameter its value. -/
def parameterOption : OptionRule := ⟨"parameter", some 'p', .value refuseAssignment true⟩

/-- The option that says how results are written. -/
def formatOption : OptionRule := ⟨"format", none, .value refuseFormat false⟩

/-- The options that may stand before or behind the name of a command. -/
def commonOptions : List OptionRule := [
  ⟨"verbose", some 'v', .flag⟩, ⟨"quiet", some 'q', .flag⟩, fileOption "config" 'c', ⟨"help", some 'h', .help⟩]

/-- The options before the name of a command. -/
def topOptions : List OptionRule := ⟨"version", some 'V', .version⟩ :: commonOptions

/-- The commands with their own options. -/
def commands : List (String × List OptionRule) := [
  ("plan", [fileOption "template" 't', fileOption "state" 's', parameterOption, formatOption]),
  ("graph", [fileOption "template" 't', ⟨"improved", none, .flag⟩, formatOption]),
  ("validate", [fileOption "template" 't', parameterOption, formatOption])]

/-- The version of the program. -/
def versionText : String := "0.3.2"

/-- How the commands are called. -/
def helpText : String :=
  "Plan and inspect declarative infrastructure stacks\n\n"
    ++ "  plan --template FILE [--state FILE] [--parameter KEY=VALUE]... [--format text|json]\n"
    ++ "  graph --template FILE [--improved] [--format text|json]\n"
    ++ "  validate --template FILE [--parameter KEY=VALUE]... [--format text|json]\n\n"
    ++ "Everywhere: --verbose, --quiet, --config FILE, --help"

/-! ### Reading -/

/-- The command that some options describe. -/
def Command.ofGiven (name : String) (given : Given) : Except Usage Command :=
  let format := ((given.value? "format").bind (lookup · Format.names)).getD .text
  let parameters := Table.ofList ((given.values "parameter").filterMap fun value => (parseAssignment value).toOption)
  match given.value? "template" with
  | none => .error .missingOption
  | some template =>
    match name with
    | "plan" => .ok (.plan template (given.value? "state") parameters format)
    | "graph" => .ok (.graph template (given.has "improved") format)
    | _ => .ok (.validate template parameters format)

/-- Refuse options that exclude each other. -/
def refuseConflict (given : Given) : Except Usage Unit :=
  if given.has "verbose" && given.has "quiet" then .error .conflict else .ok ()

/-- The command of a name with the arguments behind it, and all options given there. -/
def readCommand (name : String) (rules : List OptionRule) (texts : List String) : Except Usage (Command × Given) := do
  let (arguments, rest) ← Arguments.read (rules ++ commonOptions) texts {}
  if !rest.isEmpty then .error .unknownArgument
  else
    let given := (← arguments.settle).given
    refuseConflict given
    return (← Command.ofGiven name given, given)

/-- The answer to a request for help on a command. -/
def helpOn : List String → Usage
  | [] => .help
  | [name] => if (lookup name commands).isSome || name == "help" then .help else .invalidSubcommand
  | _ => .invalidSubcommand

/-- What a command line asks for. -/
def Invocation.ofArguments (texts : List String) : Except Usage Invocation := do
  let (arguments, rest) ← Arguments.read topOptions texts {}
  match rest with
  | [] =>
    let given := (← arguments.settle).given
    if given.isEmpty then .error .helpForNothing else .error .missingSubcommand
  | name :: texts =>
    match lookup name commands with
    | none =>
      if name ≠ "help" then .error .invalidSubcommand
      else if arguments.trailing then .error .unknownArgument
      else .error (helpOn texts)
    | some rules =>
      if arguments.trailing then .error .unknownArgument
      else
        let (command, inner) ← readCommand name rules texts
        let outer := (← arguments.settle).given
        refuseConflict outer
        return {
          command
          verbose := inner.has "verbose" || outer.has "verbose"
          quiet := inner.has "quiet" || outer.has "quiet"
          config := inner.value? "config" <|> outer.value? "config" }

end Reconcile.CommandLine
