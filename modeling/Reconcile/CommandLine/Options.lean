import Reconcile.Text.Scan

/-!
# Options

Arguments of a command are read by the options that it knows.  A long option is written `--name`,
a short one `-n`, and short ones may share a dash.  The value of an option follows it, after an
equals sign or as an argument of its own.  What follows `--` is no option.
-/

namespace Reconcile.CommandLine

/-- Why a command line does not say what to do, or that it asks for help instead. -/
inductive Usage where
  | help
  | version
  /-- There are no arguments, so help is given. -/
  | helpForNothing
  | missingSubcommand
  | invalidSubcommand
  | unknownArgument
  /-- A value is missing, empty, or none of those that are known. -/
  | invalidValue
  /-- A value is not of the form that is expected. -/
  | malformedValue
  /-- An option without a value is given one. -/
  | needlessValue
  /-- Options exclude each other, or one is given twice. -/
  | conflict
  | missingOption
  deriving DecidableEq, Repr

namespace Usage

/-- Whether help was asked for. -/
def isWanted : Usage → Bool
  | .help | .version => true
  | _ => false

/-- The exit code after a command line that is not carried out. -/
def exitCode (usage : Usage) : Nat := if usage.isWanted then 0 else 2

/-- What is wrong with a command line, or what is shown instead of carrying it out. -/
def message : Usage → String
  | .help | .version | .helpForNothing => ""
  | .missingSubcommand => "a command is required"
  | .invalidSubcommand => "unknown command"
  | .unknownArgument => "unexpected argument"
  | .invalidValue => "a value is missing or not one of those that are possible"
  | .malformedValue => "a value is not of the form KEY=VALUE"
  | .needlessValue => "a value is given to an option that has none"
  | .conflict => "options exclude each other, or one is given twice"
  | .missingOption => "the option --template is required"

end Usage

/-- What an option does. -/
inductive OptionKind where
  | help
  | version
  /-- It is given or not. -/
  | flag
  /-- It has a value, which may be refused. -/
  | value (refuse? : String → Option Usage) (repeatable : Bool)

/-- An option that a command knows. -/
structure OptionRule where
  name : String
  short : Option Char := none
  kind : OptionKind

/-- Options as they are given, in order, with the values of those that have one. -/
abbrev Given := List (String × String)

namespace Given

/-- Whether an option is given. -/
def has (given : Given) (name : String) : Bool := given.any (·.1 == name)

/-- The values that an option is given. -/
def values (given : Given) (name : String) : List String := (given.filter (·.1 == name)).map (·.2)

/-- The value of an option. -/
def value? (given : Given) (name : String) : Option String := (given.values name).getLast?

end Given

/-- An option whose value is an argument of its own, which may still be missing. -/
structure Pending where
  rule : OptionRule
  value : Option String := none

/-- Arguments, of which some have been read. -/
structure Arguments where
  given : Given := []
  pending : Option Pending := none
  /-- Whether `--` came before. -/
  trailing : Bool := false

namespace Arguments

variable (rules : List OptionRule)

/-- Take an option with its value. -/
def enter (rule : OptionRule) (value : String) (arguments : Arguments) : Except Usage Arguments :=
  let entered := { arguments with given := arguments.given ++ [(rule.name, value)] }
  match rule.kind with
  | .help => .error .help
  | .version => .error .version
  | .flag => if arguments.given.has rule.name then .error .conflict else .ok entered
  | .value refuse? repeatable =>
    if !repeatable && arguments.given.has rule.name then .error .conflict
    else
      match refuse? value with
      | some usage => .error usage
      | none => .ok entered

/-- Take the option whose value was waited for. -/
def settle (arguments : Arguments) : Except Usage Arguments :=
  match arguments.pending with
  | none => .ok arguments
  | some { rule, value := some value } => enter rule value { arguments with pending := none }
  | some { value := none, .. } => .error .invalidValue

/-- Whether the next argument may be the value of an option. -/
def expects (arguments : Arguments) : Bool :=
  !arguments.trailing && arguments.pending.any fun pending => pending.value.isNone

/-- Take an option; the value of one that needs it may be attached. -/
def takeOption (rule : OptionRule) (attached : Option String) (arguments : Arguments) :
    Except Usage Arguments := do
  let arguments ← arguments.settle
  match rule.kind, attached with
  | .value _ _, none => return { arguments with pending := some { rule } }
  | _, attached => arguments.enter rule (attached.getD "")

/-- Take a long option, as it is written after its dashes. -/
def takeLong (text : String) (arguments : Arguments) : Except Usage Arguments :=
  let (name, attached) :=
    match Text.splitOnce '=' text with
    | some (name, value) => (name, some value)
    | none => (text, none)
  match rules.find? (·.name == name) with
  | none => .error .unknownArgument
  | some rule =>
    match rule.kind, attached with
    | .value _ _, attached => arguments.takeOption rule attached
    | _, some _ => .error .needlessValue
    | _, none => arguments.takeOption rule none

/-- Take the short options behind one dash; the rest behind one that has a value is that value. -/
def takeShorts : List Char → Arguments → Except Usage Arguments
  | [], arguments => .ok arguments
  | c :: rest, arguments =>
    match rules.find? (·.short == some c) with
    | none => .error .unknownArgument
    | some rule =>
      match rule.kind with
      | .value _ _ =>
        let attached :=
          match rest with
          | [] => none
          | '=' :: rest => some (String.ofList rest)
          | rest => some (String.ofList rest)
        arguments.takeOption rule attached
      | _ => do takeShorts rest (← arguments.takeOption rule none)

/-- Read arguments up to the first that is neither an option nor the value of one; it and what
follows it are the rest. -/
def read : List String → Arguments → Except Usage (Arguments × List String)
  | [], arguments => .ok (arguments, [])
  | text :: rest, arguments =>
    let takeValue : Arguments :=
      { arguments with pending := arguments.pending.map fun pending => { pending with value := some text } }
    if arguments.trailing then .ok (arguments, text :: rest)
    else
      match text.toList with
      | ['-', '-'] => read rest { arguments with trailing := true }
      | '-' :: '-' :: name => do read rest (← takeLong rules (String.ofList name) arguments)
      | '-' :: c :: shorts => do read rest (← takeShorts rules (c :: shorts) arguments)
      | _ => if arguments.expects then read rest takeValue else .ok (arguments, text :: rest)

end Arguments

end Reconcile.CommandLine
