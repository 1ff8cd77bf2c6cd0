import Reconcile.CommandLine.Files
import Reconcile.CommandLine.Invocation
import Reconcile.Json.Printer
import Reconcile.Provider.InMemory
import Reconcile.Stack

/-!
# Commands

What the commands print.  No command changes anything: a plan is made with providers in memory,
which are only asked what a reference to a resource stands for.
-/

namespace Reconcile.CommandLine

/-- What a command prints, and why it fails if it does. -/
structure Printout where
  printed : String := ""
  refusal : Option Refusal := none

/-- The exit code of a command. -/
def Printout.exitCode (printout : Printout) : Nat := if printout.refusal.isNone then 0 else 1

/-- The configuration file below the home directory that is read when none is named. -/
def usualConfig : String := ".stackwright/config.toml"

/-- Lines of text. -/
def lines (texts : List String) : String := String.join (texts.map (· ++ "\n"))

/-! ### Plans -/

/-- The mark of a line on a change, and a remark behind it. -/
def changeMarks : Operation → String × String
  | .create => ("+", "")
  | .maybeUpdate => ("?", " (depends on changed resources)")
  | _ => ("~", "")

/-- The line on a step of a patch. -/
def stepLine (step : PatchStep) : String :=
  let verb :=
    match step with
    | .add _ _ => "add"
    | .remove _ => "remove"
    | .replace _ _ => "replace"
  "      " ++ verb ++ " " ++ pointer step.path

/-- The lines on a change. -/
def changeLines (change : PlannedChange) : List String :=
  let (mark, remark) := changeMarks change.operation
  ("  " ++ mark ++ " " ++ change.logicalId ++ " (" ++ change.type ++ ")" ++ remark) :: change.patch.map stepLine

/-- Lines under a heading, if there are any. -/
def underHeading (heading : String) (texts : List String) : List String :=
  if texts.isEmpty then [] else heading :: texts

/-- The lines on a plan. -/
def planLines (plan : Plan) : List String :=
  underHeading "Conditions:" (plan.conditions.entries.map fun (name, value) => "  " ++ name ++ ": " ++ boolText value)
    ++ underHeading "Assets:"
      (plan.assets.entries.map fun (id, exist) => "  " ++ id ++ ": " ++ if exist then "published" else "missing")
    ++ if plan.isEmpty then ["No changes."]
      else
        underHeading "Changes:" (plan.changes.flatMap changeLines)
          ++ underHeading "Deletions:" (plan.deletions.map ("  - " ++ ·))

/-- Providers that handle every type in memory. -/
def localProviders : Providers Memory :=
  Registry.registerDefault {} fun _ => InMemory.provider { store := "", suffix := InMemory.counted }

/-- The plan of the update of a stack. -/
def plan (config : Config) (template : Template) (state : StackState) (parameters : Table String)
    (format : Format) : Printout :=
  let stack : Stack Memory := { config, providers := localProviders, state }
  match stack.plan template parameters with
  | .error error => { refusal := some { failure := .stack error } }
  | .ok plan =>
    match format with
    | .json => { printed := lines [plan.toJson.pretty] }
    | .text => { printed := lines (planLines plan) }

/-! ### Graphs -/

/-- The levels of a graph with the nodes that a template declares. -/
def graph (template : Template) (improved : Bool) (format : Format) : Printout :=
  let leveled : Except StackError (Graph × Leveling) := do
    let graph ← template.acyclicGraph
    return (graph, ← graph.level improved)
  match leveled with
  | .error error => { refusal := some { failure := .stack error } }
  | .ok (graph, leveling) =>
    let levels := leveling.levels.mapIdx fun i ids => (toString (i + 1), ids)
    match format with
    | .json =>
      let report := Json.object [
        ("levels", .object (levels.map fun (number, ids) => (number, .strings ids))),
        ("dependencies", .ofFields (graph.adjacency.map fun (id, targets) => (id, .strings targets)))]
      { printed := lines [report.pretty] }
    | .text =>
      { printed := lines (levels.map fun (number, ids) =>
          "Level " ++ number ++ ": " ++ String.intercalate ", " ids) }

/-! ### Validation -/

/-- The check of a template and of values of its parameters. -/
def validate (config : Config) (name : String) (template : Template) (parameters : Table String)
    (format : Format) : Printout :=
  let checked : Except StackError Inputs := do
    let _ ← template.acyclicGraph
    template.validateInputs parameters config
  let error? :=
    match checked with
    | .ok _ => none
    | .error error => some error
  let warnings := if template.resources.isEmpty then ["Template declares no resources"] else []
  let counts := [("resources", template.resources.size), ("parameters", template.parameters.size),
    ("conditions", template.conditions.size), ("rules", template.rules.size)]
  let printed :=
    match format with
    | .json =>
      let report := Json.object <|
        ("valid", .bool error?.isNone) :: counts.map (fun (what, count) => (what, .nat count))
          ++ [("errors", .strings (error?.toList.map StackError.message)), ("warnings", .strings warnings)]
      [report.pretty]
    | .text =>
      let counted := counts.map fun (what, count) => toString count ++ " " ++ (what.dropEnd 1).toString ++ "(s)"
      warnings.map ("⚠ " ++ ·)
        ++ if error?.isNone then ["✓ " ++ name ++ " is valid: " ++ String.intercalate ", " counted] else []
  { printed := lines printed, refusal := error?.map fun error => { failure := .stack error } }

/-! ### Invocations -/

/-- The configuration of an invocation: that of a file, changed by the environment. -/
def Invocation.loadConfig (invocation : Invocation) (files : Files) (usual : String)
    (environment : String → Option String) : Except Refusal Config := do
  let config := (← files.config (invocation.config.getD usual)).override environment
  config.validate.mapError fun error => { failure := .stack error }
  return config

/-- What an invocation prints; `usual` names the configuration file that is read when none is named. -/
def Invocation.run (invocation : Invocation) (files : Files) (usual : String)
    (environment : String → Option String) : Printout :=
  let made : Except Refusal Printout := do
    let config ← invocation.loadConfig files usual environment
    match invocation.command with
    | .plan name state parameters format => do
      let template ← files.template name
      let state ← files.state state
      return plan config template state parameters format
    | .graph name improved format => return graph (← files.template name) improved format
    | .validate name parameters format => return validate config name (← files.template name) parameters format
  match made with
  | .ok printout => printout
  | .error refusal => { refusal := some refusal }

end Reconcile.CommandLine
