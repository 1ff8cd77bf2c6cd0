import Reconcile.Config.Document
import Reconcile.Json.Reader
import Reconcile.State.Document
import Reconcile.Yaml.Reader

/-!
# Files

What the commands read: templates, recorded states and configurations, by the names of the files
that hold them.  A failure says which file it is about.
-/

namespace Reconcile.CommandLine

/-- What is found under the name of a file. -/
inductive Content where
  | absent
  /-- Something that holds no text. -/
  | unreadable
  | text (text : String)

/-- The files that a command can read, by their names. -/
abbrev Files := String → Content

/-- The parts of a path, where a part for the place itself or for the one around it is resolved. -/
def pathParts (path : String) : List String :=
  ((Text.split "/" path).foldl (fun parts part =>
    if part = "" ∨ part = "." then parts
    else if part = ".." then parts.drop 1
    else part :: parts) []).reverse

/-- The files of a directory, by their paths in it and their texts.  A directory on the way to a file
holds no text. -/
def Files.ofTexts (texts : List (String × String)) : Files := fun path =>
  let parts := pathParts path
  if path.startsWith "/" then .absent
  else
    match texts.find? fun entry => pathParts entry.1 == parts with
    | some (_, text) => if path.endsWith "/" then .absent else .text text
    | none =>
      if parts.isEmpty || texts.any fun entry => parts.isPrefixOf (pathParts entry.1) then .unreadable
      else .absent

/-- Why a command failed. -/
structure Refusal where
  /-- What was being done. -/
  context : Option String := none
  failure : Failure

namespace Files

variable (files : Files)

/-- The text of a file. -/
def readText (purpose name : String) : Except Refusal String :=
  match files name with
  | .text text => .ok text
  | _ =>
    let context := "Failed to read " ++ purpose ++ name
    .error ⟨some context, .other [context, "no text under this name"]⟩

/-- The ending of the last part of a name, without its point. -/
def extension? (name : String) : Option String :=
  let last := ((Text.split "/" name).filter (!·.isEmpty)).getLastD ""
  let (ending, rest) := last.toList.reverse.span (· != '.')
  if rest.length ≤ 1 ∨ last = ".." then none else some (String.ofList ending.reverse)

/-- Whether a file is in YAML by its name. -/
def isYaml (name : String) : Bool :=
  (extension? name).any fun ending => Text.sameAsciiCase ending "yaml" || Text.sameAsciiCase ending "yml"

/-- The template that a text writes. -/
def parseTemplate (yaml : Bool) (text : String) : Except StackError Template :=
  ((do Document.template (← if yaml then Yaml.read text else Json.read text)) : Except String Template).mapError
    .templateParse

/-- The state that a text writes. -/
def parseState (text : String) : Except StackError StackState :=
  ((do Document.stackState (← Json.read text)) : Except String StackState).mapError fun reason =>
    .templateParse ("invalid stack state: " ++ reason)

/-- The template in a file. -/
def template (name : String) : Except Refusal Template := do
  let text ← readText files "template from " name
  (parseTemplate (isYaml name) text).mapError fun error =>
    ⟨some ("Failed to parse template " ++ name), .stack error⟩

/-- The state in a file, or that of a new stack. -/
def state : Option String → Except Refusal StackState
  | none => .ok .empty
  | some name => do
    let text ← readText files "stack state: " name
    (parseState text).mapError fun error => ⟨some ("Failed to parse stack state: " ++ name), .stack error⟩

/-- The configuration in a file, if there is one. -/
def config (name : String) : Except Refusal Config :=
  match files name with
  | .absent => .ok {}
  | _ => do
    let text ← readText files "config from " name
    (Config.ofText text).mapError fun failure => ⟨some ("Failed to parse config from " ++ name), failure⟩

end Files

end Reconcile.CommandLine
