import Reconcile.Yaml.Node
import Reconcile.Yaml.Schema

/-!
# Reading YAML texts

The document that a YAML text describes.  Every alias is replaced by what it stands for.  An alias
inside its own node has no end, and neither it nor anything that holds it can be read.
-/

namespace Reconcile.Yaml

mutual

/-- The number of beginnings and ends of nodes in a node, aliases counted as one. -/
def Node.size : Node → Nat
  | .alias _ | .scalar _ _ _ => 1
  | .sequence _ items => sizeItems items + 2
  | .mapping _ entries => sizeEntries entries + 2

/-- The size of some nodes together. -/
def Node.sizeItems : List Node → Nat
  | [] => 0
  | item :: rest => item.size + sizeItems rest

/-- The size of the entries of a mapping together. -/
def Node.sizeEntries : List (Node × Node) → Nat
  | [] => 0
  | (key, value) :: rest => key.size + value.size + sizeEntries rest

end

/-- Reading with a limited number of aliases left to replace. -/
abbrev Replacing := StateT Nat (Except String)

/-- The document of a node, with a bound on how deep nodes and aliases may lie in each other. -/
def Node.document (anchored : Nat → Option Node) : Nat → Node → Replacing Document
  | 0, _ => return .scalar .unreadable
  | _ + 1, .scalar tag style text =>
    return underTag tag fun tag => .scalar (readings tag style text)
  | depth + 1, .alias anchor => do
    let left ← get
    if left = 0 then throw "too many aliases"
    else do
      set (left - 1)
      match anchored anchor with
      | some node => node.document anchored depth
      | none => return .scalar .unreadable
  | depth + 1, .sequence tag items => do
    let items ← items.mapM (Node.document anchored depth)
    return underTag tag fun _ => .list items
  | depth + 1, .mapping tag entries => do
    let entries ← entries.mapM fun (key, value) => do
      let key ← key.document anchored depth
      let value ← value.document anchored depth
      return (key.string.toOption, value)
    let named := entries.filterMap fun (key, value) => key.map (·, value)
    return underTag tag fun _ => if named.length = entries.length then .fields named else .scalar .unreadable

/-- The greatest depth of nodes and aliases in each other. -/
def depthLimit : Nat := 256

/-- What a text without a document stands for. -/
def nothing : Scalar := { value := some .null, text := none, absent := true, blank := true }

/-- The document that a text describes. -/
def read (text : String) : Except String Document := do
  let (node, composer) ← Compose.document.run { tokens := ← tokens text }
  match node with
  | none => return .scalar nothing
  | some node => do
    let anchored (number : Nat) : Option Node :=
      (List.lookup number composer.numbers).bind fun anchor => List.lookup anchor composer.nodes
    let (document, _) ← (node.document anchored depthLimit).run (100 * node.size)
    return document

end Reconcile.Yaml
