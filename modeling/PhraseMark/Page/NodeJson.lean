import PhraseMark.Json.Reader
import PhraseMark.Json.Record
import PhraseMark.Page.Node

/-!
# Nodes as JSON

A node is written as an object with all its fields. Reading takes the same object, or an array
of the fields in order; fields that may be absent may also be left out of the object.
-/

namespace PhraseMark.Node

def fieldNames : List String :=
  ["node_id", "backend_node_id", "node_type", "parent_id", "children_ids", "node_name",
    "node_value", "attributes", "is_visible"]

def shape : Json.Shape := .record (fieldNames.map (·, .whole))

/-- Node ids and browser numbers are below this. -/
def idBound : Nat := Nat.pow 2 32

def optionalId : Option Nat → Json
  | none => .null
  | some n => .natural n

def optionalBool : Option Bool → Json
  | none => .null
  | some b => .bool b

/-- The JSON of a node whose attributes are written in the order of the entries. -/
def toJsonOf (entries : List (String × String)) (n : Node) : Json :=
  .object
    [("node_id", .natural n.id),
      ("backend_node_id", optionalId (n.backendId.map (·.toNat))),
      ("node_type", .string n.kind.name),
      ("parent_id", optionalId n.parent),
      ("children_ids", .array (n.children.map .natural)),
      ("node_name", .string n.name),
      ("node_value", .string n.value),
      ("attributes", .object (entries.map (fun e => (e.1, .string e.2)))),
      ("is_visible", optionalBool n.visible)]

def toJson (n : Node) : Json := n.toJsonOf n.attributes.entries

def attributes? : Json → Option Attributes
  | .object members =>
    (members.mapM (fun (m : String × Json) => m.2.str?.map (m.1, ·))).map Attributes.ofList
  | _ => none

def id? : Json → Option Nat := Json.below? idBound

def ofFields? : List (Option Json) → Option Node
  | [id, backendId, kind, parent, children, name, value, attributes, visible] => do
    let backendId ← Json.withDefault? (Json.optional? id?) none backendId
    return {
      id := ← Json.required? id? id
      backendId := backendId.map (·.toUInt32)
      kind := ← Json.required? (Json.choice? NodeKind.ofName?) kind
      parent := ← Json.withDefault? (Json.optional? id?) none parent
      children := ← Json.required? (Json.listOf? id?) children
      name := ← Json.required? Json.str? name
      value := ← Json.required? Json.str? value
      attributes := ← Json.required? attributes? attributes
      visible := ← Json.withDefault? (Json.optional? Json.bool?) none visible }
  | _ => none

def ofJson? (j : Json) : Option Node := (j.completeFields? fieldNames).bind ofFields?

def ofText? (text : String) : Option Node := (Json.ofText? shape text).bind ofJson?

end PhraseMark.Node
