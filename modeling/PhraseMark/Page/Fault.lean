/-!
# Faults of page operations

Why an edit, a walk or a reading of a page was refused, and how each is worded.
-/

namespace PhraseMark

/-- Nodes are named by their place in the page. -/
abbrev NodeId := Nat

/-- What is wrong with a snapshot. -/
inductive SnapshotDefect where
  | missingRoot
  | missingBackendId
  | missingKind
  deriving DecidableEq, Repr

/-- Why an operation on a page failed. -/
inductive Fault where
  | nodeNotFound (id : NodeId)
  | invalidKind (code : Nat)
  | detached (id : NodeId)
  | hierarchyRequest (id : NodeId)
  | missingBody
  | malformedSnapshot (defect : SnapshotDefect)
  | notJson
  | tooDeep (depth limit : Nat)
  deriving DecidableEq, Repr

def SnapshotDefect.message : SnapshotDefect → String
  | missingRoot => "Missing 'root' in CDP response"
  | missingBackendId => "Missing backendNodeId"
  | missingKind => "Missing nodeType"

def Fault.message : Fault → String
  | nodeNotFound id => "Node not found: " ++ Nat.repr id
  | invalidKind code => "Invalid node type: expected valid NodeType, got " ++ Nat.repr code
  | detached id => "Node " ++ Nat.repr id ++ " is detached from the tree"
  | hierarchyRequest id =>
    "Node " ++ Nat.repr id ++ " cannot be inserted there (it would contain its own parent)"
  | missingBody => "Document has no body element"
  | malformedSnapshot defect => "Malformed DOM snapshot: " ++ defect.message
  | notJson => "Parse error"
  | tooDeep depth limit =>
    "Maximum tree depth exceeded: " ++ Nat.repr depth ++ " > " ++ Nat.repr limit

end PhraseMark
