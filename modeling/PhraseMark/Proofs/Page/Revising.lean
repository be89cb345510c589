import PhraseMark.Proofs.Page.Tree

/-!
# Revising trees

A revision puts trees in the places of some nodes of a tree and leaves what is not entered as it
is. One revision after another is a revision again, and what it puts in the place of a node is told
by the two. Trees are compared without the numbers of the nodes that are new in them.
-/

namespace PhraseMark

/-- The node with the number `old` if its own is not below that. -/
def Node.unnumber (old : NodeId) (n : Node) : Node := { n with id := min n.id old }

namespace Tree

variable {f g : Node → Option (List Tree)} {enters : Node → Bool} {old : NodeId}

/-- The tree with one number in the place of all numbers from `old` on. -/
def unnumber (old : NodeId) (t : Tree) : Tree :=
  t.fold (fun n ts => .node (n.unnumber old) ts)

@[simp] theorem unnumber_node (old : NodeId) (n : Node) (ts : List Tree) :
    (node n ts).unnumber old = .node (n.unnumber old) (ts.map (unnumber old)) := by
  rw [unnumber, fold_node]
  rfl

mutual

/-- The tree with the trees that `f` tells in the places of nodes and of what stands under them.
What stands under a node that is not entered stays as it is. -/
def revise (f : Node → Option (List Tree)) (enters : Node → Bool) : Tree → List Tree
  | .node n ts => (f n).getD [.node n (if enters n then reviseAll f enters ts else ts)]

def reviseAll (f : Node → Option (List Tree)) (enters : Node → Bool) : List Tree → List Tree
  | [] => []
  | t :: ts => t.revise f enters ++ reviseAll f enters ts

end

theorem reviseAll_eq_flatMap (f : Node → Option (List Tree)) (enters : Node → Bool)
    (ts : List Tree) : reviseAll f enters ts = ts.flatMap (revise f enters) := by
  induction ts with
  | nil => rfl
  | cons t ts ih => rw [reviseAll, ih, List.flatMap_cons]

@[simp] theorem revise_node (f : Node → Option (List Tree)) (enters : Node → Bool) (n : Node)
    (ts : List Tree) : (node n ts).revise f enters =
      (f n).getD [.node n (if enters n then ts.flatMap (revise f enters) else ts)] := by
  rw [revise, reviseAll_eq_flatMap]

/-- The tree revised below its top, which is entered in any case. -/
def reviseBelow (f : Node → Option (List Tree)) (enters : Node → Bool) : Tree → Tree
  | .node n ts => .node n (ts.flatMap (revise f enters))

/-- What two revisions put in the place of a node. -/
def andThen (f g : Node → Option (List Tree)) (enters : Node → Bool) (n : Node) :
    Option (List Tree) :=
  match f n with
  | some us => some (us.flatMap (revise g enters))
  | none => g n

theorem revise_revise (f g : Node → Option (List Tree)) (enters : Node → Bool) (t : Tree) :
    (t.revise f enters).flatMap (revise g enters) = t.revise (andThen f g enters) enters := by
  induction t using induct with
  | step n ts ih =>
      rw [revise_node, revise_node, andThen]
      cases f n with
      | some us => rfl
      | none =>
          rw [Option.getD_none, List.flatMap_singleton, revise_node]
          congr 2
          split
          · rw [List.flatMap_assoc, List.flatMap_congr ih]
          · rfl

theorem reviseBelow_reviseBelow (f g : Node → Option (List Tree)) (enters : Node → Bool)
    (t : Tree) : (t.reviseBelow f enters).reviseBelow g enters =
      t.reviseBelow (andThen f g enters) enters := by
  cases t with
  | node n ts =>
      rw [reviseBelow, reviseBelow, reviseBelow, List.flatMap_assoc]
      exact congrArg _ (List.flatMap_congr (fun t _ => revise_revise f g enters t))

theorem revise_eq_self (hf : ∀ n, f n = none) (t : Tree) : t.revise f enters = [t] := by
  induction t using induct with
  | step n ts ih =>
      rw [revise_node, hf, Option.getD_none, List.flatMap_congr ih, List.flatMap_singleton',
        ite_self]

theorem reviseBelow_eq_self (hf : ∀ n, f n = none) (t : Tree) : t.reviseBelow f enters = t := by
  cases t with
  | node n ts =>
      rw [reviseBelow, List.flatMap_congr (fun t _ => revise_eq_self hf t),
        List.flatMap_singleton']

/-- Revisions of texts that agree on the texts that they come to agree. -/
theorem revise_congr (hf : ∀ n : Node, n.isText = false → f n = none)
    (hg : ∀ n : Node, n.isText = false → g n = none) (t : Tree)
    (hfg : ∀ n ∈ t.texts enters, f n = g n) : t.revise f enters = t.revise g enters := by
  induction t using induct with
  | step n ts ih =>
      rw [texts_node] at hfg
      have hn : f n = g n := by
        cases htext : n.isText with
        | true =>
            apply hfg
            rw [htext]
            exact List.mem_append_left _ List.mem_cons_self
        | false => rw [hf n htext, hg n htext]
      rw [revise_node, revise_node, hn]
      congr 3
      split
      · rename_i henter
        apply List.flatMap_congr
        intro t ht
        apply ih t ht
        intro m hm
        apply hfg
        rw [henter]
        exact List.mem_append_right _ (List.mem_flatMap.2 ⟨t, ht, hm⟩)
      · rfl

theorem reviseBelow_congr (hf : ∀ n : Node, n.isText = false → f n = none)
    (hg : ∀ n : Node, n.isText = false → g n = none) (t : Tree)
    (hfg : ∀ n ∈ t.textsBelow enters, f n = g n) :
    t.reviseBelow f enters = t.reviseBelow g enters := by
  cases t with
  | node n ts =>
      rw [reviseBelow, reviseBelow]
      refine congrArg _ (List.flatMap_congr (fun t ht => revise_congr hf hg t ?_))
      exact fun m hm => hfg m (List.mem_flatMap.2 ⟨t, ht, hm⟩)

theorem graft_eq_self {f : NodeId → Option (List Tree)} (t : Tree)
    (hf : ∀ i ∈ t.ids, f i = none) : t.graft f = [t] := by
  induction t using induct with
  | step n ts ih =>
      rw [ids_node] at hf
      have hall : ts.flatMap (graft f) = ts := by
        rw [List.flatMap_congr (fun t ht => ih t ht (fun i hi => hf i ?_)), List.flatMap_singleton']
        exact List.mem_cons_of_mem _ (List.mem_flatMap.2 ⟨t, ht, hi⟩)
      rw [graft_node, hf n.id List.mem_cons_self, hall, Option.getD_none]

theorem texts_unnumber (henters : ∀ n, enters (n.unnumber old) = enters n)
    (t : Tree) : (t.unnumber old).texts enters =
      (t.texts enters).map (Node.unnumber old) := by
  induction t using induct with
  | step n ts ih =>
      have hinner : (ts.map (unnumber old)).flatMap (texts enters) =
          (ts.flatMap (texts enters)).map (Node.unnumber old) := by
        rw [List.flatMap_map, List.map_flatMap]
        exact List.flatMap_congr ih
      have htext : (n.unnumber old).isText = n.isText := rfl
      rw [unnumber_node, texts_node, texts_node, hinner, henters, htext, List.map_append]
      congr 1
      · split <;> rfl
      · split <;> rfl

theorem textsBelow_unnumber
    (henters : ∀ n, enters (n.unnumber old) = enters n) (t : Tree) :
    (t.unnumber old).textsBelow enters =
      (t.textsBelow enters).map (Node.unnumber old) := by
  cases t with
  | node n ts =>
      rw [unnumber_node, textsBelow, textsBelow, List.flatMap_map, List.map_flatMap]
      exact List.flatMap_congr (fun t _ => texts_unnumber henters t)

end Tree

end PhraseMark
