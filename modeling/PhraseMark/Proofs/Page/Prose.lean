import Mathlib.Data.List.DropRight
import PhraseMark.Page.VisibleText
import PhraseMark.Proofs.History
import PhraseMark.Proofs.Page.Reading

/-!
# Visible text by recursion

The visible text is written by a loop that counts the `PRE` elements it is in. It is the text that a
recursion over the tree of the node writes, and the count says at any time how many `PRE` elements
are still to be left.
-/

namespace PhraseMark

namespace Prose

/-- Adds a character; a blank becomes a space, or nothing at the beginning and after a space or a
line end. -/
def addChar (out : List Char) (c : Char) : List Char :=
  if !Text.isBlank c then out ++ [c]
  else if out = [] ∨ out.getLast? = some ' ' ∨ out.getLast? = some '\n' then out
  else out ++ [' ']

def addText (verbatim : Bool) (out : List Char) (text : String) : List Char :=
  if verbatim then out ++ text.toList else text.toList.foldl addChar out

/-- Drops the spaces at the end and ends the line, if there is one to end. -/
def endLine (out : List Char) : List Char :=
  let line := out.rdropWhile (· == ' ')
  if line = [] ∨ line.getLast? = some '\n' then line else line ++ ['\n']

/-- Ends the line where a block begins or ends. -/
def atBlock (n : Node) (out : List Char) : List Char := if n.isBlock then endLine out else out

end Prose

namespace Tree

mutual

/-- What stands written when the tree has been added to `out`. The top of the whole tree is never
left out; `verbatim` tells whether a `PRE` element stands around the tree. -/
def prose (top verbatim : Bool) (out : List Char) : Tree → List Char
  | .node n ts =>
    match n.kind with
    | .text | .cdataSection => Prose.addText verbatim out n.value
    | .element =>
      if !top && (n.isUnrendered || n.isHidden) then out
      else Prose.atBlock n (proseAll (verbatim || n.hasTag "PRE") (Prose.atBlock n out) ts)
    | .document | .documentFragment => proseAll verbatim out ts
    | _ => out

def proseAll (verbatim : Bool) (out : List Char) : List Tree → List Char
  | [] => out
  | t :: ts => proseAll verbatim (t.prose false verbatim out) ts

end

end Tree

namespace Draft

/-- What is written, first character first. -/
def soFar (d : Draft) : List Char := d.written.reverse

theorem reverse_pushChar (written : List Char) (c : Char) :
    (pushChar written c).reverse = Prose.addChar written.reverse c := by
  unfold pushChar Prose.addChar
  cases hc : Text.isBlank c with
  | false => simp
  | true =>
      cases written with
      | nil => simp
      | cons d ds =>
          by_cases hd : d = ' ' ∨ d = '\n' <;> simp [hd]

theorem reverse_foldl_pushChar (cs written : List Char) :
    (cs.foldl pushChar written).reverse = cs.foldl Prose.addChar written.reverse := by
  induction cs generalizing written with
  | nil => rfl
  | cons c cs ih => rw [List.foldl_cons, ih, reverse_pushChar, List.foldl_cons]

theorem soFar_pushText (d : Draft) (text : String) :
    (d.pushText text).soFar = Prose.addText (decide (0 < d.preDepth)) d.soFar text := by
  unfold pushText Prose.addText
  by_cases hpre : 0 < d.preDepth
  · simp [hpre, soFar]
  · simp only [hpre, if_false, decide_false, Bool.false_eq_true, soFar, reverse_foldl_pushChar]

theorem preDepth_pushText (d : Draft) (text : String) :
    (d.pushText text).preDepth = d.preDepth := by
  unfold pushText
  split <;> rfl

theorem soFar_breakLine (d : Draft) : d.breakLine.soFar = Prose.endLine d.soFar := by
  have hline := List.rdropWhile_reverse (· == ' ') d.written
  rw [Prose.endLine, soFar, soFar, hline, breakLine]
  cases d.written.dropWhile (· == ' ') with
  | nil => rfl
  | cons c cs => by_cases hc : c = '\n' <;> simp [hc]

theorem preDepth_breakLine (d : Draft) : d.breakLine.preDepth = d.preDepth := by
  unfold breakLine
  split <;> rfl

theorem soFar_openElement (d : Draft) (n : Node) :
    (d.openElement n).soFar = Prose.atBlock n d.soFar := by
  unfold openElement Prose.atBlock
  cases n.isBlock <;> cases n.hasTag "PRE" <;>
    simp only [Bool.false_eq_true, if_true, if_false, soFar_breakLine] <;> rfl

theorem preDepth_openElement (d : Draft) (n : Node) :
    (d.openElement n).preDepth = d.preDepth + if n.hasTag "PRE" then 1 else 0 := by
  unfold openElement
  cases n.isBlock <;> cases n.hasTag "PRE" <;>
    simp only [Bool.false_eq_true, if_true, if_false, preDepth_breakLine] <;> rfl

theorem soFar_closeElement (d : Draft) (n : Node) :
    (d.closeElement n).soFar = Prose.atBlock n d.soFar := by
  unfold closeElement Prose.atBlock
  cases n.isBlock <;> cases n.hasTag "PRE" <;>
    simp only [Bool.false_eq_true, if_true, if_false, soFar_breakLine] <;> rfl

theorem preDepth_closeElement (d : Draft) (n : Node) :
    (d.closeElement n).preDepth = d.preDepth - if n.hasTag "PRE" then 1 else 0 := by
  unfold closeElement
  cases n.isBlock <;> cases n.hasTag "PRE" <;>
    simp only [Bool.false_eq_true, if_true, if_false, preDepth_breakLine] <;> rfl

/-- `d'` is the draft when `out` has been written and every `PRE` element that was gone into has
been left. -/
def Writes (d d' : Draft) (out : List Char) : Prop := d'.soFar = out ∧ d'.preDepth = d.preDepth

end Draft

/-! ## Writing trees -/

namespace Tree

variable {root : NodeId}

/-- A node is written like its prose if the trees under it are. -/
theorem writes_node {n : Node} {ts : List Tree}
    (hall : ∀ d : Draft, d.Writes (readAll (fun n => Page.visibleTurn root n.id n) ts d)
      (proseAll (decide (0 < d.preDepth)) d.soFar ts)) (d : Draft) :
    d.Writes ((node n ts).read (fun n => Page.visibleTurn root n.id n) d)
      ((node n ts).prose (n.id == root) (decide (0 < d.preDepth)) d.soFar) := by
  rw [read_node, prose, Page.visibleTurn]
  cases n.kind with
  | text => exact ⟨d.soFar_pushText _, d.preDepth_pushText _⟩
  | cdataSection => exact ⟨d.soFar_pushText _, d.preDepth_pushText _⟩
  | element =>
      by_cases hleft : (!(n.id == root) && (n.isUnrendered || n.isHidden)) = true
      · simp only [bne, hleft, if_true]
        exact ⟨rfl, rfl⟩
      · simp only [bne, hleft, Bool.false_eq_true, if_false]
        obtain ⟨hwritten, hdepth⟩ := hall (d.openElement n)
        have hverbatim : decide (0 < (d.openElement n).preDepth) =
            (decide (0 < d.preDepth) || n.hasTag "PRE") := by
          rw [Draft.preDepth_openElement]
          cases n.hasTag "PRE" <;> simp
        rw [hverbatim, Draft.soFar_openElement] at hwritten
        constructor
        · rw [Draft.soFar_closeElement, hwritten]
        · rw [Draft.preDepth_closeElement, hdepth, Draft.preDepth_openElement, Nat.add_sub_cancel]
  | document => exact hall d
  | documentFragment => exact hall d
  | _ => exact ⟨rfl, rfl⟩

theorem writes_all {ts : List Tree}
    (heach : ∀ t ∈ ts, ∀ d : Draft, d.Writes (t.read (fun n => Page.visibleTurn root n.id n) d)
      (t.prose false (decide (0 < d.preDepth)) d.soFar)) (d : Draft) :
    d.Writes (readAll (fun n => Page.visibleTurn root n.id n) ts d)
      (proseAll (decide (0 < d.preDepth)) d.soFar ts) := by
  induction ts generalizing d with
  | nil => exact ⟨rfl, rfl⟩
  | cons t ts ih =>
      obtain ⟨hwritten, hdepth⟩ := heach t List.mem_cons_self d
      obtain ⟨hrest, hdepth'⟩ := ih (fun u hu => heach u (List.mem_cons_of_mem t hu))
        (t.read (fun n => Page.visibleTurn root n.id n) d)
      rw [hdepth, hwritten] at hrest
      rw [readAll_cons, proseAll]
      exact ⟨hrest, hdepth'.trans hdepth⟩

theorem writes_of_notMem (t : Tree) (hroot : root ∉ t.ids) (d : Draft) :
    d.Writes (t.read (fun n => Page.visibleTurn root n.id n) d)
      (t.prose false (decide (0 < d.preDepth)) d.soFar) := by
  induction t using induct generalizing d with
  | step n ts ih =>
      rw [ids_node, List.mem_cons, List.mem_flatMap] at hroot
      push Not at hroot
      have htop : (n.id == root) = false := beq_eq_false_iff_ne.2 (Ne.symm hroot.1)
      rw [← htop]
      apply writes_node
      apply writes_all
      intro t ht
      exact ih t ht (hroot.2 t ht)

end Tree

namespace Page

variable {p : Page} {root : NodeId}

/-- Over the tree of the root the loop writes its prose and keeps its count. -/
theorem WellFormed.writes_tree (h : p.WellFormed) (hroot : root < p.size) (d : Draft) :
    d.Writes ((p.tree root).read (fun n => visibleTurn root n.id n) d)
      ((p.tree root).prose true (decide (0 < d.preDepth)) d.soFar) := by
  have hnodup := h.nodup_ids_tree hroot
  have hid : (p.node root).unlinked.id = root := h.id_node root hroot
  rw [h.tree_eq, Tree.ids_node, hid, List.nodup_cons] at hnodup
  have htop : ((p.node root).unlinked.id == root) = true := beq_iff_eq.2 hid
  rw [h.tree_eq, ← htop]
  apply Tree.writes_node
  apply Tree.writes_all
  -- the root does not stand below itself
  intro t ht
  apply Tree.writes_of_notMem
  intro hmem
  exact hnodup.1 (List.mem_flatMap.2 ⟨t, ht, hmem⟩)

theorem WellFormed.visibleText_prose (h : p.WellFormed) (hroot : root < p.size) :
    p.visibleText root =
      .ok (.ofList (Text.trimList Text.isBlank ((p.tree root).prose true false []))) := by
  obtain ⟨hwritten, -⟩ := h.writes_tree hroot {}
  have hstart : ({} : Draft).soFar = [] := rfl
  rw [hstart] at hwritten
  rw [h.visibleText_eq hroot, Draft.text]
  exact congrArg (fun cs => Except.ok (String.ofList (Text.trimList Text.isBlank cs))) hwritten

/-! ## Counting `PRE` elements -/

theorem preDepth_of_pass {x : NodeId} {n : Node} {d d' : Draft}
    (h : visibleTurn root x n d = .pass d') : d'.preDepth = d.preDepth := by
  unfold visibleTurn at h
  repeat' split at h
  all_goals cases h
  all_goals first | rfl | exact d.preDepth_pushText _

theorem enter_cases {x : NodeId} {n : Node} {d d' : Draft} {f : Draft → Draft}
    (h : visibleTurn root x n d = .enter d' f) :
    (d' = d.openElement n ∧ f = (·.closeElement n)) ∨ (d' = d ∧ f = fun d => d) := by
  unfold visibleTurn at h
  repeat' split at h
  all_goals cases h
  · exact .inl ⟨rfl, rfl⟩
  all_goals exact .inr ⟨rfl, rfl⟩

/-- A stack with `depth` tasks that leave a `PRE` element; its other tasks do not count. -/
inductive Counted : List (Task Draft) → Nat → Prop
  | nil : Counted [] 0
  | visit (id levels : Nat) {rest : List (Task Draft)} {depth : Nat} :
      Counted rest depth → Counted (.visit id levels :: rest) depth
  | leave {f : Draft → Draft} {rest : List (Task Draft)} {depth : Nat} :
      (∀ d, (f d).preDepth = d.preDepth) → Counted rest depth → Counted (.leave f :: rest) depth
  | leavePre {n : Node} {rest : List (Task Draft)} {depth : Nat} :
      n.hasTag "PRE" = true → Counted rest depth →
        Counted (.leave (·.closeElement n) :: rest) (depth + 1)

namespace Counted

variable {c c' : List (Task Draft) × Draft} {rest : List (Task Draft)} {depth : Nat} {n : Node}

theorem visits {ids : List NodeId} (h : Counted rest depth) (levels : Nat) :
    Counted (ids.map (.visit · levels) ++ rest) depth := by
  induction ids with
  | nil => exact h
  | cons id ids ih => exact .visit id levels ih

theorem leaveElement (h : Counted rest depth) (n : Node) :
    Counted (.leave (·.closeElement n) :: rest)
      (depth + if n.hasTag "PRE" then 1 else 0) := by
  cases hpre : n.hasTag "PRE" with
  | true => exact .leavePre hpre h
  | false =>
      refine .leave (fun d => ?_) h
      rw [Draft.preDepth_closeElement, hpre]
      rfl

theorem depth_pos (h : Counted (.leave (·.closeElement n) :: rest) depth)
    (hpre : n.hasTag "PRE" = true) : 0 < depth := by
  generalize htasks : Task.leave (·.closeElement n) :: rest = tasks at h
  cases h with
  | nil => cases htasks
  | visit => cases htasks
  | leavePre => exact Nat.succ_pos _
  | leave hkeeps _ =>
      -- what keeps the count does not close a `PRE` element
      obtain ⟨hf, -⟩ := List.cons.inj htasks
      rw [Task.leave.injEq] at hf
      have hone := hkeeps { preDepth := 1 }
      rw [← hf, Draft.preDepth_closeElement, hpre] at hone
      cases hone

theorem advance (h : Counted c.1 c.2.preDepth)
    (hturn : p.Advances (fun id n d => .ok (visibleTurn root id n d)) c c') :
    Counted c'.1 c'.2.preDepth := by
  cases hturn with
  | leave f rest d =>
      generalize hdepth : (Task.leave f :: rest, d).2.preDepth = depth at h
      cases h with
      | leave hkeeps hrest =>
          rw [← hdepth, ← hkeeps d] at hrest
          exact hrest
      | @leavePre n _ depth hpre hrest =>
          have hclosed : (d.closeElement n).preDepth = depth := by
            rw [Draft.preDepth_closeElement, hpre]
            exact congrArg (· - 1) hdepth
          exact hclosed ▸ hrest
  | pass rest _ hvisit =>
      cases h with
      | visit id levels hrest => exact preDepth_of_pass (Except.ok.inj hvisit) ▸ hrest
  | @enter id levels n d d' f rest _ hvisit =>
      cases h with
      | visit id levels hrest =>
          apply visits
          rcases enter_cases (Except.ok.inj hvisit) with ⟨rfl, rfl⟩ | ⟨rfl, rfl⟩
          · rw [Draft.preDepth_openElement]
            exact hrest.leaveElement n
          · exact .leave (fun _ => rfl) hrest

theorem leads (h : Counted c.1 c.2.preDepth)
    (hturns : p.Leads (fun id n d => .ok (visibleTurn root id n d)) c c') :
    Counted c'.1 c'.2.preDepth := by
  induction hturns with
  | refl => exact h
  | tail _ hlast ih => exact ih.advance hlast

end Counted

/-- The loop that writes the visible text of a node comes to the end of its stack. What stands
written then, without the blanks at its ends, is the visible text, and it is the prose of the tree
of the node. Whenever a `PRE` element is to be left, the count of such elements is not nought. -/
theorem visibleText_by_recursion (h : p.WellFormed) (hroot : root < p.size) :
    (∃ d, p.Leads (fun id n d => .ok (visibleTurn root id n d))
        ([.visit root (p.size + 1)], {}) ([], d) ∧
      p.visibleText root = .ok d.text ∧
      d.text = .ofList (Text.trimList Text.isBlank ((p.tree root).prose true false []))) ∧
    ∀ n rest d, p.Leads (fun id n d => .ok (visibleTurn root id n d))
        ([.visit root (p.size + 1)], {}) (.leave (·.closeElement n) :: rest, d) →
      n.hasTag "PRE" = true → 0 < d.preDepth := by
  constructor
  · refine ⟨_, h.leads_read h.reads_visibleTurn hroot (by omega) [] {}, h.visibleText_eq hroot, ?_⟩
    have htext := (h.visibleText_eq hroot).symm.trans (h.visibleText_prose hroot)
    exact Except.ok.inj htext
  · intro n rest d hturns hpre
    have hstart : Counted [.visit root (p.size + 1)] ({} : Draft).preDepth := .visit _ _ .nil
    have hcounted := hstart.leads hturns
    exact hcounted.depth_pos hpre

/-- A page with verse in a `PRE` element, a hidden element and blocks. -/
def versePage : Page :=
  [.addElement "div", .addText " one \n", .append 0 1, .addElement "pre", .append 0 2,
    .addElement "b", .append 2 3, .addText "two  \n three", .append 3 4, .addElement "p",
    .append 0 5, .addText "\t four\n\nfive  ", .append 5 6, .addElement "span", .append 0 7,
    .write 7 (·.attributes.insert "hidden" "") (·.value) (·.visible), .addText "six",
    .append 7 8].foldl perform empty

theorem visibleText_by_recursion_versePage :
    versePage.visibleText 0 = .ok "one\ntwo  \n three\nfour five" ∧
      (versePage.tree 0).prose true false [] = "one\ntwo  \n three\nfour five\n".toList := by
  obtain ⟨⟨d, -, htext, hprose⟩, -⟩ :=
    @visibleText_by_recursion versePage 0 (wellFormed_edits _) (by decide)
  have hwhole : (versePage.tree 0).prose true false [] =
      "one\ntwo  \n three\nfour five\n".toList := by decide +kernel
  rw [htext, hprose, hwhole]
  exact ⟨by decide, rfl⟩

end Page

end PhraseMark
