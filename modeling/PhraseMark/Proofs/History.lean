import PhraseMark.Proofs.Scan.Passes

/-!
# Histories of a page

A page is built and changed by edits, one after another, some of which may fail. Whatever the
edits are, the page stays consistent: well formed, with a root that exists, and with an index that
leads from a browser number to the last node added under it.
-/

namespace PhraseMark

namespace Page

variable {p q : Page} {id : NodeId}

/-- An edit of a page. A node that is added stands alone, a list of replacements has no repeats,
and markers get a class of one token; all else is arbitrary. -/
inductive Edit where
  | addElement (tag : String)
  | addText (value : String)
  | add (n : Node) (parentless : n.parent = none) (childless : n.children = [])
  | append (parent child : NodeId)
  | detach (id : NodeId)
  | replace (id : NodeId) (replacements : List NodeId) (nodup : replacements.Nodup)
  | setRoot (id : NodeId)
  /-- A change of what a node carries besides its links, its kind, its name and its numbers. -/
  | write (id : NodeId) (attributes : Node → Attributes) (value : Node → String)
      (visible : Node → Option Bool)
  | clear
  | mark (root : NodeId) (style : MarkStyle) (single : IsClassToken style.markerClass)
      (matcher : Matcher)

/-- The page after an edit. A failed edit leaves what it has done so far. -/
def perform (p : Page) : Edit → Page
  | .addElement tag => (p.addElement tag).2
  | .addText value => (p.addText value).2
  | .add n _ _ => (p.add n).2
  | .append parent child => (p.appendInPlace parent child).1
  | .detach id => (p.detachInPlace id).1
  | .replace id replacements _ => (p.replace id replacements).1
  | .setRoot id => (p.setRoot id).toOption.getD p
  | .write id attributes value visible =>
    (p.edit id (fun n => { n with
      attributes := attributes n, value := value n, visible := visible n })).toOption.getD p
  | .clear => empty
  | .mark root style _ matcher => (p.mark root style matcher).page

def lastWithBackend (p : Page) (b : BackendId) : Option NodeId :=
  (List.range p.size).reverse.find? (fun id => (p.node id).backendId == some b)

/-! ## The root and the index -/

/-- The root exists, if there is one, and the index leads to the last node with a number. -/
structure Anchored (p : Page) : Prop where
  root_lt : ∀ root, p.root = some root → root < p.size
  ofBackend?_eq : ∀ b, p.ofBackend? b = p.lastWithBackend b

theorem anchored_empty : empty.Anchored where
  root_lt := fun _ h => by cases h
  ofBackend?_eq := fun _ => rfl

theorem Anchored.congr (h : p.Anchored) (hsize : q.size = p.size) (hroot : q.root = p.root)
    (hindex : q.backendIndex = p.backendIndex)
    (hbackend : ∀ x, (q.node x).backendId = (p.node x).backendId) : q.Anchored where
  root_lt := fun root h' => hsize ▸ h.root_lt root (hroot ▸ h')
  ofBackend?_eq := by
    intro b
    have hlast : q.lastWithBackend b = p.lastWithBackend b := by
      simp only [lastWithBackend, hsize, hbackend]
    rw [hlast, ← h.ofBackend?_eq, ofBackend?, ofBackend?, hindex]

theorem Anchored.relinked (h : p.Anchored) (hr : Relinked p q) : q.Anchored :=
  h.congr hr.size hr.root hr.backendIndex (fun x => congrArg Node.backendId (hr.unlinked x) :)

theorem lastWithBackend_add (p : Page) (n : Node) (b : BackendId) :
    (p.add n).2.lastWithBackend b =
      if n.backendId = some b then some p.size else p.lastWithBackend b := by
  have hold : ∀ ids : List NodeId, (∀ x ∈ ids, x < p.size) →
      ids.find? (fun x => ((p.add n).2.node x).backendId == some b) =
        ids.find? (fun x => (p.node x).backendId == some b) := by
    intro ids hids
    induction ids with
    | nil => rfl
    | cons x ids ih =>
        have hne : x ≠ p.size := Nat.ne_of_lt (hids x List.mem_cons_self)
        rw [List.find?_cons, List.find?_cons, node_add, if_neg hne,
          ih (fun y hy => hids y (List.mem_cons_of_mem x hy))]
  rw [lastWithBackend, size_add, List.range_succ, List.reverse_append, List.reverse_singleton,
    List.singleton_append, List.find?_cons, node_add, if_pos rfl, hold _ (by simp)]
  by_cases hb : n.backendId = some b
  · simp [hb]
  · have hbeq : (n.backendId == some b) = false := by simpa using hb
    simp only [hbeq, hb, if_false]
    rfl

theorem ofBackend?_add (p : Page) (n : Node) (b : BackendId) :
    (p.add n).2.ofBackend? b =
      if n.backendId = some b then some p.size else p.ofBackend? b := by
  simp only [ofBackend?, add]
  cases hn : n.backendId with
  | none => simp
  | some c =>
      by_cases hb : b = c
      · simp [hb]
      · have hbeq : (b == c) = false := by simpa using hb
        simp [List.lookup_cons, hbeq, Ne.symm hb]

theorem Anchored.add (h : p.Anchored) (n : Node) : (p.add n).2.Anchored where
  root_lt := by
    intro root hroot
    rw [size_add]
    exact Nat.lt_succ_of_lt (h.root_lt root hroot)
  ofBackend?_eq := by
    intro b
    rw [ofBackend?_add, lastWithBackend_add, h.ofBackend?_eq]

theorem Anchored.addMarker (h : p.Anchored) (markerClass text : String) :
    (p.addMarker markerClass text).2.Anchored :=
  (h.add _).add _

/-! ## Single edits -/

structure Consistent (p : Page) : Prop extends WellFormed p, Anchored p

namespace Consistent

theorem relinked (h : p.Consistent) (hq : q.WellFormed) (hr : Relinked p q) : q.Consistent :=
  ⟨hq, h.toAnchored.relinked hr⟩

theorem add (h : p.Consistent) {n : Node} (hparent : n.parent = none)
    (hchildren : n.children = []) : (p.add n).2.Consistent :=
  ⟨h.toWellFormed.add hparent hchildren, h.toAnchored.add n⟩

theorem append (h : p.Consistent) {parent child : NodeId} (ha : p.append parent child = .ok q) :
    q.Consistent :=
  h.relinked (h.toWellFormed.append ha) (relinked_append ha)

theorem detach (h : p.Consistent) (hd : p.detach id = .ok q) : q.Consistent :=
  h.relinked ((h.toWellFormed.detach hd).wellFormed h.toWellFormed) (relinked_detach hd)

theorem replace (h : p.Consistent) (id : NodeId) {rs : List NodeId} (hrs : rs.Nodup) :
    (p.replace id rs).1.Consistent :=
  h.relinked (h.toWellFormed.replace id hrs) (relinked_replace p id rs)

theorem setRoot (h : p.Consistent) (hs : p.setRoot id = .ok q) : q.Consistent := by
  unfold Page.setRoot at hs
  split at hs
  · cases hs
  · rename_i n hn
    cases hs
    have hwf : WellFormed { p with root := some id } :=
      ⟨h.id_node, h.mem_children_iff, h.nodup_children, h.wellFounded⟩
    refine ⟨hwf, ?_, h.ofBackend?_eq⟩
    rintro root ⟨⟩
    exact lt_size_of_get hn

theorem modify (h : p.Consistent) (id : NodeId) {f : Node → Node}
    (hid : ∀ n, (f n).id = n.id) (hbackend : ∀ n, (f n).backendId = n.backendId)
    (hparent : ∀ n, (f n).parent = n.parent) (hchildren : ∀ n, (f n).children = n.children) :
    (p.modify id f).Consistent := by
  have hkept : ∀ {α : Type} (g : Node → α), (∀ n, g (f n) = g n) →
      ∀ x, g ((p.modify id f).node x) = g (p.node x) := by
    intro α g hg x
    rw [node_modify]
    split
    · exact hg _
    · rfl
  refine ⟨⟨?_, ?_, ?_, ?_⟩, ?_⟩
  · intro x hx
    rw [hkept Node.id hid]
    exact h.id_node x (by rwa [size_modify] at hx)
  · intro x c
    rw [hkept Node.children hchildren, hkept Node.parent hparent]
    exact h.mem_children_iff x c
  · intro x
    rw [hkept Node.children hchildren]
    exact h.nodup_children x
  · simp only [hkept Node.parent hparent]
    exact h.wellFounded
  · exact h.toAnchored.congr (size_modify p id f) rfl rfl (hkept Node.backendId hbackend)

/-! ## Passes -/

theorem addMarker (h : p.Consistent) (markerClass text : String) :
    (p.addMarker markerClass text).2.Consistent :=
  ⟨h.toWellFormed.addMarker markerClass text, h.toAnchored.addMarker markerClass text⟩

theorem addPieces (h : p.Consistent) (style : MarkStyle) (text : List Char) (cursor : Nat)
    (hits : List Pattern.Span) : (Marking.addPieces style text p cursor hits).page.Consistent :=
  Marking.addPieces_preserves (fun _ h => h.add rfl rfl)
    (fun text h => h.addMarker style.markerClass text) h text cursor hits

theorem mark (h : p.Consistent) (root : NodeId) (style : MarkStyle) (matcher : Matcher) :
    (p.mark root style matcher).page.Consistent :=
  Marking.run_preserves (fun text hits h => h.addPieces style text 0 hits)
    (fun id _ hrs h => h.replace id hrs) matcher _ _ h

/-! ## Histories -/

/-- An edit that has to succeed leaves the page as it was where it fails. -/
theorem getD_toOption (h : p.Consistent) {r : Except Fault Page}
    (hr : ∀ q, r = .ok q → q.Consistent) : (r.toOption.getD p).Consistent := by
  cases r with
  | error e => exact h
  | ok q => exact hr q rfl

theorem allOrNothing (h : p.Consistent) {r : Except Fault Page}
    (hr : ∀ q, r = .ok q → q.Consistent) : (p.allOrNothing r).1.Consistent := by
  cases r with
  | error e => exact h
  | ok q => exact hr q rfl

/-- One edit keeps a page consistent. -/
theorem perform (h : p.Consistent) (e : Edit) : (p.perform e).Consistent := by
  cases e with
  | addElement tag => exact h.add rfl rfl
  | addText value => exact h.add rfl rfl
  | add n parentless childless => exact h.add parentless childless
  | append parent child =>
      rw [Page.perform, appendInPlace_eq]
      exact h.allOrNothing (fun q hq => h.append hq)
  | detach id =>
      rw [Page.perform, detachInPlace_eq]
      exact h.allOrNothing (fun q hq => h.detach hq)
  | replace id replacements nodup => exact h.replace id nodup
  | setRoot id => exact h.getD_toOption (fun q hq => h.setRoot hq)
  | write id attributes value visible =>
      apply h.getD_toOption
      intro q hq
      obtain ⟨-, rfl⟩ := edit_eq_ok hq
      exact h.modify id (fun _ => rfl) (fun _ => rfl) (fun _ => rfl) (fun _ => rfl)
  | clear => exact ⟨wellFormed_empty, anchored_empty⟩
  | mark root style single matcher => exact h.mark root style matcher

theorem foldl_perform (h : p.Consistent) (es : List Edit) :
    (es.foldl Page.perform p).Consistent := by
  induction es generalizing p with
  | nil => exact h
  | cons e es ih => exact ih (h.perform e)

end Consistent

theorem consistent_edits (es : List Edit) : (es.foldl perform empty).Consistent :=
  Consistent.foldl_perform ⟨wellFormed_empty, anchored_empty⟩ es

theorem wellFormed_edits (es : List Edit) : (es.foldl perform empty).WellFormed :=
  (consistent_edits es).toWellFormed

/-- Whatever a page went through since it was empty, it is consistent, and all its links and its
root are places of it. -/
theorem consistent_history (es : List Edit) :
    (es.foldl perform empty).Consistent ∧
      (∀ x c, c ∈ ((es.foldl perform empty).node x).children →
        x < (es.foldl perform empty).size ∧ c < (es.foldl perform empty).size) ∧
      ∀ x c, ((es.foldl perform empty).node c).parent = some x →
        x < (es.foldl perform empty).size ∧ c < (es.foldl perform empty).size := by
  have hstart : empty.Consistent := ⟨wellFormed_empty, anchored_empty⟩
  have h := hstart.foldl_perform es
  refine ⟨h, ?_, ?_⟩
  · intro x c hc
    exact ⟨Page.lt_of_mem_children hc, h.toWellFormed.lt_of_mem_children hc⟩
  · intro x c hc
    exact ⟨h.toWellFormed.parent_lt hc, lt_of_parent hc⟩

/-- A page with a body and a line of text in it. -/
def samplePage : Page :=
  [.addElement "body", .addText "1!", .append 0 1, .setRoot 0].foldl perform empty

theorem consistent_samplePage : samplePage.Consistent :=
  consistent_edits _

theorem textsChildless_samplePage : samplePage.TextsChildless :=
  textsChildless_iff.2 (by decide)

end Page

end PhraseMark
