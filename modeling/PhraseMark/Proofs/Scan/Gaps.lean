import PhraseMark.Proofs.Pattern.Leftmost
import PhraseMark.Proofs.Scan.Seams

/-!
# Marks in a text

What passes have left of the text of one text node is told by its marks, the places of the hits in
markers. A pass that comes after other passes looks for hits in every gap between marks, and it
leaves the fragment of the old marks together with its own. So several passes can be compared mark
by mark, without the pieces that each of them saw.
-/

namespace PhraseMark

open Pattern
open Text (OccursAt)

namespace Pattern

variable {a b c : Nat} {s : Span} {xs ys hits : List Span}

/-- Spans between two places that are not empty, in order and apart. -/
def Between : Nat → Nat → List Span → Prop
  | a, b, [] => a ≤ b
  | a, b, s :: rest => a ≤ s.start ∧ s.start < s.stop ∧ Between s.stop b rest

namespace Between

theorem le (h : Between a b hits) : a ≤ b := by
  induction hits generalizing a with
  | nil => exact h
  | cons s rest ih =>
      obtain ⟨hstart, hlt, hrest⟩ := h
      have hle := ih hrest
      omega

theorem bounds (h : Between a b hits) (hs : s ∈ hits) :
    a ≤ s.start ∧ s.start < s.stop ∧ s.stop ≤ b := by
  induction hits generalizing a with
  | nil => cases hs
  | cons t rest ih =>
      obtain ⟨hstart, hlt, hrest⟩ := h
      rcases List.mem_cons.1 hs with rfl | hs
      · exact ⟨hstart, hlt, hrest.le⟩
      · have hbounds := ih hrest hs
        omega

theorem pairwise (h : Between a b hits) : hits.Pairwise (fun s t => s.stop ≤ t.start) := by
  induction hits generalizing a with
  | nil => exact .nil
  | cons s rest ih =>
      obtain ⟨-, -, hrest⟩ := h
      exact .cons (fun t ht => (hrest.bounds ht).1) (ih hrest)

theorem of_pairwise (hab : a ≤ b)
    (hbounds : ∀ s ∈ hits, a ≤ s.start ∧ s.start < s.stop ∧ s.stop ≤ b)
    (hapart : hits.Pairwise (fun s t => s.stop ≤ t.start)) : Between a b hits := by
  induction hits generalizing a with
  | nil => exact hab
  | cons s rest ih =>
      obtain ⟨hstart, hlt, hstop⟩ := hbounds s List.mem_cons_self
      obtain ⟨hnext, hapart⟩ := List.pairwise_cons.1 hapart
      refine ⟨hstart, hlt, ih hstop ?_ hapart⟩
      intro t ht
      exact ⟨hnext t ht, (hbounds t (List.mem_cons_of_mem s ht)).2⟩

theorem append (hxs : Between a s.start xs) (hlt : s.start < s.stop)
    (hys : Between s.stop b ys) : Between a b (xs ++ s :: ys) := by
  induction xs generalizing a with
  | nil => exact ⟨hxs, hlt, hys⟩
  | cons x xs ih =>
      obtain ⟨hstart, hx, hxs⟩ := hxs
      exact ⟨hstart, hx, ih hxs⟩

theorem shift (h : Between a b hits) (n : Nat) :
    Between (n + a) (n + b) (hits.map (Span.shift n)) := by
  induction hits generalizing a with
  | nil => exact Nat.add_le_add_left h n
  | cons s rest ih =>
      obtain ⟨hstart, hlt, hrest⟩ := h
      exact ⟨Nat.add_le_add_left hstart n, Nat.add_lt_add_left hlt n, ih hrest⟩

/-- Spans in order are told by which spans they are. -/
theorem eq_of_perm (hxs : Between a b xs) (hys : Between a b ys) (hperm : xs.Perm ys) :
    xs = ys := by
  apply List.Perm.eq_of_pairwise _ hxs.pairwise hys.pairwise hperm
  intro s t hs ht hst hts
  have hlt := (hxs.bounds hs).2.1
  have hlt' := (hys.bounds ht).2.1
  omega

end Between

/-! ## Filling gaps -/

/-- Spans with further ones in all their gaps from `cursor` on; `inside` tells those between two
places. -/
def fill (inside : Nat → Nat → List Span) (stop : Nat) : Nat → List Span → List Span
  | cursor, [] => inside cursor stop
  | cursor, s :: rest => inside cursor s.start ++ s :: fill inside stop s.stop rest

variable {inside : Nat → Nat → List Span} {stop : Nat}

theorem between_fill (hinside : ∀ a b, a ≤ b → b ≤ stop → Between a b (inside a b))
    (h : Between a stop hits) : Between a stop (fill inside stop a hits) := by
  induction hits generalizing a with
  | nil => exact hinside a stop h (Nat.le_refl stop)
  | cons s rest ih =>
      obtain ⟨hstart, hlt, hrest⟩ := h
      have hle := hrest.le
      exact (hinside a s.start hstart (by omega)).append hlt (ih hrest)

theorem sublist_fill (inside : Nat → Nat → List Span) (stop a : Nat) (hits : List Span) :
    hits.Sublist (fill inside stop a hits) := by
  induction hits generalizing a with
  | nil => exact List.nil_sublist _
  | cons s rest ih => exact ((ih s.stop).cons_cons s).trans (List.sublist_append_right _ _)

theorem mem_fill (h : Between a stop hits) (hs : s ∈ fill inside stop a hits) :
    s ∈ hits ∨ ∃ b c, b ≤ c ∧ c ≤ stop ∧ s ∈ inside b c := by
  induction hits generalizing a with
  | nil => exact .inr ⟨a, stop, h, Nat.le_refl stop, hs⟩
  | cons t rest ih =>
      obtain ⟨hstart, hlt, hrest⟩ := h
      have hle := hrest.le
      rcases List.mem_append.1 hs with hs | hs
      · exact .inr ⟨a, t.start, hstart, by omega, hs⟩
      · rcases List.mem_cons.1 hs with rfl | hs
        · exact .inl List.mem_cons_self
        · exact (ih hrest hs).imp_left (List.mem_cons_of_mem t)

/-- Where every gap takes in one span at most, two new ones have an old one between them. -/
theorem exists_between_of_mem_fill (hinside : ∀ a b, a ≤ b → b ≤ stop → Between a b (inside a b))
    (hone : ∀ a b, (inside a b).length ≤ 1) (h : Between a stop hits) {t : Span}
    (hs : s ∈ fill inside stop a hits) (ht : t ∈ fill inside stop a hits) (hsold : s ∉ hits)
    (htold : t ∉ hits) (hst : s ≠ t) :
    ∃ u ∈ hits, (s.stop ≤ u.start ∧ u.stop ≤ t.start) ∨ (t.stop ≤ u.start ∧ u.stop ≤ s.start) := by
  have hsame : ∀ {b c x y}, x ∈ inside b c → y ∈ inside b c → x = y := by
    intro b c x y hx hy
    have hlen := hone b c
    generalize inside b c = l at hx hy hlen
    rcases l with _ | ⟨z, _ | ⟨z', l⟩⟩
    · cases hx
    · rw [List.mem_singleton.1 hx, List.mem_singleton.1 hy]
    · simp at hlen
  induction hits generalizing a with
  | nil => exact absurd (hsame hs ht) hst
  | cons u rest ih =>
      obtain ⟨hstart, hlt, hrest⟩ := h
      have hle := hrest.le
      have hfirst : ∀ {x}, x ∈ inside a u.start → x.stop ≤ u.start := fun hx =>
        ((hinside a u.start hstart (by omega)).bounds hx).2.2
      have hlater : ∀ {x}, x ∈ fill inside stop u.stop rest → u.stop ≤ x.start := fun hx =>
        ((between_fill hinside hrest).bounds hx).1
      -- a new span lies before the first old one or behind it
      have hcases : ∀ {x}, x ∈ fill inside stop a (u :: rest) → x ∉ u :: rest →
          x ∈ inside a u.start ∨ x ∈ fill inside stop u.stop rest := by
        intro x hx hold
        rcases List.mem_append.1 hx with hx | hx
        · exact .inl hx
        · rcases List.mem_cons.1 hx with rfl | hx
          · exact absurd List.mem_cons_self hold
          · exact .inr hx
      rcases hcases hs hsold with hs | hs <;> rcases hcases ht htold with ht | ht
      · exact absurd (hsame hs ht) hst
      · exact ⟨u, List.mem_cons_self, .inl ⟨hfirst hs, hlater ht⟩⟩
      · exact ⟨u, List.mem_cons_self, .inr ⟨hfirst ht, hlater hs⟩⟩
      · obtain ⟨v, hv, hbetween⟩ := ih hrest hs ht (mt (List.mem_cons_of_mem u) hsold)
          (mt (List.mem_cons_of_mem u) htold)
        exact ⟨v, List.mem_cons_of_mem u hv, hbetween⟩

end Pattern

namespace Marking

variable {style : MarkStyle} {matcher : Matcher} {cs : List Char} {a b : Nat}
  {hits marks : List Span}

/-! ## Marks of a pass -/

/-- The fragment with the given marks, if there are any. -/
def cutAt (cs : List Char) : List Span → Option (List Piece)
  | [] => none
  | hits => some (fragmentFrom cs 0 hits)

theorem cutAt_of_ne_nil (cs : List Char) (h : hits ≠ []) :
    cutAt cs hits = some (fragmentFrom cs 0 hits) := by
  cases hits with
  | nil => exact absurd rfl h
  | cons s rest => rfl

theorem fragment_eq_cutAt (style : MarkStyle) (matcher : Matcher) (n : Node) :
    fragment style matcher n = cutAt n.value.toList (selected style matcher n.value) := by
  rw [fragment]
  cases selected style matcher n.value <;> rfl

/-- What a pass makes of a piece. -/
def recut (style : MarkStyle) (matcher : Matcher) : Piece → List Piece
  | .plain text => (cutAt text.toList (selected style matcher text)).getD [.plain text]
  | .hit text => [.hit text]

/-- The hits of a part of a text that a pass marks, with their places in the text. -/
def hitsIn (style : MarkStyle) (matcher : Matcher) (cs : List Char) (a b : Nat) : List Span :=
  (selected style matcher (.ofList (Span.slice ⟨a, b⟩ cs))).map (Span.shift a)

/-- The marks of a text after a pass that finds it with the given marks. -/
def addMarks (style : MarkStyle) (matcher : Matcher) (cs : List Char) (marks : List Span) :
    List Span :=
  fill (hitsIn style matcher cs) cs.length 0 marks

theorem length_slice (hb : b ≤ cs.length) : (Span.slice ⟨a, b⟩ cs).length = b - a := by
  rw [Span.slice, List.length_take, List.length_drop]
  simp only
  omega

theorem between_selected (hlawful : Lawful matcher) (style : MarkStyle) (text : String) :
    Between 0 text.toList.length (selected style matcher text) := by
  apply Between.of_pairwise (Nat.zero_le _) ?_ (pairwise_selected hlawful style text)
  intro s hs
  obtain ⟨hmem, hlt⟩ := mem_selected hs
  exact ⟨Nat.zero_le _, hlt, (hlawful.bounds text s hmem).2⟩

theorem between_hitsIn (hlawful : Lawful matcher) (style : MarkStyle) (hab : a ≤ b)
    (hb : b ≤ cs.length) : Between a b (hitsIn style matcher cs a b) := by
  have h := (between_selected hlawful style (.ofList (Span.slice ⟨a, b⟩ cs))).shift a
  rwa [String.toList_ofList, length_slice hb, Nat.add_zero, Nat.add_sub_cancel' hab] at h

theorem between_addMarks (hlawful : Lawful matcher) (style : MarkStyle)
    (h : Between 0 cs.length marks) : Between 0 cs.length (addMarks style matcher cs marks) :=
  between_fill (fun _ _ hab hb => between_hitsIn hlawful style hab hb) h

theorem addMarks_nil (style : MarkStyle) (matcher : Matcher) (text : String) :
    addMarks style matcher text.toList [] = selected style matcher text := by
  have hslice : Span.slice ⟨0, text.toList.length⟩ text.toList = text.toList := by
    simp [Span.slice]
  have hshift : Span.shift 0 = id := by
    funext s
    simp [Span.shift]
  rw [addMarks, fill, hitsIn, hslice, hshift, List.map_id, String.ofList_toList]

/-! ## Pieces of a text with marks -/

theorem fragmentFrom_drop (cs : List Char) (a cursor : Nat) (hits : List Span) :
    fragmentFrom (cs.drop a) cursor hits =
      fragmentFrom cs (a + cursor) (hits.map (Span.shift a)) := by
  have hslice : ∀ s : Span, s.slice (cs.drop a) = (s.shift a).slice cs := by
    intro s
    rw [Span.slice, Span.slice, List.drop_drop, Span.shift, Nat.add_sub_add_left]
  induction hits generalizing cursor with
  | nil => rw [fragmentFrom, List.map_nil, fragmentFrom, List.drop_drop]
  | cons s rest ih =>
      rw [fragmentFrom, List.map_cons, fragmentFrom, ih, hslice, hslice]
      rfl

/-- The pieces before a hit are those of the text before it. -/
theorem fragmentFrom_append {s : Span} {cursor : Nat} (h : Between cursor s.start hits)
    (rest : List Span) :
    fragmentFrom cs cursor (hits ++ s :: rest) =
      fragmentFrom (cs.take s.start) cursor hits ++
        .hit (.ofList (s.slice cs)) :: fragmentFrom cs s.stop rest := by
  have hslice : ∀ t : Span, t.stop ≤ s.start → t.slice (cs.take s.start) = t.slice cs := by
    intro t ht
    rw [Span.slice, Span.slice, List.drop_take, List.take_take, Nat.min_eq_left (by omega)]
  induction hits generalizing cursor with
  | nil =>
      rw [List.nil_append, fragmentFrom, fragmentFrom, List.drop_take]
      rfl
  | cons t hits ih =>
      obtain ⟨hstart, hlt, hrest⟩ := h
      have hle := hrest.le
      rw [List.cons_append, fragmentFrom, fragmentFrom, ih hrest, hslice t hle,
        hslice ⟨cursor, t.start⟩ (by simp only; omega), List.append_assoc, List.cons_append]

theorem flatMap_recut_plainPiece (hlawful : Lawful matcher) (ds : List Char) :
    (plainPiece ds).flatMap (recut style matcher) =
      fragmentFrom ds 0 (selected style matcher (.ofList ds)) := by
  by_cases hds : ds = []
  · subst hds
    have hnone : selected style matcher (.ofList []) = [] := by
      apply List.eq_nil_iff_forall_not_mem.2
      intro s hs
      have hbounds := (between_selected hlawful style (.ofList [])).bounds hs
      rw [String.toList_ofList, List.length_nil] at hbounds
      omega
    rw [hnone]
    rfl
  · rw [plainPiece, if_neg hds, List.flatMap_singleton, recut, String.toList_ofList]
    cases hhits : selected style matcher (.ofList ds) with
    | nil => rw [cutAt, Option.getD_none, fragmentFrom, List.drop_zero, plainPiece, if_neg hds]
    | cons s rest => rfl

/-- A pass leaves the fragment of the old marks together with those that it adds in the gaps. -/
theorem flatMap_recut (hlawful : Lawful matcher) {cursor : Nat}
    (h : Between cursor cs.length hits) :
    (fragmentFrom cs cursor hits).flatMap (recut style matcher) =
      fragmentFrom cs cursor (fill (hitsIn style matcher cs) cs.length cursor hits) := by
  induction hits generalizing cursor with
  | nil =>
      have hslice : Span.slice ⟨cursor, cs.length⟩ cs = cs.drop cursor := by
        rw [Span.slice, List.take_of_length_le]
        rw [List.length_drop]
      rw [fragmentFrom, flatMap_recut_plainPiece hlawful, fragmentFrom_drop, fill, hitsIn, hslice,
        Nat.add_zero]
  | cons s rest ih =>
      obtain ⟨hstart, hlt, hrest⟩ := h
      have hle := hrest.le
      -- what lies before the first mark is a text of its own to the pass
      have hgap : Span.slice ⟨cursor, s.start⟩ cs = (cs.take s.start).drop cursor := by
        rw [Span.slice, List.drop_take]
      have hinside := between_hitsIn hlawful style hstart (show s.start ≤ cs.length by omega)
      rw [fragmentFrom, List.flatMap_append, List.flatMap_cons, ih hrest, recut,
        flatMap_recut_plainPiece hlawful, fill, fragmentFrom_append hinside, hitsIn]
      rw [hgap, fragmentFrom_drop, Nat.add_zero]
      rfl

end Marking

end PhraseMark
