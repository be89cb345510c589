import Mathlib.Data.List.Infix
import PhraseMark.Proofs.Pattern.Literals

/-!
# Hits taken from the left

The hits of a text taken as a pattern are its occurrences up to case, each the first one that
begins behind the hit before it. Such hits are fixed by the occurrences. They can be found part by
part: where no occurrence reaches over a gap, the hits before the gap are those of the text before
it, and the hits behind it are found from its end on.
-/

namespace PhraseMark

namespace Text

variable {ks cs : List Char} {a i n : Nat}

/-- A text stands at a place of another one, if case is folded. -/
def OccursAt (ks cs : List Char) (i : Nat) : Prop :=
  ks.map simpleFold <+: (cs.drop i).map simpleFold

instance (ks cs : List Char) : DecidablePred (OccursAt ks cs) :=
  fun _ => inferInstanceAs (Decidable (_ <+: _))

theorem OccursAt.le_length (h : OccursAt ks cs i) (hks : ks ≠ []) : i + ks.length ≤ cs.length := by
  have hlen := h.length_le
  have hpos := List.length_pos_iff.2 hks
  rw [List.length_map, List.length_map, List.length_drop] at hlen
  omega

theorem occursAt_drop (ks cs : List Char) (a i : Nat) :
    OccursAt ks (cs.drop a) i ↔ OccursAt ks cs (a + i) := by
  rw [OccursAt, OccursAt, List.drop_drop]

theorem occursAt_take (hks : ks ≠ []) :
    OccursAt ks (cs.take n) i ↔ OccursAt ks cs i ∧ i + ks.length ≤ n := by
  have hpos := List.length_pos_iff.2 hks
  rw [OccursAt, OccursAt, List.drop_take, List.map_take, List.prefix_take_iff, List.length_map]
  apply and_congr_right
  intro _
  omega

end Text

namespace Pattern

/-- The span `a` places further on. -/
def Span.shift (a : Nat) (s : Span) : Span := ⟨a + s.start, a + s.stop⟩

/-- Hits of one length taken from the left, from a place on: each is the first occurrence from
there on, and the next one is looked for where it ends. -/
inductive Leftmost (occurs : Nat → Prop) (length : Nat) : Nat → List Span → Prop
  | done {start : Nat} : (∀ i, start ≤ i → ¬ occurs i) → Leftmost occurs length start []
  | next {start i : Nat} {rest : List Span} : start ≤ i → occurs i →
      (∀ j, start ≤ j → j < i → ¬ occurs j) → Leftmost occurs length (i + length) rest →
      Leftmost occurs length start (⟨i, i + length⟩ :: rest)

namespace Leftmost

variable {occurs occurs' : Nat → Prop} {length start a b : Nat} {s : Span} {hits hits' : List Span}

theorem unique (h : Leftmost occurs length start hits) (h' : Leftmost occurs length start hits') :
    hits = hits' := by
  induction h generalizing hits' with
  | done hnone =>
      cases h' with
      | done _ => rfl
      | next hle hi _ _ => exact absurd hi (hnone _ hle)
  | @next start i rest hle hi hbefore _ ih =>
      cases h' with
      | done hnone => exact absurd hi (hnone _ hle)
      | @next _ j rest' hle' hj hbefore' hrest =>
          have hij : i = j := by
            rcases Nat.lt_trichotomy i j with hlt | heq | hlt
            · exact absurd hi (hbefore' i hle hlt)
            · exact heq
            · exact absurd hj (hbefore j hle' hlt)
          subst hij
          rw [ih hrest]

theorem congr (h : Leftmost occurs length start hits)
    (hoccurs : ∀ i, start ≤ i → (occurs' i ↔ occurs i)) : Leftmost occurs' length start hits := by
  induction h with
  | done hnone => exact .done (fun i hi => mt (hoccurs i hi).1 (hnone i hi))
  | @next start i rest hle hi hbefore _ ih =>
      refine .next hle ((hoccurs i hle).2 hi)
        (fun j hj hlt => mt (hoccurs j hj).1 (hbefore j hj hlt)) (ih ?_)
      intro j hj
      exact hoccurs j (by omega)

/-- Places counted from `a` on. -/
theorem shift (h : Leftmost (fun i => occurs (a + i)) length start hits) :
    Leftmost occurs length (a + start) (hits.map (Span.shift a)) := by
  induction h with
  | done hnone =>
      apply Leftmost.done
      intro i hi
      obtain ⟨j, rfl⟩ := Nat.exists_eq_add_of_le (Nat.le_of_add_right_le hi)
      exact hnone j (Nat.le_of_add_le_add_left hi)
  | @next start i rest hle hi hbefore _ ih =>
      rw [← Nat.add_assoc] at ih
      rw [List.map_cons, Span.shift, ← Nat.add_assoc]
      refine .next (Nat.add_le_add_left hle a) hi ?_ ih
      intro j hj hlt
      obtain ⟨k, rfl⟩ := Nat.exists_eq_add_of_le (Nat.le_of_add_right_le hj)
      exact hbefore k (Nat.le_of_add_le_add_left hj) (Nat.lt_of_add_lt_add_left hlt)

theorem occurs_of_mem (h : Leftmost occurs length start hits) (hs : s ∈ hits) :
    occurs s.start ∧ s.stop = s.start + length := by
  induction h with
  | done _ => cases hs
  | next _ hi _ _ ih =>
      rcases List.mem_cons.1 hs with rfl | hs
      · exact ⟨hi, rfl⟩
      · exact ih hs

/-- If no occurrence reaches over a gap, the hits before the gap lie before it and those behind it
are found from its end on. -/
theorem split (h : Leftmost occurs length start hits) (hlength : 0 < length) (hab : a ≤ b)
    (hstart : start ≤ a) (hgap : ∀ i, occurs i → i + length ≤ a ∨ b ≤ i) :
    ∃ xs ys, hits = xs ++ ys ∧
      Leftmost (fun i => occurs i ∧ i + length ≤ a) length start xs ∧
      Leftmost occurs length b ys := by
  induction h with
  | done hnone =>
      refine ⟨[], [], rfl, .done (fun i hi hoccurs => hnone i hi hoccurs.1), .done ?_⟩
      intro i hi
      exact hnone i (by omega)
  | @next start i rest hle hi hbefore hrest ih =>
      rcases hgap i hi with hstop | hbi
      · obtain ⟨xs, ys, rfl, hxs, hys⟩ := ih hstop
        refine ⟨_ :: xs, ys, rfl, .next hle ⟨hi, hstop⟩ ?_ hxs, hys⟩
        exact fun j hj hlt hoccurs => hbefore j hj hlt hoccurs.1
      · -- the first hit lies behind the gap already
        refine ⟨[], _ :: rest, rfl, .done ?_, .next hbi hi ?_ hrest⟩
        · rintro j hj ⟨hoccurs, hstop⟩
          exact hbefore j hj (by omega) hoccurs
        · exact fun j hj hlt => hbefore j (by omega) hlt

end Leftmost

namespace Program

variable {p : Program} {text : Array Char} {ss : List CharSet} {entry i stop : Nat}

theorem eq_of_accepts (haccept : p.states[0]? = some .accept) (h : Spells p.states entry ss 0)
    (hway : p.Accepts text ⟨entry, i⟩ stop) : stop = i + ss.length := by
  induction ss generalizing entry i with
  | nil =>
      cases h
      rcases accepts_iff.1 hway with ⟨-, hstop⟩ | ⟨u, hu, -⟩
      · exact hstop
      · simp [follow, haccept] at hu
  | cons s ss ih =>
      obtain ⟨m, hm, hrest⟩ := h
      have hstate : p.isAccept ⟨entry, i⟩ = false := by
        rw [isAccept, hm]
      rcases accepts_iff.1 hway with ⟨htrue, -⟩ | ⟨u, hu, hway⟩
      · rw [hstate] at htrue
        cases htrue
      · have hnext : u = ⟨m, i + 1⟩ := by
          simp only [follow, hm] at hu
          split at hu
          · exact List.mem_singleton.1 (List.mem_ite_nil_right.1 hu).2
          · cases hu
        subst hnext
        rw [ih hrest hway, List.length_cons]
        omega

theorem matchesAt_literal (ks cs : List Char) (i : Nat) :
    (ofExpr (.literal ks)).MatchesAt cs.toArray i ↔ Text.OccursAt ks cs i := by
  obtain ⟨-, hspells, haccept⟩ := closed_literal ks
  rw [MatchesAt, accepts_of_spells haccept hspells, begins_folded]
  rfl

theorem stop_literal {ks cs : List Char}
    (h : (ofExpr (.literal ks)).Accepts cs.toArray ⟨(ofExpr (.literal ks)).start, i⟩ stop) :
    stop = i + ks.length := by
  obtain ⟨-, hspells, haccept⟩ := closed_literal ks
  rw [eq_of_accepts haccept hspells h, List.length_map]

theorem spansFrom_literal {ks : List Char} (hks : ks ≠ []) (cs : List Char) (fuel start : Nat)
    (lastStop : Option Nat) (hfuel : cs.length < start + fuel) :
    Leftmost (Text.OccursAt ks cs) ks.length start
      ((ofExpr (.literal ks)).spansFrom cs.toArray fuel start lastStop) := by
  have hpos := List.length_pos_iff.2 hks
  induction fuel generalizing start lastStop with
  | zero =>
      apply Leftmost.done
      intro i hi hoccurs
      have hle := hoccurs.le_length hks
      omega
  | succ fuel ih =>
      rcases find?_cases (closed_literal ks).1 cs.toArray start with
        ⟨s, hs, hway, hle, hbefore⟩ | ⟨hnone, hbefore⟩
      · have hoccurs := (matchesAt_literal ks cs s.start).1 ⟨_, hway⟩
        have hstop := stop_literal hway
        obtain ⟨i, stop⟩ := s
        dsimp only at hstop hoccurs hle hbefore
        subst hstop
        have hempty : (⟨i, i + ks.length⟩ : Span).isEmpty = false := by
          simp [Span.isEmpty, hks]
        simp only [spansFrom, hs, hempty, Bool.false_eq_true, false_and, if_false]
        refine .next hle hoccurs ?_ (ih _ _ (by omega))
        intro j hj hlt
        exact mt (matchesAt_literal ks cs j).2 (hbefore j hj hlt)
      · simp only [spansFrom, hnone]
        apply Leftmost.done
        intro i hi hoccurs
        have hle := hoccurs.le_length hks
        refine hbefore i hi ?_ ((matchesAt_literal ks cs i).2 hoccurs)
        rw [List.size_toArray]
        omega

/-- The hits of a text as a pattern are its occurrences, taken from the left. -/
theorem spans_literal {ks : List Char} (hks : ks ≠ []) (cs : List Char) :
    Leftmost (Text.OccursAt ks cs) ks.length 0 ((ofExpr (.literal ks)).spans cs.toArray) := by
  apply spansFrom_literal hks
  rw [List.size_toArray]
  omega

end Program

end Pattern

end PhraseMark
