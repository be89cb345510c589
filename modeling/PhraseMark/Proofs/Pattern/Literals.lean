import PhraseMark.Pattern.Regex
import PhraseMark.Proofs.Pattern.Searching
import PhraseMark.Proofs.Pattern.Sizing

/-!
# Texts as patterns

The escaped form of a text is read back character by character, each as the class of its folding.
The program of these classes one after another is a chain of states, so that a match begins where
the text stands once case is folded. Up to 500 characters the pattern is never too large.
-/

namespace PhraseMark.Pattern

variable {c : Char} {cs : List Char} {ss : List CharSet}

namespace Expr

/-- Expressions one after another, without a sequence around less than two. -/
def chain : List Expr → Expr
  | [] => .empty
  | [e] => e
  | es => .seq es

/-- A text up to case. -/
def literal (cs : List Char) : Expr := chain (cs.map (fun c => .set (.folded c)))

end Expr

/-! ## Reading an escaped text -/

theorem escape_cons (c : Char) (cs : List Char) :
    escape (c :: cs) = (if isMeta c then ['\\', c] else [c]) ++ escape cs := rfl

theorem length_le_length_escape (cs : List Char) : cs.length ≤ (escape cs).length := by
  induction cs with
  | nil => exact Nat.le_refl _
  | cons c cs ih =>
      rw [escape_cons, List.length_append, List.length_cons]
      split
      · rw [List.length_cons, List.length_singleton]
        omega
      · rw [List.length_singleton]
        omega

theorem not_isAlphanum_of_isMeta (h : isMeta c = true) : c.isAlphanum = false := by
  have hall : "\\.+*?()|[]\x7b\x7d^$#&-~".toList.all (fun m => !m.isAlphanum) = true := by
    decide
  simpa using List.all_eq_true.1 hall c (List.contains_iff_mem.1 h)

/-- No character with a meaning of its own is a letter or a digit. -/
theorem plain_of_isMeta (h : isMeta c = true) :
    ¬ ('0' ≤ c ∧ c ≤ '9') ∧ ¬ (c = 'x' ∨ c = 'u' ∨ c = 'U') ∧ ¬ (c = 'p' ∨ c = 'P') ∧
      ¬ (c = 'd' ∨ c = 's' ∨ c = 'w') ∧ ¬ (c = 'D' ∨ c = 'S' ∨ c = 'W') := by
  have hplain := not_isAlphanum_of_isMeta h
  refine ⟨?_, ?_, ?_, ?_, ?_⟩
  · rintro ⟨hzero, hnine⟩
    have hdigit : c.isDigit = true := by
      rw [Char.isDigit, Bool.and_eq_true, decide_eq_true_eq, decide_eq_true_eq]
      exact ⟨hzero, hnine⟩
    rw [Char.isAlphanum, hdigit, Bool.or_true] at hplain
    cases hplain
  · rintro (rfl | rfl | rfl) <;> cases hplain
  · rintro (rfl | rfl) <;> cases hplain
  · rintro (rfl | rfl | rfl) <;> cases hplain
  · rintro (rfl | rfl | rfl) <;> cases hplain

theorem read?_of_isMeta (f : Flags) (h : isMeta c = true) (cs : List Char) :
    Escape.read? f (c :: cs) = some (.char c false, cs) := by
  obtain ⟨hdigit, hhex, hproperty, hclass, hother⟩ := plain_of_isMeta h
  have hplain : Escape.isPlainEscape c = true := by
    rw [Escape.isPlainEscape, h, Bool.true_or]
  unfold Escape.read?
  dsimp only
  rw [if_neg hdigit, if_neg hhex, if_neg hproperty, if_neg hclass, if_neg hother, if_pos hplain]

namespace Reading

theorem step?_of_not_isMeta (r : Reading) (h : ¬ isMeta c = true) (cs : List Char) :
    r.step? c cs = some (r.leaf (.set (r.flags.char c)) cs) := by
  unfold step?
  split
  all_goals first
    | rfl
    | exact absurd (by decide) h

theorem step?_of_isMeta (r : Reading) (h : isMeta c = true) (cs : List Char) :
    r.step? '\\' (c :: cs) =
      ((Atom.char c false).expr? r.flags).map (fun e => r.leaf e cs) := by
  have hread := read?_of_isMeta r.flags h cs
  simp only [step?, hread, Option.bind_eq_bind, Option.bind_some]
  cases (Atom.char c false).expr? r.flags <;> rfl

theorem run?_of_step? {r r' : Reading} {fuel : Nat} (hflags : r.flags.spaced = false)
    (hrest : r.rest = c :: cs) (hstep : r.step? c cs = some r') :
    run? (fuel + 1) r = run? fuel r' := by
  have hskip : Escape.skipSpace r.flags r.rest = c :: cs := by
    rw [Escape.skipSpace, hflags, hrest]
    rfl
  rw [run?, hskip]
  dsimp only
  rw [hstep]

/-- Reading one escaped character of a text adds its class. -/
theorem run?_escape_cons (fuel : Nat) (parts : List Part) (c : Char) (cs : List Char) :
    run? (fuel + 1) { rest := escape (c :: cs), inside := { parts } } =
      run? fuel
        { rest := escape cs
          inside := { parts := { expr := .set (.folded c), height := 0 } :: parts } } := by
  rw [escape_cons]
  by_cases h : isMeta c = true
  · rw [if_pos h]
    exact run?_of_step? rfl rfl (step?_of_isMeta _ h (escape cs))
  · rw [if_neg h]
    exact run?_of_step? rfl rfl (step?_of_not_isMeta _ h (escape cs))

theorem run?_escape (fuel : Nat) (parts : List Part) (cs : List Char) (h : cs.length < fuel) :
    run? fuel { rest := escape cs, inside := { parts } } =
      some (.sequence
        ((cs.map (fun c => { expr := .set (.folded c), height := 0 })).reverse ++ parts)) := by
  induction cs generalizing fuel parts with
  | nil =>
      obtain ⟨fuel, rfl⟩ := Nat.exists_eq_succ_of_ne_zero (Nat.ne_zero_of_lt h)
      rfl
  | cons c cs ih =>
      obtain ⟨fuel, rfl⟩ := Nat.exists_eq_succ_of_ne_zero (Nat.ne_zero_of_lt h)
      rw [Nat.succ_eq_add_one, run?_escape_cons, ih _ _ (Nat.lt_of_succ_lt_succ h)]
      simp

end Reading

/-- Parts of height zero one after another form a chain of their expressions. -/
theorem Part.sequence_leaves (es : List Expr) :
    (Part.sequence (es.map (fun e => { expr := e, height := 0 })).reverse).expr = .chain es ∧
      (Part.sequence (es.map (fun e => { expr := e, height := 0 })).reverse).height ≤ 1 := by
  have hheight : ∀ l : List Expr,
      ((l.map (fun e => ({ expr := e, height := 0 } : Part))).map (·.height)).foldl max 0 = 0 := by
    intro l
    induction l with
    | nil => rfl
    | cons e l ih => exact ih
  rcases es with _ | ⟨e, _ | ⟨f, es⟩⟩
  · exact ⟨rfl, Nat.zero_le 1⟩
  · exact ⟨rfl, Nat.zero_le 1⟩
  · have hlen : ((e :: f :: es).map (fun e => ({ expr := e, height := 0 } : Part))).reverse.length =
        es.length + 2 := by simp
    generalize hps : ((e :: f :: es).map (fun e => ({ expr := e, height := 0 } : Part))).reverse =
      ps at hlen ⊢
    rcases ps with _ | ⟨p, _ | ⟨q, ps⟩⟩
    · cases hlen
    · cases hlen
    · have hseq : Part.sequence (p :: q :: ps) =
          { expr := .seq (((p :: q :: ps).reverse.filter (! ·.setsFlags)).map (·.expr))
            height := ((p :: q :: ps).map (·.height)).foldl max 0 + 1 } := rfl
      rw [hseq, ← hps]
      refine ⟨?_, ?_⟩
      · simp [Expr.chain, Function.comp_def, List.filter_map]
      · rw [← List.map_reverse, hheight]

theorem Expr.ofText?_escape (cs : List Char) : ofText? (escape cs) = some (literal cs) := by
  have hleaves := Part.sequence_leaves (cs.map (fun c => .set (.folded c)))
  rw [List.map_map, Function.comp_def] at hleaves
  have hfuel : cs.length < (escape cs).length + 1 :=
    Nat.lt_succ_of_le (length_le_length_escape cs)
  rw [ofText?, Reading.run?_escape _ [] cs hfuel, List.append_nil]
  dsimp only
  rw [if_pos (Nat.le_trans hleaves.2 (by decide))]
  exact congrArg some hleaves.1

/-! ## The size of a text -/

theorem Size.ofExpr_literal_le (reversed : Bool) (cs : List Char) :
    ofExpr reversed (.literal cs) ≤ 20000 * cs.length + 32 := by
  have hall : ∀ ds : List Char,
      ofAll reversed (ds.map (fun c => .set (.folded c))) ≤ 20000 * ds.length := by
    intro ds
    induction ds with
    | nil => exact Nat.le_refl _
    | cons d ds ih =>
        have hset := ofSet_folded_le reversed d
        rw [List.map_cons, ofAll, ofExpr, List.length_cons]
        omega
  rcases cs with _ | ⟨c, _ | ⟨d, cs⟩⟩
  · exact Nat.le_refl _
  · have hset := ofSet_folded_le reversed c
    rw [Expr.literal, List.map_singleton, Expr.chain, ofExpr, List.length_singleton]
    omega
  · exact Nat.le_add_right_of_le (hall (c :: d :: cs))

theorem Size.fits_literal (h : cs.length ≤ 500) : fits (.literal cs) = true := by
  have hforward := ofExpr_literal_le false cs
  have hbackward := ofExpr_literal_le true cs
  have hframe : frame false ≤ 500 ∧ frame true ≤ 500 := by decide
  have hlimit : limit = 10485760 := rfl
  rw [fits, Bool.and_eq_true, decide_eq_true_eq, decide_eq_true_eq]
  omega

/-! ## Chains of states -/

/-- From a state on, a chain of states takes characters of sets in order and ends at `next`. -/
def Spells (states : States) : Nat → List CharSet → Nat → Prop
  | entry, [], next => entry = next
  | entry, s :: ss, next =>
    ∃ m, states[entry]? = some (.take s m) ∧ Spells states m ss next

theorem Spells.mono {states others : States} {entry next : Nat}
    (hkept : ∀ (i : Nat) (s : State), states[i]? = some s → others[i]? = some s)
    (h : Spells states entry ss next) : Spells others entry ss next := by
  induction ss generalizing entry with
  | nil => exact h
  | cons s ss ih =>
      obtain ⟨m, hm, hrest⟩ := h
      exact ⟨m, hkept _ _ hm, ih hrest⟩

/-- The states name states that exist, and so does a given entry. -/
def ClosedAt (states : States) (entry : Nat) : Prop :=
  entry < states.size ∧
    ∀ (i : Nat) (s : State), states[i]? = some s → s.LeadsBelow states.size

theorem State.LeadsBelow.mono {s : State} {m n : Nat} (hmn : m ≤ n) (h : s.LeadsBelow m) :
    s.LeadsBelow n := by
  cases s with
  | accept => exact h
  | take s next => exact Nat.lt_of_lt_of_le h hmn
  | check l next => exact Nat.lt_of_lt_of_le h hmn
  | split first second => exact ⟨Nat.lt_of_lt_of_le h.1 hmn, Nat.lt_of_lt_of_le h.2 hmn⟩

theorem getElem?_push_of_some {states : States} {i : Nat} {s t : State}
    (h : states[i]? = some s) : (states.push t)[i]? = some s := by
  have hlt := (Array.getElem?_eq_some_iff.1 h).1
  rw [Array.getElem?_push, if_neg (Nat.ne_of_lt hlt), h]

theorem ClosedAt.push_take {states : States} {entry : Nat} (h : ClosedAt states entry)
    (s : CharSet) : ClosedAt (states.push (.take s entry)) states.size := by
  refine ⟨by simp, fun i t hi => ?_⟩
  rw [Array.size_push]
  rw [Array.getElem?_push] at hi
  split at hi
  · cases hi
    exact Nat.lt_succ_of_lt h.1
  · exact (h.2 i t hi).mono (Nat.le_succ _)

theorem States.compileSeq_sets {states : States} {next : Nat} (ss : List CharSet)
    (h : ClosedAt states next) :
    ∀ entry others, compileSeq (ss.map .set) next states = (entry, others) →
      Spells others entry ss next ∧ ClosedAt others entry ∧
        ∀ (i : Nat) (s : State), states[i]? = some s → others[i]? = some s := by
  induction ss with
  | nil =>
      intro entry others heq
      cases heq
      exact ⟨rfl, h, fun _ _ hi => hi⟩
  | cons s ss ih =>
      intro entry others heq
      rw [List.map_cons, compileSeq] at heq
      generalize hrest : compileSeq (ss.map .set) next states = rest at heq
      obtain ⟨hspells, hclosed, hkept⟩ := ih rest.1 rest.2 hrest
      cases heq
      refine ⟨⟨rest.1, by simp, ?_⟩, hclosed.push_take s, ?_⟩
      · exact hspells.mono (fun _ _ => getElem?_push_of_some)
      · exact fun i t hi => getElem?_push_of_some (hkept i t hi)

theorem States.compile_chain (es : List Expr) (next : Nat) (states : States) :
    compile (.chain es) next states = compileSeq es next states := by
  rcases es with _ | ⟨e, _ | ⟨f, es⟩⟩
  · rfl
  · rfl
  · rfl

/-! ## Matches of a chain -/

/-- A text begins with characters of sets in order. -/
def Begins : List CharSet → List Char → Prop
  | [], _ => True
  | _ :: _, [] => False
  | s :: ss, c :: cs => s.contains c = true ∧ Begins ss cs

namespace Program

variable {p : Program} {text : Array Char}

theorem accepts_iff {t : Thread} {stop : Nat} :
    p.Accepts text t stop ↔
      (p.isAccept t = true ∧ stop = t.place) ∨ ∃ u ∈ p.follow text t, p.Accepts text u stop := by
  constructor
  · intro h
    cases h with
    | here haccept => exact .inl ⟨haccept, rfl⟩
    | step hu hway => exact .inr ⟨_, hu, hway⟩
  · rintro (⟨haccept, rfl⟩ | ⟨u, hu, hway⟩)
    · exact .here haccept
    · exact .step hu hway

theorem accepts_of_spells (haccept : p.states[0]? = some .accept) {entry i : Nat}
    (h : Spells p.states entry ss 0) :
    (∃ stop, p.Accepts text ⟨entry, i⟩ stop) ↔ Begins ss (text.toList.drop i) := by
  induction ss generalizing entry i with
  | nil =>
      cases h
      have hstate : p.isAccept ⟨0, i⟩ = true := by
        rw [isAccept, haccept]
      exact iff_of_true ⟨i, .here hstate⟩ trivial
  | cons s ss ih =>
      obtain ⟨m, hm, hrest⟩ := h
      have hstate : p.isAccept ⟨entry, i⟩ = false := by
        rw [isAccept, hm]
      simp only [accepts_iff (t := ⟨entry, i⟩), hstate, Bool.false_eq_true, false_and, false_or]
      rcases Nat.lt_or_ge i text.size with hi | hi
      · have hfollow : p.follow text ⟨entry, i⟩ =
            if s.contains text[i] then [⟨m, i + 1⟩] else [] := by
          simp only [follow, hm, Array.getElem?_eq_getElem hi]
        rw [hfollow, List.drop_eq_getElem_cons (by simpa using hi), Begins, ← ih hrest,
          Array.getElem_toList]
        by_cases hc : s.contains text[i] = true
        · simp [hc]
        · simp [hc]
      · have hfollow : p.follow text ⟨entry, i⟩ = [] := by
          simp only [follow, hm, Array.getElem?_eq_none hi]
        rw [hfollow, List.drop_eq_nil_of_le (by simpa using hi)]
        simp [Begins]

end Program

theorem begins_folded (ks cs : List Char) :
    Begins (ks.map CharSet.folded) cs ↔
      ks.map Text.simpleFold <+: cs.map Text.simpleFold := by
  induction ks generalizing cs with
  | nil => simp [Begins]
  | cons k ks ih =>
      cases cs with
      | nil => simp [Begins]
      | cons c cs =>
          rw [List.map_cons, Begins, ih, CharSet.contains_folded, List.map_cons, List.map_cons,
            List.cons_prefix_cons, eq_comm]

theorem Program.closed_literal (cs : List Char) : (ofExpr (.literal cs)).Closed ∧
    Spells (ofExpr (.literal cs)).states (ofExpr (.literal cs)).start (cs.map .folded) 0 ∧
      (ofExpr (.literal cs)).states[0]? = some .accept := by
  have hempty : ClosedAt #[.accept] 0 := by
    refine ⟨Nat.zero_lt_one, fun i s hi => ?_⟩
    rw [Array.getElem?_eq_some_iff] at hi
    obtain ⟨hlt, rfl⟩ := hi
    rw [List.size_toArray, List.length_singleton, Nat.lt_one_iff] at hlt
    subst hlt
    trivial
  obtain ⟨hspells, hclosed, hkept⟩ := States.compileSeq_sets (cs.map .folded) hempty _ _ rfl
  rw [List.map_map] at hspells hclosed hkept
  rw [ofExpr, Expr.literal, States.compile_chain]
  exact ⟨⟨hclosed.1, hclosed.2⟩, hspells, hkept 0 .accept rfl⟩

/-- The pattern of a text matches where the text occurs, up to case. -/
theorem Program.isMatch_literal (ks cs : List Char) :
    (ofExpr (.literal ks)).isMatch cs.toArray = true ↔
      ks.map Text.simpleFold <:+: cs.map Text.simpleFold := by
  obtain ⟨hclosed, hspells, haccept⟩ := closed_literal ks
  rw [hclosed.isMatch_iff]
  simp only [MatchesAt, accepts_of_spells haccept hspells, begins_folded, List.map_drop,
    List.size_toArray]
  rw [List.infix_iff_prefix_suffix]
  constructor
  · rintro ⟨i, -, hi⟩
    exact ⟨_, hi, List.drop_suffix i _⟩
  · rintro ⟨l, hl, hsuffix⟩
    rw [List.suffix_iff_eq_drop, List.length_map] at hsuffix
    refine ⟨cs.length - l.length, Nat.sub_le _ _, ?_⟩
    rwa [← hsuffix]

namespace Regex

theorem compile_escape {k : String} (h : k.toList.length ≤ 500) :
    compile (.ofList (escape k.toList)) =
      .ok { source := .ofList (escape k.toList), program := .ofExpr (.literal k.toList) } := by
  rw [compile, String.toList_ofList, Expr.ofText?_escape]
  dsimp only
  rw [if_pos (Size.fits_literal h)]

end Regex

end PhraseMark.Pattern
