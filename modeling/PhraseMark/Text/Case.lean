import PhraseMark.Text.CaseData

/-!
# Lowercase and case folding

Lowercasing a text follows the full mapping, in which one capital has a form of two characters
and a capital sigma at the end of a word becomes a final sigma. Patterns compare characters under
simple case folding instead, which maps each character to one character.
-/

namespace PhraseMark.Text

namespace CaseRun

def image? (r : CaseRun) (n : Nat) : Option Nat :=
  if r.first ≤ n ∧ n ≤ r.last ∧ (n - r.first) % r.step = 0 then some (r.target + (n - r.first))
  else none

/-- The code point of the run that is mapped to `m`. -/
def source? (r : CaseRun) (m : Nat) : Option Nat :=
  if r.target ≤ m ∧ r.first + (m - r.target) ≤ r.last ∧ (m - r.target) % r.step = 0 then
    some (r.first + (m - r.target))
  else none

theorem image?_eq_some_iff_source? {r : CaseRun} {n m : Nat} :
    r.image? n = some m ↔ r.source? m = some n := by
  unfold image? source?
  constructor
  · intro h
    split at h
    · rename_i hn
      cases h
      simp only [Nat.add_sub_cancel_left, Nat.le_add_right, true_and]
      rw [show r.first + (n - r.first) = n by omega]
      simp [hn.2.1, hn.2.2]
    · simp at h
  · intro h
    split at h
    · rename_i hm
      cases h
      simp only [Nat.add_sub_cancel_left, Nat.le_add_right, true_and]
      rw [show r.target + (m - r.target) = m by omega]
      simp [hm.2.1, hm.2.2]
    · simp at h

end CaseRun

/-- The image under the first run that holds the code point. -/
def mapRuns (runs : List CaseRun) (c : Char) : Char :=
  match runs.findSome? (·.image? c.toNat) with
  | some n => .ofNat n
  | none => c

def lowerChar (c : Char) : Char := mapRuns lowerRuns c

def simpleFold (c : Char) : Char := mapRuns foldRuns c

/-- The characters with the same simple case folding. -/
def foldClass (c : Char) : List Char :=
  let f := simpleFold c
  (f :: (foldRuns.filterMap (·.source? f.toNat)).map Char.ofNat).filter (simpleFold · == f)

theorem simpleFold_of_mem_foldClass {c d : Char} (h : d ∈ foldClass c) :
    simpleFold d = simpleFold c := by
  simp only [foldClass, List.mem_filter, beq_iff_eq] at h
  exact h.2

def inRanges (ranges : List (Nat × Nat)) (c : Char) : Bool :=
  ranges.any (fun r => r.1 ≤ c.toNat && c.toNat ≤ r.2)

/-- Letters that have a case, and what behaves like them. -/
def isCased (c : Char) : Bool := inRanges casedRanges c

/-- Characters that are skipped when the end of a word is looked for. -/
def isCaseIgnorable (c : Char) : Bool := inRanges caseIgnorableRanges c

/-- Whether the first character that is not skipped is cased. -/
def startsCased (cs : List Char) : Bool :=
  match cs.dropWhile isCaseIgnorable with
  | [] => false
  | c :: _ => isCased c

/-- The lowercase form of a character between the text before it, nearest character first, and
the text after it. -/
def lowerBetween (before : List Char) (c : Char) (after : List Char) : List Char :=
  if c = 'Σ' then
    if startsCased before && !startsCased after then ['ς'] else ['σ']
  else if c = 'İ' then ['i', '\u0307']
  else [lowerChar c]

def lowerFrom (before : List Char) : List Char → List Char
  | [] => []
  | c :: cs => lowerBetween before c cs ++ lowerFrom (c :: before) cs

def lowercase (s : String) : String := .ofList (lowerFrom [] s.toList)

end PhraseMark.Text
