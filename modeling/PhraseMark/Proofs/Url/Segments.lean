import Mathlib.Algebra.Order.BigOperators.Group.List
import Mathlib.Algebra.Order.Group.Nat
import Mathlib.Algebra.Ring.Nat
import Mathlib.Data.List.TakeWhile
import PhraseMark.Proofs.Text.Splitting
import PhraseMark.Url.Reader

/-!
# Segments of addresses

The segments of a path are the percent encoded parts between its slashes, without those that are
dots. So no character that has to be encoded is left in them, and where nothing had to be encoded
they hold no more characters than the text they were read from.
-/

namespace PhraseMark.Url

variable {cs piece : List Char} {pieces : List (List Char)} {segments : List String} {s : String}
  {set : EncodeSet}

/-! ## Percent encoding -/

theorem percentEncode_eq_self (h : ∀ c ∈ cs, set c = false) : percentEncode set cs = cs := by
  have hchar : ∀ c ∈ cs, encodeChar set c = [c] := by
    intro c hc
    rw [encodeChar, h c hc, if_neg Bool.false_ne_true]
  rw [percentEncode, List.flatMap_congr hchar]
  exact List.flatMap_singleton' cs

/-- Characters as they may stand in a segment. -/
def IsWritten (cs : List Char) : Prop := ∀ c ∈ cs, EncodeSet.path c = false ∧ c ≠ '/'

theorem isWritten_percentByte (b : UInt8) : IsWritten (percentByte b) := by
  have hdigit : ∀ n < 16, EncodeSet.path (Text.upperHexDigit n) = false ∧
      Text.upperHexDigit n ≠ '/' := by decide
  have hlt := b.toNat_lt
  intro c hc
  simp only [percentByte, List.mem_cons, List.not_mem_nil, or_false] at hc
  rcases hc with rfl | rfl | rfl
  · decide
  · exact hdigit _ (by omega)
  · exact hdigit _ (Nat.mod_lt _ (by decide))

theorem isWritten_percentEncode (h : '/' ∉ cs) : IsWritten (percentEncode EncodeSet.path cs) := by
  intro c hc
  obtain ⟨d, hd, hc⟩ := List.mem_flatMap.1 hc
  rw [encodeChar] at hc
  cases hset : EncodeSet.path d with
  | true =>
      rw [hset, if_pos rfl] at hc
      obtain ⟨b, -, hb⟩ := List.mem_flatMap.1 hc
      exact isWritten_percentByte b c hb
  | false =>
      rw [hset, if_neg Bool.false_ne_true, List.mem_singleton] at hc
      subst hc
      exact ⟨hset, fun heq => h (heq ▸ hd)⟩

/-! ## Adding pieces -/

/-- A piece that moves within a path and is not a name in it. -/
def isMove (piece : List Char) : Bool := isDot piece || isTwoDots piece

theorem isMove_nil : isMove [] = false := by decide

theorem shorten_sublist (segments : List String) : (shorten segments).Sublist segments := by
  rw [shorten]
  split
  · exact List.Sublist.refl _
  · exact List.dropLast_sublist _

theorem addPiece_of_name (h : isMove piece = false) (isLast : Bool) :
    addPiece .plain segments piece isLast =
      segments ++ [.ofList (percentEncode EncodeSet.path piece)] := by
  rw [isMove, Bool.or_eq_false_iff] at h
  rw [addPiece, h.1, h.2]
  rfl

/-- A piece that is a move adds no name and may take one away. -/
theorem addPiece_of_move (h : isMove piece = true) (isLast : Bool) :
    ∃ kept ends, addPiece .plain segments piece isLast = kept ++ ends ∧ kept.Sublist segments ∧
      ∀ s ∈ ends, s = "" := by
  have hends : ∀ s ∈ (if isLast then [""] else []), s = "" := by
    cases isLast <;> simp
  cases htwo : isTwoDots piece with
  | true =>
      rw [addPiece, htwo, if_pos rfl]
      exact ⟨_, _, rfl, shorten_sublist segments, hends⟩
  | false =>
      rw [isMove, htwo, Bool.or_false] at h
      rw [addPiece, htwo, h, if_neg Bool.false_ne_true, if_pos rfl]
      exact ⟨_, _, rfl, List.Sublist.refl _, hends⟩

theorem addPieces_cons (style : PathStyle) (segments : List String) (piece : List Char)
    (pieces : List (List Char)) :
    addPieces style segments (piece :: pieces) =
      addPieces style (addPiece style segments piece pieces.isEmpty) pieces := by
  cases pieces with
  | nil => rfl
  | cons next rest => rfl

theorem addPieces_of_names (h : ∀ piece ∈ pieces, isMove piece = false) :
    addPieces .plain segments pieces =
      segments ++ pieces.map (fun piece => .ofList (percentEncode EncodeSet.path piece)) := by
  induction pieces generalizing segments with
  | nil => rw [List.map_nil, List.append_nil]; rfl
  | cons piece pieces ih =>
      rw [addPieces_cons, addPiece_of_name (h piece List.mem_cons_self),
        ih (fun q hq => h q (List.mem_cons_of_mem piece hq)), List.append_assoc, List.map_cons,
        List.singleton_append]

theorem mem_addPieces (h : s ∈ addPieces .plain segments pieces) :
    s ∈ segments ∨ s = "" ∨
      ∃ piece ∈ pieces, s = .ofList (percentEncode EncodeSet.path piece) := by
  induction pieces generalizing segments with
  | nil => exact .inl h
  | cons piece pieces ih =>
      rw [addPieces_cons] at h
      rcases ih h with h | h | ⟨q, hq, h⟩
      · cases hmove : isMove piece with
        | true =>
            obtain ⟨kept, ends, heq, hkept, hends⟩ :=
              @addPiece_of_move piece segments hmove pieces.isEmpty
            rw [heq, List.mem_append] at h
            exact h.imp hkept.mem (fun hs => .inl (hends s hs))
        | false =>
            rw [addPiece_of_name hmove, List.mem_append, List.mem_singleton] at h
            exact h.imp_right (fun hs => .inr ⟨piece, List.mem_cons_self, hs⟩)
      · exact .inr (.inl h)
      · exact .inr (.inr ⟨q, List.mem_cons_of_mem piece hq, h⟩)

/-- The number of characters in segments. -/
def letters (segments : List String) : Nat := (segments.map (·.toList.length)).sum

theorem letters_append (segments segments' : List String) :
    letters (segments ++ segments') = letters segments + letters segments' := by
  rw [letters, List.map_append, List.sum_append]
  rfl

theorem letters_le_of_sublist {kept : List String} (h : kept.Sublist segments) :
    letters kept ≤ letters segments :=
  (h.map _).sum_le_sum (fun _ _ => Nat.zero_le _)

theorem letters_of_empty (h : ∀ s ∈ segments, s = "") : letters segments = 0 := by
  apply List.sum_eq_zero
  intro n hn
  obtain ⟨s, hs, rfl⟩ := List.mem_map.1 hn
  rw [h s hs]
  rfl

/-- Where nothing has to be encoded, only the pieces that are names add characters. -/
theorem letters_addPieces_le (h : ∀ piece ∈ pieces, ∀ c ∈ piece, EncodeSet.path c = false) :
    letters (addPieces .plain segments pieces) ≤
      letters segments + ((pieces.filter (! isMove ·)).map List.length).sum := by
  induction pieces generalizing segments with
  | nil => exact Nat.le_add_right _ _
  | cons piece pieces ih =>
      have hrest := @ih (addPiece .plain segments piece pieces.isEmpty)
        (fun q hq => h q (List.mem_cons_of_mem piece hq))
      rw [addPieces_cons, List.filter_cons]
      cases hmove : isMove piece with
      | true =>
          obtain ⟨kept, ends, heq, hkept, hends⟩ :=
            @addPiece_of_move piece segments hmove pieces.isEmpty
          have hle := letters_le_of_sublist hkept
          rw [heq, letters_append, letters_of_empty hends] at hrest
          rw [heq, Bool.not_true, if_neg Bool.false_ne_true]
          omega
      | false =>
          have hpiece : letters [.ofList (percentEncode EncodeSet.path piece)] = piece.length := by
            rw [percentEncode_eq_self (h piece List.mem_cons_self), letters, List.map_singleton,
              String.toList_ofList, List.sum_singleton]
          rw [addPiece_of_name hmove, letters_append, hpiece] at hrest
          rw [addPiece_of_name hmove, Bool.not_false, if_pos rfl, List.map_cons, List.sum_cons]
          omega

/-- A piece that moves is lost. -/
theorem letters_addPieces_lt (h : ∀ piece ∈ pieces, ∀ c ∈ piece, EncodeSet.path c = false)
    (hpiece : piece ∈ pieces) (hmove : isMove piece = true) :
    letters (addPieces .plain segments pieces) <
      letters segments + (pieces.map List.length).sum := by
  have hle := @letters_addPieces_le pieces segments h
  have hpos : 0 < piece.length := by
    apply List.length_pos_iff.2
    rintro rfl
    rw [isMove_nil] at hmove
    cases hmove
  obtain ⟨before, after, rfl⟩ := List.append_of_mem hpiece
  have hkept : ((before ++ piece :: after).filter (! isMove ·)).Sublist (before ++ after) := by
    rw [List.filter_append, List.filter_cons, hmove, Bool.not_true, if_neg Bool.false_ne_true]
    exact List.filter_sublist.append List.filter_sublist
  have hsum := (hkept.map List.length).sum_le_sum (fun _ _ => Nat.zero_le _)
  simp only [List.map_append, List.map_cons, List.sum_append, List.sum_cons] at hsum ⊢
  omega

/-! ## Paths -/

theorem separates_plain (c : Char) : PathStyle.plain.separates c = (c == '/') :=
  Bool.or_false _

theorem mem_addPath (h : s ∈ addPath .plain segments cs) : s ∈ segments ∨ IsWritten s.toList := by
  rcases mem_addPieces h with h | rfl | ⟨piece, hpiece, rfl⟩
  · exact .inl h
  · exact .inr (fun c hc => absurd hc List.not_mem_nil)
  · rw [String.toList_ofList]
    refine .inr (isWritten_percentEncode fun hslash => ?_)
    have hsplit := (forall_mem_part hpiece '/' hslash).1
    rw [separates_plain] at hsplit
    exact absurd hsplit (by decide)

theorem isWritten_of_mem_addPath (h : s ∈ addPath .plain [] cs) : IsWritten s.toList :=
  (mem_addPath h).resolve_left List.not_mem_nil

theorem letters_addPath_le (h : ∀ c ∈ cs, EncodeSet.path c = false) :
    letters (addPath .plain [] cs) ≤ cs.countP (· ≠ '/') := by
  have hle := @letters_addPieces_le (cs.splitOnP PathStyle.plain.separates) []
    (fun piece hpiece c hc => h c (forall_mem_part hpiece c hc).2)
  have hkept := ((List.filter_sublist
    (p := (! isMove ·)) (l := cs.splitOnP PathStyle.plain.separates)).map List.length).sum_le_sum
      (fun _ _ => Nat.zero_le _)
  have hall := sum_length_splitOnP PathStyle.plain.separates cs
  have hcount : cs.countP (! PathStyle.plain.separates ·) = cs.countP (· ≠ '/') := by
    apply List.countP_congr
    intro c _
    rw [separates_plain]
    simp
  rw [hall, hcount] at hkept
  exact hle.trans (by simpa [letters] using hkept)

/-! ## Where a path is read from -/

/-- The path of an address was read from an end of a text. -/
def ReadsPath (u : Url) (cs : List Char) : Prop :=
  u.segments = [] ∨ ∃ ds, ds <:+ cs ∧ u.segments = addPath .plain [] ds

variable {u : Url} {ds : List Char} {scheme : String} {r : Reference}

theorem ReadsPath.of_suffix (h : u.ReadsPath ds) (hsuffix : ds <:+ cs) : u.ReadsPath cs :=
  h.imp_right (fun ⟨es, hes, heq⟩ => ⟨es, hes.trans hsuffix, heq⟩)

theorem ReadsPath.isWritten (h : u.ReadsPath cs) (hs : s ∈ u.segments) : IsWritten s.toList := by
  rcases h with h | ⟨ds, -, h⟩
  · rw [h] at hs
    cases hs
  · rw [h] at hs
    exact isWritten_of_mem_addPath hs

theorem ReadsPath.letters_le (h : u.ReadsPath cs) (hcs : ∀ c ∈ cs, EncodeSet.path c = false) :
    letters u.segments ≤ cs.countP (· ≠ '/') := by
  rcases h with h | ⟨ds, hds, h⟩
  · rw [h]
    exact Nat.zero_le _
  · rw [h]
    exact Nat.le_trans (letters_addPath_le (fun c hc => hcs c (hds.mem hc))) hds.sublist.countP_le

theorem readsPath_pathAfterAuthority (hsegments : u.segments = pathAfterAuthority .plain cs) :
    u.ReadsPath cs := by
  unfold pathAfterAuthority at hsegments
  split at hsegments
  · exact .inl hsegments
  · rename_i c rest
    refine .inr ⟨_, ?_, hsegments⟩
    split
    · exact List.suffix_cons c rest
    · exact List.suffix_rfl

theorem suffix_portOf {port : Option Nat} (h : portOf cs = .ok (port, ds)) : ds <:+ cs := by
  simp only [portOf] at h
  split at h
  · cases h
  · split at h
    · cases h
      exact List.drop_suffix _ _
    · cases h

theorem suffix_port? {port : Option Nat} (h : port? scheme cs = .ok (port, ds)) : ds <:+ cs := by
  unfold port? at h
  split at h
  · rename_i rest
    cases hport : portOf rest with
    | error e =>
        rw [hport] at h
        cases h
    | ok read =>
        rw [hport] at h
        cases h
        exact (suffix_portOf hport).trans (List.suffix_cons ':' rest)
  · cases h
    exact List.suffix_rfl

theorem suffix_cutCredentials (style : PathStyle) (cs : List Char) :
    (cutCredentials style cs).2 <:+ cs := by
  simp only [cutCredentials]
  split
  · exact List.suffix_rfl
  · exact List.drop_suffix _ _

/-! ## Readers that may fail -/

theorem exists_of_bind_ok {ε α β : Type} {x : Except ε α} {f : α → Except ε β} {b : β}
    (h : (x >>= f) = .ok b) : ∃ a, x = .ok a ∧ f a = .ok b := by
  cases x with
  | error e => cases h
  | ok a => exact ⟨a, rfl, h⟩

theorem ok_of_guard {ε α β : Type} {c : Prop} [Decidable c] {e : ε} {f : α → Except ε β}
    {x : Except ε β} {b : β} (h : (if c then throw e >>= f else x) = .ok b) : x = .ok b := by
  split at h
  · cases h
  · exact h

theorem suffix_authorityOf {a : Authority} (h : authorityOf scheme r cs = .ok (a, ds)) :
    ds <:+ cs := by
  have hcut := suffix_cutCredentials (styleOf scheme) cs
  have hhost := List.drop_suffix
    (hostLength (styleOf scheme) false (cutCredentials (styleOf scheme) cs).2)
    (cutCredentials (styleOf scheme) cs).2
  simp only [authorityOf] at h
  have h := ok_of_guard (ok_of_guard h)
  -- a name without structure and a domain end at the same place
  split at h
  all_goals
    obtain ⟨host, -, h⟩ := exists_of_bind_ok h
    obtain ⟨read, hport, h⟩ := exists_of_bind_ok (ok_of_guard h)
    cases ok_of_guard h
    exact (suffix_port? hport).trans (hhost.trans hcut)

theorem of_afterSlashes (h : afterSlashes scheme r cs = .ok u) :
    u.scheme = scheme ∧ (styleOf scheme = .plain → u.ReadsPath cs) := by
  obtain ⟨⟨authority, rest⟩, hauthority, h⟩ := exists_of_bind_ok h
  cases h
  refine ⟨rfl, fun hplain => ?_⟩
  apply ReadsPath.of_suffix _ (suffix_authorityOf hauthority)
  apply readsPath_pathAfterAuthority
  rw [← hplain]
  rfl

theorem scheme_of_fileOf (h : fileOf r cs = .ok u) : u.scheme = "file" := by
  unfold fileOf at h
  dsimp only at h
  split at h
  · split at h
    all_goals
      obtain ⟨read, -, h⟩ := exists_of_bind_ok h
      cases h
      rfl
  all_goals
    cases h
    rfl

/-- An address that names its scheme has that scheme. If the scheme is not special, the address has
an authority only after two slashes. -/
theorem of_afterScheme (h : afterScheme scheme r cs = .ok u) :
    u.scheme = scheme ∧ (styleOf scheme = .plain →
      u.ReadsPath cs ∧ (u.authority ≠ none → ∃ rest, cs = '/' :: '/' :: rest)) := by
  unfold afterScheme at h
  split at h
  · rename_i hfile
    have hscheme : scheme = "file" := by
      rw [styleOf] at hfile
      split at hfile
      · rename_i heq
        exact eq_of_beq heq
      · split at hfile <;> cases hfile
    refine ⟨(scheme_of_fileOf h).trans hscheme.symm, fun hplain => ?_⟩
    rw [hfile] at hplain
    cases hplain
  · rename_i hspecial
    exact ⟨(of_afterSlashes h).1, fun hplain => by rw [hspecial] at hplain; cases hplain⟩
  · rename_i rest hplain
    obtain ⟨hscheme, hreads⟩ := of_afterSlashes h
    refine ⟨hscheme, fun hplain => ⟨(hreads hplain).of_suffix ?_, fun _ => ⟨rest, rfl⟩⟩⟩
    exact (List.suffix_cons '/' rest).trans (List.suffix_cons '/' _)
  · rename_i rest _ _
    cases h
    exact ⟨rfl, fun _ =>
      ⟨.inr ⟨rest, List.suffix_cons '/' rest, rfl⟩, fun hsome => absurd rfl hsome⟩⟩
  · cases h
    exact ⟨rfl, fun _ => ⟨.inl rfl, fun hsome => absurd rfl hsome⟩⟩

/-- A reference without a scheme is read from its own text. A backslash at its beginning is taken
for a slash, so it is lost. -/
theorem of_relativeTo {base : Url} (hbase : base.path = .segments [""])
    (hplain : styleOf base.scheme = .plain) (h : relativeTo base r = .ok u) :
    ∃ cs, cs <:+ r.body ∧ (r.body.head? = some '\\' → cs <:+ r.body.tail) ∧ u.ReadsPath cs := by
  unfold relativeTo at h
  rw [hbase] at h
  dsimp only at h
  split at h
  · rename_i hbody
    refine ⟨[], List.nil_suffix, fun _ => List.nil_suffix, .inr ⟨[], List.suffix_rfl, ?_⟩⟩
    split at h <;> cases h <;> simp only [segments, withReference, hbase] <;> rfl
  · rename_i hslashes hne
    cases h
    refine ⟨r.body, List.suffix_rfl, fun hhead => ?_, .inr ⟨r.body, List.suffix_rfl, rfl⟩⟩
    obtain ⟨c, cs, hbody⟩ := List.exists_cons_of_ne_nil hne
    rw [hbody, List.head?_cons, Option.some.injEq] at hhead
    rw [hbody, hhead] at hslashes
    cases hslashes
  · rename_i slash c rest hslashes hbody
    cases h
    rw [hbody]
    exact ⟨rest, List.suffix_cons c rest, fun _ => List.suffix_rfl,
      .inr ⟨rest, List.suffix_rfl, rfl⟩⟩
  · rename_i rest hbody _ _
    rw [hbody]
    refine ⟨rest, (List.suffix_cons '/' rest).trans (List.suffix_cons '/' _), fun hhead => ?_,
      (of_afterSlashes h).2 hplain⟩
    cases hhead
  · have hreads := (of_afterSlashes h).2 hplain
    refine ⟨_, List.drop_suffix _ _, fun hhead => ?_, hreads⟩
    cases hbody : r.body with
    | nil =>
        rw [hbody] at hhead
        cases hhead
    | cons c cs =>
        rw [hbody, List.head?_cons, Option.some.injEq] at hhead
        subst hhead
        exact List.drop_suffix _ cs

/-! ## Texts without characters to encode -/

theorem of_path_eq_false {c : Char} (h : EncodeSet.path c = false) :
    0x20 < c.toNat ∧ c ≠ '#' ∧ c ≠ '?' := by
  simp only [EncodeSet.path, EncodeSet.fragment, EncodeSet.controls, Bool.or_eq_false_iff,
    decide_eq_false_iff_not, List.contains_eq_mem, List.mem_cons, not_or] at h
  obtain ⟨⟨⟨hlow, -⟩, hspace, -⟩, hhash, hquestion, -⟩ := h
  refine ⟨Nat.lt_of_le_of_ne (Nat.le_of_not_lt hlow) (fun heq => hspace ?_), hhash, hquestion⟩
  exact Char.toNat_inj.1 heq.symm

theorem clean_eq_self {text : String} (h : ∀ c ∈ text.toList, 0x20 < c.toNat) :
    clean text = text.toList := by
  rw [clean, trimList_eq_self]
  · apply List.filter_eq_self.2
    intro c hc
    have hlt := h c hc
    simp only [Bool.and_eq_true, bne_iff_ne]
    refine ⟨⟨?_, ?_⟩, ?_⟩ <;> rintro rfl <;> exact absurd hlt (by decide)
  · intro c hc
    exact decide_eq_false (Nat.not_le.2 (h c hc))

theorem cutAt_of_notMem {mark : Char} (h : mark ∉ cs) : cutAt mark cs = (cs, none) := by
  have hdrop : cs.dropWhile (· ≠ mark) = [] := by
    rw [List.dropWhile_eq_nil_iff]
    intro c hc
    rw [decide_eq_true_iff]
    exact fun heq => h (heq ▸ hc)
  rw [cutAt, hdrop]

theorem reference_of_written {text : String}
    (h : ∀ c ∈ text.toList, EncodeSet.path c = false) :
    Reference.ofList (clean text) = ⟨text.toList, none, none⟩ := by
  rw [clean_eq_self (fun c hc => (of_path_eq_false (h c hc)).1), Reference.ofList,
    cutAt_of_notMem (fun hmem => (of_path_eq_false (h _ hmem)).2.1 rfl)]
  dsimp only
  rw [cutAt_of_notMem (fun hmem => (of_path_eq_false (h _ hmem)).2.2 rfl)]

/-- A text that begins with a name is added to the directory of the base. -/
theorem relativeTo_of_name {base : Url} (hbase : base.path = .segments segments) {c : Char}
    (hslash : c ≠ '/') (hbackslash : c ≠ '\\') :
    relativeTo base ⟨c :: cs, none, none⟩ =
      .ok ({ base with
        path := .segments (addPath .plain segments.dropLast (c :: cs)) }.withReference
          ⟨c :: cs, none, none⟩) := by
  have hnone : (c :: cs).takeWhile (fun c => c == '/' || c == '\\') = [] := by
    rw [List.takeWhile_cons, if_neg]
    simp [hslash, hbackslash]
  rw [relativeTo, hbase]
  simp only [hnone]

/-- A scheme is read from the beginning of a text, up to a colon. -/
theorem suffix_scheme? {rest : List Char} (h : scheme? cs = some (scheme, rest)) :
    rest <:+ cs := by
  unfold scheme? at h
  dsimp only at h
  split at h
  · rename_i hdrop
    split at h
    · cases h
      exact (List.suffix_cons ':' _).trans (hdrop ▸ List.drop_suffix _ _)
    · cases h
  · cases h

/-- The path of what a text leads to from a base is read from the text. -/
theorem readsPath_join {base : Url} {text : String} (hbase : base.path = .segments [""])
    (hplain : styleOf base.scheme = .plain) (h : base.join text = .ok u)
    (hscheme : u.scheme = base.scheme) : u.ReadsPath (Reference.ofList (clean text)).body := by
  unfold join at h
  dsimp only at h
  split at h
  · rename_i scheme rest hread
    obtain ⟨heq, hreads⟩ := of_afterScheme h
    rw [← hscheme, heq] at hplain
    exact (hreads hplain).1.of_suffix (suffix_scheme? hread)
  · obtain ⟨cs, hcs, -, hreads⟩ := of_relativeTo hbase hplain h
    exact hreads.of_suffix hcs

end PhraseMark.Url
