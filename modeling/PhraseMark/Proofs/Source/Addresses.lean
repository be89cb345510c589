import PhraseMark.Proofs.Url.Segments
import PhraseMark.Source.Package

/-!
# Addresses of files

The address of a file in a package leads back to the file if the names on its path stand in the
address as they are. A character that is percent encoded there is not decoded on the way back, and
a path that reads as something else, as an address of its own say, leads somewhere else.
-/

namespace PhraseMark.Package

open Url

variable {p : Package} {names parts : List String} {root part file : String} {u : Url}

/-! ## Joining names to a path -/

/-- What is written before the first name that is joined to a path. -/
def opening (path : String) : List Char :=
  if path.isEmpty || path.endsWith "/" then path.toList else path.toList ++ ['/']

theorem length_le_opening (path : String) : path.toList.length ≤ (opening path).length := by
  rw [opening]
  split
  · exact Nat.le_refl _
  · rw [List.length_append]
    exact Nat.le_add_right _ _

/-- A text that can stand between two slashes. -/
def IsName (s : String) : Prop := s ≠ "" ∧ '/' ∉ s.toList

instance (s : String) : Decidable (IsName s) := inferInstanceAs (Decidable (_ ∧ _))

theorem IsName.toList_ne_nil (h : IsName part) : part.toList ≠ [] :=
  fun hnil => h.1 (String.toList_eq_nil_iff.1 hnil)

/-- A name does not begin with a slash, so it is put behind the path. -/
theorem toList_addPart (h : IsName part) (path : String) :
    (addPart path part).toList = opening path ++ part.toList := by
  have hstart : part.startsWith "/" = false := by
    rw [Bool.eq_false_iff, ne_eq, String.startsWith_string_iff]
    exact fun hstart => h.2 (hstart.mem (by decide))
  rw [addPart, opening, if_neg (by rw [hstart]; decide)]
  split
  · rw [String.toList_append]
  · rw [String.toList_append, String.toList_append]
    rfl

theorem opening_addPart (h : IsName part) (path : String) :
    opening (addPart path part) = opening path ++ part.toList ++ ['/'] := by
  have hne := h.toList_ne_nil
  have hempty : (addPart path part).isEmpty = false := by
    rw [Bool.eq_false_iff, ne_eq, String.isEmpty_iff, ← String.toList_eq_nil_iff,
      toList_addPart h]
    exact fun hnil => hne (List.append_eq_nil_iff.1 hnil).2
  have hend : (addPart path part).endsWith "/" = false := by
    rw [Bool.eq_false_iff, ne_eq, String.endsWith_eq_endsWith_toSlice,
      String.Slice.endsWith_string_iff, String.copy_toSlice, toList_addPart h]
    rintro ⟨before, hbefore⟩
    have hlast := congrArg List.getLast? hbefore
    rw [List.getLast?_append, List.getLast?_append, List.getLast?_eq_some_getLast hne,
      Option.some_or] at hlast
    exact h.2 (List.mem_of_getLast? (List.getLast?_eq_some_getLast hne ▸ hlast.symm))
  rw [opening, hempty, hend, Bool.or_self, if_neg Bool.false_ne_true, toList_addPart h]

theorem toList_foldl_addPart (hpart : IsName part) (hparts : ∀ s ∈ parts, IsName s)
    (root : String) :
    ((part :: parts).foldl addPart root).toList =
      opening root ++ ['/'].intercalate ((part :: parts).map String.toList) := by
  induction parts generalizing root part with
  | nil =>
      rw [List.foldl_cons, List.foldl_nil, toList_addPart hpart]
      simp
  | cons next rest ih =>
      have hrest := ih (hparts next List.mem_cons_self)
        (fun s hs => hparts s (List.mem_cons_of_mem next hs)) (addPart root part)
      simp only [List.map_cons] at hrest ⊢
      rw [List.foldl_cons, hrest, opening_addPart hpart, List.intercalate_cons_cons]
      simp only [List.append_assoc]

theorem eq_or_mem_of_mem_intercalate {α : Type} {sep c : α} {parts : List (List α)}
    (h : c ∈ [sep].intercalate parts) : c = sep ∨ ∃ part ∈ parts, c ∈ part := by
  induction parts with
  | nil => cases h
  | cons part parts ih =>
      cases parts with
      | nil =>
          rw [List.intercalate_singleton] at h
          exact .inr ⟨part, List.mem_cons_self, h⟩
      | cons next rest =>
          rw [List.intercalate_cons_cons, List.mem_append, List.mem_append,
            List.mem_singleton] at h
          rcases h with (h | h) | h
          · exact .inr ⟨part, List.mem_cons_self, h⟩
          · exact .inl h
          · exact (ih h).imp_right (fun ⟨q, hq, hc⟩ => ⟨q, List.mem_cons_of_mem part hq, hc⟩)

theorem splitOn_intercalate_names (hnames : ∀ s ∈ names, IsName s) (hne : names ≠ []) :
    (['/'].intercalate (names.map String.toList)).splitOn '/' = names.map String.toList := by
  apply List.splitOn_intercalate
  · intro cs hcs
    obtain ⟨s, hs, rfl⟩ := List.mem_map.1 hcs
    exact (hnames s hs).2
  · exact fun hnil => hne (List.map_eq_nil_iff.1 hnil)

/-- Names are joined in one way only. -/
theorem foldl_addPart_injective (hparts : ∀ s ∈ parts, IsName s) (hnames : ∀ s ∈ names, IsName s)
    (hne : names ≠ []) (h : parts.foldl addPart root = names.foldl addPart root) :
    parts = names := by
  have hsplit := splitOn_intercalate_names hnames hne
  obtain ⟨name, names, rfl⟩ := List.exists_cons_of_ne_nil hne
  have hname := hnames name List.mem_cons_self
  have hlist := congrArg String.toList h
  rw [toList_foldl_addPart hname (fun s hs => hnames s (List.mem_cons_of_mem name hs))] at hlist
  cases parts with
  | nil =>
      -- without a name the path stays as it is, and a name makes it longer
      have hlen := congrArg List.length hlist
      rw [List.foldl_nil, List.length_append] at hlen
      have hle := length_le_opening root
      have hnil : ['/'].intercalate ((name :: names).map String.toList) = [] :=
        List.length_eq_zero_iff.1 (by omega)
      rw [hnil, List.splitOn_nil, List.map_cons, List.cons.injEq] at hsplit
      exact absurd hsplit.1.symm hname.toList_ne_nil
  | cons part parts =>
      rw [toList_foldl_addPart (hparts part List.mem_cons_self)
        (fun s hs => hparts s (List.mem_cons_of_mem part hs))] at hlist
      have hsame := congrArg (List.splitOn '/') (List.append_cancel_left hlist)
      rw [splitOn_intercalate_names hparts (List.cons_ne_nil _ _), hsplit] at hsame
      exact List.map_injective_iff.2 (fun a b => String.toList_inj.1) hsame

/-! ## Addresses in a package -/

/-- What holds of the small letters holds of a character that is one. -/
theorem of_isLower {P : Char → Prop} (h : ∀ n < 26, P (Char.ofNat (97 + n))) {c : Char}
    (hc : c.isLower = true) : P c := by
  have hrange : 97 ≤ c.toNat ∧ c.toNat ≤ 122 :=
    ((Bool.and_eq_true _ _).mp hc).imp of_decide_eq_true of_decide_eq_true
  have hchar := h (c.toNat - 97) (by omega)
  rwa [Nat.add_sub_cancel' hrange.1, Char.ofNat_toNat] at hchar

section Letters

variable {id : List Char} (hid : ∀ c ∈ id, c.isLower = true)

include hid

theorem hostLength_letters : hostLength .plain false (id ++ ['/']) = id.length := by
  induction id with
  | nil => rfl
  | cons c cs ih =>
      have hc := of_isLower (P := fun c => (c == ':') = false ∧
        PathStyle.plain.separates c = false ∧ (c == '[') = false ∧ (c == ']') = false)
        (by decide) (hid c List.mem_cons_self)
      rw [List.cons_append, hostLength, hc.1, hc.2.1, hc.2.2.1, hc.2.2.2,
        ih (fun d hd => hid d (List.mem_cons_of_mem c hd)), List.length_cons]
      exact Nat.add_comm 1 cs.length

theorem ofPlain_letters : Host.ofPlain id = .ok (.name (.ofList id)) := by
  have hchar : ∀ c ∈ id, c ≠ '[' ∧ Host.isRefused c = false ∧ EncodeSet.controls c = false :=
    fun c hc => of_isLower (P := fun c => c ≠ '[' ∧ Host.isRefused c = false ∧
      EncodeSet.controls c = false) (by decide) (hid c hc)
  have hhead : (id.head? == some '[') = false := by
    cases id with
    | nil => rfl
    | cons c cs => simpa using (hchar c List.mem_cons_self).1
  have hrefused : id.any Host.isRefused = false :=
    List.any_eq_false.2 (fun c hc => Bool.eq_false_iff.1 (hchar c hc).2.1)
  rw [Host.ofPlain, hhead, hrefused, percentEncode_eq_self (fun c hc => (hchar c hc).2.2)]
  rfl

theorem cutCredentials_letters :
    cutCredentials .plain (id ++ ['/']) = (none, id ++ ['/']) := by
  have hchar : ∀ c ∈ id, PathStyle.plain.separates c = false ∧ c ≠ '@' :=
    fun c hc => of_isLower (P := fun c => PathStyle.plain.separates c = false ∧ c ≠ '@')
      (by decide) (hid c hc)
  have hreach : (id ++ ['/']).takeWhile (! PathStyle.plain.separates ·) = id := by
    rw [List.takeWhile_append_of_pos (fun c hc => by rw [(hchar c hc).1]; rfl)]
    simp [separates_plain]
  have hhost : id.reverse.takeWhile (· ≠ '@') = id.reverse := by
    rw [List.takeWhile_eq_self_iff]
    intro c hc
    exact decide_eq_true (hchar c (List.mem_reverse.1 hc)).2
  simp only [cutCredentials, hreach, hhost, List.reverse_reverse, if_true]

theorem authorityOf_letters (hne : id ≠ []) (r : Reference) :
    authorityOf scheme r (id ++ ['/']) = .ok ({ host := .name (.ofList id) }, ['/']) := by
  have hstyle : styleOf scheme = .plain := by decide
  have hlength : decide (id.length = 0) = false :=
    decide_eq_false (fun hzero => hne (List.length_eq_zero_iff.1 hzero))
  have hport : port? scheme ['/'] = .ok (none, ['/']) := rfl
  have hcredentials : credentialsOf [] = ("", "") := by decide
  have hbare : ({ host := .name (.ofList id) } : Authority).credentials.isEmpty = true := rfl
  simp only [authorityOf, hstyle, cutCredentials_letters hid, hostLength_letters hid,
    List.take_left, List.drop_left, ofPlain_letters hid, hport, hlength, Option.getD_none,
    hcredentials]
  simp only [bind, Except.bind, hbare, Option.none_beq_some, Bool.false_and, Bool.false_eq_true,
    if_false, BEq.rfl, if_true, Bool.not_true, Bool.and_false]
  rfl

end Letters

/-- The address of the directory of a package. -/
def baseUrl (p : Package) : Url :=
  { scheme := scheme, authority := some { host := .name p.id }, path := .segments [""] }

theorem scheme?_append {name rest : List Char} {first : Char}
    (hname : (first :: name).all
      (fun c => c.isAlphanum || c == '+' || c == '-' || c == '.') = true)
    (hfirst : first.isAlpha = true) :
    scheme? (first :: name ++ ':' :: rest) =
      some (.ofList ((first :: name).map Char.toLower), rest) := by
  have htake : (first :: name ++ ':' :: rest).takeWhile
      (fun c => c.isAlphanum || c == '+' || c == '-' || c == '.') = first :: name := by
    rw [List.takeWhile_append_of_pos (List.all_eq_true.1 hname)]
    simp
  simp only [scheme?, htake, List.drop_left]
  rw [if_pos hfirst]

theorem path_of_all {cs : List Char} (h : cs.all (! EncodeSet.path ·) = true) :
    ∀ c ∈ cs, EncodeSet.path c = false := by
  intro c hc
  have hc' := List.all_eq_true.1 h c hc
  simpa using hc'

theorem base_eq (hid : ∀ c ∈ p.id.toList, c.isLower = true) (hne : p.id ≠ "") :
    p.base = .ok p.baseUrl := by
  have htext : (scheme ++ "://" ++ p.id ++ "/").toList =
      "chrome-extension".toList ++ ':' :: '/' :: '/' :: (p.id.toList ++ ['/']) := by
    simp [scheme]
  have hwritten : ∀ c ∈ (scheme ++ "://" ++ p.id ++ "/").toList, EncodeSet.path c = false := by
    intro c hc
    rw [String.toList_append, String.toList_append, List.mem_append, List.mem_append] at hc
    rcases hc with (hc | hc) | hc
    · exact path_of_all (by decide : (scheme ++ "://").toList.all (! EncodeSet.path ·) = true) c hc
    · exact of_isLower (P := fun c => EncodeSet.path c = false) (by decide) (hid c hc)
    · exact path_of_all (by decide : "/".toList.all (! EncodeSet.path ·) = true) c hc
  have hscheme :
      scheme? ("chrome-extension".toList ++ ':' :: '/' :: '/' :: (p.id.toList ++ ['/'])) =
        some (scheme, '/' :: '/' :: (p.id.toList ++ ['/'])) :=
    scheme?_append (by decide) (by decide)
  have hne' : p.id.toList ≠ [] := fun hnil => hne (String.toList_eq_nil_iff.1 hnil)
  have hstyle : styleOf scheme = .plain := by decide
  rw [base, Url.ofText]
  simp only [reference_of_written hwritten, htext, hscheme, afterScheme, hstyle, afterSlashes,
    authorityOf_letters hid hne']
  rw [String.ofList_toList]
  rfl

theorem urlOf_eq (hid : ∀ c ∈ p.id.toList, c.isLower = true) (hne : p.id ≠ "") {path : String}
    (hpath : path.toList.head? ≠ some '/') :
    p.urlOf path = (p.baseUrl.join path).mapError .invalidResource := by
  have hdrop : path.toList.dropWhile (· == '/') = path.toList := by
    cases hlist : path.toList with
    | nil => rfl
    | cons c cs =>
        rw [hlist, List.head?_cons, ne_eq, Option.some.injEq] at hpath
        rw [List.dropWhile_cons, if_neg]
        simpa using hpath
  unfold urlOf
  rw [base_eq hid hne, hdrop, String.ofList_toList]

/-- An address of the package leads to the file that its names are joined to. -/
theorem resolve_eq_ok_iff : p.resolve u = .ok file ↔
    u.scheme = scheme ∧ u.host? = some p.id ∧
      (u.segments.filter isPart).foldl addPart p.root = file := by
  rw [resolve, Package.parts]
  split
  · rename_i hours
    rw [Bool.and_eq_true, beq_iff_eq, beq_iff_eq] at hours
    simp [Except.map, hours]
  · rename_i hours
    rw [Bool.and_eq_true, beq_iff_eq, beq_iff_eq, not_and] at hours
    simp only [Except.map, reduceCtorEq, false_iff, not_and]
    exact fun hscheme hhost => absurd hhost (hours hscheme)

/-! ## Files that are found again -/

/-- The names on the path of a file. -/
structure IsFilePath (names : List String) : Prop where
  ne_nil : names ≠ []
  isName : ∀ s ∈ names, IsName s

def pathOf (names : List String) : String := "/".intercalate names

/-- The names on a path stand in an address as they are: no character of theirs has to be encoded,
none of them reads as dots, and the path reads neither as an address with a scheme of its own nor
as one that begins with a slash. -/
structure Portable (names : List String) : Prop where
  written : ∀ s ∈ names, ∀ c ∈ s.toList, EncodeSet.path c = false
  stays : ∀ s ∈ names, isMove s.toList = false
  no_scheme : scheme? (pathOf names).toList = none
  no_backslash : (pathOf names).toList.head? ≠ some '\\'

theorem toList_pathOf (names : List String) :
    (pathOf names).toList = ['/'].intercalate (names.map String.toList) := by
  rw [pathOf, String.toList_intercalate]
  rfl

theorem path_pathOf (hwritten : ∀ s ∈ names, ∀ c ∈ s.toList, EncodeSet.path c = false) :
    ∀ c ∈ (pathOf names).toList, EncodeSet.path c = false := by
  intro c hc
  rw [toList_pathOf] at hc
  rcases eq_or_mem_of_mem_intercalate hc with rfl | ⟨cs, hcs, hc⟩
  · decide
  · obtain ⟨s, hs, rfl⟩ := List.mem_map.1 hcs
    exact hwritten s hs c hc

namespace IsFilePath

variable (h : IsFilePath names)

include h

theorem splitOnP_pathOf :
    (pathOf names).toList.splitOnP PathStyle.plain.separates = names.map String.toList := by
  have hsplit := splitOn_intercalate_names h.isName h.ne_nil
  rw [← toList_pathOf, List.splitOn_eq_splitOnP] at hsplit
  rw [← hsplit]
  exact congrArg (List.splitOnP · _) (funext separates_plain)

theorem addPath_pathOf : addPath .plain [] (pathOf names).toList =
    addPieces .plain [] (names.map String.toList) := by
  rw [addPath, h.splitOnP_pathOf]

/-- The path begins with a character of the first name. -/
theorem exists_first : ∃ c cs, (pathOf names).toList = c :: cs ∧ c ≠ '/' := by
  have hsplit := h.splitOnP_pathOf
  obtain ⟨name, rest, rfl⟩ := List.exists_cons_of_ne_nil h.ne_nil
  have hname := (h.isName name List.mem_cons_self).toList_ne_nil
  cases hpath : (pathOf (name :: rest)).toList with
  | nil =>
      rw [hpath, List.splitOnP_nil, List.map_cons, List.cons.injEq] at hsplit
      exact absurd hsplit.1.symm hname
  | cons c cs =>
      refine ⟨c, cs, rfl, ?_⟩
      rintro rfl
      rw [hpath, List.splitOnP_cons_eq_if_modifyHead, separates_plain, beq_self_eq_true,
        if_pos rfl, List.map_cons, List.cons.injEq] at hsplit
      exact hname hsplit.1.symm

/-- Between two slashes stands a name. -/
theorem not_slashes {rest : List Char} : ¬ '/' :: '/' :: rest <:+ (pathOf names).toList := by
  rintro ⟨before, hbefore⟩
  have hsplit := h.splitOnP_pathOf
  rw [← hbefore, List.splitOnP_append_cons _ _ (separates_plain '/'),
    List.splitOnP_cons_eq_if_modifyHead, separates_plain, beq_self_eq_true, if_pos rfl] at hsplit
  have hmem : [] ∈ names.map String.toList := by
    rw [← hsplit]
    exact List.mem_append_right _ List.mem_cons_self
  obtain ⟨s, hs, hnil⟩ := List.mem_map.1 hmem
  exact (h.isName s hs).toList_ne_nil hnil

theorem letters_eq : letters names = (pathOf names).toList.countP (· ≠ '/') := by
  have hsum := sum_length_splitOnP PathStyle.plain.separates (pathOf names).toList
  rw [h.splitOnP_pathOf, List.map_map] at hsum
  rw [letters]
  refine hsum.trans (List.countP_congr fun c _ => ?_)
  rw [separates_plain]
  simp

/-- Added to the address of the directory, the path is all there is of a path. -/
theorem relativeTo_pathOf (hbackslash : (pathOf names).toList.head? ≠ some '\\') (p : Package) :
    relativeTo p.baseUrl ⟨(pathOf names).toList, none, none⟩ =
      .ok { p.baseUrl with path := .segments (addPath .plain [] (pathOf names).toList) } := by
  obtain ⟨c, cs, hpath, hslash⟩ := h.exists_first
  rw [hpath, List.head?_cons, ne_eq, Option.some.injEq] at hbackslash
  have hbase : p.baseUrl.path = .segments [""] := rfl
  rw [hpath, relativeTo_of_name hbase hslash hbackslash]
  rfl

end IsFilePath

/-- A portable path is read into the address of its names. -/
theorem IsFilePath.join_of_portable (h : IsFilePath names) (hportable : Portable names)
    (p : Package) :
    p.baseUrl.join (pathOf names) = .ok { p.baseUrl with path := .segments names } := by
  have hnames : addPath .plain [] (pathOf names).toList = names := by
    rw [h.addPath_pathOf, addPieces_of_names, List.nil_append, List.map_map]
    · apply (List.map_congr_left fun s hs => ?_).trans (List.map_id names)
      rw [Function.comp_apply, percentEncode_eq_self (hportable.written s hs),
        String.ofList_toList]
      rfl
    · intro piece hpiece
      obtain ⟨s, hs, rfl⟩ := List.mem_map.1 hpiece
      exact hportable.stays s hs
  rw [Url.join, reference_of_written (path_pathOf hportable.written)]
  simp only [hportable.no_scheme]
  rw [h.relativeTo_pathOf hportable.no_backslash, hnames]

namespace IsFilePath

variable (h : IsFilePath names)

include h

/-- An address of the package itself has an authority, which the path cannot name. -/
theorem scheme?_eq_none (hwritten : ∀ c ∈ (pathOf names).toList, EncodeSet.path c = false)
    (hjoin : p.baseUrl.join (pathOf names) = .ok u) (hscheme : u.scheme = scheme)
    (hauthority : u.authority ≠ none) : scheme? (pathOf names).toList = none := by
  have hstyle : styleOf scheme = .plain := by decide
  rw [Url.join, reference_of_written hwritten] at hjoin
  dsimp only at hjoin
  cases hread : scheme? (pathOf names).toList with
  | none => rfl
  | some read =>
      obtain ⟨s, rest⟩ := read
      rw [hread] at hjoin
      obtain ⟨heq, hplain⟩ := of_afterScheme hjoin
      obtain ⟨rest', rfl⟩ := (hplain (heq ▸ hscheme ▸ hstyle)).2 hauthority
      exact absurd (suffix_scheme? hread) h.not_slashes

/-- A backslash at the beginning of the path would be lost. -/
theorem head?_ne_backslash (hwritten : ∀ c ∈ (pathOf names).toList, EncodeSet.path c = false)
    (hrelative : relativeTo p.baseUrl ⟨(pathOf names).toList, none, none⟩ = .ok u)
    (hletters : letters names ≤ letters u.segments) :
    (pathOf names).toList.head? ≠ some '\\' := by
  intro hhead
  have hstyle : styleOf scheme = .plain := by decide
  obtain ⟨cs, -, htail, hreads⟩ := of_relativeTo rfl hstyle hrelative
  have hsuffix := htail hhead
  have hle := hreads.letters_le (fun c hc => hwritten c
    ((hsuffix.trans (List.tail_suffix _)).mem hc))
  have hcount := hsuffix.sublist.countP_le (p := (· ≠ '/'))
  have hall := h.letters_eq
  obtain ⟨c, rest, hfirst, hslash⟩ := h.exists_first
  rw [hfirst, List.countP_cons, decide_eq_true hslash, if_pos rfl] at hall
  rw [hfirst, List.tail_cons] at hcount
  omega

/-- A name that reads as dots would be lost. -/
theorem isMove_eq_false (hwritten : ∀ s ∈ names, ∀ c ∈ s.toList, EncodeSet.path c = false)
    (hletters : letters names ≤ letters (addPath .plain [] (pathOf names).toList)) :
    ∀ s ∈ names, isMove s.toList = false := by
  intro s hs
  by_contra hmove
  have hlt := @letters_addPieces_lt s.toList (names.map String.toList) [] ?_
    (List.mem_map_of_mem hs) (Bool.not_eq_false _ ▸ hmove)
  · have hnil : letters [] = 0 := rfl
    rw [← h.addPath_pathOf, List.map_map, hnil, Nat.zero_add] at hlt
    exact absurd hlt (Nat.not_lt.2 hletters)
  · intro piece hpiece
    obtain ⟨t, ht, rfl⟩ := List.mem_map.1 hpiece
    exact hwritten t ht

/-- A file whose address leads back to it has portable names. -/
theorem portable_of_resolve (hjoin : p.baseUrl.join (pathOf names) = .ok u)
    (hresolve : p.resolve u = .ok (names.foldl addPart p.root)) : Portable names := by
  obtain ⟨hscheme, hhost, hfile⟩ := resolve_eq_ok_iff.1 hresolve
  have hbase : p.baseUrl.path = .segments [""] := rfl
  have hstyle : styleOf scheme = .plain := by decide
  have hreads := readsPath_join hbase hstyle hjoin hscheme
  have hauthority : u.authority ≠ none := by
    intro hnone
    rw [host?, hnone] at hhost
    cases hhost
  -- the segments that name something are the names, so these are written
  have hparts : u.segments.filter isPart = names := by
    apply foldl_addPart_injective _ h.isName h.ne_nil hfile
    intro s hs
    obtain ⟨hs, hpart⟩ := List.mem_filter.1 hs
    simp only [isPart, Bool.and_eq_true, bne_iff_ne] at hpart
    exact ⟨hpart.1.1, fun hslash => (hreads.isWritten hs _ hslash).2 rfl⟩
  have hwritten : ∀ s ∈ names, ∀ c ∈ s.toList, EncodeSet.path c = false := by
    intro s hs c hc
    rw [← hparts] at hs
    exact (hreads.isWritten (List.mem_filter.1 hs).1 c hc).1
  have hpath := path_pathOf hwritten
  have hletters : letters names ≤ letters u.segments :=
    hparts ▸ letters_le_of_sublist List.filter_sublist
  have hno_scheme := h.scheme?_eq_none hpath hjoin hscheme hauthority
  rw [Url.join, reference_of_written hpath] at hjoin
  simp only [hno_scheme] at hjoin
  have hno_backslash := h.head?_ne_backslash hpath hjoin hletters
  rw [h.relativeTo_pathOf hno_backslash] at hjoin
  cases hjoin
  exact ⟨hwritten, h.isMove_eq_false hwritten hletters, hno_scheme, hno_backslash⟩

end IsFilePath

/-- A portable file is found again under its address. -/
theorem IsFilePath.resolve_of_portable (h : IsFilePath names) (hportable : Portable names)
    (hne : p.id ≠ "") :
    p.resolve { p.baseUrl with path := .segments names } = .ok (names.foldl addPart p.root) := by
  have hname : (Host.name p.id).isEmpty = false := by
    rw [Host.isEmpty, Host.empty, beq_eq_false_iff_ne]
    exact fun heq => hne (Host.name.inj heq)
  have hhost : ({ p.baseUrl with path := .segments names } : Url).host? = some p.id := by
    simp only [host?, baseUrl, hname, Bool.false_eq_true, if_false, Host.text]
  have hparts : names.filter isPart = names := by
    apply List.filter_eq_self.2
    intro s hs
    have hstays := hportable.stays s hs
    simp only [isPart, Bool.and_eq_true, bne_iff_ne]
    refine ⟨⟨(h.isName s hs).1, ?_⟩, ?_⟩ <;> rintro rfl <;> exact absurd hstays (by decide)
  refine resolve_eq_ok_iff.2 ⟨rfl, hhost, ?_⟩
  rw [segments, hparts]

/-- The address of a file in a package leads back to the file exactly if its names are portable. The
keywords of a portable resource are then those of the very file. -/
theorem resolve_urlOf_iff (hid : ∀ c ∈ p.id.toList, c.isLower = true) (hne : p.id ≠ "")
    (h : IsFilePath names) :
    ((p.urlOf (pathOf names) >>= p.resolve) = .ok (names.foldl addPart p.root) ↔ Portable names) ∧
      (Portable names → ∃ url, p.urlOf (pathOf names) = .ok url ∧ ∀ read,
        p.keywords read (pathOf names) =
          match read (names.foldl addPart p.root) with
          | .ok bytes => readKeywords url.text bytes
          | .error fault =>
            .error (.sourceUnavailable url.text (.file fault (names.foldl addPart p.root)))) := by
  obtain ⟨c, cs, hpath, hslash⟩ := h.exists_first
  have hurl := @urlOf_eq p hid hne (pathOf names) (by rw [hpath]; simpa using hslash)
  have hportable_url : Portable names →
      p.urlOf (pathOf names) = .ok { p.baseUrl with path := .segments names } := by
    intro hportable
    rw [hurl, h.join_of_portable hportable]
    rfl
  refine ⟨⟨fun hresolve => ?_, fun hportable => ?_⟩, fun hportable => ?_⟩
  · obtain ⟨u, hu, hresolve⟩ := exists_of_bind_ok hresolve
    cases hjoin : p.baseUrl.join (pathOf names) with
    | error e =>
        rw [hurl, hjoin] at hu
        cases hu
    | ok v =>
        rw [hurl, hjoin] at hu
        cases hu
        exact h.portable_of_resolve hjoin hresolve
  · rw [hportable_url hportable]
    exact h.resolve_of_portable hportable hne
  · refine ⟨_, hportable_url hportable, fun read => ?_⟩
    rw [keywords, hportable_url hportable]
    cases hread : read (names.foldl addPart p.root) <;>
      simp only [bind, Except.bind, h.resolve_of_portable hportable hne, hread]

theorem resolve_urlOf_iff_nested :
    ((⟨"abcdef", "/opt/ext"⟩ : Package).urlOf (pathOf ["data", "keywords.json"]) >>=
        (⟨"abcdef", "/opt/ext"⟩ : Package).resolve) =
      .ok (["data", "keywords.json"].foldl addPart "/opt/ext") := by
  have hpath : IsFilePath ["data", "keywords.json"] :=
    ⟨by decide, by decide⟩
  have hwritten : ∀ s ∈ ["data", "keywords.json"], s.toList.all (! EncodeSet.path ·) = true := by
    decide
  have hportable : Portable ["data", "keywords.json"] :=
    ⟨fun s hs => path_of_all (hwritten s hs), by decide, by decide,
      by decide⟩
  have hid : "abcdef".toList.all Char.isLower = true := by decide
  exact (@resolve_urlOf_iff ⟨"abcdef", "/opt/ext"⟩ _ (List.all_eq_true.1 hid) (by decide)
    hpath).1.2 hportable

/-- A blank is encoded in the address of a file, and the way back ends at another name. -/
theorem blank_not_decoded :
    IsFilePath ["my keywords.json"] ∧
      ((⟨"abc", "/opt"⟩ : Package).urlOf (pathOf ["my keywords.json"]) >>=
        (⟨"abc", "/opt"⟩ : Package).resolve).toOption = some "/opt/my%20keywords.json" ∧
      ["my keywords.json"].foldl addPart "/opt" = "/opt/my keywords.json" := by
  refine ⟨⟨by decide, by decide⟩, ?_, ?_⟩
  · decide +kernel
  · decide +kernel

end PhraseMark.Package
