import PhraseMark.Proofs.Source.Addresses

/-!
# Packages are not left

Whatever a resource is called, and whatever the id of a package is, the file that is read for it
lies below the directory of the package: dots are taken out when an address is read, in whatever way
they are spelled, and no segment of a path holds a slash.
-/

namespace PhraseMark

/-! ## Addresses with written segments -/

namespace Url

variable {base u : Url} {r : Reference} {text : String}

/-- The segments of an address whose scheme is not special stand in it as a path may be written. -/
def HasWrittenPath (u : Url) : Prop :=
  styleOf u.scheme = .plain → ∀ s ∈ u.segments, IsWritten s.toList

theorem hasWrittenPath_afterScheme {scheme : String} {cs : List Char}
    (h : afterScheme scheme r cs = .ok u) : u.HasWrittenPath := by
  obtain ⟨hscheme, hreads⟩ := of_afterScheme h
  intro hplain s hs
  exact (hreads (hscheme ▸ hplain)).1.isWritten hs

/-- A reference without a scheme keeps segments of the base and adds segments of its own. -/
theorem HasWrittenPath.relativeTo (hbase : base.HasWrittenPath) (h : relativeTo base r = .ok u) :
    u.HasWrittenPath := by
  have hafter {cs : List Char} (h : afterSlashes base.scheme r cs = .ok u) : u.HasWrittenPath := by
    obtain ⟨hscheme, hreads⟩ := of_afterSlashes h
    intro hplain s hs
    exact (hreads (hscheme ▸ hplain)).isWritten hs
  have hkept {segments : List String} (hpath : base.path = .segments segments)
      {cs : List Char} {kept : List String} (hkept : kept ⊆ segments) :
      ({ base with
        path := .segments (addPath .plain kept cs) }.withReference r).HasWrittenPath := by
    intro hplain s hs
    rcases mem_addPath hs with hs | hs
    · refine hbase hplain s ?_
      rw [Url.segments, hpath]
      exact hkept hs
    · exact hs
  unfold Url.relativeTo at h
  split at h
  · rename_i hpath
    split at h
    · cases h
      exact hbase
    · cases h
  · rename_i segments hpath
    dsimp only at h
    split at h
    · split at h
      all_goals
        cases h
        exact hbase
    · cases h
      exact hkept hpath (List.dropLast_subset segments)
    · cases h
      exact hkept hpath (List.nil_subset segments)
    · exact hafter h
    · exact hafter h

theorem hasWrittenPath_ofText (h : ofText text = .ok u) : u.HasWrittenPath := by
  unfold ofText at h
  dsimp only at h
  split at h
  · exact hasWrittenPath_afterScheme h
  · cases h

theorem HasWrittenPath.join (hbase : base.HasWrittenPath) (h : base.join text = .ok u) :
    u.HasWrittenPath := by
  unfold Url.join at h
  dsimp only at h
  split at h
  · exact hasWrittenPath_afterScheme h
  · exact hbase.relativeTo h

end Url

/-! ## Paths below a directory -/

namespace Package

open Url

variable {p : Package} {u : Url} {resource path text : String}

/-- A name that leads neither out of a directory nor back to it. -/
structure IsComponent (s : String) : Prop where
  ne_empty : s ≠ ""
  ne_dot : s ≠ "."
  ne_two_dots : s ≠ ".."
  no_slash : '/' ∉ s.toList

/-- The path of a directory, followed by components with slashes between them. -/
def IsBelow (root path : String) : Prop :=
  path = root ∨ ∃ components, components ≠ [] ∧ (∀ s ∈ components, IsComponent s) ∧
    path.toList = opening root ++ (pathOf components).toList

theorem IsComponent.isName {s : String} (h : IsComponent s) : IsName s := ⟨h.ne_empty, h.no_slash⟩

theorem isBelow_foldl_addPart {components : List String} (h : ∀ s ∈ components, IsComponent s)
    (root : String) : IsBelow root (components.foldl addPart root) := by
  cases components with
  | nil => exact .inl rfl
  | cons part parts =>
      refine .inr ⟨part :: parts, List.cons_ne_nil _ _, h, ?_⟩
      rw [toList_pathOf]
      exact toList_foldl_addPart (h part List.mem_cons_self).isName
        (fun s hs => (h s (List.mem_cons_of_mem part hs)).isName) root

/-- An address is accepted just if it is one of the package. -/
theorem exists_resolve_eq_ok_iff :
    (∃ path, p.resolve u = .ok path) ↔ u.scheme = scheme ∧ u.host? = some p.id := by
  simp only [resolve_eq_ok_iff, exists_and_left, exists_eq', and_true]

theorem isBelow_of_resolve (hu : u.HasWrittenPath) (h : p.resolve u = .ok path) :
    IsBelow p.root path := by
  obtain ⟨hscheme, -, rfl⟩ := resolve_eq_ok_iff.1 h
  have hplain : styleOf u.scheme = .plain := by
    rw [hscheme]
    decide
  apply isBelow_foldl_addPart
  intro s hs
  obtain ⟨hs, hpart⟩ := List.mem_filter.1 hs
  simp only [isPart, Bool.and_eq_true, bne_iff_ne] at hpart
  exact ⟨hpart.1.1, hpart.1.2, hpart.2, fun hslash => (hu hplain s hs '/' hslash).2 rfl⟩

theorem hasWrittenPath_urlOf (h : p.urlOf resource = .ok u) : u.HasWrittenPath := by
  unfold urlOf at h
  split at h
  · cases h
  · rename_i base hbase
    cases hjoin : base.join (.ofList (resource.toList.dropWhile (· == '/'))) with
    | error e =>
        rw [hjoin] at h
        cases h
    | ok v =>
        rw [hjoin] at h
        cases h
        exact (hasWrittenPath_ofText hbase).join hjoin

/-- The keywords of a resource are refused without a look at the files, or they are those of one
file, which lies below the directory of the package. Only addresses of the package are accepted. -/
theorem keywords_below (p : Package) (resource : String) :
    ((∃ e, ∀ read, p.keywords read resource = .error e) ∨
      ∃ url path, p.urlOf resource = .ok url ∧ p.resolve url = .ok path ∧ IsBelow p.root path ∧
        ∀ read, p.keywords read resource =
          match read path with
          | .ok bytes => readKeywords url.text bytes
          | .error fault => .error (.sourceUnavailable url.text (.file fault path))) ∧
      ∀ u : Url, (∃ path, p.resolve u = .ok path) ↔ u.scheme = scheme ∧ u.host? = some p.id := by
  refine ⟨?_, fun u => exists_resolve_eq_ok_iff⟩
  cases hurl : p.urlOf resource with
  | error e =>
      refine .inl ⟨e, fun read => ?_⟩
      rw [keywords, hurl]
      rfl
  | ok url =>
      cases hpath : p.resolve url with
      | error e =>
          refine .inl ⟨e, fun read => ?_⟩
          simp only [keywords, hurl, bind, Except.bind, hpath]
      | ok path =>
          refine .inr ⟨url, path, rfl, hpath,
            isBelow_of_resolve (hasWrittenPath_urlOf hurl) hpath, fun read => ?_⟩
          cases hread : read path with
          | ok bytes => simp only [keywords, hurl, bind, Except.bind, hpath, hread]
          | error fault => simp only [keywords, hurl, bind, Except.bind, hpath, hread]

end Package

end PhraseMark
