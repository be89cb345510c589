import PhraseMark.Channel.Message
import PhraseMark.Page.NodeJson
import PhraseMark.Proofs.Json.Records
import PhraseMark.Source.Basic

/-!
# Wire formats read back

Envelopes, messages, lists of keywords and nodes come back from the texts they are written as, and
so do the keywords of a payload, whatever other members it has.
-/

namespace PhraseMark

variable {depth : Nat}

/-! ## Attributes -/

namespace Attributes

variable {name value : String} {es pairs : List (String × String)}

theorem insertEntry_perm (h : ∀ e ∈ es, e.1 ≠ name) :
    (insertEntry name value es).Perm ((name, value) :: es) := by
  induction es with
  | nil => exact .refl _
  | cons e es ih =>
      have hne : ¬ name = e.1 := (h e List.mem_cons_self).symm
      rw [insertEntry, if_neg hne]
      split
      · exact .refl _
      · exact ((ih fun i hi => h i (List.mem_cons_of_mem e hi)).cons e).trans (.swap _ _ _)

theorem foldl_insert_perm (a : Attributes)
    (h : (a.entries ++ pairs).Pairwise (fun d e => d.1 ≠ e.1)) :
    (pairs.foldl (fun a p => a.insert p.1 p.2) a).entries.Perm (a.entries ++ pairs) := by
  induction pairs generalizing a with
  | nil => rw [List.append_nil, List.foldl_nil]
  | cons p pairs ih =>
      have hnew : ∀ e ∈ a.entries, e.1 ≠ p.1 := fun e he =>
        (List.pairwise_append.1 h).2.2 e he p List.mem_cons_self
      have hperm : (a.insert p.1 p.2).entries.Perm (p :: a.entries) := insertEntry_perm hnew
      have hmove : ((a.insert p.1 p.2).entries ++ pairs).Perm (a.entries ++ p :: pairs) :=
        (hperm.append_right pairs).trans List.perm_middle.symm
      rw [List.foldl_cons]
      exact (ih _ ((hmove.pairwise_iff fun h => Ne.symm h).2 h)).trans hmove

/-- A map is the map of its entries in any order. -/
theorem ofList_of_perm {a : Attributes} (h : pairs.Perm a.entries) : ofList pairs = a := by
  have hnames : a.entries.Pairwise (fun d e => d.1 ≠ e.1) :=
    a.sorted.imp fun {_ _} hlt => Std.ne_of_lt hlt
  have hperm : (ofList pairs).entries.Perm a.entries :=
    (foldl_insert_perm empty ((h.pairwise_iff fun h => Ne.symm h).2 hnames)).trans h
  refine ext (List.Perm.eq_of_pairwise (fun d e _ _ hd he => ?_) (ofList pairs).sorted a.sorted
    hperm)
  exact absurd (String.lt_trans hd he) (String.lt_irrefl _)

end Attributes

/-! ## Nodes -/

namespace Node

variable {i : Nat} {o : Option Nat} {a : Attributes} {entries : List (String × String)} {n : Node}

theorem optional?_optionalId (h : ∀ i ∈ o, i < idBound) :
    Json.optional? id? (optionalId o) = some o := by
  cases o with
  | none => rfl
  | some i =>
      change (id? (.natural i)).map some = _
      rw [id?, Json.below?_natural (h i rfl), Option.map_some]

theorem lt_idBound_of_mem (b : Option BackendId) : ∀ i ∈ b.map (·.toNat), i < idBound := by
  cases b with
  | none => exact fun _ hi => nomatch hi
  | some b => exact fun _ hi => Option.some.inj hi ▸ b.toNat_lt

theorem optional?_optionalBool (b : Option Bool) :
    Json.optional? Json.bool? (optionalBool b) = some b := by
  cases b <;> rfl

theorem attributes?_entries (h : entries.Perm a.entries) :
    attributes? (.object (entries.map (fun e => (e.1, .string e.2)))) = some a := by
  have hread : (entries.map (fun e => (e.1, Json.string e.2))).mapM
      (fun (m : String × Json) => m.2.str?.map (m.1, ·)) = some (entries.map fun e => e) :=
    Json.mapM_map_eq_some fun _ _ => rfl
  rw [attributes?, hread, List.map_id', Option.map_some, Attributes.ofList_of_perm h]

theorem ofJson?_toJsonOf (hid : n.id < idBound) (hparent : ∀ i ∈ n.parent, i < idBound)
    (hchildren : ∀ i ∈ n.children, i < idBound) (hentries : entries.Perm n.attributes.entries) :
    ofJson? (n.toJsonOf entries) = some n := by
  have hnames : fieldNames.Nodup := by decide
  have hfields : (n.toJsonOf entries).completeFields? fieldNames = _ := Json.fields?_object hnames
  have hlist : Json.listOf? id? (.array (n.children.map .natural)) = some n.children :=
    Json.listOf?_map fun i hi => Json.below?_natural (hchildren i hi)
  have hnumber : (n.backendId.map (·.toNat)).map (·.toUInt32) = n.backendId := by
    cases n.backendId with
    | none => rfl
    | some b => exact congrArg some UInt32.ofNat_toNat
  have hnode : id? (.natural n.id) = some n.id := Json.below?_natural hid
  rw [ofJson?, hfields]
  simp only [List.map_cons, List.map_nil, Option.bind_some, ofFields?, Json.withDefault?,
    Json.required?, optional?_optionalId (lt_idBound_of_mem n.backendId),
    optional?_optionalId hparent, hnode, Json.choice?, NodeKind.ofName?_name, hlist, Json.str?,
    attributes?_entries hentries, optional?_optionalBool, Option.bind_eq_bind, hnumber]
  rfl

theorem kept_natural (h : i < idBound) : (Json.natural i).Kept depth .whole :=
  .natural (Nat.lt_of_lt_of_le h (by decide))

theorem kept_optionalId (h : ∀ i ∈ o, i < idBound) : (optionalId o).Kept depth .whole := by
  cases o with
  | none => exact .null
  | some i => exact kept_natural (h i rfl)

theorem kept_optionalBool (b : Option Bool) : (optionalBool b).Kept depth .whole := by
  cases b with
  | none => exact .null
  | some b => exact .bool b

theorem kept_toJsonOf (hid : n.id < idBound) (hparent : ∀ i ∈ n.parent, i < idBound)
    (hchildren : ∀ i ∈ n.children, i < idBound) (entries : List (String × String)) :
    (n.toJsonOf entries).Kept (depth + 2) shape := by
  have hattributes : ∀ m ∈ entries.map (fun e => (e.1, Json.string e.2)), m.2.Kept depth .whole :=
    List.forall_mem_map.2 fun e _ => .string e.2
  refine .record (fun m hm => List.mem_map_of_mem hm) ?_
  simp only [List.forall_mem_cons]
  exact ⟨kept_natural hid, kept_optionalId (lt_idBound_of_mem n.backendId), .string _,
    kept_optionalId hparent, .list fun i hi => kept_natural (hchildren i hi), .string _, .string _,
    .whole hattributes, kept_optionalBool n.visible, fun _ hm => nomatch hm⟩

end Node

/-! ## Messages -/

namespace Message

variable {patterns : List String} {count : Nat}

theorem ofJson?_toJson (h : count < Nat.pow 2 64) :
    ofJson? (detected patterns count).toJson = some (detected patterns count) := by
  have hnames : fieldNames.Nodup := by decide
  have hfields : (detected patterns count).toJson.completeFields? fieldNames = _ :=
    Json.fields?_object hnames
  have hlist : Json.listOf? Json.str? (.array (patterns.map .string)) = some patterns :=
    Json.listOf?_map fun _ _ => rfl
  rw [ofJson?, hfields]
  simp only [List.map_cons, List.map_nil, Option.bind_some, ofFields?, Json.required?, Json.str?,
    hlist, Json.below?_natural h, Option.bind_eq_bind, beq_self_eq_true, if_true]

theorem kept_toJson (h : count < Nat.pow 2 64) :
    (detected patterns count).toJson.Kept (depth + 2) .whole := by
  refine .whole ?_
  simp only [List.forall_mem_cons]
  exact ⟨.string _, .list fun s _ => .string s, .natural h, fun _ hm => nomatch hm⟩

end Message

namespace Envelope

theorem ofJson?_toJson (e : Envelope) (h : Message.ofJson? e.message.toJson = some e.message) :
    ofJson? e.toJson = some e := by
  have hnames : ["sender", "message"].Nodup := by decide
  have hfields : e.toJson.completeFields? ["sender", "message"] = _ := Json.fields?_object hnames
  have hsender : senderUrl? (.object [("url", .string e.url)]) = some e.url := rfl
  rw [ofJson?, hfields]
  simp only [List.map_cons, List.map_nil, Option.bind_some, ofFields?, Json.required?, hsender, h,
    Option.bind_eq_bind]
  rfl

theorem kept_toJson (e : Envelope) (h : e.message.toJson.Kept (depth + 1) .whole) :
    e.toJson.Kept (depth + 2) shape := by
  have hsender : (Json.object [("url", .string e.url)]).Kept (depth + 1)
      (.record (["url"].map (·, .whole))) :=
    .record (by simp) (List.forall_mem_singleton.2 (.string e.url))
  refine .object (fun m => if m.1 = "sender" then .record (["url"].map (·, .whole)) else .whole)
    ?_ ?_
  · simp only [List.forall_mem_cons]
    exact ⟨rfl, rfl, fun _ hm => nomatch hm⟩
  · simp only [List.forall_mem_cons]
    exact ⟨hsender, h, fun _ hm => nomatch hm⟩

end Envelope

/-! ## Keywords -/

theorem stringsFrom_map (index : Nat) (keywords : List String) :
    stringsFrom index (keywords.map .string) = .ok keywords := by
  induction keywords generalizing index with
  | nil => rfl
  | cons s keywords ih =>
      rw [List.map_cons, stringsFrom, ih]
      rfl

theorem kept_keywordsToJson (keywords : List String) :
    (keywordsToJson keywords).Kept (depth + 1) .whole :=
  .list fun s _ => .string s

theorem fromUTF8?_toUTF8 (s : String) : String.fromUTF8? s.toUTF8 = some s := by
  rw [String.fromUTF8?]
  exact dif_pos s.isValidUTF8

theorem readKeywords_write {payload : Json} {keywords : List String} (resource : String)
    (hkept : payload.Kept Json.Reader.maxDepth .whole)
    (hkeywords : payload.get? keywordsField = some (keywordsToJson keywords)) :
    readKeywords resource payload.write.toUTF8 = .ok keywords := by
  have hread : Json.parse? payload.write = some payload := Json.ofText?_write hkept
  simp only [readKeywords, fromUTF8?_toUTF8, keywordsOfText, hread, keywordsOfJson, hkeywords,
    keywordsToJson, stringsFrom_map]
  rfl

/-- Every value that goes over the wire comes back from its text: messages and envelopes with counts
of 64 bits, lists of keywords, and nodes with numbers of 32 bits, whatever order their attributes
are written in. The keywords of a payload come back in order and with repetitions, and they do so
beside any other members that stay within the limits of the reader. -/
theorem wireFormats_readBack :
    (∀ url patterns count, count < Nat.pow 2 64 →
      Envelope.ofText? (Envelope.toJson ⟨url, .detected patterns count⟩).write =
        some ⟨url, .detected patterns count⟩) ∧
    (∀ patterns count, count < Nat.pow 2 64 →
      Message.ofText? (Message.detected patterns count).toJson.write =
        some (.detected patterns count)) ∧
    (∀ keywords, keywordsOfJsonText? (keywordsToJson keywords).write = some keywords) ∧
    (∀ (n : Node) (entries : List (String × String)), n.id < Node.idBound →
      (∀ i ∈ n.parent, i < Node.idBound) → (∀ i ∈ n.children, i < Node.idBound) →
      entries.Perm n.attributes.entries → Node.ofText? (n.toJsonOf entries).write = some n) ∧
    (∀ resource keywords,
      readKeywords resource
        (Json.object [(keywordsField, keywordsToJson keywords)]).write.toUTF8 = .ok keywords) ∧
    ∀ resource (payload : Json) keywords, payload.Kept Json.Reader.maxDepth .whole →
      payload.get? keywordsField = some (keywordsToJson keywords) →
      readKeywords resource payload.write.toUTF8 = .ok keywords := by
  refine ⟨?_, ?_, ?_, ?_, ?_, ?_⟩
  · intro url patterns count h
    rw [Envelope.ofText?, Json.ofText?_write (Envelope.kept_toJson _ (Message.kept_toJson h))]
    exact Envelope.ofJson?_toJson _ (Message.ofJson?_toJson h)
  · intro patterns count h
    rw [Message.ofText?, Json.parse?, Json.ofText?_write (Message.kept_toJson h)]
    exact Message.ofJson?_toJson h
  · intro keywords
    rw [keywordsOfJsonText?, Json.parse?, Json.ofText?_write (kept_keywordsToJson keywords)]
    exact Json.listOf?_map fun _ _ => rfl
  · intro n entries hid hparent hchildren hentries
    rw [Node.ofText?, Json.ofText?_write (Node.kept_toJsonOf hid hparent hchildren entries)]
    exact Node.ofJson?_toJsonOf hid hparent hchildren hentries
  · intro resource keywords
    exact readKeywords_write resource
      (.whole (List.forall_mem_singleton.2 (kept_keywordsToJson keywords))) rfl
  · intro resource payload keywords hkept hkeywords
    exact readKeywords_write resource hkept hkeywords

/-- A node of number 3 under node 0, with two attributes. -/
def linkNode : Node where
  id := 3
  backendId := some 7
  kind := .element
  parent := some 0
  children := [4, 5]
  name := "A"
  attributes := { entries := [("class", "x"), ("href", "#")], sorted := by decide }

theorem wireFormats_readBack_linkNode :
    Envelope.ofText? (Envelope.toJson ⟨"https://a.b/", .detected ["\"\n", "\"\n"] 2⟩).write =
        some ⟨"https://a.b/", .detected ["\"\n", "\"\n"] 2⟩ ∧
      Message.ofText? (Message.detected ["a\\b"] 18446744073709551615).toJson.write =
        some (.detected ["a\\b"] 18446744073709551615) ∧
      Node.ofText? (linkNode.toJsonOf [("href", "#"), ("class", "x")]).write = some linkNode ∧
      readKeywords "keywords.json"
        (Json.object [("keywords", keywordsToJson ["b", "a", "b"]),
          ("version", .negative 1)]).write.toUTF8 = .ok ["b", "a", "b"] := by
  obtain ⟨henvelope, hmessage, -, hnode, -, hpayload⟩ := wireFormats_readBack
  refine ⟨henvelope _ _ 2 (by decide), hmessage _ _ (by decide), ?_, ?_⟩
  · exact hnode linkNode _ (by decide) (by decide) (by decide) (.swap _ _ _)
  · refine hpayload _ _ _ (.whole ?_) rfl
    exact List.forall_mem_cons.2 ⟨kept_keywordsToJson _,
      List.forall_mem_singleton.2 (.negative (by decide) (by decide))⟩

end PhraseMark
