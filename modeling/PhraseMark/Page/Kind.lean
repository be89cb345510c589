/-!
# Kinds of nodes

The twelve kinds of document nodes with their numbers and names.
-/

namespace PhraseMark

/-- The kind of a document node. -/
inductive NodeKind where
  | element
  | attr
  | text
  | cdataSection
  | entityReference
  | entity
  | processingInstruction
  | comment
  | document
  | documentType
  | documentFragment
  | notationDeclaration
  deriving DecidableEq, Repr, Inhabited

namespace NodeKind

def all : List NodeKind :=
  [element, attr, text, cdataSection, entityReference, entity, processingInstruction,
    comment, document, documentType, documentFragment, notationDeclaration]

def code : NodeKind → Nat
  | element => 1
  | attr => 2
  | text => 3
  | cdataSection => 4
  | entityReference => 5
  | entity => 6
  | processingInstruction => 7
  | comment => 8
  | document => 9
  | documentType => 10
  | documentFragment => 11
  | notationDeclaration => 12

def ofCode? (n : Nat) : Option NodeKind :=
  all.find? (·.code = n)

def name : NodeKind → String
  | element => "Element"
  | attr => "Attribute"
  | text => "Text"
  | cdataSection => "CdataSection"
  | entityReference => "EntityReference"
  | entity => "Entity"
  | processingInstruction => "ProcessingInstruction"
  | comment => "Comment"
  | document => "Document"
  | documentType => "DocumentType"
  | documentFragment => "DocumentFragment"
  | notationDeclaration => "Notation"

def ofName? (s : String) : Option NodeKind :=
  all.find? (·.name == s)

/-- Text and CDATA sections carry the characters of the page. -/
def isCharacterData (k : NodeKind) : Bool :=
  k == text || k == cdataSection

theorem mem_all (k : NodeKind) : k ∈ all := by
  cases k <;> decide

@[simp] theorem ofCode?_code (k : NodeKind) : ofCode? k.code = some k := by
  cases k <;> rfl

@[simp] theorem ofName?_name (k : NodeKind) : ofName? k.name = some k := by
  cases k <;> rfl

theorem code_of_ofCode? {n : Nat} {k : NodeKind} (h : ofCode? n = some k) : k.code = n := by
  simpa using List.find?_some h

theorem ofCode?_isSome_iff {n : Nat} : (ofCode? n).isSome ↔ 1 ≤ n ∧ n ≤ 12 := by
  constructor
  · intro h
    obtain ⟨k, hk⟩ := Option.isSome_iff_exists.1 h
    have hcode := code_of_ofCode? hk
    subst hcode
    cases k <;> decide
  · rintro ⟨hlo, hhi⟩
    have : n = 1 ∨ n = 2 ∨ n = 3 ∨ n = 4 ∨ n = 5 ∨ n = 6 ∨ n = 7 ∨ n = 8 ∨ n = 9 ∨ n = 10 ∨
        n = 11 ∨ n = 12 := by omega
    rcases this with rfl | rfl | rfl | rfl | rfl | rfl | rfl | rfl | rfl | rfl | rfl | rfl <;> rfl

end NodeKind

end PhraseMark
