import PhraseMark.Page.Attributes
import PhraseMark.Page.Fault
import PhraseMark.Page.Kind
import PhraseMark.Text.Ascii
import PhraseMark.Text.Blank

/-!
# Nodes

A node of a page: its kind, name, value and attributes, its links to parent and children, the
number the browser gave it and its resolved visibility. Element names are kept in capitals.
-/

namespace PhraseMark

/-- The number a browser gave to a node when the page was captured. -/
abbrev BackendId := UInt32

/-- One node of a page. -/
structure Node where
  id : NodeId := 0
  backendId : Option BackendId := none
  kind : NodeKind
  parent : Option NodeId := none
  children : List NodeId := []
  name : String
  value : String := ""
  attributes : Attributes := .empty
  /-- Resolved visibility, once it has been calculated. -/
  visible : Option Bool := none
  deriving DecidableEq, Inhabited

namespace Node

/-- A childless element; its name is the tag in capitals. -/
def ofTag (tag : String) : Node := { kind := .element, name := Text.asciiUpper tag }

def ofText (value : String) : Node := { kind := .text, name := "#text", value }

def isElement (n : Node) : Bool := n.kind == .element

def isText (n : Node) : Bool := n.kind == .text

/-- An element with the given tag, whatever the case of its letters. -/
def hasTag (n : Node) (tag : String) : Bool :=
  n.isElement && Text.eqIgnoringCase n.name tag

def hasTagIn (n : Node) (tags : List String) : Bool := tags.any n.hasTag

def attr? (n : Node) (name : String) : Option String := n.attributes.get? name

def setAttr (n : Node) (name value : String) : Node :=
  { n with attributes := n.attributes.insert name value }

def classes (n : Node) : List String := Text.tokens ((n.attr? "class").getD "")

def hasClass (n : Node) (token : String) : Bool := n.isElement && n.classes.contains token

end Node

/-! ## Families of tags -/

/-- Elements whose content is never page text. -/
def unrenderedTags : List String :=
  ["HEAD", "TITLE", "SCRIPT", "STYLE", "NOSCRIPT", "TEMPLATE", "IFRAME", "OBJECT"]

/-- Elements that stand on lines of their own. -/
def blockTags : List String :=
  ["ADDRESS", "ARTICLE", "ASIDE", "BLOCKQUOTE", "BR", "DD", "DETAILS", "DIALOG", "DIV", "DL",
    "DT", "FIELDSET", "FIGCAPTION", "FIGURE", "FOOTER", "FORM", "H1", "H2", "H3", "H4", "H5",
    "H6", "HEADER", "HR", "LI", "MAIN", "NAV", "OL", "P", "PRE", "SECTION", "SUMMARY", "TABLE",
    "TD", "TH", "TR", "UL"]

def voidTags : List String :=
  ["AREA", "BASE", "BR", "COL", "EMBED", "HR", "IMG", "INPUT", "LINK", "META", "SOURCE",
    "TRACK", "WBR"]

/-- Elements whose text is written as it is. -/
def rawTextTags : List String := ["SCRIPT", "STYLE"]

namespace Node

def isUnrendered (n : Node) : Bool := n.hasTagIn unrenderedTags

def isBlock (n : Node) : Bool := n.hasTagIn blockTags

def isVoid (n : Node) : Bool := n.hasTagIn voidTags

def isRawText (n : Node) : Bool := n.hasTagIn rawTextTags

theorem isElement_of_hasTag {n : Node} {tag : String} (h : n.hasTag tag = true) :
    n.isElement = true := by
  simp only [hasTag, Bool.and_eq_true] at h
  exact h.1

theorem isElement_of_hasClass {n : Node} {token : String} (h : n.hasClass token = true) :
    n.isElement = true := by
  simp only [hasClass, Bool.and_eq_true] at h
  exact h.1

@[simp] theorem attr?_setAttr_self (n : Node) (name value : String) :
    (n.setAttr name value).attr? name = some value := by
  simp [attr?, setAttr, Attributes.get?_insert]

end Node

end PhraseMark
