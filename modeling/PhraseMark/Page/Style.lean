import PhraseMark.Page.Node
import PhraseMark.Text.Decimal

/-!
# Inline style

Whether an element is hidden by its own `hidden` attribute or by a declaration of its `style`
attribute.
-/

namespace PhraseMark

/-- One declaration of an inline style, with blanks and the mark of importance taken off and all
letters small. -/
structure Declaration where
  property : String
  value : String
  deriving DecidableEq, Repr

namespace Declaration

/-- Takes a beginning off a list as often as it stands there, at most `times` times. -/
def stripRepeatedly (start : List Char) : Nat → List Char → List Char
  | 0, cs => cs
  | times + 1, cs =>
    if start.isPrefixOf cs then stripRepeatedly start times (cs.drop start.length) else cs

/-- The ending that marks a declaration as important. -/
def importance : List Char := "!important".toList

/-- Takes the mark of importance off the end of a value as often as it stands there. -/
def stripImportance (cs : List Char) : List Char :=
  (stripRepeatedly importance.reverse cs.length cs.reverse).reverse

/-- Reads what stands between two semicolons; without a colon it is no declaration. -/
def ofPiece? (piece : List Char) : Option Declaration :=
  match piece.dropWhile (· ≠ ':') with
  | [] => none
  | _ :: value =>
    some
      { property := Text.asciiLower
          (.ofList (Text.trimList Text.isBlank (piece.takeWhile (· ≠ ':'))))
        value := Text.asciiLower
          (.ofList (Text.trimList Text.isBlank
            (stripImportance (Text.trimList Text.isBlank value)))) }

def ofStyle (style : String) : List Declaration :=
  (style.toList.splitOn ';').filterMap ofPiece?

def hides (d : Declaration) : Bool :=
  (d.property == "display" && d.value == "none") ||
    (d.property == "visibility" && (d.value == "hidden" || d.value == "collapse")) ||
    (d.property == "opacity" && (Text.Decimal.ofText? d.value).any Text.Decimal.isNonPositive)

end Declaration

namespace Node

/-- Whether the node is not hidden by its own attributes. -/
def isShownByStyle (n : Node) : Bool :=
  if !n.isElement then true
  else if (n.attr? "hidden").isSome then false
  else
    match n.attr? "style" with
    | none => true
    | some style => !(Declaration.ofStyle style).any Declaration.hides

/-- Hidden by resolved visibility or by its own attributes. -/
def isHidden (n : Node) : Bool := n.visible == some false || !n.isShownByStyle

theorem isShownByStyle_of_not_isElement {n : Node} (h : n.isElement = false) :
    n.isShownByStyle = true := by
  simp [isShownByStyle, h]

end Node

end PhraseMark
