import PhraseMark.Pattern.BinaryData
import PhraseMark.Pattern.CategoryData
import PhraseMark.Pattern.ScriptData

/-!
# Names of character properties

Finds the characters that a property class of a pattern stands for. Names are compared without
regard to case, blanks, hyphens and underscores, and to a leading `is`.
-/

namespace PhraseMark.Pattern.Property

def normalizeName (name : List Char) : String :=
  let lower := name.map Char.toLower
  let hasIs := ['i', 's'].isPrefixOf lower
  let kept := (if hasIs then lower.drop 2 else lower).filter
    (fun c => c.toNat < 0x80 && c != ' ' && c != '_' && c != '-')
  if hasIs && kept == ['c'] then "isc" else .ofList kept

/-- The categories that a group of categories consists of. -/
def categoryGroups : List (List String × List String) :=
  [(["l", "letter"], ["lu", "ll", "lt", "lm", "lo"]),
    (["lc", "casedletter"], ["lu", "ll", "lt"]),
    (["m", "mark", "combiningmark"], ["mn", "mc", "me"]),
    (["n", "number"], ["nd", "nl", "no"]),
    (["p", "punctuation", "punct"], ["pc", "pd", "ps", "pe", "pi", "pf", "po"]),
    (["s", "symbol"], ["sm", "sc", "sk", "so"]),
    (["z", "separator"], ["zs", "zl", "zp"]),
    (["c", "other"], ["cc", "cf", "cn", "co"])]

def tableSet? (table : List PropertyData) (name : String) : Option CharSet :=
  (PropertyData.find? table name).map (·.set)

/-- The characters of a category, a group of categories, or one of the three names beside them. -/
def category? (name : String) : Option CharSet :=
  if name == "any" then some .all
  else if name == "ascii" then some (.range 0 0x7F)
  else if name == "assigned" then
    (tableSet? categoryData "cn").map (CharSet.complement CharSet.maxCode)
  else
    match categoryGroups.find? (·.1.contains name) with
    | some group =>
      some (CharSet.normalize
        ⟨(group.2.filterMap (tableSet? categoryData)).flatMap (·.ranges)⟩)
    | none => tableSet? categoryData name

def script? (name : String) : Option CharSet := tableSet? scriptData name

/-- The script extensions; most are the script itself. -/
def scriptExtension? (name : String) : Option CharSet :=
  match tableSet? scriptExtensionData name with
  | some s => some s
  | none => script? name

/-- A property given by one name: a binary property, a category or a script. Three short names
stand for categories alone. -/
def named? (name : String) : Option CharSet :=
  let binary := if name == "cf" || name == "sc" || name == "lc" then none
    else tableSet? binaryData name
  match binary with
  | some s => some s
  | none =>
    match category? name with
    | some s => some s
    | none => script? name

def valued? (property value : String) : Option CharSet :=
  if property == "gc" || property == "generalcategory" then category? value
  else if property == "sc" || property == "script" then script? value
  else if property == "scx" || property == "scriptextensions" then scriptExtension? value
  else none

/-- Splits a list before the first place where another list begins. -/
def splitAt? (mark : List Char) : List Char → Option (List Char × List Char)
  | [] => none
  | c :: cs =>
    if mark.isPrefixOf (c :: cs) then some ([], (c :: cs).drop mark.length)
    else (splitAt? mark cs).map (fun r => (c :: r.1, r.2))

/-- What stands between the braces of a property class: the characters, and whether the class
stands for all others. -/
def ofText? (text : List Char) : Option (CharSet × Bool) :=
  let valuedSet (p : List Char × List Char) : Option CharSet :=
    valued? (normalizeName p.1) (normalizeName p.2)
  match splitAt? ['!', '='] text with
  | some p => (valuedSet p).map (·, true)
  | none =>
    match splitAt? [':'] text with
    | some p => (valuedSet p).map (·, false)
    | none =>
      match splitAt? ['='] text with
      | some p => (valuedSet p).map (·, false)
      | none => (named? (normalizeName text)).map (·, false)

end PhraseMark.Pattern.Property
