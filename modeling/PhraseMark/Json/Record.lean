import PhraseMark.Json.Basic

/-!
# Records in JSON

A record is written as an object with a member for each field, or as an array of the fields in
order. A field must not be given twice, and members with other names have no meaning.
-/

namespace PhraseMark.Json

def fields? (names : List String) : Json → Option (List (Option Json))
  | object members =>
    names.mapM (fun name =>
      match members.filter (·.1 == name) with
      | [] => some none
      | [m] => some (some m.2)
      | _ => none)
  | array items =>
    if items.length ≤ names.length then
      some (items.map some ++ List.replicate (names.length - items.length) none)
    else none
  | _ => none

/-- The values of the named fields; an array has to give all of them. -/
def completeFields? (names : List String) (j : Json) : Option (List (Option Json)) :=
  match j with
  | array items => if items.length = names.length then j.fields? names else none
  | _ => j.fields? names

/-- A choice without content is written as its name, or as an object with that one member and
`null` as its value. -/
def choice? {α : Type} (ofName? : String → Option α) : Json → Option α
  | string s => ofName? s
  | object [(name, null)] => ofName? name
  | _ => none

def required? {α : Type} (read : Json → Option α) (field : Option Json) : Option α :=
  field.bind read

/-- A field that has a value of its own when it is not given. -/
def withDefault? {α : Type} (read : Json → Option α) (default : α) : Option Json → Option α
  | none => some default
  | some j => read j

end PhraseMark.Json
