import PhraseMark.Page.Tour

/-!
# Markup

Writes a page, or the content of one of its nodes, as HTML.
-/

namespace PhraseMark

/-- What is left out of the written page. -/
structure MarkupOptions where
  /-- Elements whose resolved visibility is false. -/
  skipInvisible : Bool := false
  skipComments : Bool := true
  deriving DecidableEq, Repr, Inhabited

/-- Markup being written. Inside raw text nothing is escaped. -/
structure Manuscript where
  written : String := ""
  raw : Bool := false

namespace Markup

/-- The written form of a character; a quote is escaped in attribute values only. -/
def escapeChar (inAttribute : Bool) (c : Char) : List Char :=
  if c = '&' then "&amp;".toList
  else if c = '<' then "&lt;".toList
  else if c = '>' then "&gt;".toList
  else if c = '"' ∧ inAttribute then "&quot;".toList
  else if c = '\u00a0' then "&nbsp;".toList
  else [c]

def escape (inAttribute : Bool) (s : String) : String :=
  .ofList (s.toList.flatMap (escapeChar inAttribute))

def tag (n : Node) : String := Text.asciiLower n.name

def namedValue (entry : String × String) : String :=
  " " ++ entry.1 ++ "=\"" ++ escape true entry.2 ++ "\""

def openTag (n : Node) : String :=
  "<" ++ tag n ++ String.join (n.attributes.entries.map namedValue) ++ ">"

def closeTag (n : Node) : String := "</" ++ tag n ++ ">"

def characters (raw : Bool) (n : Node) : String := if raw then n.value else escape false n.value

def turn (options : MarkupOptions) (n : Node) (m : Manuscript) : Turn Manuscript :=
  let write (s : String) : Manuscript := { m with written := m.written ++ s }
  match n.kind with
  | .element =>
    if options.skipInvisible && n.visible == some false then .pass m
    else if n.isVoid then .pass (write (openTag n))
    else
      .enter { write (openTag n) with raw := n.isRawText }
        (fun inner => { written := inner.written ++ closeTag n, raw := m.raw })
  | .text | .cdataSection => .pass (write (characters m.raw n))
  | .comment => .pass (if options.skipComments then m else write ("<!--" ++ n.value ++ "-->"))
  | .documentType => .pass (write ("<!DOCTYPE " ++ tag n ++ ">"))
  | .document | .documentFragment =>
    .enter { m with raw := false } (fun inner => { inner with raw := m.raw })
  | _ => .pass m

end Markup

namespace Page

def outerMarkup (p : Page) (options : MarkupOptions) (id : NodeId) : Except Fault String :=
  (p.tour (fun _ n m => .ok (Markup.turn options n m)) id {}).map (·.written)

def innerMarkup (p : Page) (options : MarkupOptions) (id : NodeId) : Except Fault String :=
  match p.get id with
  | .error e => .error e
  | .ok n =>
    (p.runTasks (fun _ n m => .ok (Markup.turn options n m))
      (n.children.map (.visit · (p.size + 1))) { raw := n.isRawText }).map (·.written)

end Page

end PhraseMark
