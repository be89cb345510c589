import PhraseMark.Json.Reader
import PhraseMark.Json.Record

/-!
# Messages

A scan that finds something tells so in one message, and the channel puts the address of the
page beside it. Both are written as JSON; a message carries its kind under `type`.
-/

namespace PhraseMark

/-- What a scan can tell. -/
inductive Message where
  /-- These keywords occur in the page. -/
  | detected (patterns : List String) (count : Nat)
  deriving DecidableEq, Repr

namespace Message

def ofPatterns (patterns : List String) : Message := .detected patterns patterns.length

def detectedKind : String := "DARK_PATTERNS_DETECTED"

def fieldNames : List String := ["type", "patterns", "count"]

def toJson : Message → Json
  | detected patterns count =>
    .object
      [("type", .string detectedKind),
        ("patterns", .array (patterns.map .string)),
        ("count", .natural count)]

def ofFields? : List (Option Json) → Option Message
  | [kind, patterns, count] => do
    let kind ← Json.required? Json.str? kind
    let patterns ← Json.required? (Json.listOf? Json.str?) patterns
    let count ← Json.required? (Json.below? (Nat.pow 2 64)) count
    if kind == detectedKind then some (.detected patterns count) else none
  | _ => none

def ofJson? (j : Json) : Option Message := (j.completeFields? fieldNames).bind ofFields?

def ofText? (text : String) : Option Message := (Json.parse? text).bind ofJson?

end Message

/-- A message with the address of the page it is about. -/
structure Envelope where
  url : String
  message : Message
  deriving DecidableEq, Repr

namespace Envelope

def shape : Json.Shape := .record [("sender", .record [("url", .whole)]), ("message", .whole)]

def toJson (e : Envelope) : Json :=
  .object [("sender", .object [("url", .string e.url)]), ("message", e.message.toJson)]

def senderUrl? (j : Json) : Option String :=
  match j.completeFields? ["url"] with
  | some [url] => Json.required? Json.str? url
  | _ => none

def ofFields? : List (Option Json) → Option Envelope
  | [sender, message] => do
    return {
      url := ← Json.required? senderUrl? sender
      message := ← Json.required? Message.ofJson? message }
  | _ => none

def ofJson? (j : Json) : Option Envelope :=
  (j.completeFields? ["sender", "message"]).bind ofFields?

def ofText? (text : String) : Option Envelope := (Json.ofText? shape text).bind ofJson?

end Envelope

end PhraseMark
