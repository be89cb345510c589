import PhraseMark.Json.Basic
import PhraseMark.Text.Ascii

/-!
# Writing JSON

The compact form of a value, and the form with one item or member a line.
-/

namespace PhraseMark.Json

/-- The written form of a character of a string: quotes, backslashes and control characters are
escaped. -/
def escapeChar (c : Char) : List Char :=
  if c = '"' then ['\\', '"']
  else if c = '\\' then ['\\', '\\']
  else if c = '\x08' then ['\\', 'b']
  else if c = '\x0c' then ['\\', 'f']
  else if c = '\n' then ['\\', 'n']
  else if c = '\r' then ['\\', 'r']
  else if c = '\t' then ['\\', 't']
  else if c.toNat < 0x20 then
    ['\\', 'u', '0', '0', Text.lowerHexDigit (c.toNat / 16), Text.lowerHexDigit (c.toNat % 16)]
  else [c]

def quote (s : String) : String := "\"" ++ .ofList (s.toList.flatMap escapeChar) ++ "\""

/-- The text of a value that holds no other values; a number without a kept value is written as
zero with a point. -/
def scalar : Json → String
  | null => "null"
  | bool true => "true"
  | bool false => "false"
  | natural n => Nat.repr n
  | negative n => "-" ++ Nat.repr n
  | fraction => "0.0"
  | string s => quote s
  | array _ => ""
  | object _ => ""

mutual

def write : Json → String
  | array items => "[" ++ writeItems items ++ "]"
  | object members => "\x7b" ++ writeMembers members ++ "\x7d"
  | j => scalar j

def writeItems : List Json → String
  | [] => ""
  | [j] => write j
  | j :: k :: rest => write j ++ "," ++ writeItems (k :: rest)

def writeMembers : List (String × Json) → String
  | [] => ""
  | [(name, j)] => quote name ++ ":" ++ write j
  | (name, j) :: m :: rest => quote name ++ ":" ++ write j ++ "," ++ writeMembers (m :: rest)

end

/-- The beginning of a line at a depth: two blanks for each level. -/
def indent (depth : Nat) : String := .ofList (List.replicate (2 * depth) ' ')

mutual

/-- The text of a value with items and members on lines of their own. -/
def pretty (depth : Nat) : Json → String
  | array [] => "[]"
  | array (j :: rest) =>
    "[\n" ++ prettyItems (depth + 1) (j :: rest) ++ "\n" ++ indent depth ++ "]"
  | object [] => "\x7b\x7d"
  | object (m :: rest) =>
    "\x7b\n" ++ prettyMembers (depth + 1) (m :: rest) ++ "\n" ++ indent depth ++ "\x7d"
  | j => scalar j

def prettyItems (depth : Nat) : List Json → String
  | [] => ""
  | [j] => indent depth ++ pretty depth j
  | j :: k :: rest => indent depth ++ pretty depth j ++ ",\n" ++ prettyItems depth (k :: rest)

def prettyMembers (depth : Nat) : List (String × Json) → String
  | [] => ""
  | [(name, j)] => indent depth ++ quote name ++ ": " ++ pretty depth j
  | (name, j) :: m :: rest =>
    indent depth ++ quote name ++ ": " ++ pretty depth j ++ ",\n" ++
      prettyMembers depth (m :: rest)

end

end PhraseMark.Json
