import PhraseMark.Scan.Config

/-!
# Arguments of the command line

Options have a long name, some have a short one too. Values follow an option as the next
argument, after an equals sign, or right after a short name. No option may be given twice.
-/

namespace PhraseMark

/-- Options that have a value. -/
inductive Setting where
  | document
  | keywords
  | pageUrl
  | patternMode
  | config
  | output
  deriving DecidableEq, Repr

/-- Options without a value. -/
inductive Switch where
  | allOccurrences
  | visibleOnly
  | json
  | verbose
  | help
  | version
  deriving DecidableEq, Repr

/-- An option. -/
inductive CommandOption where
  | setting (s : Setting)
  | switch (s : Switch)
  deriving DecidableEq, Repr

namespace CommandOption

def longNames : List (String × CommandOption) :=
  [("document", .setting .document), ("keywords", .setting .keywords),
    ("page-url", .setting .pageUrl), ("pattern-mode", .setting .patternMode),
    ("config", .setting .config), ("output", .setting .output),
    ("all-occurrences", .switch .allOccurrences), ("visible-only", .switch .visibleOnly),
    ("json", .switch .json), ("verbose", .switch .verbose), ("help", .switch .help),
    ("version", .switch .version)]

def shortNames : List (Char × CommandOption) :=
  [('d', .setting .document), ('k', .setting .keywords), ('o', .setting .output),
    ('v', .switch .verbose), ('h', .switch .help), ('V', .switch .version)]

end CommandOption

/-- Why arguments were refused. -/
inductive UsageError where
  | unexpected (argument : String)
  | missingValue (setting : Setting)
  | invalidValue (setting : Setting) (value : String)
  | repeated
  | missing (setting : Setting)
  deriving DecidableEq, Repr

/-- Why arguments were not read to their end. -/
inductive ArgumentStop where
  | refused (error : UsageError)
  | help
  | version
  deriving DecidableEq, Repr

/-- What is asked for on the command line. -/
structure Arguments where
  document : String
  keywords : String
  pageUrl : String := "about:blank"
  /-- Takes precedence over the configuration. -/
  patternMode : Option PatternMode := none
  allOccurrences : Bool := false
  config : Option String := none
  output : Option String := none
  visibleOnly : Bool := false
  json : Bool := false
  verbose : Bool := false
  deriving DecidableEq, Repr

namespace Arguments

/-- What was read so far. `pending` waits for its value. -/
structure Draft where
  settings : List (Setting × String) := []
  switches : List Switch := []
  pending : Option Setting := none

namespace Draft

/-- Settings whose value must not be empty. -/
def isPath (s : Setting) : Bool := s == .document || s == .config || s == .output

def accepts (s : Setting) (value : String) : Bool :=
  if isPath s then !value.isEmpty
  else if s == .patternMode then (PatternMode.ofName? value).isSome
  else true

def assign (d : Draft) (s : Setting) (value : String) : Except ArgumentStop Draft :=
  if (d.settings.lookup s).isSome then .error (.refused .repeated)
  else if accepts s value then
    .ok { d with settings := (s, value) :: d.settings, pending := none }
  else .error (.refused (.invalidValue s value))

/-- Nothing may wait for its value when an option comes. -/
def settle (d : Draft) : Except ArgumentStop Draft :=
  match d.pending with
  | some s => .error (.refused (.missingValue s))
  | none => .ok d

def turnOn (d : Draft) : Switch → Except ArgumentStop Draft
  | .help => .error .help
  | .version => .error .version
  | s =>
    if d.switches.contains s then .error (.refused .repeated)
    else .ok { d with switches := s :: d.switches }

/-- Reads short names; the rest after a setting is its value. -/
def readShort (argument : String) (d : Draft) : List Char → Except ArgumentStop Draft
  | [] => .ok d
  | c :: rest =>
    match CommandOption.shortNames.lookup c with
    | none => .error (.refused (.unexpected argument))
    | some (.switch s) =>
      match d.turnOn s with
      | .error e => .error e
      | .ok d => readShort argument d rest
    | some (.setting s) =>
      match rest with
      | [] => .ok { d with pending := some s }
      | '=' :: value => d.assign s (.ofList value)
      | value => d.assign s (.ofList value)

/-- Reads a long name, with its value if there is an equals sign. -/
def readLong (argument : String) (d : Draft) (text : List Char) : Except ArgumentStop Draft :=
  let name := text.takeWhile (· ≠ '=')
  match CommandOption.longNames.lookup (String.ofList name), text.drop name.length with
  | some (.switch s), [] => d.turnOn s
  | some (.setting s), [] => .ok { d with pending := some s }
  | some (.setting s), _ :: value => d.assign s (.ofList value)
  | _, _ => .error (.refused (.unexpected argument))

def read (d : Draft) (argument : String) : Except ArgumentStop Draft :=
  match argument.toList with
  | '-' :: '-' :: text => d.settle.bind (·.readLong argument text)
  | '-' :: c :: text => d.settle.bind (·.readShort argument (c :: text))
  | _ =>
    match d.pending with
    | some s => d.assign s argument
    | none => .error (.refused (.unexpected argument))

/-- Reads arguments one after another. Two hyphens alone end the options, and nothing may follow
them. -/
def readAll (d : Draft) : List String → Except ArgumentStop Draft
  | [] => d.settle
  | "--" :: rest =>
    match rest with
    | [] => d.settle
    | argument :: _ => .error (.refused (.unexpected argument))
  | argument :: rest => (d.read argument).bind (·.readAll rest)

def require (d : Draft) (s : Setting) : Except ArgumentStop String :=
  match d.settings.lookup s with
  | some value => .ok value
  | none => .error (.refused (.missing s))

end Draft

def ofList (arguments : List String) : Except ArgumentStop Arguments := do
  let d ← ({} : Draft).readAll arguments
  return {
    document := ← d.require .document
    keywords := ← d.require .keywords
    pageUrl := (d.settings.lookup .pageUrl).getD "about:blank"
    patternMode := (d.settings.lookup .patternMode).bind PatternMode.ofName?
    allOccurrences := d.switches.contains .allOccurrences
    config := d.settings.lookup .config
    output := d.settings.lookup .output
    visibleOnly := d.switches.contains .visibleOnly
    json := d.switches.contains .json
    verbose := d.switches.contains .verbose }

end Arguments

end PhraseMark
