import PhraseMark.Channel.Listener
import PhraseMark.Command.Arguments
import PhraseMark.Json.Writer
import PhraseMark.Page.Markup
import PhraseMark.Page.Snapshot
import PhraseMark.Page.Visibility
import PhraseMark.Scan.Report
import PhraseMark.Source.FileTree
import PhraseMark.Source.Package
import PhraseMark.Source.Server

/-!
# The command

Scans a captured page for the keywords of a file or a server, prints what was found, and writes
the page with its highlights.
-/

namespace PhraseMark.Command

abbrev Reads := String → Except FileFault ByteArray

/-- Why a run failed. -/
inductive Failure where
  | config (path : String)
  | invalidConfig
  | document (path : String)
  | snapshot (path : String)
  | notKeywordFile (keywords : String)
  | invalidUrl (keywords : String)
  | scan (source : String)
  | noBody
  | output (path : String)
  deriving DecidableEq, Repr

def Failure.message : Failure → String
  | config path => "failed to read config " ++ path
  | invalidConfig => ScanError.invalidConfig.message
  | document path => "failed to read document " ++ path
  | snapshot path => "failed to parse document " ++ path
  | notKeywordFile keywords => "not a keyword file: " ++ keywords
  | invalidUrl keywords => "invalid URL " ++ keywords
  | scan source => "scan failed (keywords: " ++ source ++ ")"
  | noBody => "document has no body"
  | output path => "failed to write " ++ path

/-- What a run printed, whether it failed, and the file it still has to write. -/
structure Outcome where
  exitCode : Nat := 0
  printed : String := ""
  failure : Option Failure := none
  file : Option (String × String) := none
  events : List LogEvent := []
  /-- The run comes to its end, which it does not when its scan does not. -/
  ended : Bool := true

namespace Outcome

def failed (failure : Failure) (printed : String) (events : List LogEvent) : Outcome :=
  { exitCode := 1, printed, failure := some failure, events }

end Outcome

/-! ## Input -/

/-- The text of a file, if it can be read and is text. -/
def textOf? (read : Reads) (path : String) : Option String :=
  match read path with
  | .ok bytes => String.fromUTF8? bytes
  | .error _ => none

def configOf (read : Reads) (a : Arguments) : Except Failure ScanConfig := do
  let config ← match a.config with
    | none => pure {}
    | some path =>
      match textOf? read path with
      | none => throw (.config path)
      | some text =>
        match ScanConfig.ofText? text with
        | some config => pure config
        | none => throw .invalidConfig
  return {
    config with
    patternMode := a.patternMode.getD config.patternMode
    markAll := a.allOccurrences || config.markAll }

/-- The page of a run, with the visibility of its nodes. -/
def pageOf (read : Reads) (a : Arguments) : Except Failure Page :=
  match textOf? read a.document with
  | none => .error (.document a.document)
  | some text =>
    match Page.empty.loadText Snapshot.defaultMaxDepth text with
    | (_, .error _) => .error (.snapshot a.document)
    | (page, .ok _) => (page.resolveVisibility).mapError (fun _ => .snapshot a.document)

/-- The id of the package that a file with keywords is served from. -/
def packageId : String := "darkscan"

def isRemote (keywords : String) : Bool :=
  keywords.startsWith "http://" || keywords.startsWith "https://"

/-- The directory and the name of a file; paths that end in no name have none. -/
def splitPath? (path : String) : Option (String × String) :=
  let isRooted := path.startsWith "/"
  let parts := ((path.toList.splitOn '/').map String.ofList).filter (· != "")
  let parts := parts.take 1 ++ (parts.drop 1).filter (· != ".")
  match parts.getLast? with
  | none => none
  | some name =>
    if name == ".." || name == "." then none
    else
      let directory := "/".intercalate parts.dropLast
      some (if isRooted then "/" ++ directory else if directory.isEmpty then "." else directory,
        name)

/-- The source of the keywords of a run. No server can be reached from here. -/
def sourceOf (read : Reads) (a : Arguments) : Except Failure Source :=
  if isRemote a.keywords then
    match Url.ofText a.keywords with
    | .ok url => .ok (.ofServer url .silence)
    | .error _ => .error (.invalidUrl a.keywords)
  else
    match splitPath? a.keywords with
    | some (directory, name) => .ok (.ofPackage { id := packageId, root := directory } read name)
    | none => .error (.notKeywordFile a.keywords)

/-! ## Output -/

def summary (r : Report) : String :=
  (if r.isDetection then
    "Detected " ++ Nat.repr r.matched.length ++ " dark pattern(s), " ++
      Nat.repr r.highlights.length ++ " highlight(s):\n" ++
      String.join (r.matched.map (fun k => "  - " ++ k ++ "\n")) ++
      String.join (r.highlights.map (fun h => "    " ++ h.locator ++ " \"" ++ h.text ++ "\"\n"))
  else "No dark patterns detected.\n") ++
    String.join (r.rejected.map (fun k =>
      "Skipped keyword '" ++ k.keyword ++ "': " ++ k.error.detail ++ "\n"))

def reportText (scanId : String) (r : Report) : String :=
  (Json.object (("scan_id", .string scanId) :: r.members ScanError.detail)).pretty 0 ++ "\n"

/-- The body of a page in a page of its own that has the style of markers. -/
def pageText (page : Page) (config : ScanConfig) (visibleOnly : Bool) : Option String := do
  let body ← page.body?
  let markup ← (page.outerMarkup { skipInvisible := visibleOnly } body).toOption
  return "<!DOCTYPE html>\n<html>\n<head>\n<meta charset=\"utf-8\">\n<style>\n" ++
    markerStyle config.markerClass ++ "</style>\n</head>\n" ++ markup ++ "\n</html>\n"

/-! ## Runs -/

def run (read : Reads) (scanId : String) (a : Arguments) : Outcome :=
  let input : Except Failure (ScanConfig × Page × Source) := do
    let config ← configOf read a
    let page ← pageOf read a
    return (config, page, ← sourceOf read a)
  match input with
  | .error e => .failed e "" []
  | .ok (config, page, source) =>
    let scan := page.scan scanId source config
    let heard := Listener.session Bus.defaultCapacity [.detectionLogger] []
      (scan.sent.map (⟨a.pageUrl, ·⟩))
    let events := scan.events ++ heard.events
    match scan.outcome with
    | .unfinished => { events, ended := false }
    | .error _ => .failed (.scan source.description) "" events
    | .ok report =>
      let printed := if a.json then reportText scanId report else summary report
      match a.output with
      | none => { printed, events }
      | some path =>
        match pageText scan.page config a.visibleOnly with
        | some text => { printed, events, file := some (path, text) }
        | none => .failed .noBody printed events

def versionText : String := "darkscan 0.1.0\n"

def helpText : String :=
  "Usage: darkscan [OPTIONS] --document <FILE> --keywords <PATH|URL>\n"

/-- Runs the command with arguments that are still to be read. -/
def perform (read : Reads) (scanId : String) (arguments : List String) : Outcome :=
  match Arguments.ofList arguments with
  | .ok a => run read scanId a
  | .error .version => { printed := versionText }
  | .error .help => { printed := helpText }
  | .error (.refused _) => { exitCode := 2 }

/-- Runs the command below a directory and writes its file there. -/
def runIn (tree : FileTree) (scanId : String) (arguments : List String) : Outcome × FileTree :=
  let outcome := perform tree.read scanId arguments
  match outcome.file with
  | none => (outcome, tree)
  | some (path, text) =>
    match tree.write path text.toUTF8 with
    | .ok tree => (outcome, tree)
    | .error _ => (.failed (.output path) outcome.printed outcome.events, tree)

end PhraseMark.Command
