import PhraseMark.Channel.Message
import PhraseMark.Page.Locator
import PhraseMark.Page.VisibleText
import PhraseMark.Scan.Marking
import PhraseMark.Scan.Matching
import PhraseMark.Source.Basic
import PhraseMark.Text.Case

/-!
# Scanning a page

A scan loads its keywords, tests them against the visible text of the page, marks the hits of
each keyword that occurs, and tells of it in one message. Without keywords, without a body or
without a hit the page stays as it is and nothing is told. A scan with a pass that does not end
comes to no report.
-/

namespace PhraseMark

/-- A highlight with the place where its span stands in the end. -/
structure LocatedHighlight extends Highlight where
  locator : String
  deriving DecidableEq, Repr

/-- What a scan found and changed. -/
structure Report where
  matched : List String := []
  rejected : List RejectedKeyword := []
  highlights : List LocatedHighlight := []
  deriving DecidableEq, Repr

namespace Report

def isDetection (r : Report) : Bool := !r.matched.isEmpty

def rejectedToJson (wording : ScanError → String) (r : RejectedKeyword) : Json :=
  .object [("keyword", .string r.keyword), ("error", .string (wording r.error))]

def highlightToJson (h : LocatedHighlight) : Json :=
  .object
    [("node_id", .natural h.span), ("xpath", .string h.locator), ("text", .string h.text)]

/-- The members of a report, with a wording for errors. -/
def members (r : Report) (wording : ScanError → String) : List (String × Json) :=
  [("matched", keywordsToJson r.matched),
    ("rejected", .array (r.rejected.map (rejectedToJson wording))),
    ("highlight_count", .natural r.highlights.length),
    ("highlights", .array (r.highlights.map highlightToJson))]

end Report

/-- How a scan comes out. -/
inductive ScanOutcome (α : Type) where
  | ok (value : α)
  | error (e : ScanError)
  /-- A pass does not come to its end, and so the scan does not. -/
  | unfinished
  deriving DecidableEq, Repr

def ScanOutcome.map {α β : Type} (f : α → β) : ScanOutcome α → ScanOutcome β
  | ok a => ok (f a)
  | error e => error e
  | unfinished => unfinished

/-- What a scan does. One that does not end leaves the page and the log as they are when the steps
granted to its last pass are used up. -/
structure Scan where
  page : Page
  outcome : ScanOutcome Report
  sent : List Message := []
  events : List LogEvent := []

/-- What marking the hits of several keywords gave. -/
structure MarkedPage where
  page : Page
  highlights : List Highlight := []
  events : List LogEvent := []
  /-- Every pass has come to its end. -/
  ended : Bool := true

def ScanConfig.markStyle (c : ScanConfig) : MarkStyle :=
  { markerClass := c.markerClass, all := c.markAll }

namespace Page

/-- Marks the hits of one keyword, unless the pass for an earlier one goes on without end.
Highlights of a pass that fails are not told. -/
def markKeyword (style : MarkStyle) (body : NodeId) (m : MarkedPage) (k : KeywordMatch) :
    MarkedPage :=
  if m.ended then
    let pass := m.page.mark body style k.pattern.spans
    match pass.ending with
    | .failed e =>
      { m with
        page := pass.page
        events := m.events ++ pass.events ++
          [.warn ("[Pipeline] Highlighting '" ++ k.keyword ++ "' failed: " ++ e.message)] }
    | .finished =>
      { m with
        page := pass.page
        highlights := m.highlights ++ pass.highlights
        events := m.events ++ pass.events }
    | .unfinished =>
      { m with page := pass.page, events := m.events ++ pass.events, ended := false }
  else m

/-- Marks the hits of several keywords, one keyword after another. -/
def markKeywords (p : Page) (body : NodeId) (style : MarkStyle) (found : List KeywordMatch) :
    MarkedPage :=
  found.foldl (markKeyword style body) { page := p }

def locateHighlight (p : Page) (h : Highlight) : LocatedHighlight :=
  { h with locator := (p.locator h.span).toOption.getD "" }

def scanFor (p : Page) (keywords : List String) (config : ScanConfig) : Scan :=
  match p.body? with
  | none => { page := p, outcome := .error (.page .missingBody) }
  | some body =>
    match p.visibleText body with
    | .error e => { page := p, outcome := .error (.page e) }
    | .ok text =>
      let matching := scanText config (Text.lowercase text) keywords
      if matching.isEmpty then
        { page := p
          outcome := .ok { rejected := matching.rejected }
          events := matching.events ++ [.debug "[Pipeline] No keywords matched"] }
      else
        let marked := p.markKeywords body config.markStyle matching.found
        let events := matching.events ++ marked.events
        if marked.ended then
          let highlights := marked.highlights.map marked.page.locateHighlight
          { page := marked.page
            outcome :=
              .ok { matched := matching.keywords, rejected := matching.rejected, highlights }
            sent := [.ofPatterns matching.keywords]
            events := events ++
              [.info ("[Pipeline] Detected " ++ Nat.repr matching.keywords.length ++
                " dark pattern(s), " ++ Nat.repr highlights.length ++ " highlight(s)")] }
        else { page := marked.page, outcome := .unfinished, events }

/-- Scans a page for the keywords of a source. `scanId` names the scan in the log. -/
def scan (p : Page) (scanId : String) (source : Source) (config : ScanConfig) : Scan :=
  let loading : LogEvent :=
    .debug ("[Pipeline] Scan " ++ scanId ++ " loading keywords from " ++ source.description)
  match source.keywords with
  | .error e =>
    { page := p
      outcome := .error e
      events := [loading, .error ("[Pipeline] Error loading keywords: " ++ e.message)] }
  | .ok keywords =>
    let done := p.scanFor keywords config
    { done with events := loading :: done.events }

end Page

end PhraseMark
