import PhraseMark.Main
import PhraseMark.Page.NodeJson
import PhraseMark.Proofs.Page.Nodes
import PhraseMark.Proofs.Page.WellFormed
import PhraseMark.Proofs.Page.Relinking
import PhraseMark.Proofs.Scan.Pieces
import PhraseMark.Proofs.History
import PhraseMark.Proofs.Page.Touring
import PhraseMark.Proofs.Page.Walking
import PhraseMark.Proofs.Scan.Batch
import PhraseMark.Proofs.Scan.Passes
import PhraseMark.Proofs.Scan.Rewriting
import PhraseMark.Proofs.Scan.Outcome
import PhraseMark.Proofs.Scan.Highlights
import PhraseMark.Proofs.Page.Reading
import PhraseMark.Proofs.Pattern.Hits
import PhraseMark.Proofs.Page.WalkOrder
import PhraseMark.Proofs.Scan.Seams
import PhraseMark.Proofs.Scan.TextContent
import PhraseMark.Proofs.Scan.Rescan
import PhraseMark.Proofs.Scan.Tags
import PhraseMark.Proofs.Scan.Nesting
import PhraseMark.Proofs.Scan.Cuts
import PhraseMark.Proofs.Scan.Runaway
import PhraseMark.Proofs.Scan.Endings
import PhraseMark.Proofs.Scan.Verbatim
import PhraseMark.Proofs.Page.Loading
import PhraseMark.Proofs.Pattern.Leftmost
import PhraseMark.Proofs.Page.Revising
import PhraseMark.Proofs.Scan.Gaps
import PhraseMark.Proofs.Scan.Occurrences
import PhraseMark.Proofs.Scan.Shapes
import PhraseMark.Proofs.Scan.Convergence
import PhraseMark.Proofs.Scan.Confluence
import PhraseMark.Proofs.Scan.FirstOccurrences
import PhraseMark.Proofs.Page.Resolution
import PhraseMark.Proofs.Scan.HiddenText
import PhraseMark.Proofs.Page.Refusals
import PhraseMark.Proofs.Scan.Coverage
import PhraseMark.Proofs.Scan.Faults
import PhraseMark.Proofs.Scan.Origins
import PhraseMark.Proofs.Page.Appending
import PhraseMark.Proofs.Page.Splicing
import PhraseMark.Proofs.Page.Unfinished
import PhraseMark.Proofs.Page.BrowserNumbers
import PhraseMark.Proofs.Json.Brackets
import PhraseMark.Proofs.Page.DepthGuard
import PhraseMark.Proofs.Page.Locators
import PhraseMark.Proofs.Page.Escaping
import PhraseMark.Proofs.Page.Outlines
import PhraseMark.Proofs.Page.Inheritance
import PhraseMark.Proofs.Page.Prose
import PhraseMark.Proofs.Page.Blanks
import PhraseMark.Proofs.Page.Pruning
import PhraseMark.Proofs.Scan.VisibleMarkup
import PhraseMark.Proofs.Scan.Footprint
import PhraseMark.Proofs.Scan.Bystanders
import PhraseMark.Proofs.Scan.Bounds
import PhraseMark.Proofs.Source.Addresses
import PhraseMark.Proofs.Source.Containment
import PhraseMark.Proofs.Channel.Delivery
import PhraseMark.Proofs.Json.WireFormats
import PhraseMark.Proofs.Page.Traversals
import PhraseMark.Proofs.Page.Resuming
import PhraseMark.Proofs.Page.Cascade
