import PhraseMark.Page.Fault
import PhraseMark.Pattern.Defect
import PhraseMark.Url.Error

/-!
# Errors of a scan

Errors of a keyword source end a scan; errors of a pattern concern one keyword.
-/

namespace PhraseMark

/-- What is wrong with a keyword payload. -/
inductive PayloadDefect where
  | notJson
  | noKeywords
  | keywordsNotArray
  | notText (index : Nat)
  deriving DecidableEq, Repr

/-- Why a file could not be read. -/
inductive FileFault where
  | notFound
  | isDirectory
  | notDirectory
  | nameTooLong
  deriving DecidableEq, Repr

/-- Why a keyword source gave nothing. -/
inductive Outage where
  /-- The address does not belong to the package with this id. -/
  | foreign (id : String)
  | file (fault : FileFault) (path : String)
  /-- A server answered with a status that means failure. -/
  | status (code : Nat) (phrase : String)
  /-- A server closed the connection without an answer. -/
  | noAnswer (url : String)
  /-- An answer ended before all of it had arrived. -/
  | brokenAnswer
  deriving DecidableEq, Repr

/-- Why a scan or a part of it failed. -/
inductive ScanError where
  | sourceUnavailable (resource : String) (outage : Outage)
  | malformedSource (resource : String) (defect : PayloadDefect)
  | patternCompile (keyword : String) (defect : Pattern.Defect)
  | emptyPattern
  | patternTooLong (keyword : String) (length limit : Nat)
  | invalidResource (error : UrlError)
  | invalidConfig
  | page (fault : Fault)
  deriving DecidableEq, Repr

/-- The wording of a defect. The text of a JSON reader is not part of it. -/
def PayloadDefect.message : PayloadDefect → String
  | notJson => "<json>"
  | noKeywords => "missing 'keywords' field"
  | keywordsNotArray => "'keywords' is not an array"
  | notText index => "keyword at index " ++ Nat.repr index ++ " is not a string"

def FileFault.message : FileFault → String
  | notFound => "No such file or directory (os error 2)"
  | isDirectory => "Is a directory (os error 21)"
  | notDirectory => "Not a directory (os error 20)"
  | nameTooLong => "File name too long (os error 36)"

def Outage.message : Outage → String
  | foreign id => "not a resource of extension '" ++ id ++ "'"
  | file fault path => fault.message ++ " (" ++ path ++ ")"
  | status code phrase => "Network response was not ok: " ++ Nat.repr code ++ " " ++ phrase
  | noAnswer url => "error sending request for url (" ++ url ++ ")"
  | brokenAnswer => "error decoding response body"

namespace ScanError

/-- The wording of an error. What is wrong with a pattern is not part of it. -/
def message : ScanError → String
  | sourceUnavailable resource outage =>
    "Keyword source unavailable (" ++ resource ++ "): " ++ outage.message
  | malformedSource resource defect =>
    "Malformed keyword source (" ++ resource ++ "): " ++ defect.message
  | patternCompile keyword _ => "Failed to compile keyword '" ++ keyword ++ "'"
  | emptyPattern => "Empty keyword cannot be used as a pattern"
  | patternTooLong keyword length limit =>
    "Keyword '" ++ keyword ++ "': pattern length (" ++ Nat.repr length ++
      ") exceeds maximum allowed (" ++ Nat.repr limit ++ ")"
  | invalidResource error => "Invalid resource address: " ++ error.message
  | invalidConfig => "Invalid scan configuration"
  | page fault => "DOM error: " ++ fault.message

/-- The wording of an error with what is wrong with a pattern. -/
def detail (e : ScanError) : String :=
  match e with
  | patternCompile _ defect => e.message ++ ": " ++ defect.message
  | _ => e.message

/-- Errors that end the whole scan because there are no keywords. -/
def isSourceError : ScanError → Bool
  | sourceUnavailable _ _ => true
  | malformedSource _ _ => true
  | invalidResource _ => true
  | _ => false

end ScanError

end PhraseMark
