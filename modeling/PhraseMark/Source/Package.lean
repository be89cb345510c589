import PhraseMark.Source.Basic
import PhraseMark.Url.Reader

/-!
# Packages

A package is a directory whose files have addresses of their own: the scheme of packages, the id
of the package, and the path of the file. An address leads back to a file inside the directory.
-/

namespace PhraseMark

/-- A directory that serves its files. -/
structure Package where
  id : String
  /-- The path of the directory. -/
  root : String
  deriving DecidableEq, Repr

namespace Package

def scheme : String := "chrome-extension"

def base (p : Package) : Except UrlError Url := Url.ofText (scheme ++ "://" ++ p.id ++ "/")

def urlOf (p : Package) (path : String) : Except ScanError Url :=
  match p.base with
  | .error e => .error (.invalidResource e)
  | .ok base =>
    (base.join (.ofList (path.toList.dropWhile (· == '/')))).mapError .invalidResource

/-- Joins a part to a path. A part that begins with a slash is a path of its own and takes the place
of the other. -/
def addPart (path part : String) : String :=
  if part.startsWith "/" then part
  else if path.isEmpty || path.endsWith "/" then path ++ part
  else path ++ "/" ++ part

/-- Segments of an address that name a file or directory. -/
def isPart (segment : String) : Bool := segment != "" && segment != "." && segment != ".."

/-- The parts of the path of an address inside the package; addresses of others have none. -/
def parts (p : Package) (u : Url) : Except ScanError (List String) :=
  if u.scheme == scheme && u.host? == some p.id then .ok (u.segments.filter isPart)
  else .error (.sourceUnavailable u.text (.foreign p.id))

def resolve (p : Package) (u : Url) : Except ScanError String :=
  (p.parts u).map (·.foldl addPart p.root)

/-- The name of the resource with the keywords unless stated otherwise. -/
def keywordsResource : String := "keywords.json"

def keywords (p : Package) (read : String → Except FileFault ByteArray) (resource : String) :
    Except ScanError (List String) := do
  let url ← p.urlOf resource
  let path ← p.resolve url
  match read path with
  | .ok bytes => readKeywords url.text bytes
  | .error fault => .error (.sourceUnavailable url.text (.file fault path))

end Package

/-- A resource of a package. Without an address the resource is named as it is. -/
def Source.ofPackage (p : Package) (read : String → Except FileFault ByteArray)
    (resource : String) : Source :=
  { description := match p.urlOf resource with
      | .ok url => url.text
      | .error _ => resource
    keywords := p.keywords read resource }

end PhraseMark
