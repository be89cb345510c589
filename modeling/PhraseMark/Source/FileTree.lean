import PhraseMark.Scan.Error

/-!
# File trees

Files and directories under one directory, and what reading a path gives.
-/

namespace PhraseMark

/-- The parts of a path from the directory at the top. -/
abbrev FilePlace := List String

/-- The files below a directory. Directories are those named, and those on the way to a file. -/
structure FileTree where
  files : List (FilePlace × ByteArray) := []
  directories : List FilePlace := []

namespace FileTree

def maxName : Nat := 255

/-- Paths have fewer bytes than this. -/
def pathBound : Nat := 4096

def file? (t : FileTree) (place : FilePlace) : Option ByteArray := t.files.lookup place

def isDirectory (t : FileTree) (place : FilePlace) : Bool :=
  place.isEmpty || t.directories.any (place.isPrefixOf ·) ||
    t.files.any (fun f => place.isPrefixOf f.1 && place != f.1)

/-- The parts of a path; empty parts and those of one dot have no meaning. -/
def pathParts (path : String) : List String :=
  ((path.toList.splitOn '/').map String.ofList).filter (fun s => s != "" && s != ".")

/-- Follows the parts of a path from a directory. A part with two dots leads back. -/
def follow (t : FileTree) (place : FilePlace) : List String → Except FileFault FilePlace
  | [] => .ok place
  | part :: rest =>
    if !t.isDirectory place then
      .error (if (t.file? place).isSome then .notDirectory else .notFound)
    else if part == ".." then
      if place.isEmpty then .error .notFound else t.follow place.dropLast rest
    else if maxName < part.utf8ByteSize then .error .nameTooLong
    else t.follow (place ++ [part]) rest

/-- The place that a path leads to, whether or not something is there. -/
def place (t : FileTree) (path : String) : Except FileFault FilePlace :=
  if pathBound ≤ path.utf8ByteSize then .error .nameTooLong
  else if path.isEmpty || path.startsWith "/" then .error .notFound
  else t.follow [] (pathParts path)

def asksForDirectory (path : String) : Bool :=
  path.endsWith "/" || path.endsWith "/." || path == "."

def read (t : FileTree) (path : String) : Except FileFault ByteArray :=
  match t.place path with
  | .error e => .error e
  | .ok place =>
    match t.file? place with
    | some bytes => if asksForDirectory path then .error .notDirectory else .ok bytes
    | none => .error (if t.isDirectory place then .isDirectory else .notFound)

/-- The tree after a file was written at a path. Its directory has to be there. -/
def write (t : FileTree) (path : String) (bytes : ByteArray) : Except FileFault FileTree :=
  match t.place path with
  | .error e => .error e
  | .ok place =>
    if t.isDirectory place || asksForDirectory path then .error .isDirectory
    else if !t.isDirectory place.dropLast then .error .notFound
    else .ok { t with files := (place, bytes) :: t.files.filter (·.1 != place) }

end FileTree

end PhraseMark
