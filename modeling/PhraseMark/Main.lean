import PhraseMark.Command.Run

/-!
# Program

Reads the files that the arguments name, runs the command on them, and prints and writes what
came of it.
-/

namespace PhraseMark.Program

def faultOf : IO.Error → FileFault
  | .inappropriateType .. => .isDirectory
  | _ => .notFound

def readFile (path : String) : IO (Except FileFault ByteArray) := do
  try
    return .ok (← IO.FS.readBinFile path)
  catch e => return .error (faultOf e)

/-- The files that a run may read: configuration, document and keywords. -/
def inputPaths (a : Arguments) : List String :=
  let keywords := match Command.splitPath? a.keywords with
    | some (directory, name) =>
      let package : Package := { id := Command.packageId, root := directory }
      ((package.urlOf name).bind package.resolve).toOption.toList
    | none => []
  a.config.toList ++ [a.document] ++ keywords

def lookUp (files : List (String × Except FileFault ByteArray)) (path : String) :
    Except FileFault ByteArray :=
  (files.lookup path).getD (.error .notFound)

def hexText (bytes : List UInt8) : String :=
  .ofList (bytes.flatMap (fun b =>
    [Text.lowerHexDigit (b.toNat / 16), Text.lowerHexDigit (b.toNat % 16)]))

/-- A new name for a scan: a random identifier of 16 bytes in five groups. -/
def newScanId : IO String := do
  let bytes ← IO.getRandomBytes 16
  let marked := bytes.toList.zipIdx.map (fun (b, i) =>
    if i = 6 then 0x40 ||| (b &&& 0x0F) else if i = 8 then 0x80 ||| (b &&& 0x3F) else b)
  let groups := [(0, 4), (4, 2), (6, 2), (8, 2), (10, 6)]
  return "-".intercalate (groups.map (fun (start, count) =>
    hexText ((marked.drop start).take count)))

def isTold (verbose : Bool) (e : LogEvent) : Bool := verbose || e.level != .debug

end PhraseMark.Program

open PhraseMark in
def main (arguments : List String) : IO UInt32 := do
  let parsed := Arguments.ofList arguments
  let paths := (parsed.toOption.map Program.inputPaths).getD []
  let files ← paths.mapM (fun path => return (path, ← Program.readFile path))
  let outcome := Command.perform (Program.lookUp files) (← Program.newScanId) arguments
  let verbose := (parsed.toOption.map (·.verbose)).getD false
  for e in outcome.events do
    if Program.isTold verbose e then IO.eprintln e.line
  unless outcome.ended do
    repeat IO.sleep 1000
  IO.print outcome.printed
  if let some failure := outcome.failure then
    IO.eprintln ("Error: " ++ failure.message)
  match outcome.file with
  | none => return outcome.exitCode.toUInt32
  | some (path, text) =>
    try
      IO.FS.writeFile path text
      return 0
    catch _ =>
      IO.eprintln ("Error: " ++ (Command.Failure.output path).message)
      return 1
