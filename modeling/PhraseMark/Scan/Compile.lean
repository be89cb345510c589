import PhraseMark.Pattern.Regex
import PhraseMark.Scan.Config
import PhraseMark.Scan.Error
import PhraseMark.Scan.Log

/-!
# Keywords as patterns

A keyword is compiled as a pattern that ignores case. Empty and overlong keywords are refused
before that.
-/

namespace PhraseMark

def patternSource (mode : PatternMode) (keyword : String) : String :=
  match mode with
  | .literal => .ofList (Pattern.escape keyword.toList)
  | .regex => keyword

def compileKeyword (config : ScanConfig) (keyword : String) :
    List LogEvent × Except ScanError Pattern.Regex :=
  if keyword.isEmpty then ([], .error .emptyPattern)
  else if config.maxPatternLength < keyword.utf8ByteSize then
    ([], .error (.patternTooLong keyword keyword.utf8ByteSize config.maxPatternLength))
  else
    let source := patternSource config.patternMode keyword
    ([.debug ("Compiling keyword '" ++ keyword ++ "' as pattern '" ++ source ++ "'")],
      (Pattern.Regex.compile source).mapError (.patternCompile keyword))

end PhraseMark
