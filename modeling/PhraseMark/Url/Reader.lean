import PhraseMark.Text.Blank
import PhraseMark.Url.Basic

/-!
# Reading addresses

Reads an address, alone or as seen from another one. Blanks and control characters at the ends
and tabs and line breaks anywhere have no meaning.
-/

namespace PhraseMark.Url

/-- A text cut at its first `#` and, before that, at its first `?`. -/
structure Reference where
  body : List Char
  query : Option (List Char)
  fragment : Option (List Char)

/-- What stands before and after the first place of a character. -/
def cutAt (mark : Char) (cs : List Char) : List Char × Option (List Char) :=
  match cs.dropWhile (· ≠ mark) with
  | [] => (cs, none)
  | _ :: rest => (cs.takeWhile (· ≠ mark), some rest)

def Reference.ofList (cs : List Char) : Reference :=
  let (rest, fragment) := cutAt '#' cs
  let (body, query) := cutAt '?' rest
  { body, query, fragment }

def Reference.endsWithBody (r : Reference) : Bool := r.query.isNone && r.fragment.isNone

def clean (text : String) : List Char :=
  (Text.trimList (fun c => c.toNat ≤ 0x20) text.toList).filter
    (fun c => c != '\t' && c != '\n' && c != '\r')

def queryText (style : PathStyle) (query : List Char) : String :=
  .ofList
    (percentEncode (if style == .plain then EncodeSet.query else EncodeSet.specialQuery) query)

def fragmentText (fragment : List Char) : String :=
  .ofList (percentEncode EncodeSet.fragment fragment)

/-- An address with the query and fragment of a reference. -/
def withReference (u : Url) (r : Reference) : Url :=
  { u with
    query := r.query.map (queryText (styleOf u.scheme))
    fragment := r.fragment.map fragmentText }

/-- The scheme at the beginning of a text, and what follows its colon. -/
def scheme? (cs : List Char) : Option (String × List Char) :=
  let name := cs.takeWhile (fun c => c.isAlphanum || c == '+' || c == '-' || c == '.')
  match name, cs.drop name.length with
  | first :: _, ':' :: rest =>
    if first.isAlpha then some (.ofList (name.map Char.toLower), rest) else none
  | _, _ => none

/-! ## Authorities -/

def credentialsOf (cs : List Char) : String × String :=
  let (username, password) := cutAt ':' cs
  let encode (cs : List Char) : String := .ofList (percentEncode EncodeSet.credentials cs)
  (encode username, encode (password.getD []))

/-- Cuts a text at the last `@` before the first character that ends an authority. -/
def cutCredentials (style : PathStyle) (cs : List Char) : Option (List Char) × List Char :=
  let reach := cs.takeWhile (! style.separates ·)
  let host := (reach.reverse.takeWhile (· ≠ '@')).reverse
  if host.length = reach.length then (none, cs)
  else
    let credentials := reach.take (reach.length - host.length - 1)
    (some credentials, cs.drop (credentials.length + 1))

/-- The length of the host at the beginning of a text; inside brackets colons belong to it. -/
def hostLength (style : PathStyle) (inBrackets : Bool) : List Char → Nat
  | [] => 0
  | c :: cs =>
    if (c == ':' && !inBrackets) || style.separates c then 0
    else if c == '[' then 1 + hostLength style true cs
    else if c == ']' then 1 + hostLength style false cs
    else 1 + hostLength style inBrackets cs

/-- The number that the digits of a port denote, none if there are no digits, and what follows. -/
def portOf (cs : List Char) : Except UrlError (Option Nat × List Char) :=
  let digits := cs.takeWhile (·.isDigit)
  let rest := cs.drop digits.length
  let number := digits.foldl (fun n c => n * 10 + (Text.digit? c).getD 0) 0
  if 65535 < number then .error .invalidPort
  else if rest.head?.all (fun c => c == '/' || c == '\\') then
    .ok (if digits.isEmpty then none else some number, rest)
  else .error .invalidPort

def port? (scheme : String) (cs : List Char) : Except UrlError (Option Nat × List Char) :=
  match cs with
  | ':' :: rest => (portOf rest).map (fun p => (p.1.filter (some · != defaultPort? scheme), p.2))
  | _ => .ok (none, cs)

/-- Reads an authority: what it is, and what follows. -/
def authorityOf (scheme : String) (r : Reference) (cs : List Char) :
    Except UrlError (Authority × List Char) := do
  let style := styleOf scheme
  let (credentials, cs) := cutCredentials style cs
  if credentials == some [] &&
      (cs.head?.any style.separates || (cs.isEmpty && !r.endsWithBody)) then
    throw .emptyHost
  let (username, password) := credentialsOf (credentials.getD [])
  let length := hostLength style false cs
  let rest := cs.drop length
  if length = 0 && style != .plain then throw .emptyHost
  let host ←
    if style == .plain then Host.ofPlain (cs.take length) else Host.ofDomain (cs.take length)
  if length = 0 && rest.head? == some ':' then throw .emptyHost
  let (port, rest) ← port? scheme rest
  let authority : Authority := { username, password, host, port }
  if host.isEmpty && !authority.credentials.isEmpty then throw .emptyHost
  return (authority, rest)

/-- The path after an authority. Without a special scheme it may be missing. -/
def pathAfterAuthority (style : PathStyle) (cs : List Char) : List String :=
  match cs with
  | [] => if style == .plain then [] else [""]
  | c :: rest => addPath style [] (if style.separates c then rest else cs)

def afterSlashes (scheme : String) (r : Reference) (cs : List Char) : Except UrlError Url := do
  let (authority, rest) ← authorityOf scheme r cs
  return ({
    scheme
    authority := some authority
    path := .segments (pathAfterAuthority (styleOf scheme) rest) } : Url).withReference r

/-! ## Addresses of files -/

/-- The host and path of a file address after two slashes. -/
def fileHost (cs : List Char) : Except UrlError (Host × List String) := do
  let name := cs.takeWhile (! PathStyle.file.separates ·)
  let rest := cs.drop name.length
  if isDriveLetter name then return (.empty, addPath .file [] cs)
  if name.isEmpty then return (.empty, addPath .file [] rest)
  let host ← Host.ofDomain name
  if host == .name "localhost" then return (.empty, addPath .file [] rest)
  let segments := pathAfterAuthority .file rest
  if segments.any (fun s => isDriveLetter s.toList) then return (.empty, segments)
  return (host, segments)

def fileOf (r : Reference) (cs : List Char) : Except UrlError Url := do
  let separates := PathStyle.file.separates
  let (host, segments) ← match cs with
    | a :: b :: rest =>
      if separates a && separates b then fileHost rest
      else pure (.empty, addPath .file [] (if separates a then b :: rest else cs))
    | [a] => pure (.empty, addPath .file [] (if separates a then [] else cs))
    | [] => pure (.empty, [""])
  return ({
    scheme := "file"
    authority := some { host }
    path := .segments (trimSegments segments) } : Url).withReference r

/-! ## Addresses of all kinds -/

def afterScheme (scheme : String) (r : Reference) (cs : List Char) : Except UrlError Url :=
  match styleOf scheme, cs with
  | .file, _ => fileOf r cs
  | .special, _ => afterSlashes scheme r (cs.dropWhile PathStyle.special.separates)
  | .plain, '/' :: '/' :: rest => afterSlashes scheme r rest
  | .plain, '/' :: rest =>
    .ok (({ scheme, path := .segments (addPath .plain [] rest) } : Url).withReference r)
  | .plain, _ =>
    .ok (({
      scheme
      path := .plain (.ofList (percentEncode EncodeSet.controls cs)) } : Url).withReference r)

/-- Reads a reference without a scheme as seen from a base whose scheme is not special. -/
def relativeTo (base : Url) (r : Reference) : Except UrlError Url :=
  match base.path with
  | .plain _ =>
    if r.body.isEmpty && r.query.isNone && r.fragment.isSome then
      .ok { base with fragment := r.fragment.map fragmentText }
    else .error .relativeToOpaque
  | .segments segments =>
    let slashes := r.body.takeWhile (fun c => c == '/' || c == '\\')
    match slashes, r.body with
    | [], [] =>
      .ok (if r.query.isSome then base.withReference r
        else { base with fragment := r.fragment.map fragmentText })
    | [], _ =>
      .ok ({ base with
        path := .segments (addPath .plain segments.dropLast r.body) }.withReference r)
    | [_], _ :: rest =>
      .ok ({ base with path := .segments (addPath .plain [] rest) }.withReference r)
    | _, '/' :: '/' :: rest => afterSlashes base.scheme r rest
    | _, _ => afterSlashes base.scheme r (r.body.drop slashes.length)

def ofText (text : String) : Except UrlError Url :=
  let r := Reference.ofList (clean text)
  match scheme? r.body with
  | some (scheme, rest) => afterScheme scheme r rest
  | none => .error .relativeWithoutBase

/-- Reads an address as seen from a base whose scheme is not special. -/
def join (base : Url) (text : String) : Except UrlError Url :=
  let r := Reference.ofList (clean text)
  match scheme? r.body with
  | some (scheme, rest) => afterScheme scheme r rest
  | none => relativeTo base r

end PhraseMark.Url
