import PhraseMark.Url.Host
import PhraseMark.Url.Path

/-!
# Addresses

The parts of an address, and its written form.
-/

namespace PhraseMark

/-- What stands after two slashes: who asks, and where. -/
structure Authority where
  username : String := ""
  password : String := ""
  host : Host
  /-- The port, if it is not that of the scheme. -/
  port : Option Nat := none
  deriving DecidableEq, Repr

namespace Authority

/-- User name and password as they stand before the host. -/
def credentials (a : Authority) : String :=
  if a.username.isEmpty && a.password.isEmpty then ""
  else a.username ++ (if a.password.isEmpty then "" else ":" ++ a.password) ++ "@"

def text (a : Authority) : String :=
  a.credentials ++ a.host.text ++
    (match a.port with
      | some port => ":" ++ Nat.repr port
      | none => "")

end Authority

/-- The path of an address. -/
inductive UrlPath where
  /-- A text without structure. -/
  | plain (text : String)
  | segments (segments : List String)
  deriving DecidableEq, Repr

/-- An address. -/
structure Url where
  scheme : String
  authority : Option Authority := none
  path : UrlPath
  query : Option String := none
  fragment : Option String := none
  deriving DecidableEq, Repr

namespace Url

/-- The path after the authority. A path that begins with two slashes would be taken for an
authority, so a dot is put before it where there is none. -/
def pathText (u : Url) : String :=
  match u.path with
  | .plain text => text
  | .segments segments =>
    (if u.authority.isNone && segments.head? == some "" && 1 < segments.length then "/." else "") ++
      segmentsText segments

def text (u : Url) : String :=
  u.scheme ++ ":" ++
    (match u.authority with
      | some a => "//" ++ a.text
      | none => "") ++
    u.pathText ++
    (match u.query with
      | some query => "?" ++ query
      | none => "") ++
    (match u.fragment with
      | some fragment => "#" ++ fragment
      | none => "")

def host? (u : Url) : Option String :=
  match u.authority with
  | some a => if a.host.isEmpty then none else some a.host.text
  | none => none

def segments (u : Url) : List String :=
  match u.path with
  | .plain _ => []
  | .segments segments => segments

def styleOf (scheme : String) : PathStyle :=
  if scheme == "file" then .file
  else if ["http", "https", "ws", "wss", "ftp"].contains scheme then .special
  else .plain

/-- The port that an address of a scheme has unless stated otherwise. -/
def defaultPort? (scheme : String) : Option Nat :=
  if scheme == "http" || scheme == "ws" then some 80
  else if scheme == "https" || scheme == "wss" then some 443
  else if scheme == "ftp" then some 21
  else none

end Url

end PhraseMark
