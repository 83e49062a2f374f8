import EventTally.Url.Percent

/-! Addresses of the web. An address has a scheme, perhaps an authority with the host, a path, and
perhaps a query and a fragment. The path is a list of segments, or a text that takes no part in
joining. -/

namespace EventTally

inductive UrlError where
  | emptyHost
  | badDomain
  | badPort
  | badIpv4
  | badIpv6
  | badHostCharacter
  | noBase
  | baseIsText
  deriving DecidableEq

def UrlError.message : UrlError → String
  | emptyHost => "empty host"
  | badDomain => "invalid international domain name"
  | badPort => "invalid port number"
  | badIpv4 => "invalid IPv4 address"
  | badIpv6 => "invalid IPv6 address"
  | badHostCharacter => "invalid domain character"
  | noBase => "relative URL without a base"
  | baseIsText => "relative URL with a cannot-be-a-base base"

inductive Host where
  | name (text : String)
  | ipv4 (address : Nat)
  | ipv6 (pieces : List Nat)
  deriving DecidableEq

structure Authority where
  user : String := ""
  password : String := ""
  host : Host
  port : Option Nat := none
  deriving DecidableEq

inductive UrlPath where
  | segments (list : List String)
  | text (t : String)
  deriving DecidableEq

structure Url where
  scheme : String
  authority : Option Authority
  path : UrlPath
  query : Option String := none
  fragment : Option String := none
  deriving DecidableEq

/-! ## Hosts -/

namespace Host

def hexText (n : Nat) : String := String.ofList (Nat.toDigits 16 n)

/-- How many zeros stand at the start. -/
def zeros (pieces : List Nat) : Nat := (pieces.takeWhile (· = 0)).length

/-- The place and length of the first longest run of zeros, if it is longer than one. -/
def zeroRun? (pieces : List Nat) : Option (Nat × Nat) :=
  let runs := (List.range pieces.length).map fun i => (i, zeros (pieces.drop i))
  let best := runs.foldl (fun best run => if best.2 < run.2 then run else best) (0, 0)
  if 1 < best.2 then some best else none

def pieceText (pieces : List Nat) : String := ":".intercalate (pieces.map hexText)

def write : Host → String
  | name text => text
  | ipv4 n =>
    ".".intercalate ([n / 0x1000000, n / 0x10000 % 256, n / 0x100 % 256, n % 256].map toString)
  | ipv6 pieces =>
    match zeroRun? pieces with
    | some (start, length) =>
      "[" ++ pieceText (pieces.take start) ++ "::" ++ pieceText (pieces.drop (start + length)) ++ "]"
    | none => "[" ++ pieceText pieces ++ "]"

end Host

/-! ## Writing -/

namespace Authority

def userPart (a : Authority) : String :=
  if a.user.isEmpty && a.password.isEmpty then ""
  else a.user ++ (if a.password.isEmpty then "" else ":" ++ a.password) ++ "@"

def write (a : Authority) : String :=
  a.userPart ++ a.host.write ++ a.port.elim "" fun p => ":" ++ toString p

end Authority

namespace UrlPath

def write : UrlPath → String
  | segments list => String.join (list.map ("/" ++ ·))
  | text t => t

/-- The same path, so that it ends with a slash and takes what is joined to it below it. -/
def asDirectory : UrlPath → UrlPath
  | segments list => if list.getLast? = some "" then segments list else segments (list ++ [""])
  | text t =>
    if t.isEmpty then text "%2F"
    else if t.toList.getLast? = some '/' then text t
    else text (t ++ "/")

end UrlPath

namespace Url

/-- Schemes whose addresses always have a host, and the ports that they need not name. -/
def specialPorts : List (String × Nat) :=
  [("http", 80), ("https", 443), ("ws", 80), ("wss", 443), ("ftp", 21)]

def isSpecial (scheme : String) : Bool := scheme = "file" || (specialPorts.lookup scheme).isSome

/-- A path that starts with an empty segment would be taken for an authority where there is none. -/
def pathMark (u : Url) : String :=
  match u.authority, u.path with
  | none, .segments ("" :: _ :: _) => "/."
  | _, _ => ""

def write (u : Url) : String :=
  u.scheme ++ ":" ++ (u.authority.elim u.pathMark fun a => "//" ++ a.write) ++ u.path.write ++
    (u.query.elim "" ("?" ++ ·)) ++ (u.fragment.elim "" ("#" ++ ·))

def asDirectory (u : Url) : Url := { u with path := u.path.asDirectory }

/-- Adds pairs to the query, written as a form. -/
def addPairs (u : Url) (pairs : List (String × String)) : Url :=
  let written := pairs.map fun (k, v) => Percent.encodeForm k ++ "=" ++ Percent.encodeForm v
  let before := (u.query.filter (· ≠ "")).toList
  { u with query := some ("&".intercalate (before ++ written)) }

/-- What is asked of the host: the path and the query. -/
def target (u : Url) : String := u.path.write ++ u.query.elim "" ("?" ++ ·)

end Url
end EventTally
