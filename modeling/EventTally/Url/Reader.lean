import EventTally.Url.Host

/-! Reading addresses, and joining a path to one. Blanks and controls around an address do not
count, nor do tabs and line breaks anywhere in it. -/

namespace EventTally.Url

def isOuter (c : Char) : Bool := c.toNat ≤ 0x20

def isIgnored (c : Char) : Bool := c = '\t' || c = '\n' || c = '\r'

/-- The characters that count. -/
def clean (text : String) : List Char :=
  (((text.toList.dropWhile isOuter).reverse.dropWhile isOuter).reverse).filter (!isIgnored ·)

/-- The text up to a character, and the text behind it if it occurs. -/
def cutAt (c : Char) (cs : List Char) : List Char × Option (List Char) :=
  (cs.takeWhile (· ≠ c), if cs.contains c then some ((cs.dropWhile (· ≠ c)).drop 1) else none)

/-- An address without its scheme: what comes before the query, the query and the fragment. -/
structure Parts where
  body : List Char
  query : Option (List Char)
  fragment : Option (List Char)

def Parts.of (cs : List Char) : Parts :=
  let (rest, fragment) := cutAt '#' cs
  let (body, query) := cutAt '?' rest
  ⟨body, query, fragment⟩

def isSchemeChar (c : Char) : Bool := c.isAlphanum || c = '+' || c = '-' || c = '.'

/-- The scheme and what follows its colon. -/
def scheme? (cs : List Char) : Option (String × List Char) :=
  match cs.takeWhile isSchemeChar, cs.dropWhile isSchemeChar with
  | c :: more, ':' :: rest =>
    if c.isAlpha then some (String.ofList ((c :: more).map Char.toLower), rest) else none
  | _, _ => none

/-! ## Paths -/

def isSeparator (special : Bool) (c : Char) : Bool := c = '/' || special && c = '\\'

def lower (s : String) : String := String.ofList (s.toList.map Char.toLower)

def isDot (segment : String) : Bool := [".", "%2e"].contains (lower segment)

def isDoubleDot (segment : String) : Bool :=
  ["..", ".%2e", "%2e.", "%2e%2e"].contains (lower segment)

/-- A letter and a colon or a bar. -/
def isDrive (segment : String) : Bool :=
  match segment.toList with
  | [c, mark] => c.isAlpha && (mark = ':' || mark = '|')
  | _ => false

/-- The segments above the last one. There is no way up from a drive, in any scheme. -/
def above (segments : List String) : List String :=
  if segments.getLast?.any isDrive then segments else segments.dropLast

/-- A segment behind others; a file's drive is written with a colon. -/
def push (file : Bool) (segments : List String) (segment : String) : List String :=
  if file && segments.isEmpty && isDrive segment then
    [String.ofList (segment.toList.take 1 ++ [':'])]
  else segments ++ [segment]

/-- Follows segments from a place: dots stay, and two dots go up. The last segment leaves an empty
one where it leads to a directory. -/
def follow (file : Bool) (place : List String) : List String → List String
  | [] => place
  | [last] =>
    if isDoubleDot last then above place ++ [""]
    else if isDot last then place ++ [""]
    else push file place last
  | segment :: rest =>
    if isDoubleDot segment then follow file (above place) rest
    else if isDot segment then follow file place rest
    else follow file (push file place segment) rest

def segmentsOf (special : Bool) (cs : List Char) : List String :=
  (cs.splitOnP (isSeparator special)).map (Percent.encode Percent.pathSet)

/-- The path of a file starts with no empty segment that another one follows. -/
def dropEmpty : List String → List String
  | "" :: s :: rest => dropEmpty (s :: rest)
  | segments => segments

/-- The segments of a path that starts at the root. -/
def rootPath (scheme : String) (cs : List Char) : List String :=
  let special := isSpecial scheme
  let cs := match cs with
    | c :: rest => if isSeparator special c then rest else c :: rest
    | [] => []
  follow (scheme = "file") [] (segmentsOf special cs)

/-! ## Authorities -/

/-- The user and the password before an at sign. -/
def userOf (cs : List Char) : String × String :=
  let (user, password) := cutAt ':' cs
  (Percent.encode Percent.userSet user, Percent.encode Percent.userSet (password.getD []))

/-- The host up to the colon before its port. A colon in brackets belongs to the host. -/
def cutHost (inside : Bool) : List Char → List Char × Option (List Char)
  | [] => ([], none)
  | c :: rest =>
    if c = ':' && !inside then ([], some rest)
    else
      let inside := if c = '[' then true else if c = ']' then false else inside
      let (host, port) := cutHost inside rest
      (c :: host, port)

/-- A port, and what follows its digits. -/
def readPort (scheme : String) (cs : List Char) : Except UrlError (Option Nat × List Char) :=
  let digits := cs.takeWhile Char.isDigit
  let rest := cs.dropWhile Char.isDigit
  let n := digits.foldl (fun n c => n * 10 + (c.toNat - 48)) 0
  if 65536 ≤ n || !(rest.isEmpty || rest.head? = some '\\') then .error .badPort
  else .ok (if digits.isEmpty || specialPorts.lookup scheme = some n then none else some n, rest)

/-- The texts around the last at sign. -/
def cutUser (cs : List Char) : Option (List Char) × List Char :=
  match cutAt '@' cs.reverse with
  | (rest, some user) => (some user.reverse, rest.reverse)
  | (rest, none) => (none, rest.reverse)

/-- Reads an authority, and gives the rest of it that belongs to the path. -/
def readAuthority (scheme : String) (cs : List Char) (hasPath : Bool) :
    Except UrlError (Authority × List Char) := do
  let (user, rest) := cutUser cs
  if user = some [] && rest.isEmpty && hasPath then throw .emptyHost
  let (name, password) := (user.map userOf).getD ("", "")
  let (hostText, portText) := cutHost false rest
  let special := isSpecial scheme
  if hostText.isEmpty && special then throw .emptyHost
  let host ← Host.read special hostText
  if hostText.isEmpty && portText.isSome then throw .emptyHost
  let (port, rest) ← match portText with
    | some digits => readPort scheme digits
    | none => pure (none, [])
  if hostText.isEmpty && !(name.isEmpty && password.isEmpty) then throw .emptyHost
  return (⟨name, password, host, port⟩, rest)

/-! ## Addresses -/

def queryText (scheme : String) (cs : List Char) : String :=
  Percent.encode (if isSpecial scheme then Percent.specialQuerySet else Percent.querySet) cs

def build (scheme : String) (authority : Option Authority) (path : UrlPath) (p : Parts) : Url :=
  { scheme, authority, path, query := p.query.map (queryText scheme),
    fragment := p.fragment.map (Percent.encode Percent.fragmentSet) }

/-- With an authority: it ends before the first separator. A path that is not there is the root
where the scheme is special. -/
def withAuthority (scheme : String) (cs : List Char) (p : Parts) : Except UrlError Url := do
  let special := isSpecial scheme
  let authority := cs.takeWhile (!isSeparator special ·)
  let path := cs.dropWhile (!isSeparator special ·)
  let hasPath := !path.isEmpty || p.query.isSome || p.fragment.isSome
  let (authority, rest) ← readAuthority scheme authority hasPath
  let path := rest ++ path
  return build scheme (some authority)
    (.segments (if path.isEmpty && !special then [] else rootPath scheme path)) p

/-- The address of a file. Its host may be left out, as may the host `localhost` and the host before
a drive. -/
def ofFile (cs : List Char) (p : Parts) : Except UrlError Url := do
  let slash := isSeparator true
  let (host, path) := match cs with
    | a :: b :: rest =>
      if slash a && slash b then
        let host := rest.takeWhile (!slash ·)
        if isDrive (String.ofList host) then ([], rest) else (host, rest.dropWhile (!slash ·))
      else ([], cs)
    | cs => ([], cs)
  let host ← if host.isEmpty then pure (Host.name "") else Host.read true host
  let host := if host = .name "localhost" then .name "" else host
  let segments := rootPath "file" path
  let host := if segments.head?.any isDrive then .name "" else host
  return build "file" (some { host }) (.segments (dropEmpty segments)) p

def ofScheme (scheme : String) (cs : List Char) : Except UrlError Url :=
  let p := Parts.of cs
  if scheme = "file" then ofFile p.body p
  else if isSpecial scheme then
    withAuthority scheme (p.body.dropWhile (isSeparator true)) p
  else
    match p.body with
    | '/' :: '/' :: rest => withAuthority scheme rest p
    | '/' :: _ => .ok (build scheme none (.segments (rootPath scheme p.body)) p)
    | body => .ok (build scheme none (.text (Percent.encode [] body)) p)

def read (text : String) : Except UrlError Url :=
  match scheme? (clean text) with
  | some (scheme, rest) => ofScheme scheme rest
  | none => .error .noBase

/-- Follows a relative path from the directory of an address. The path may bring a query and a
fragment of its own; those of the address are not taken over. -/
def join (base : Url) (path : String) : Except UrlError Url :=
  let p := Parts.of (clean path)
  match base.path with
  | .text _ => .error .baseIsText
  | .segments segments =>
    let file : Bool := base.scheme = "file"
    let place := if file then above segments else segments.dropLast
    .ok (build base.scheme base.authority
      (.segments (follow file place (segmentsOf (isSpecial base.scheme) p.body))) p)

end EventTally.Url
