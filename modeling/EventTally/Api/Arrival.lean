import EventTally.Api.Exchange
import EventTally.Text.Hex
import EventTally.Watch.Line

/-! Messages on a connection. `Message.write` is the text of a request. `Arrival` is a response
whose bytes come in any portions; each portion brings some bytes of the body. -/

namespace EventTally

/-- The lines that ask a host for the target. -/
def Message.write (m : Message) (host : String) : String :=
  let lines := [s!"GET {m.target} HTTP/1.1", s!"host: {host}", "accept: */*", "connection: close"] ++
    (m.authorization.map ("authorization: " ++ ·)).toList
  String.join (lines.map (· ++ "\r\n")) ++ "\r\n"

/-- What a head says about the end of the body. -/
structure Framing where
  length : Option Nat := none
  isChunked : Bool := false
  deriving DecidableEq

/-- What the next bytes of a response belong to. -/
inductive Awaited where
  | status
  | header (status : Nat) (framing : Framing)
  | untilClosed
  | sized (left : Nat)
  | chunkSize
  | chunk (left : Nat)
  | chunkEnd
  | trailer
  | nothing
  | malformed
  deriving DecidableEq

namespace Awaited

/-- How much there is to do without another line. -/
def weight : Awaited → Nat
  | chunk _ => 1
  | _ => 0

theorem weight_le (awaited : Awaited) : awaited.weight ≤ 1 := by
  cases awaited <;> simp [weight]

theorem weight_add_lt {m n : Nat} {awaited : Awaited} (h : m < n) :
    2 * m + awaited.weight < 2 * n := by
  have := awaited.weight_le
  omega

end Awaited

namespace Framing

def decimal? (text : String) : Option Nat :=
  if text.toList.all Char.isDigit then text.toNat? else none

def header (f : Framing) (name value : String) : Framing :=
  if name = "content-length" then { f with length := decimal? value }
  else if name = "transfer-encoding" then { f with isChunked := value.toLower = "chunked" }
  else f

/-- Some responses have no body, whatever their heads say. -/
def bodiless (status : Nat) : Bool := status = 204 || status = 304

def body (f : Framing) (status : Nat) : Awaited :=
  if bodiless status then .nothing
  else if f.isChunked then .chunkSize
  else
    match f.length with
    | some 0 => .nothing
    | some n => .sized n
    | none => .untilClosed

end Framing

structure Arrival where
  pending : Bytes := []
  awaited : Awaited := .status
  /-- The status, once the head has come. -/
  status : Option Nat := none
  deriving DecidableEq

namespace Arrival

/-- The status of a line such as `HTTP/1.1 200 OK`. -/
def status? (line : String) : Option Nat :=
  match line.splitOn " " with
  | version :: status :: _ => if "HTTP/1.".isPrefixOf version then Framing.decimal? status else none
  | _ => none

def header? (line : String) : Option (String × String) :=
  match line.splitOn ":" with
  | name :: value :: more => some (name.toLower, (":".intercalate (value :: more)).trimAscii.toString)
  | _ => none

/-- The head has ended; a status below 200 announces another head. -/
def headEnd (a : Arrival) (status : Nat) (f : Framing) : Arrival :=
  if status < 200 then { a with awaited := .status }
  else { a with status, awaited := f.body status }

def chunkStart (line : String) : Awaited :=
  match Hex.number? ((line.toList.takeWhile (· ≠ ';')).filter (· ≠ ' ')) with
  | some 0 => .trailer
  | some n => .chunk n
  | none => .malformed

/-- Takes in a line of the head or of the frame around chunks. -/
def line (a : Arrival) (line : String) : Arrival :=
  match a.awaited with
  | .status =>
    match status? line with
    | some status => { a with awaited := .header status {} }
    | none => { a with awaited := .malformed }
  | .header status f =>
    if line.isEmpty then a.headEnd status f
    else
      match header? line with
      | some (name, value) => { a with awaited := .header status (f.header name value) }
      | none => { a with awaited := .malformed }
  | .chunkSize => { a with awaited := chunkStart line }
  | .chunkEnd => { a with awaited := if line.isEmpty then .chunkSize else .malformed }
  | .trailer => { a with awaited := if line.isEmpty then .nothing else .trailer }
  | _ => a

/-- Takes in what is pending as far as it goes, and gives the bytes of the body among it. -/
def advance (a : Arrival) : Arrival × Bytes :=
  go a.status a.awaited a.pending
where
  go (status : Option Nat) (awaited : Awaited) (pending : Bytes) : Arrival × Bytes :=
    match awaited with
    | .untilClosed => ({ awaited, status }, pending)
    | .nothing | .malformed => ({ awaited, status }, [])
    | .sized left =>
      let rest := left - pending.length
      ({ awaited := if rest = 0 then .nothing else .sized rest, status }, pending.take left)
    | .chunk left =>
      if pending.length < left then
        ({ awaited := .chunk (left - pending.length), status }, pending)
      else
        let (a, body) := go status .chunkEnd (pending.drop left)
        (a, pending.take left ++ body)
    | .status | .header _ _ | .chunkSize | .chunkEnd | .trailer =>
      match h : Line.cut? pending with
      | none => ({ pending, awaited, status }, [])
      | some (text, rest) =>
        have := Line.cut?_length h
        let a := line { awaited, status } (Utf8.decodeLossy (Line.dropReturn text))
        go a.status a.awaited rest
  termination_by 2 * pending.length + Awaited.weight awaited
  decreasing_by
    · simp only [Awaited.weight, List.length_drop]; omega
    all_goals
      apply Awaited.weight_add_lt
      assumption

def push (a : Arrival) (bytes : Bytes) : Arrival × Bytes :=
  { a with pending := a.pending ++ bytes }.advance

/-- Whether all of the response is there, should the connection end now. -/
def isComplete (a : Arrival) : Bool := a.awaited = .nothing || a.awaited = .untilClosed

end Arrival
end EventTally
