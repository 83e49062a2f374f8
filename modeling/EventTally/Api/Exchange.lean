import EventTally.Cluster.Access
import EventTally.Json.Reader
import EventTally.Record.Change

/-! Requests to the server of a cluster, and what comes back. -/

namespace EventTally

structure Request where
  url : Url
  token : Option TokenSource
  deriving DecidableEq

structure Response where
  status : Nat
  /-- The body in the chunks in which it came. -/
  chunks : List Bytes := []
  /-- Whether all of it came before the connection ended. -/
  isComplete : Bool := true
  deriving DecidableEq

/-- What a request gives: a response, or the reason why there is none. -/
abbrev Reached := Except ClusterError Response

/-- Computations that make requests. -/
abbrev ApiCall := Dialogue Request Reached

/-! ## Sending -/

/-- A request as it is sent, with the value of its header for authorization. -/
structure Message where
  target : String
  authorization : Option String
  deriving DecidableEq

/-- The longest address that can be asked for, in bytes. -/
def addressLimit : Nat := 65534

def Url.isReachable (u : Url) : Bool :=
  (u.scheme = "http" || u.scheme = "https") && u.write.utf8ByteSize ≤ addressLimit

/-- Headers hold no controls but the tab. -/
def isHeaderText (s : String) : Bool :=
  s.toList.all fun c => c = '\t' || 0x20 ≤ c.toNat && c.toNat ≠ 0x7F

/-- The message that is sent for a request. -/
def Request.message (r : Request) : ClusterLookup Message := do
  let token ← r.token.mapM TokenSource.token
  if r.url.isReachable && token.all isHeaderText then
    return ⟨r.url.target, token.map ("Bearer " ++ ·)⟩
  else throw .noAnswer

/-! ## Receiving -/

namespace Response

def isSuccess (r : Response) : Bool := 200 ≤ r.status && r.status < 300

def body? (r : Response) : Option Bytes := if r.isComplete then some r.chunks.flatten else none

/-- What the server says about a failure: the message of its status, or else the whole body. -/
def complaint (r : Response) : String :=
  let body := r.body?.getD []
  match ((Json.ofBytes? body).bind ApiStatus.ofJson?).map (·.message) with
  | some message => if message = "" then Utf8.decodeLossy body else message
  | none => Utf8.decodeLossy body

def check (r : Response) : Except ClusterError Response :=
  if r.isSuccess then .ok r else .error (.refused r.status r.complaint)

/-- The record that the body holds. -/
def decode {α : Type} (read : Json → Option α) (r : Response) : Except ClusterError α := do
  let r ← r.check
  match r.body? with
  | none => .error .noAnswer
  | some body => ((Json.ofBytes? body).bind read).elim (.error .undecodable) .ok

end Response
end EventTally
