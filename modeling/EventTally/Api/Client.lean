import EventTally.Api.Exchange
import EventTally.Certificate.Usable
import EventTally.Rule.Evaluate

/-! The client of a cluster: it looks up pods, lists events, and opens watches for events. All
addresses lie below the address of the server. -/

namespace EventTally

structure Client where
  /-- The address of the server, whose path ends with a slash. -/
  base : Url
  token : Option TokenSource := none
  deriving DecidableEq

namespace Client

/-- Needs certificates and keys that can be used. -/
def ofAccess (a : ClusterAccess) : Except ClusterError Client :=
  if a.rootCertificates.all Certificate.rootsUsable && a.identity.all Certificate.identityUsable then
    .ok { base := a.server.asDirectory, token := a.token }
  else .error .noAnswer

def load (choice : ClusterChoice) (env : Environment) : ClusterLookup Client := do
  liftM (ofAccess (← ClusterAccess.load choice env))

/-! ## Requests -/

def podPath (pod : PodName) : String := s!"api/v1/namespaces/{pod.namespace_}/pods/{pod.name}"

/-- The events of a namespace, or of all. -/
def eventsPath : Option String → String
  | some namespace_ => s!"api/v1/namespaces/{namespace_}/events"
  | none => "api/v1/events"

def url (c : Client) (path : String) : Except ClusterError Url :=
  (c.base.join path).mapError (.invalidServer c.base.write)

def request (c : Client) (path : String) : Except ClusterError Request :=
  (c.url path).map fun url => ⟨url, c.token⟩

def podRequest (c : Client) (pod : PodName) : Except ClusterError Request := c.request (podPath pod)

def listRequest (c : Client) (namespace_ : Option String) : Except ClusterError Request :=
  c.request (eventsPath namespace_)

def watchQuery (version : String) : List (String × String) :=
  [("watch", "true"), ("resourceVersion", version), ("allowWatchBookmarks", "true")]

def watchRequest (c : Client) (namespace_ : Option String) (version : String) :
    Except ClusterError Request :=
  (c.request (eventsPath namespace_)).map fun r =>
    { r with url := r.url.addPairs (watchQuery version) }

/-! ## Calls -/

/-- Makes the request if there is one. -/
def send : Except ClusterError Request → ApiCall Reached
  | .error e => return .error e
  | .ok r => .question r

def getPod (c : Client) (pod : PodName) : ApiCall (Except ClusterError Pod) := do
  return (← send (c.podRequest pod)).bind (Response.decode Pod.ofDocument?)

def listEvents (c : Client) (namespace_ : Option String) :
    ApiCall (Except ClusterError EventList) := do
  return (← send (c.listRequest namespace_)).bind (Response.decode EventList.ofDocument?)

def watchEvents (c : Client) (namespace_ : Option String) (version : String) : ApiCall Reached := do
  return (← send (c.watchRequest namespace_ version)).bind Response.check

def lookupError (pod : PodName) (e : ClusterError) : LookupError :=
  if e.isNotFound then .notFound pod else .unavailable e.message

/-- Looks up a pod for a label. -/
def fetchPod (c : Client) (pod : PodName) : ApiCall (Except LookupError Pod) := do
  return (← c.getPod pod).mapError (lookupError pod)

/-- The matches of an event, whose lookups are made by the client. -/
def evaluate (c : Client) (rules : List Rule) (event : Event) : ApiCall (List Match) :=
  (Rule.evaluateAll event rules).through c.fetchPod

end Client
end EventTally
