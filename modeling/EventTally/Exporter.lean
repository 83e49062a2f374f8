import EventTally.Listen
import EventTally.Metric.Counter
import EventTally.Router
import EventTally.Rule.Load
import EventTally.Startup.Arguments
import EventTally.Watch.Feed

/-! The whole exporter: it reads its rules, gets access to the cluster, and then counts the matches
of the events that the feed brings, until the feed ends. -/

namespace EventTally

/-- Why the exporter stops: what it was doing, and what lies behind it, the outermost cause
first. -/
structure Failure where
  doing : String
  causes : List String

namespace Failure

def causeLines (causes : List String) : List String :=
  match causes with
  | [cause] => ["    " ++ cause]
  | causes => causes.mapIdx fun i cause => s!"    {i}: {cause}"

def text (f : Failure) : String :=
  "\n".intercalate (s!"Error: {f.doing}" :: "" :: "Caused by:" :: causeLines f.causes) ++ "\n"

def ofConfig (path : String) (e : ConfigError) : Failure :=
  let behind := match e with
    | .unreadable _ fault => [fault.message]
    | _ => []
  ⟨s!"loading rules from {path}", e.message :: behind⟩

def ofRegister (e : RegisterError) : Failure := ⟨"registering metrics", [e.message, e.reason]⟩

def ofCluster (doing : String) (e : ClusterError) : Failure := ⟨doing, e.message :: e.causes⟩

def ofListen (address : String) (e : ListenError) : Failure :=
  ⟨s!"binding metrics server to {address}", [e.message]⟩

end Failure

/-- What a task still has to ask for, and the matches that it then counts. -/
def Task.calls (c : Client) : Task → ApiCall (List Match)
  | .evaluating rest => rest.through c.fetchPod
  | .counting rest => return rest

structure Exporter where
  client : Client
  namespace_ : Option String
  router : Router
  counters : Registry
  /-- What the feed asks for next, or the error that ended it. -/
  cursor : Except ClusterError Cursor := .ok .list

namespace Exporter

/-- Does all that is done before the feed is opened; `listen` says whether metrics can be served at
an address. -/
def start (s : Settings) (env : Environment) (listen : ListenAddress → Except ListenError Unit) :
    ExceptT Failure FileLookup Exporter := do
  let rules ← ExceptT.adapt (Failure.ofConfig s.rulesPath) (ExceptT.mk (Rule.load s.rulesPath))
  let counters ← liftM ((Registry.register rules).mapError Failure.ofRegister)
  let client ← ExceptT.adapt (Failure.ofCluster "configuring cluster access")
    (Client.load s.cluster env)
  let listening := (ListenAddress.parse s.listenAddress).bind listen
  liftM (listening.mapError (Failure.ofListen s.listenAddress))
  return {
    client, namespace_ := s.cluster.namespace_, counters,
    router := { rules, filter := ⟨s.discard⟩ } }

/-- The request that the feed makes next. -/
def request? (x : Exporter) : Option (Except ClusterError Request) :=
  match x.cursor with
  | .ok cursor => some (cursor.request x.client x.namespace_)
  | .error _ => none

/-- Hands the changes to the router. -/
def advance (x : Exporter) (p : Progress) (now : Timestamp) : Exporter :=
  { x with
    cursor := p.next
    router := p.changes.foldl (fun r change => r.notify change now) x.router }

/-- Takes in what the request gave. -/
def receive (x : Exporter) (reached : Reached) (now : Timestamp) : Exporter :=
  match x.cursor with
  | .ok cursor => x.advance (cursor.step reached) now
  | .error _ => x

def count (x : Exporter) (found : List Match) : Exporter :=
  { x with counters := found.foldl Registry.count x.counters }

/-- Lets tasks run to their ends, one after the other. -/
def finish (x : Exporter) : List Task → ApiCall Exporter
  | [] => return x
  | task :: rest => do finish (x.count (← task.calls x.client)) rest

/-- Waits for all tasks. -/
def drain (x : Exporter) : ApiCall Exporter :=
  finish { x with router := { x.router with tasks := [] } } x.router.tasks

/-- The failure that the end of the feed is, if it has ended. -/
def failure? (x : Exporter) : Option Failure :=
  match x.cursor with
  | .ok _ => none
  | .error e => some (Failure.ofCluster "watching events" e)

end Exporter
end EventTally
