import EventTally.Api.Arrival
import EventTally.Exporter
import EventTally.Metric.Routes
import Std.Async
import Std.Http

/-! The program. It looks at the files of this machine, speaks HTTP to the server of the cluster,
serves the metrics, and ends when the feed does or on a signal. It does not speak TLS, so a server
that is reached by `https` gives no answer. -/

namespace EventTally.Program

open Std.Async Std.Async.TCP

/-! ## The machine -/

def now : IO Timestamp := do
  let clock ← Std.Time.Timestamp.now
  match Timestamp.ofNanos? clock.toNanosecondsSinceUnixEpoch.val with
  | some t => return t
  | none => throw (.userError "the clock shows no year of the calendar")

def log (message : String) : IO Unit := do
  IO.println s!"{(← now).write}  INFO {message}"

/-- The number of an error, which may be given as a negative one. -/
def errorNumber (code : UInt32) : Nat := if code < 0x80000000 then code.toNat else (0 - code).toNat

def fault : IO.Error → File.Fault
  | .noFileOrDirectory _ _ _ => .notFound
  | .permissionDenied _ _ _ => .denied
  | .inappropriateType _ code _ => if errorNumber code = 21 then .isDirectory else .notDirectory
  | .invalidArgument _ code details =>
    if errorNumber code = 36 then .nameTooLong else .other details
  | e => .other (toString e)

def entry (path : String) : IO File.Entry := do
  if path.toList.contains (Char.ofNat 0) then return .absent .nulInName
  try
    return .file (.ok (← IO.FS.readBinFile path).toList)
  catch e =>
    return if fault e = .denied then .file (.error .denied) else .absent (fault e)

def lookUp {α : Type} : FileLookup α → IO α
  | .done a => return a
  | .ask path next => do lookUp (next (← entry path))

/-- A variable as the machine lists it. -/
def ofListing? (bytes : Bytes) : Option (String × String) := do
  let cs := (← Utf8.decode? bytes).toList
  if cs.isEmpty then none
  return (String.ofList (cs.takeWhile (· ≠ '=')), String.ofList ((cs.dropWhile (· ≠ '=')).drop 1))

/-- The variables of the environment, and those of the file that is found from the working
directory. -/
def environment : IO Variables := do
  let listed := (← IO.FS.readBinFile "/proc/self/environ").toList.splitOn 0
  lookUp (Variables.load (← IO.currentDir).toString (.ofList (listed.filterMap ofListing?)))

/-! ## Requests -/

/-- What comes first: an event, or the end of the program. -/
def unlessStopped {α : Type} (stop : Std.CancellationToken) (event : Selector α) : IO (Option α) :=
  (Selectable.one #[
    .case event fun a => return some a,
    .case stop.selector fun _ => return none]).block

def socketAddress (port : UInt16) : Std.Net.IPAddr → Std.Net.SocketAddress
  | .v4 addr => .v4 ⟨addr, port⟩
  | .v6 addr => .v6 ⟨addr, port⟩

def bareHost : Host → String
  | .ipv6 pieces => String.ofList (((Host.ipv6 pieces).write.toList.drop 1).dropLast)
  | host => host.write

/-- Tries the addresses of a host in turn. -/
def connect (a : Authority) : IO Socket.Client := do
  let port := a.port.getD 80
  let found ← (DNS.getAddrInfo (bareHost a.host) (toString port)).block
  let attempts := found.toList.map fun address => do
    let socket ← Socket.Client.mk
    (socket.connect (socketAddress port.toUInt16 address)).block
    return socket
  attempts.foldr (fun attempt rest => attempt <|> rest) (throw (.userError "no address"))

/-- Takes in a response; `goOn` is told the status and the bytes of the body as they come. -/
partial def receive (stop : Std.CancellationToken) (socket : Socket.Client)
    (goOn : Nat → Bytes → IO Bool) (a : Arrival) : IO Arrival := do
  if a.awaited = .nothing || a.awaited = .malformed then return a
  match (← unlessStopped stop (socket.recvSelector 65536)).join with
  | none => return a
  | some bytes =>
    let (a, body) := a.push bytes.toList
    match a.status with
    | some status =>
      if body.isEmpty || (← goOn status body) then receive stop socket goOn a else return a
    | none => receive stop socket goOn a

def exchange (stop : Std.CancellationToken) (r : Request) (goOn : Nat → Bytes → IO Bool) :
    IO (Except ClusterError Arrival) := do
  match ← lookUp r.message.run, r.url.authority with
  | .error e, _ => return .error e
  | .ok _, none => return .error .noAnswer
  | .ok message, some authority =>
    if r.url.scheme ≠ "http" then return .error .noAnswer
    try
      let socket ← connect authority
      let host : Authority := { host := authority.host, port := authority.port }
      (socket.send (message.write host.write).toUTF8).block
      return .ok (← receive stop socket goOn {})
    catch _ => return .error .noAnswer

def reached (found : Except ClusterError Arrival) (chunks : List Bytes) : Reached := do
  let a ← found
  match a.status with
  | some status => .ok { status, chunks, isComplete := a.isComplete }
  | none => .error .noAnswer

/-- The whole response to a request. -/
def fetch (stop : Std.CancellationToken) (r : Request) : IO Reached := do
  let chunks ← IO.mkRef ([] : List Bytes)
  let found ← exchange stop r fun _ bytes => do
    chunks.modify (bytes :: ·)
    return true
  return reached found (← chunks.get).reverse

def call {α : Type} (stop : Std.CancellationToken) : ApiCall α → IO α
  | .done a => return a
  | .ask r next => do call stop (next (← fetch stop r))

/-! ## The feed -/

/-- The exporter while it runs. -/
structure Live where
  exporter : IO.Ref Exporter
  counters : IO.Ref Registry
  /-- Tasks that look up pods. -/
  running : IO.Ref (List (AsyncTask Unit))
  /-- Asked for by a signal. -/
  stop : Std.CancellationToken

namespace Live

/-- Lets a task run beside the feed until it has counted its matches. -/
def spawn (l : Live) (client : Client) (task : EventTally.Task) : IO Unit := do
  let running ← IO.asTask do
    let found ← call (← Std.CancellationToken.new) (task.calls client)
    l.counters.modify fun counters => found.foldl Registry.count counters
  let others ← (← l.running.get).filterM fun task => return !(← IO.hasFinished task)
  l.running.set (running :: others)

def advance (l : Live) (p : Progress) : IO Unit := do
  let x := (← l.exporter.get).advance p (← now)
  l.exporter.set { x with router := { x.router with tasks := [] } }
  x.router.tasks.forM (l.spawn x.client)

/-- Hands on the changes of a watch as they come. -/
def watch (l : Live) (version : String) (r : Request) : IO Progress := do
  let cursor := Cursor.watch version
  let watching ← IO.mkRef ({ version } : Watch)
  let refusal ← IO.mkRef ([] : List Bytes)
  let found ← exchange l.stop r fun status bytes => do
    if Response.isSuccess { status } then
      let w := (← watching.get).chunk bytes
      watching.set { w with changes := [] }
      l.advance { changes := w.changes, next := .ok cursor }
      return w.ended.isNone
    else
      refusal.modify (bytes :: ·)
      return true
  match (reached found (← refusal.get).reverse).bind Response.check with
  | .ok r => return Cursor.afterWatch (← watching.get) r.isComplete
  | .error e => return cursor.step (.error e)

def turn (l : Live) (cursor : Cursor) (request : Except ClusterError Request) : IO Progress := do
  match cursor, request with
  | _, .error e => return cursor.step (.error e)
  | .list, .ok r => return cursor.step (← fetch l.stop r)
  | .watch version, .ok r => l.watch version r

def pause : Std.Time.Millisecond.Offset := 5000

/-- Follows the feed until it ends or a signal comes. -/
partial def follow (l : Live) : IO Unit := do
  let x ← l.exporter.get
  match x.cursor, x.request? with
  | .ok cursor, some request =>
    let p ← l.turn cursor request
    if ← l.stop.isCancelled then return
    l.advance p
    if p.waits && p.next.toOption.isSome then
      discard <| unlessStopped l.stop (← (Selector.sleep pause).block)
    if !(← l.stop.isCancelled) then follow l
  | _, _ => return

/-- Waits for the tasks that still run. -/
def drain (l : Live) : IO Unit := do
  for task in ← l.running.get do
    discard (IO.wait task)

end Live

/-! ## The metrics -/

def respond (counters : IO.Ref Registry) : Std.Http.Server.StatelessHandler :=
  Std.Http.Server.Handler.ofFn fun request => do
    let reply := (← counters.get).respond (toString request.line.method) (toString request.line.uri)
    let status := (Std.Http.Status.ofCode none reply.status.toUInt16).getD .notFound
    let headers := (reply.contentType.map ("content-type", ·)).toList ++
      (reply.allow.map ("allow", ·)).toList
    let head := headers.foldl (fun head (name, value) => (head.header? name value).getD head)
      (Std.Http.Response.withStatus status)
    return head.body (.ofBody (← Std.Http.Body.Full.ofString reply.body))

def listenError : IO.Error → ListenError
  | .resourceBusy _ _ => .inUse
  | .permissionDenied _ _ _ => .denied
  | _ => .foreignHost

def serve (counters : IO.Ref Registry) (a : ListenAddress) :
    ExceptT ListenError IO Std.Http.Server := do
  let host := String.ofList (a.host.toList.filter fun c => c ≠ '[' && c ≠ ']')
  let open? : IO Std.Http.Server := do
    match (← (DNS.getAddrInfo host (toString a.port)).block)[0]? with
    | none => throw (.userError host)
    | some address =>
      (Std.Http.Server.serve (socketAddress a.port.toUInt16 address) (respond counters)
        { serverName := none }).block
  ExceptT.mk do return (← open?.toBaseIO).mapError listenError

/-! ## From start to end -/

def stopOn (stop : Std.CancellationToken) (signal : Signal) : IO Unit := do
  let waiting ← (← Signal.Waiter.mk signal false).wait
  discard <| IO.mapTask (fun _ => stop.cancel) waiting

def fail (f : Failure) : IO UInt32 := do
  IO.eprint f.text
  return 1

/-- Serves the metrics and follows the feed. -/
def follow (x : Exporter) (address : String) : IO UInt32 := do
  let live : Live := {
    exporter := ← IO.mkRef x
    counters := ← IO.mkRef x.counters
    running := ← IO.mkRef []
    stop := ← Std.CancellationToken.new }
  match ← (do serve live.counters (← liftM (ListenAddress.parse address))).run with
  | .error e => fail (.ofListen address e)
  | .ok server =>
    stopOn live.stop .sigint
    stopOn live.stop .sigterm
    log "exporter started"
    live.follow
    live.drain
    server.shutdownAndWait.block
    log "exporter stopped"
    match (← live.exporter.get).failure? with
    | some f => fail f
    | none => return 0

def run (s : Settings) (vars : Variables) : IO UInt32 := do
  s.summary.forM log
  match ← lookUp (Exporter.start s (.ofVariables vars) fun _ => .ok ()).run with
  | .error f => fail f
  | .ok x => follow x s.listenAddress

end EventTally.Program

open EventTally in
def main (arguments : List String) : IO UInt32 := do
  let vars ← Program.environment
  match Arguments.ask arguments vars with
  | .error e =>
    IO.eprint e.message
    return 2
  | .ok .help =>
    IO.print (Arguments.help vars)
    return 0
  | .ok .version =>
    IO.print Arguments.version
    return 0
  | .ok (.run settings) => Program.run settings vars
