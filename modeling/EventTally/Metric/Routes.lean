import EventTally.Metric.Exposition

/-! What the program answers over HTTP: the metrics, and a sign that it is alive. -/

namespace EventTally

/-- An answer to a request. -/
structure Reply where
  status : Nat
  contentType : Option String := none
  allow : Option String := none
  body : String := ""
  deriving DecidableEq

namespace Reply

def notFound : Reply := { status := 404 }

/-- A resource can be read with GET, or with HEAD, which leaves out the body. -/
def resource (method contentType body : String) : Reply :=
  match method with
  | "GET" => { status := 200, contentType := some contentType, body }
  | "HEAD" => { status := 200, contentType := some contentType }
  | _ => { status := 405, allow := some "GET,HEAD" }

end Reply

/-- The path of a request target, without its query and fragment. -/
def targetPath (target : String) : String :=
  String.ofList (target.toList.takeWhile fun c => c != '?' && c != '#')

def Registry.respond (r : Registry) (method target : String) : Reply :=
  match targetPath target with
  | "/metrics" => .resource method Registry.contentType r.render
  | "/healthz" => .resource method "text/plain; charset=utf-8" "ok"
  | _ => .notFound

end EventTally
