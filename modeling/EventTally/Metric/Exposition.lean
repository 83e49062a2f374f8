import EventTally.Metric.Counter

/-! Counters as text. They are listed by name, each with its samples in the order of their label
values; a counter without samples is left out. -/

namespace EventTally

/-- A label value with backslashes, line feeds and quotes escaped. -/
def escapeLabel : List Char → List Char
  | [] => []
  | '\\' :: cs => '\\' :: '\\' :: escapeLabel cs
  | '\n' :: cs => '\\' :: 'n' :: escapeLabel cs
  | '"' :: cs => '\\' :: '"' :: escapeLabel cs
  | c :: cs => c :: escapeLabel cs

def quoteLabel (value : String) : String :=
  String.ofList (['"'] ++ escapeLabel value.toList ++ ['"'])

def Sample.labels (names : List String) (s : Sample) : String :=
  if names.isEmpty then ""
  else "\x7b" ++ String.intercalate "," ((names.zip s.values).map fun (n, v) => n ++ "=" ++ quoteLabel v)
    ++ "\x7d"

def Sample.line (c : Counter) (s : Sample) : String :=
  c.name ++ s.labels c.labelNames ++ " " ++ toString s.count ++ "\n"

/-- The order of label values, by the first that differs. -/
def valuesLE : List String → List String → Bool
  | [], _ => true
  | _, [] => false
  | a :: as, b :: bs => a < b || (a = b && valuesLE as bs)

def Counter.text (c : Counter) : String :=
  "# HELP " ++ c.name ++ " Kubernetes Eventexporter Metric " ++ c.name ++ "\n"
    ++ "# TYPE " ++ c.name ++ " counter\n"
    ++ String.join ((c.samples.mergeSort fun s t => valuesLE s.values t.values).map (·.line c))

namespace Registry

def render (r : Registry) : String :=
  String.join (((r.counters.filter (!·.samples.isEmpty)).mergeSort fun c d => c.name ≤ d.name).map
    Counter.text)

def contentType : String := "text/plain; version=0.0.4"

/-- A short description for logs. -/
def describe (r : Registry) : String :=
  let names := (r.names.mergeSort (· ≤ ·)).map fun n => "\"" ++ n ++ "\""
  "PrometheusEmitter \x7b metrics: [" ++ String.intercalate ", " names ++ "] \x7d"

end Registry
end EventTally
