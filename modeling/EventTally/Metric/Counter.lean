import EventTally.Metric.Hash
import EventTally.Rule.Evaluate
import EventTally.Text.Utf8

/-! Counters, one for each rule. A counter has a sample for every set of label values that it has
been incremented with. Samples are found by a hash of the values written one after the other in the
order of the label names, so values of the same hash share the sample of those that came first. -/

namespace EventTally

structure Sample where
  key : UInt64
  /-- The values of the labels, in the order of their names. -/
  values : List String
  count : Nat
  deriving DecidableEq

structure Counter where
  name : String
  labelNames : List String
  samples : List Sample := []
  deriving DecidableEq

structure Registry where
  counters : List Counter

inductive RegisterError where
  | invalidName (metric : String)
  | invalidLabel (metric label : String)
  | alreadyRegistered (metric : String)
  deriving DecidableEq

namespace RegisterError

def metric : RegisterError → String
  | invalidName metric | invalidLabel metric _ | alreadyRegistered metric => metric

def reason : RegisterError → String
  | invalidName metric => s!"Error: '{metric}' is not a valid metric name"
  | invalidLabel _ label => s!"Error: '{label}' is not a valid label name"
  | alreadyRegistered _ => "Duplicate metrics collector registration attempted"

def message (e : RegisterError) : String :=
  s!"failed to register metric '{e.metric}': {e.reason}"

end RegisterError

/-! ## Registration -/

def isLabelStart (c : Char) : Bool := c.isAlpha || c = '_'

def isLabelName (s : String) : Bool :=
  match s.toList with
  | [] => false
  | c :: rest => isLabelStart c && rest.all fun c => isLabelStart c || c.isDigit

def isMetricName (s : String) : Bool :=
  match s.toList with
  | [] => false
  | c :: rest =>
    (isLabelStart c || c = ':') && rest.all fun c => isLabelStart c || c = ':' || c.isDigit

/-- A new counter for the name and the labels of a rule. -/
def Counter.new (metric : String) (labelNames : List String) : Except RegisterError Counter :=
  if !isMetricName metric then .error (.invalidName metric)
  else
    match labelNames.find? (!isLabelName ·) with
    | some label => .error (.invalidLabel metric label)
    | none => .ok { name := metric, labelNames }

namespace Registry

/-- Counters are told apart by the hash of their names. -/
def registerFrom (ids : List UInt64) : List Rule → Except RegisterError (List Counter)
  | [] => .ok []
  | r :: rest => do
    let c ← Counter.new r.name r.labels.keys
    let id := fnv (Utf8.encode r.name)
    if ids.contains id then throw (.alreadyRegistered r.name)
    return c :: (← registerFrom (id :: ids) rest)

/-- A counter for every rule, none of which has a sample yet. -/
def register (rules : List Rule) : Except RegisterError Registry :=
  (registerFrom [] rules).map Registry.mk

end Registry

/-! ## Counting -/

/-- The key of a sample. -/
def sampleKey (values : List String) : UInt64 := fnv (values.flatMap Utf8.encode)

/-- Counts are kept as doubles: from here on one more is rounded away. -/
def countLimit : Nat := 0x20000000000000

def oneMore (count : Nat) : Nat := if count < countLimit then count + 1 else count

def bump (key : UInt64) (values : List String) : List Sample → List Sample
  | [] => [⟨key, values, 1⟩]
  | s :: rest =>
    if s.key = key then { s with count := oneMore s.count } :: rest else s :: bump key values rest

/-- The values for the label names, if the labels are exactly these. -/
def Counter.values? (c : Counter) (labels : StringMap String) : Option (List String) :=
  if labels.entries.length = c.labelNames.length then c.labelNames.mapM labels.get? else none

/-- Labels other than the counter's own change nothing. -/
def Counter.increment (c : Counter) (labels : StringMap String) : Counter :=
  match c.values? labels with
  | some values => { c with samples := bump (sampleKey values) values c.samples }
  | none => c

namespace Registry

/-- Increments the counter of that name, if there is one. -/
def increment (r : Registry) (metric : String) (labels : StringMap String) : Registry :=
  ⟨r.counters.map fun c => if c.name = metric then c.increment labels else c⟩

def count (r : Registry) (m : Match) : Registry := r.increment m.name m.labels

def names (r : Registry) : List String := r.counters.map (·.name)

end Registry
end EventTally
