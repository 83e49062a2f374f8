import EventTally.Dialogue
import EventTally.Record.Pod
import EventTally.Rule.Compile

/-! Evaluating rules on an event. A rule matches if all its matchers pass and all its labels have a
value; the pod that the event is about is looked up anew for each label that needs it. A rule that
fails does not keep the others from matching. -/

namespace EventTally

structure PodName where
  namespace_ : String
  name : String
  deriving DecidableEq

def PodName.path (p : PodName) : String := p.namespace_ ++ "/" ++ p.name

inductive LookupError where
  | notFound (pod : PodName)
  | unavailable (reason : String)
  deriving DecidableEq

def LookupError.message : LookupError → String
  | notFound pod => s!"pods \"{pod.name}\" not found in namespace \"{pod.namespace_}\""
  | unavailable reason => s!"related object lookup failed: {reason}"

inductive LabelError where
  | path (e : PathError)
  | missingSubmatch (key : String) (index : Nat)
  | unsupportedKind (kind : String)
  | lookup (e : LookupError)
  deriving DecidableEq

def LabelError.message : LabelError → String
  | path e => e.message
  | missingSubmatch key index => s!"no submatch {index} recorded for key '{key}'"
  | unsupportedKind kind => s!"related object lookup is not supported for kind '{kind}'"
  | lookup e => e.message

inductive EvalError where
  | field (key : String) (e : PathError)
  | noMatch (key : String)
  | label (label : String) (e : LabelError)
  deriving DecidableEq

def EvalError.message : EvalError → String
  | field key e => s!"could not get value for key {key}: {e.message}"
  | noMatch key => s!"value of key {key} does not match its expression"
  | label name e => s!"could not get label '{name}': {e.message}"

/-- A rule that matched, with the values of its labels. -/
structure Match where
  name : String
  labels : StringMap String
  deriving DecidableEq

/-- Dialogues that look up pods. -/
abbrev Lookup := Dialogue PodName (Except LookupError Pod)

namespace Rule

/-- The groups of the matches made so far, by key. A group that took no part is the empty text. -/
abbrev Submatches := List (String × List String)

def submatch? (s : Submatches) (key : String) (index : Nat) : Option String :=
  (s.lookup key).bind (·[index]?)

def passMatchers (event : View) :
    List (Matcher × Option Regex) → Except EvalError Submatches
  | [] => .ok []
  | (m, regex) :: rest => do
    let value ← (event.resolve m.key).mapError (.field m.key)
    match regex with
    | none => passMatchers event rest
    | some r =>
      match r.captures? value with
      | none => throw (.noMatch m.key)
      | some groups =>
        return (m.key, groups.map (·.getD "")) :: (← passMatchers event rest)

/-- The pod that the event is about; a lookup for another kind of object is not made. -/
def relatedPod (event : Event) : Lookup (Except LabelError Pod) :=
  if event.involvedObject.kind = "Pod" then do
    let found ← .question ⟨event.involvedObject.namespace_, event.involvedObject.name⟩
    return found.mapError .lookup
  else return .error (.unsupportedKind event.involvedObject.kind)

def labelValue (event : Event) (s : Submatches) : LabelSource → Lookup (Except LabelError String)
  | .direct path => return (event.view.resolve path).mapError .path
  | .submatch key index =>
    return (submatch? s key index).elim (.error (.missingSubmatch key index)) .ok
  | .related path => do
    match ← relatedPod event with
    | .error e => return .error e
    | .ok pod => return (pod.view.resolve path).mapError .path

def labelValues (event : Event) (s : Submatches) :
    List (String × LabelSource) → Lookup (Except EvalError (List (String × String)))
  | [] => return .ok []
  | (name, source) :: rest => do
    match ← labelValue event s source with
    | .error e => return .error (.label name e)
    | .ok value => return (← labelValues event s rest).map ((name, value) :: ·)

def evaluate (event : Event) (r : Rule) : Lookup (Except EvalError Match) :=
  match passMatchers event.view r.matchers with
  | .error e => return .error e
  | .ok s => do
    return (← labelValues event s r.labels.entries).map fun values => ⟨r.name, .ofList values⟩

/-- The matches of all rules, in the order of the rules. -/
def evaluateAll (event : Event) : List Rule → Lookup (List Match)
  | [] => return []
  | r :: rest => do
    let found ← r.evaluate event
    let others ← evaluateAll event rest
    return found.toOption.toList ++ others

end Rule

/-- The pods that are known, and what looking up any other pod gives. -/
abbrev Directory := PodName → Except LookupError Pod

end EventTally
