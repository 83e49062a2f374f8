import EventTally.File.Entry
import EventTally.Regex
import EventTally.Rule.Definition
import EventTally.Rule.Label

/-! Compiling rules. All is checked before an event is seen: a single fault refuses the whole list,
and the first one in the order of the rules is reported. -/

namespace EventTally

inductive ConfigError where
  | unreadable (path : String) (fault : File.Fault)
  | malformed
  | emptyName (position : Nat)
  | duplicateMetric (metric : String)
  | duplicateMatcher (metric key : String)
  | invalidExpression (metric key : String)
  | submatchWithoutExpression (metric key : String)
  | missingSubexpression (metric key : String) (index : Nat)
  deriving DecidableEq

def ConfigError.message : ConfigError → String
  | unreadable path fault => s!"failed to read config {path}: {fault.message}"
  | malformed => "failed to parse config"
  | emptyName position => s!"configuration for metric #{position} invalid: name must not be empty"
  | duplicateMetric metric =>
    s!"configuration for metric '{metric}' invalid: metric defined more than once"
  | duplicateMatcher metric key =>
    s!"configuration for metric '{metric}' invalid: Multiple matchers for key '{key}'"
  | invalidExpression metric key =>
    s!"configuration for metric '{metric}' invalid: match expression for key {key} invalid"
  | submatchWithoutExpression metric key =>
    s!"configuration for metric '{metric}' invalid: " ++
      s!"Can't use a submatch for key '{key}' without a match expression"
  | missingSubexpression metric key index =>
    s!"configuration for metric '{metric}' invalid: " ++
      s!"Match expression for key '{key}' does not contain {index} subexpressions"

structure Rule where
  name : String
  /-- The matchers in the order of declaration, each with its expression if it has one. -/
  matchers : List (Matcher × Option Regex)
  labels : StringMap LabelSource

namespace Rule

/-- The expression of the matcher for a key. -/
def expressionIn? (matchers : List (Matcher × Option Regex)) (key : String) : Option Regex :=
  (matchers.find? (·.1.key = key)).bind (·.2)

def expression? (r : Rule) (key : String) : Option Regex := expressionIn? r.matchers key

/-- Compiles the matchers after those with the keys seen. -/
def compileMatchers (metric : String) :
    List String → List Matcher → Except ConfigError (List (Matcher × Option Regex))
  | _, [] => .ok []
  | seen, m :: rest => do
    if seen.contains m.key then throw (.duplicateMatcher metric m.key)
    let regex ← match m.expression with
      | none => pure none
      | some e =>
        match Regex.compile? e with
        | some r => pure (some r)
        | none => throw (.invalidExpression metric m.key)
    return (m, regex) :: (← compileMatchers metric (m.key :: seen) rest)

/-- A group that a label takes must be one of the expression of its key. -/
def checkSource (metric : String) (matchers : List (Matcher × Option Regex)) :
    LabelSource → Except ConfigError Unit
  | .submatch key index =>
    match expressionIn? matchers key with
    | none => .error (.submatchWithoutExpression metric key)
    | some r => if r.groups < index then .error (.missingSubexpression metric key index) else .ok ()
  | _ => .ok ()

def compileLabels (metric : String) (matchers : List (Matcher × Option Regex)) :
    List (String × String) → Except ConfigError (List (String × LabelSource))
  | [] => .ok []
  | (label, spec) :: rest => do
    let source := LabelSource.classify spec
    checkSource metric matchers source
    return (label, source) :: (← compileLabels metric matchers rest)

def ofDefinition (d : Definition) : Except ConfigError Rule := do
  let matchers ← compileMatchers d.name [] d.matchers
  let labels ← compileLabels d.name matchers d.labels.entries
  return ⟨d.name, matchers, .ofList labels⟩

/-- Compiles the definitions after those with the names seen. -/
def compileFrom : List String → Nat → List Definition → Except ConfigError (List Rule)
  | _, _, [] => .ok []
  | seen, position, d :: rest => do
    if d.name = "" then throw (.emptyName position)
    if seen.contains d.name then throw (.duplicateMetric d.name)
    let rule ← ofDefinition d
    return rule :: (← compileFrom (d.name :: seen) (position + 1) rest)

def compile (ds : List Definition) : Except ConfigError (List Rule) := compileFrom [] 0 ds

end Rule
end EventTally
