import EventTally.Rule.Compile
import EventTally.Yaml.Value

/-! Rules from a file, written in YAML. -/

namespace EventTally.Rule

/-- The definitions that a text writes down, and the rules that they make. -/
def ofYaml (text : String) : Except ConfigError (List Rule) :=
  match (Yaml.read? text).bind Definition.readAll? with
  | some ds => compile ds
  | none => .error .malformed

def load (path : String) : FileLookup (Except ConfigError (List Rule)) := do
  match ← FileLookup.text path with
  | .error fault => return .error (.unreadable path fault)
  | .ok text => return ofYaml text

end EventTally.Rule
