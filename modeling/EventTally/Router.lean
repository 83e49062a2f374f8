import EventTally.Record.Change
import EventTally.Rule.Age
import EventTally.Rule.Evaluate

/-! Every event that is added or modified and not discarded for its age is evaluated by a task of
its own. Tasks take steps in any order: a step looks up a pod or counts a match. A task that has
ended is forgotten when the next event comes in, or when all tasks are waited for. -/

namespace EventTally

/-- What tasks do to the outside. -/
inductive Effect where
  | lookup (pod : PodName)
  | count (m : Match)
  deriving DecidableEq

def Effect.lookup? : Effect → Option PodName
  | lookup pod => some pod
  | count _ => none

def Effect.match? : Effect → Option Match
  | lookup _ => none
  | count m => some m

inductive Task where
  | evaluating (rest : Lookup (List Match))
  | counting (rest : List Match)

namespace Task

def start (rules : List Rule) (event : Event) : Task := evaluating (Rule.evaluateAll event rules)

def ended : Task → Bool
  | counting [] => true
  | _ => false

/-- One step; the known pods answer the lookups. -/
def step (known : Directory) : Task → Option Effect × Task
  | evaluating (.ask pod next) => (some (.lookup pod), evaluating (next (known pod)))
  | evaluating (.done found) => (none, counting found)
  | counting (m :: rest) => (some (.count m), counting rest)
  | counting [] => (none, counting [])

/-- What a task does until it ends, when it runs alone. -/
def effects (known : Directory) : Task → List Effect
  | evaluating rest =>
    (rest.questions known).map .lookup ++ (rest.run known).map .count
  | counting rest => rest.map .count

end Task

/-- Lookups and matches of one event. -/
def processEvent (known : Directory) (rules : List Rule) (event : Event) : List Effect :=
  (Task.start rules event).effects known

structure Router where
  rules : List Rule
  filter : AgeFilter
  tasks : List Task := []

namespace Router

def inFlight (r : Router) : Nat := r.tasks.length

/-- Takes in an event that was seen at an instant. -/
def accept (r : Router) (event : Event) (now : Timestamp) : Router :=
  let running := r.tasks.filter (!·.ended)
  if r.filter.discards event now then { r with tasks := running }
  else { r with tasks := running ++ [Task.start r.rules event] }

/-- Deletions, bookmarks and reports of failure start nothing. -/
def notify (r : Router) (change : Change) (now : Timestamp) : Router :=
  match change with
  | .added event | .modified event => r.accept event now
  | _ => r

/-- Lets one task take a step. -/
def step (known : Directory) (r : Router) (i : Nat) : Option Effect × Router :=
  match r.tasks[i]? with
  | some task =>
    let (effect, task) := task.step known
    (effect, { r with tasks := r.tasks.set i task })
  | none => (none, r)

/-- Waits for all tasks. -/
def drain (known : Directory) (r : Router) : List Effect × Router :=
  (r.tasks.flatMap (·.effects known), { r with tasks := [] })

end Router
end EventTally
