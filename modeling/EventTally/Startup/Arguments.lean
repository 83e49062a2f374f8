import EventTally.Cluster.Access
import EventTally.Startup.Variables

/-! The arguments of the program. Each option takes one value; what is not given is taken from a
variable of the environment, and else from the usual settings. -/

namespace EventTally

inductive OptionName where
  | config | discard | listenAddress | kubeconfig | context | namespace_
  deriving DecidableEq

namespace OptionName

def all : List OptionName := [config, discard, listenAddress, kubeconfig, context, namespace_]

def word : OptionName → String
  | config => "config"
  | discard => "discard"
  | listenAddress => "listen-address"
  | kubeconfig => "kubeconfig"
  | context => "context"
  | namespace_ => "namespace"

/-- The word for the value. -/
def valueWord : OptionName → String
  | config => "CONFIG"
  | discard => "DISCARD"
  | listenAddress => "LISTEN_ADDRESS"
  | kubeconfig => "KUBECONFIG"
  | context => "CONTEXT"
  | namespace_ => "NAMESPACE"

/-- The variable that the value is taken from if it is not given. -/
def fromVariable : OptionName → String
  | kubeconfig => "KUBECONFIG"
  | option => "EVENTEXPORTER_" ++ option.valueWord

def about : OptionName → String
  | config => "Path to the rule configuration"
  | discard =>
    "Drop events last seen longer ago than this. \x600s\x60 keeps everything"
  | listenAddress => "Bind address of the metrics server"
  | kubeconfig => "Kubeconfig to use instead of the default loading rules"
  | context => "Kubeconfig context to use"
  | namespace_ => "Only watch events in this namespace"

def usual : OptionName → Option String
  | config => some "/etc/eventexporter/config.yaml"
  | discard => some "60s"
  | listenAddress => some "0.0.0.0:9102"
  | _ => none

/-- Paths may not be empty. -/
def isPath (option : OptionName) : Bool := option = config || option = kubeconfig

def shown (option : OptionName) : String := s!"--{option.word} <{option.valueWord}>"

end OptionName

/-- Why arguments are not taken. -/
inductive UsageError where
  | unexpected (argument : String)
  | noValue (option : OptionName)
  | repeated (option : OptionName)
  | badSpan (text : String) (e : Span.Error)
  /-- A flag was given a value. -/
  | valueForFlag (flag value : String)

def usageLine : String := "Usage: eventexporter [OPTIONS]\n\n"

def UsageError.message (e : UsageError) : String :=
  let hint := "For more information, try '--help'.\n"
  match e with
  | unexpected argument => s!"error: unexpected argument '{argument}' found\n\n{usageLine}{hint}"
  | noValue option =>
    s!"error: a value is required for '{option.shown}' but none was supplied\n\n{hint}"
  | repeated option =>
    s!"error: the argument '{option.shown}' cannot be used multiple times\n\n{usageLine}{hint}"
  | badSpan text e =>
    s!"error: invalid value '{text}' for '{OptionName.discard.shown}': {e.message}\n\n{hint}"
  | valueForFlag flag value =>
    s!"error: unexpected value '{value}' for '{flag}' found; no more were expected\n\n{usageLine}{hint}"

/-- What the arguments ask for. -/
inductive Asked where
  | run (settings : Settings)
  | help
  | version

namespace Arguments

inductive Flag where
  | help | version
  deriving DecidableEq

/-- The arguments up to a flag that ends the reading. -/
structure Given where
  values : List (OptionName × String) := []
  flag : Option Flag := none

def isDashed (argument : String) : Bool :=
  match argument.toList with
  | '-' :: _ :: _ => true
  | _ => false

/-- The word behind two dashes, and the value behind an equals sign. -/
def long? (argument : String) : Option (String × Option String) :=
  match argument.toList with
  | '-' :: '-' :: rest =>
    some (String.ofList (rest.takeWhile (· ≠ '=')),
      if rest.contains '=' then some (String.ofList ((rest.dropWhile (· ≠ '=')).drop 1)) else none)
  | _ => none

def shortFlag? (argument : String) : Option Flag :=
  match argument.toList with
  | '-' :: 'h' :: _ => some .help
  | '-' :: 'V' :: _ => some .version
  | _ => none

def put (g : Given) (option : OptionName) (value : String) : Except UsageError Given :=
  if g.values.any (·.1 = option) then .error (.repeated option)
  else if option.isPath && value.isEmpty then .error (.noValue option)
  else .ok { g with values := g.values ++ [(option, value)] }

def read (g : Given) : List String → Except UsageError Given
  | [] => .ok g
  | argument :: rest =>
    match long? argument with
    | some ("", none) =>
      match rest with
      | [] => .ok g
      | next :: _ => .error (.unexpected next)
    | some ("help", none) => .ok { g with flag := some .help }
    | some ("version", none) => .ok { g with flag := some .version }
    | some ("help", some value) => .error (.valueForFlag "--help" value)
    | some ("version", some value) => .error (.valueForFlag "--version" value)
    | some (word, value) =>
      match OptionName.all.find? (·.word = word), value, rest with
      | none, _, _ => .error (.unexpected ("--" ++ word))
      | some option, some value, rest => do read (← put g option value) rest
      | some option, none, value :: more =>
        if isDashed value then .error (.noValue option)
        else do read (← put g option value) more
      | some option, none, [] => .error (.noValue option)
    | none =>
      match shortFlag? argument with
      | some flag => .ok { g with flag := some flag }
      | none =>
        if isDashed argument then
          .error (.unexpected (String.ofList (argument.toList.take 2)))
        else .error (.unexpected argument)

/-- The value of an option: the one given, or that of its variable, or the usual one. -/
def value? (g : Given) (vars : Variables) (option : OptionName) : Option String :=
  ((g.values.lookup option).or (vars.get? option.fromVariable)).or option.usual

def checkPath (option : OptionName) (value : Option String) : Except UsageError Unit :=
  if option.isPath && value = some "" then .error (.noValue option) else .ok ()

def settings (g : Given) (vars : Variables) : Except UsageError Settings := do
  let value := value? g vars
  OptionName.all.forM fun option => checkPath option (value option)
  let usual : Settings := {}
  let span := (value .discard).getD ""
  return {
    rulesPath := (value .config).getD usual.rulesPath
    discard := ← (Span.parse span).mapError (.badSpan span)
    listenAddress := (value .listenAddress).getD usual.listenAddress
    cluster := {
      kubeconfig := value .kubeconfig
      context := value .context
      namespace_ := value .namespace_ } }

/-- What arguments and variables ask for. -/
def ask (arguments : List String) (vars : Variables) : Except UsageError Asked := do
  let g ← read {} arguments
  match g.flag with
  | some .help => return .help
  | some .version => return .version
  | none => return .run (← settings g vars)

/-! ## Texts -/

def about : String := "Export Kubernetes events as Prometheus counters"

def optionHelp (vars : Variables) (option : OptionName) : String :=
  let usual := option.usual.elim "" fun v => s!" [default: {v}]"
  let current := (vars.get? option.fromVariable).getD ""
  s!"      {option.shown}\n          {option.about} [env: {option.fromVariable}={current}]{usual}\n"

def help (vars : Variables) : String :=
  about ++ "\n\n" ++ usageLine ++ "Options:\n" ++
    String.join (OptionName.all.map (optionHelp vars)) ++
    "  -h, --help\n          Print help\n  -V, --version\n          Print version\n"

def version : String := "eventexporter 0.1.0\n"

end Arguments

/-- The surroundings that variables describe. The home directory is that of `HOME` alone: where this
is unset or empty, the database of users, which may name one too, is not asked. -/
def Environment.ofVariables (vars : Variables) : Environment where
  kubeconfig := vars.get? "KUBECONFIG"
  home := (vars.get? "HOME").filter (· ≠ "")
  serviceHost := vars.get? "KUBERNETES_SERVICE_HOST"
  servicePort := vars.get? "KUBERNETES_SERVICE_PORT"

end EventTally
