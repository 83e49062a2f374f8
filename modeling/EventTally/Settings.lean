import EventTally.Time.Span

/-! What the program is told at start: where the rules are, how old an event may be, where to serve
the metrics, and which cluster to watch. -/

namespace EventTally

/-- Which credentials to use, and which events to watch. What is left out is looked for in the usual
places. -/
structure ClusterChoice where
  kubeconfig : Option String := none
  context : Option String := none
  namespace_ : Option String := none
  deriving DecidableEq, Inhabited

structure Settings where
  rulesPath : String := "/etc/eventexporter/config.yaml"
  discard : Span := .usual
  listenAddress : String := "0.0.0.0:9102"
  cluster : ClusterChoice := {}
  deriving DecidableEq

namespace Settings

/-- The lines that are logged at start. -/
def summary (s : Settings) : List String :=
  ["Config loaded:",
   s!"  rules:       {s.rulesPath}",
   if s.discard.isZero then "  discard:     disabled"
   else s!"  discard:     older than {s.discard.write}",
   s!"  listen:      {s.listenAddress}",
   s!"  kubeconfig:  " ++ s.cluster.kubeconfig.getD "(default loading rules)",
   s!"  context:     " ++ s.cluster.context.getD "(current)",
   s!"  namespace:   " ++ s.cluster.namespace_.getD "(all)"]

end Settings
end EventTally
