import EventTally.Record.Event

/-! Pods, as far as labels can be read from them. -/

namespace EventTally

open Json (text field)

structure PodSpec where
  nodeName : String := ""
  serviceAccountName : String := ""
  hostname : String := ""
  subdomain : String := ""
  schedulerName : String := ""
  priorityClassName : String := ""
  restartPolicy : String := ""
  dnsPolicy : String := ""
  nodeSelector : StringMap String := .empty
  runtimeClassName : Option String := none
  deriving DecidableEq, Inhabited

namespace PodSpec

def names : List String :=
  ["nodeName", "serviceAccountName", "hostname", "subdomain", "schedulerName",
   "priorityClassName", "restartPolicy", "dnsPolicy", "nodeSelector", "runtimeClassName"]

def ofJson? (j : Json) : Option PodSpec := do
  let fs ← j.known? names
  some {
    nodeName := ← text fs "nodeName"
    serviceAccountName := ← text fs "serviceAccountName"
    hostname := ← text fs "hostname"
    subdomain := ← text fs "subdomain"
    schedulerName := ← text fs "schedulerName"
    priorityClassName := ← text fs "priorityClassName"
    restartPolicy := ← text fs "restartPolicy"
    dnsPolicy := ← text fs "dnsPolicy"
    nodeSelector := ← field fs "nodeSelector" .empty Json.stringMap?
    runtimeClassName := ← field fs "runtimeClassName" none (Json.optional Json.str?) }

def toJson (s : PodSpec) : Json :=
  .obj [
    ("nodeName", .str s.nodeName),
    ("serviceAccountName", .str s.serviceAccountName),
    ("hostname", .str s.hostname),
    ("subdomain", .str s.subdomain),
    ("schedulerName", .str s.schedulerName),
    ("priorityClassName", .str s.priorityClassName),
    ("restartPolicy", .str s.restartPolicy),
    ("dnsPolicy", .str s.dnsPolicy),
    ("nodeSelector", Json.ofStringMap s.nodeSelector),
    ("runtimeClassName", s.runtimeClassName.elim .null .str)]

def view (s : PodSpec) : View :=
  .record ([
    ("NodeName", .text s.nodeName),
    ("ServiceAccountName", .text s.serviceAccountName),
    ("Hostname", .text s.hostname),
    ("Subdomain", .text s.subdomain),
    ("SchedulerName", .text s.schedulerName),
    ("PriorityClassName", .text s.priorityClassName),
    ("RestartPolicy", .text s.restartPolicy),
    ("DNSPolicy", .text s.dnsPolicy),
    ("NodeSelector", .ofEntries s.nodeSelector.entries)]
    ++ (s.runtimeClassName.elim [] fun c => [("RuntimeClassName", .text c)]))

end PodSpec

structure PodStatus where
  phase : String := ""
  message : String := ""
  reason : String := ""
  hostIP : String := ""
  podIP : String := ""
  qosClass : String := ""
  nominatedNodeName : String := ""
  startTime : Option Timestamp := none
  deriving DecidableEq, Inhabited

namespace PodStatus

def names : List String :=
  ["phase", "message", "reason", "hostIP", "podIP", "qosClass", "nominatedNodeName", "startTime"]

def ofJson? (j : Json) : Option PodStatus := do
  let fs ← j.known? names
  some {
    phase := ← text fs "phase"
    message := ← text fs "message"
    reason := ← text fs "reason"
    hostIP := ← text fs "hostIP"
    podIP := ← text fs "podIP"
    qosClass := ← text fs "qosClass"
    nominatedNodeName := ← text fs "nominatedNodeName"
    startTime := ← field fs "startTime" none (Json.optional Json.timestamp?) }

def toJson (s : PodStatus) : Json :=
  .obj [
    ("phase", .str s.phase),
    ("message", .str s.message),
    ("reason", .str s.reason),
    ("hostIP", .str s.hostIP),
    ("podIP", .str s.podIP),
    ("qosClass", .str s.qosClass),
    ("nominatedNodeName", .str s.nominatedNodeName),
    ("startTime", Json.ofTimestamp s.startTime)]

def view (s : PodStatus) : View :=
  .record [
    ("Phase", .text s.phase),
    ("Message", .text s.message),
    ("Reason", .text s.reason),
    ("HostIP", .text s.hostIP),
    ("PodIP", .text s.podIP),
    ("QOSClass", .text s.qosClass),
    ("NominatedNodeName", .text s.nominatedNodeName),
    ("StartTime", .other "time")]

end PodStatus

structure Pod where
  typeMeta : TypeMeta := {}
  metadata : ObjectMeta := {}
  spec : PodSpec := {}
  status : PodStatus := {}
  deriving DecidableEq, Inhabited

namespace Pod

def names : List String := ["metadata", "spec", "status"]

/-- Reads a document that is one pod. -/
def ofDocument? (j : Json) : Option Pod := do
  let fs ← j.headed? names (Json.depthLimit - 1)
  some {
    typeMeta := ← TypeMeta.ofFields? fs
    metadata := ← field fs "metadata" {} ObjectMeta.ofJson?
    spec := ← field fs "spec" {} PodSpec.ofJson?
    status := ← field fs "status" {} PodStatus.ofJson? }

def toJson (p : Pod) : Json :=
  .obj (p.typeMeta.toMembers ++ [
    ("metadata", p.metadata.toJson),
    ("spec", p.spec.toJson),
    ("status", p.status.toJson)])

def view (p : Pod) : View :=
  .record ([
    ("TypeMeta", .record p.typeMeta.fields),
    ("ObjectMeta", .record p.metadata.fields),
    ("Spec", p.spec.view),
    ("Status", p.status.view)]
    ++ p.typeMeta.fields ++ p.metadata.fields)

end Pod
end EventTally
