import EventTally.Yaml.Value

/-! Files that list clusters, users, and contexts that join one of each. Members with other names
than those given here are passed over. -/

namespace EventTally

structure ClusterEntry where
  server : String := ""
  certificateAuthority : Option String := none
  certificateAuthorityData : Option String := none
  insecureSkipTlsVerify : Bool := false
  deriving DecidableEq, Inhabited

structure UserEntry where
  token : Option String := none
  tokenFile : Option String := none
  clientCertificate : Option String := none
  clientCertificateData : Option String := none
  clientKey : Option String := none
  clientKeyData : Option String := none
  deriving DecidableEq, Inhabited

structure ContextEntry where
  cluster : String := ""
  user : String := ""
  deriving DecidableEq, Inhabited

structure Kubeconfig where
  clusters : List (String × ClusterEntry) := []
  users : List (String × UserEntry) := []
  contexts : List (String × ContextEntry) := []
  currentContext : String := ""
  deriving DecidableEq

open Document Yaml

def ClusterEntry.read? (v : Value) : Option ClusterEntry := do
  let ms ← v.known? ["server", "certificate-authority", "certificate-authority-data",
    "insecure-skip-tls-verify"]
  return {
    server := ← member? ms "server" "" text?
    certificateAuthority := ← member? ms "certificate-authority" none textOrNull?
    certificateAuthorityData := ← member? ms "certificate-authority-data" none textOrNull?
    insecureSkipTlsVerify := ← member? ms "insecure-skip-tls-verify" false Value.bool? }

def UserEntry.read? (v : Value) : Option UserEntry := do
  let ms ← v.known? ["token", "tokenFile", "client-certificate", "client-certificate-data",
    "client-key", "client-key-data"]
  return {
    token := ← member? ms "token" none textOrNull?
    tokenFile := ← member? ms "tokenFile" none textOrNull?
    clientCertificate := ← member? ms "client-certificate" none textOrNull?
    clientCertificateData := ← member? ms "client-certificate-data" none textOrNull?
    clientKey := ← member? ms "client-key" none textOrNull?
    clientKeyData := ← member? ms "client-key-data" none textOrNull? }

def ContextEntry.read? (v : Value) : Option ContextEntry := do
  let ms ← v.known? ["cluster", "user"]
  return {
    cluster := ← member? ms "cluster" "" text?
    user := ← member? ms "user" "" text? }

namespace Kubeconfig

/-- An entry with its name. If the entry may be left out, `absent` stands for it. -/
def named? {α : Type} (kind : String) (absent : Option α) (read : Value → Option α) (v : Value) :
    Option (String × α) := do
  let ms ← v.known? ["name", kind]
  let entry ← match ms.lookup kind with
    | some v => read v
    | none => absent
  return (← required? ms "name" text?, entry)

def read? (v : Value) : Option Kubeconfig := do
  let ms ← v.known? ["clusters", "users", "contexts", "current-context"]
  return {
    clusters := ← member? ms "clusters" [] (list? (named? "cluster" none ClusterEntry.read?))
    users := ← member? ms "users" [] (list? (named? "user" (some {}) UserEntry.read?))
    contexts := ← member? ms "contexts" [] (list? (named? "context" none ContextEntry.read?))
    currentContext := ← member? ms "current-context" "" text? }

end Kubeconfig
end EventTally
