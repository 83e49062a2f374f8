import EventTally.Cluster.Error
import EventTally.Cluster.Kubeconfig
import EventTally.File.Path
import EventTally.Settings
import EventTally.Text.Blank
import EventTally.Url.Reader

/-! Access to a cluster: its server and the credentials to use with it. `Kubeconfig.resolve` takes
them from the entries that a context selects, `ClusterAccess.ofAccount` from the account of the pod
that the program runs in, and `ClusterAccess.load` from the first of the usual places that there
is. -/

namespace EventTally

inductive TokenSource where
  | fixed (token : String)
  /-- The file is read anew for each request. -/
  | file (path : String)
  deriving DecidableEq

structure ClusterAccess where
  server : Url
  /-- Certificates to trust besides those that are trusted anyway. -/
  rootCertificates : List Bytes := []
  /-- A client certificate and then its key. -/
  identity : Option Bytes := none
  acceptInvalidCertificates : Bool := false
  token : Option TokenSource := none
  deriving DecidableEq

/-- Computations that look at files and may fail. -/
abbrev ClusterLookup := ExceptT ClusterError FileLookup

namespace ClusterLookup

def bytes (path : String) : ClusterLookup Bytes :=
  ExceptT.mk do return (← FileLookup.bytes path).mapError (.unreadable path)

def text (path : String) : ClusterLookup String :=
  ExceptT.mk do return (← FileLookup.text path).mapError (.unreadable path)

end ClusterLookup

def TokenSource.token : TokenSource → ClusterLookup String
  | fixed token => return token
  | file path => return Text.trim (← ClusterLookup.text path)

def readServer (server : String) : Except ClusterError Url :=
  (Url.read server).mapError (.invalidServer server)

namespace Kubeconfig

/-- The first entry of a name. -/
def find? {α : Type} (entries : List (String × α)) (name : String) : Option α := entries.lookup name

def given (field : Option String) : Option String := field.filter (· ≠ "")

/-- Data in place win over a file; neither is given by an empty text. -/
def credential (field : String) (data file : Option String) (directory : String) :
    ClusterLookup (Option Bytes) :=
  match given data, given file with
  | some data, _ =>
    liftM ((Base64.decode (Utf8.encode (Text.trim data))).map some |>.mapError
      (ClusterError.badBase64 field))
  | none, some file => return some (← ClusterLookup.bytes (Path.join directory file))
  | none, none => return none

/-- The context that is asked for, or else the current one of the file. -/
def contextName (k : Kubeconfig) (context : Option String) : Except ClusterError String :=
  match context with
  | some name => .ok name
  | none => if k.currentContext = "" then .error .noCurrentContext else .ok k.currentContext

def tokenSource (user : UserEntry) (directory : String) : Option TokenSource :=
  match given user.token, given user.tokenFile with
  | some token, _ => some (.fixed token)
  | none, some file => some (.file (Path.join directory file))
  | none, none => none

def newline : UInt8 := 10

/-- A certificate and its key, of which neither comes alone. -/
def identity (certificate key : Option Bytes) : Except ClusterError (Option Bytes) :=
  match certificate, key with
  | some certificate, some key => .ok (some (certificate ++ newline :: key))
  | some _, none => .error (.incompleteCertificate "client-certificate")
  | none, some _ => .error (.incompleteCertificate "client-key")
  | none, none => .ok none

/-- Adds what the entry of a user gives. -/
def withUser (access : ClusterAccess) (user : UserEntry) (directory : String) :
    ClusterLookup ClusterAccess := do
  let certificate ← credential "client-certificate-data" user.clientCertificateData
    user.clientCertificate directory
  let key ← credential "client-key-data" user.clientKeyData user.clientKey directory
  let identity ← identity certificate key
  return { access with token := tokenSource user directory, identity }

/-- The access that a context gives; files are looked for from a directory. A context without a user
gives one without token and identity. -/
def resolve (k : Kubeconfig) (context : Option String) (directory : String) :
    ClusterLookup ClusterAccess := do
  let name ← k.contextName context
  let some context := find? k.contexts name | throw (.contextNotFound name)
  let some cluster := find? k.clusters context.cluster | throw (.clusterNotFound context.cluster)
  let server ← readServer cluster.server
  let root ← credential "certificate-authority-data" cluster.certificateAuthorityData
    cluster.certificateAuthority directory
  let access : ClusterAccess := {
    server
    rootCertificates := root.toList
    acceptInvalidCertificates := cluster.insecureSkipTlsVerify }
  if context.user = "" then return access
  let some user := find? k.users context.user | throw (.userNotFound context.user)
  withUser access user directory

end Kubeconfig

/-- What the program is told about its surroundings. -/
structure Environment where
  /-- A list of paths. -/
  kubeconfig : Option String := none
  home : Option String := none
  serviceHost : Option String := none
  servicePort : Option String := none
  deriving DecidableEq

namespace ClusterAccess

def ofKubeconfig (path : String) (context : Option String) : ClusterLookup ClusterAccess := do
  let text ← ClusterLookup.text path
  let some k := (Yaml.read? text).bind Kubeconfig.read? | throw (.malformedKubeconfig path)
  k.resolve context ((Path.parent? path).getD ".")

/-- Where the account of a pod is mounted. -/
def accountDirectory : String := "/var/run/secrets/kubernetes.io/serviceaccount"

def serviceAddress (host port : String) : String :=
  let host := if host.toList.contains ':' then s!"[{host}]" else host
  s!"https://{host}:{port}"

/-- The access of an account, if the address of the cluster's own service is known. -/
def ofAccount (host port : Option String) (directory : String) : ClusterLookup ClusterAccess := do
  match host, port with
  | some host, some port =>
    let server ← readServer (serviceAddress host port)
    let root ← ClusterLookup.bytes (Path.join directory "ca.crt")
    return { server, rootCertificates := [root], token := some (.file (Path.join directory "token")) }
  | _, _ => throw .noConfiguration

/-- Where access is to be taken from. -/
inductive Source where
  | kubeconfig (path : String)
  | account
  deriving DecidableEq

/-- The first place that there is: the files asked for, which then must exist, those that the
environment lists, the file in the home directory, and the account. -/
def source (choice : ClusterChoice) (env : Environment) : ClusterLookup Source := do
  match choice.kubeconfig with
  | some paths =>
    match ← FileLookup.firstFile (Path.ofList paths) with
    | some path => return .kubeconfig path
    | none => throw (.unreadable paths .noneOfList)
  | none =>
    let listed := (env.kubeconfig.filter (· ≠ "")).elim [] Path.ofList
    let home := env.home.map fun home => Path.join (Path.join home ".kube") "config"
    match ← FileLookup.firstFile (listed ++ home.toList) with
    | some path => return .kubeconfig path
    | none => return .account

def load (choice : ClusterChoice) (env : Environment) : ClusterLookup ClusterAccess := do
  match ← source choice env with
  | .kubeconfig path => ofKubeconfig path choice.context
  | .account => ofAccount env.serviceHost env.servicePort accountDirectory

end ClusterAccess
end EventTally
