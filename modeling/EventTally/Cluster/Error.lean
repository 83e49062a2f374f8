import EventTally.Base64
import EventTally.Url.Basic

/-! What can go wrong when credentials for a cluster are loaded or its server is asked for
something. -/

namespace EventTally

inductive ClusterError where
  | unreadable (path : String) (fault : File.Fault)
  | malformedKubeconfig (path : String)
  | noConfiguration
  | noCurrentContext
  | contextNotFound (name : String)
  | clusterNotFound (name : String)
  | userNotFound (name : String)
  | invalidServer (server : String) (e : UrlError)
  | badBase64 (field : String) (fault : Base64.Fault)
  /-- Only one of certificate and key is given, and this is the one. -/
  | incompleteCertificate (given : String)
  /-- There was no answer, or it broke off, or no request could be made. -/
  | noAnswer
  /-- The server answered with a status that is no success. -/
  | refused (status : Nat) (message : String)
  | undecodable
  deriving DecidableEq

namespace ClusterError

def message : ClusterError → String
  | unreadable path fault => s!"failed to read {path}: {fault.message}"
  | malformedKubeconfig path => s!"invalid kubeconfig {path}"
  | noConfiguration => "no kubeconfig found and not running inside a cluster"
  | noCurrentContext => "kubeconfig has no current-context and none was given"
  | contextNotFound name => s!"context '{name}' not found in kubeconfig"
  | clusterNotFound name => s!"cluster '{name}' not found in kubeconfig"
  | userNotFound name => s!"user '{name}' not found in kubeconfig"
  | invalidServer server e => s!"invalid API server URL '{server}': {e.message}"
  | badBase64 field fault => s!"invalid base64 in {field}: {fault.message}"
  | incompleteCertificate given =>
    s!"kubeconfig sets {given} without its certificate/key counterpart"
  | noAnswer => "HTTP error"
  | refused status message => s!"API request failed with status {status}: {message}"
  | undecodable => "failed to decode API response"

/-- What lies behind the error, from the outermost cause to the innermost. -/
def causes : ClusterError → List String
  | unreadable _ fault => [fault.message]
  | invalidServer _ e => [e.message]
  | badBase64 _ fault => [fault.message]
  | _ => []

/-- Bad credentials and missing rights do not get better by trying again. -/
def isFatal : ClusterError → Bool
  | refused status _ => status = 401 || status = 403
  | _ => false

def isNotFound : ClusterError → Bool
  | refused status _ => status = 404
  | _ => false

end ClusterError
end EventTally
