import EventTally.Cluster.Access
import EventTally.Proofs.Answering

/-! What credentials are taken from. Of a kubeconfig only the context that is selected counts, with the
cluster and the user that it joins; of the files only those that these two name and do not give in place.
So kubeconfigs and files that agree on them give the same access, or fail alike. -/

namespace EventTally

/-! ## Looking at files -/

namespace ClusterLookup

variable {α β : Type}

/-- What a lookup gives with these files. -/
def outcome (x : ClusterLookup α) (files : Files) : Except ClusterError α := x.run.run files

theorem outcome_bind (x : ClusterLookup α) (f : α → ClusterLookup β) (files : Files) :
    (x >>= f).outcome files = x.outcome files >>= fun a => (f a).outcome files := by
  change (x.run >>= ExceptT.bindCont f).run files = _
  rw [Dialogue.run_bind, outcome]
  cases x.run.run files <;> rfl

variable {p : String → Prop}

theorem only_bind {x : ClusterLookup α} {f : α → ClusterLookup β} (hx : x.run.Only p)
    (hf : ∀ a, (f a).run.Only p) : (x >>= f).run.Only p := by
  refine Dialogue.Only.bind hx fun found => ?_
  cases found with
  | error e => trivial
  | ok a => exact hf a

theorem lift_ok_bind (a : α) (f : α → ClusterLookup β) :
    (liftM (Except.ok a : Except ClusterError α) : ClusterLookup α) >>= f = f a := rfl

theorem only_bytes {path : String} (h : p path) : (bytes path).run.Only p :=
  .bind (.bind ⟨h, fun _ => trivial⟩ fun _ => trivial) fun _ => trivial

end ClusterLookup

namespace Kubeconfig

open ClusterLookup

/-! ## What is selected -/

section

variable (k : Kubeconfig) (context : Option String) (directory : String)

/-- The first context of the name that is asked for, or else of the name of the current one. -/
def context? : Option ContextEntry := (k.contextName context).toOption.bind (find? k.contexts)

def cluster? : Option ClusterEntry := (k.context? context).bind fun c => find? k.clusters c.cluster

/-- A context without a user selects none, whatever users there are. -/
def user? : Option UserEntry :=
  (k.context? context).bind fun c => if c.user = "" then none else find? k.users c.user

/-- The file of a credential that is not given in place. -/
def file? (data file : Option String) : Option String :=
  match given data with
  | some _ => none
  | none => (given file).map (Path.join directory)

/-- The files of the cluster and of the user that are selected. -/
def selectedFiles : List String :=
  ((k.cluster? context).bind fun c =>
      file? directory c.certificateAuthorityData c.certificateAuthority).toList ++
    ((k.user? context).bind fun u =>
      file? directory u.clientCertificateData u.clientCertificate).toList ++
    ((k.user? context).bind fun u => file? directory u.clientKeyData u.clientKey).toList

end

/-- What the entry of a cluster gives. -/
def ofCluster (cluster : ClusterEntry) (directory : String) : ClusterLookup ClusterAccess := do
  let server ← readServer cluster.server
  let root ← credential "certificate-authority-data" cluster.certificateAuthorityData
    cluster.certificateAuthority directory
  return {
    server
    rootCertificates := root.toList
    acceptInvalidCertificates := cluster.insecureSkipTlsVerify }

variable {k k' : Kubeconfig} {context : Option String} {directory : String}

theorem context?_of_name {name : String} (h : k.contextName context = .ok name) :
    k.context? context = find? k.contexts name := by
  rw [context?, h]
  rfl

theorem cluster?_of_context {c : ContextEntry} (h : k.context? context = some c) :
    k.cluster? context = find? k.clusters c.cluster := by
  rw [cluster?, h]
  rfl

theorem user?_of_context {c : ContextEntry} (h : k.context? context = some c) (hu : c.user ≠ "") :
    k.user? context = find? k.users c.user := by
  rw [user?, h, Option.bind_some, if_neg hu]

/-- The access is looked up from what is selected, and from nothing else. -/
theorem resolve_eq (k : Kubeconfig) (context : Option String) (directory : String) :
    k.resolve context directory =
      match k.contextName context with
      | .error e => throw e
      | .ok name =>
        match k.context? context with
        | none => throw (.contextNotFound name)
        | some c =>
          match k.cluster? context with
          | none => throw (.clusterNotFound c.cluster)
          | some cluster => (do
            let access ← ofCluster cluster directory
            if c.user = "" then return access
            match k.user? context with
            | none => throw (.userNotFound c.user)
            | some user => withUser access user directory) := by
  unfold resolve
  cases hn : k.contextName context with
  | error e => rfl
  | ok name =>
    rw [lift_ok_bind]
    have hcontext := context?_of_name hn
    cases hc : k.context? context with
    | none =>
      rw [hc] at hcontext
      rw [← hcontext]
    | some c =>
      rw [hc] at hcontext
      rw [← hcontext]
      have hcluster := cluster?_of_context hc
      cases hk : k.cluster? context with
      | none =>
        rw [hk] at hcluster
        dsimp only
        rw [← hcluster]
      | some cluster =>
        rw [hk] at hcluster
        dsimp only
        rw [← hcluster]
        simp only [ofCluster, bind_assoc, pure_bind]
        by_cases hu : c.user = ""
        · simp only [if_pos hu]
        · simp only [if_neg hu, user?_of_context hc hu]
          cases find? k.users c.user <;> rfl

/-! ## What is looked at -/

theorem only_credential (field : String) (data file : Option String) :
    (credential field data file directory).run.Only fun path => path ∈ file? directory data file := by
  unfold credential file?
  cases given data with
  | some data => trivial
  | none =>
    cases given file with
    | none => trivial
    | some file => exact only_bind (only_bytes rfl) fun _ => trivial

theorem only_ofCluster (cluster : ClusterEntry) :
    (ofCluster cluster directory).run.Only fun path =>
      path ∈ file? directory cluster.certificateAuthorityData cluster.certificateAuthority := by
  unfold ofCluster
  refine only_bind ?_ fun server => only_bind (only_credential _ _ _) fun root => trivial
  cases readServer cluster.server <;> trivial

theorem only_withUser (access : ClusterAccess) (user : UserEntry) :
    (withUser access user directory).run.Only fun path =>
      path ∈ file? directory user.clientCertificateData user.clientCertificate ∨
        path ∈ file? directory user.clientKeyData user.clientKey := by
  unfold withUser
  refine only_bind ((only_credential _ _ _).imp fun _ => .inl) fun certificate => ?_
  refine only_bind ((only_credential _ _ _).imp fun _ => .inr) fun key => ?_
  refine only_bind ?_ fun identity => trivial
  cases identity certificate key <;> trivial

/-- No file is looked at but those that the selected entries name and do not give in place. -/
theorem only_resolve (k : Kubeconfig) (context : Option String) (directory : String) :
    (k.resolve context directory).run.Only (· ∈ k.selectedFiles context directory) := by
  rw [resolve_eq]
  cases k.contextName context with
  | error e => trivial
  | ok name =>
    cases k.context? context with
    | none => trivial
    | some c =>
      cases hk : k.cluster? context with
      | none => trivial
      | some cluster =>
        refine only_bind ((only_ofCluster cluster).imp fun path h => ?_) fun access => ?_
        · simp [selectedFiles, hk, Option.mem_def.1 h]
        · by_cases hu : c.user = ""
          · rw [if_pos hu]
            trivial
          · rw [if_neg hu]
            cases hs : k.user? context with
            | none => trivial
            | some user =>
              refine (only_withUser access user).imp fun path h => ?_
              rcases h with h | h <;> simp [selectedFiles, hs, Option.mem_def.1 h]

/-! ## What is given -/

/-- Both select the same entries under the same name. -/
structure SelectsAlike (k k' : Kubeconfig) (context : Option String) : Prop where
  sameName : k.contextName context = k'.contextName context
  sameContext : k.context? context = k'.context? context
  sameCluster : k.cluster? context = k'.cluster? context
  sameUser : k.user? context = k'.user? context

theorem SelectsAlike.resolve_eq (h : k.SelectsAlike k' context) (directory : String) :
    k.resolve context directory = k'.resolve context directory := by
  rw [Kubeconfig.resolve_eq, Kubeconfig.resolve_eq, h.sameName, h.sameContext, h.sameCluster, h.sameUser]

theorem anonymous_of_ofCluster {files : Files} {cluster : ClusterEntry} {access : ClusterAccess}
    (h : (ofCluster cluster directory).outcome files = .ok access) :
    access.token = none ∧ access.identity = none := by
  simp only [ofCluster, outcome_bind, bind_eq_ok] at h
  obtain ⟨server, -, root, -, haccess⟩ := h
  cases haccess
  exact ⟨rfl, rfl⟩

/-- A context without a user gives neither a token nor an identity. -/
theorem anonymous_of_resolve {files : Files} {c : ContextEntry} (hc : k.context? context = some c)
    (hu : c.user = "") {access : ClusterAccess}
    (h : (k.resolve context directory).outcome files = .ok access) :
    access.token = none ∧ access.identity = none := by
  rw [resolve_eq] at h
  cases hn : k.contextName context with
  | error e =>
    rw [hn] at h
    cases h
  | ok name =>
    simp only [hn, hc, if_pos hu] at h
    cases hk : k.cluster? context with
    | none =>
      simp only [hk] at h
      cases h
    | some cluster =>
      simp only [hk, outcome_bind, bind_eq_ok] at h
      obtain ⟨access', haccess, hsame⟩ := h
      cases hsame
      exact anonymous_of_ofCluster haccess

/-- The access is a matter of the entries that are selected and of the files that they name and do not
give in place: with these the same, it is the same, or the lookup fails alike. Users count only for a
context that has one. -/
theorem resolve_selected {files files' : Files} (h : k.SelectsAlike k' context)
    (hf : ∀ path ∈ k.selectedFiles context directory, files path = files' path) :
    (k.resolve context directory).outcome files = (k'.resolve context directory).outcome files' ∧
      ∀ c access, k.context? context = some c → c.user = "" →
        (k.resolve context directory).outcome files = .ok access →
          access.token = none ∧ access.identity = none := by
  refine ⟨?_, fun c access hc hu ha => anonymous_of_resolve hc hu ha⟩
  rw [← h.resolve_eq]
  exact (only_resolve k context directory).run_congr hf

/-- The certificate is given in place, so that its file does not count. -/
def admin : UserEntry where
  tokenFile := some "token"
  clientCertificate := some "old.pem"
  clientCertificateData := some "Q0VSVA=="
  clientKey := some "key.pem"

def mainCluster : ClusterEntry where
  server := "https://[::1]:6443"
  certificateAuthority := some "ca.pem"

def mainConfig : Kubeconfig where
  clusters := [("main", mainCluster)]
  users := [("admin", admin)]
  contexts := [("main", ⟨"main", "admin"⟩)]
  currentContext := "main"

/-- Has other entries too, before and behind those that are selected, and some under their names. -/
def crowdedConfig : Kubeconfig where
  clusters := [("test", { server := "http://[::2]" }), ("main", mainCluster), ("main", {})]
  users := [("guest", { token := some "guest" }), ("admin", admin), ("admin", { token := some "old" })]
  contexts := [("test", ⟨"test", "guest"⟩), ("main", ⟨"main", "admin"⟩), ("main", ⟨"test", "guest"⟩)]
  currentContext := "main"

/-- Files in which all that is not named holds the same text. -/
def mainFiles (others : String) : Files := fun path =>
  if path = "/k/ca.pem" then .file (.ok (Utf8.encode "CA"))
  else if path = "/k/key.pem" then .file (.ok (Utf8.encode "KEY"))
  else .file (.ok (Utf8.encode others))

theorem crowdedConfig_selected :
    (mainConfig.SelectsAlike crowdedConfig none ∧
      ∀ path ∈ mainConfig.selectedFiles none "/k", mainFiles "a" path = mainFiles "b" path) ∧
    (mainConfig.resolve none "/k").outcome (mainFiles "a") =
      (crowdedConfig.resolve none "/k").outcome (mainFiles "b") ∧
    ((crowdedConfig.resolve none "/k").outcome (mainFiles "b")).map (fun a => (a.token, a.identity)) =
      .ok (some (.file "/k/token"), some (Utf8.encode "CERT\nKEY")) := by
  have halike : mainConfig.SelectsAlike crowdedConfig none := ⟨rfl, rfl, rfl, rfl⟩
  have hfiles : ∀ path ∈ mainConfig.selectedFiles none "/k",
      mainFiles "a" path = mainFiles "b" path := by
    have hnamed : mainConfig.selectedFiles none "/k" = ["/k/ca.pem", "/k/key.pem"] := by decide +kernel
    rw [hnamed]
    simp [mainFiles]
  exact ⟨⟨halike, hfiles⟩, (resolve_selected halike hfiles).1, by decide +kernel⟩

end Kubeconfig
end EventTally
