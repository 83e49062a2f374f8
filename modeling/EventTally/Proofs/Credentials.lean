import EventTally.Proofs.Selection
import EventTally.Proofs.Sextets
import EventTally.Proofs.Violations

/-! Credentials are complete, or they are refused. `faults` lists what is wrong with what a context selects, in
the order in which it counts, and `Grants` says what access there is if nothing is wrong: a certificate comes
with its key, and nothing that is given is left out because it cannot be used. -/

namespace EventTally

open ClusterLookup (outcome_bind)
open Kubeconfig (given credential)

/-! ## Certificates and keys -/

/-- A certificate or a key as an entry gives it: in place or in a file. -/
structure Credential where
  /-- The member for what is given in place. -/
  field : String
  data : Option String
  file : Option String

namespace Credential

variable (c : Credential) (directory : String) (files : Files)

/-- Empty texts give nothing. -/
def isGiven : Bool := (given c.data).isSome || (given c.file).isSome

/-- Why it cannot be used. There is no file in place of data that is no Base64. -/
def fault? : Option ClusterError :=
  match given c.data, given c.file with
  | some text, _ =>
    match Base64.decode (Utf8.encode (Text.trim text)) with
    | .error fault => some (.badBase64 c.field fault)
    | .ok _ => none
  | none, some path =>
    match (files (Path.join directory path)).content with
    | .error fault => some (.unreadable (Path.join directory path) fault)
    | .ok _ => none
  | none, none => none

/-- The bytes that it stands for. -/
inductive Holds : Bytes → Prop
  | inPlace {text : String} {bytes : Bytes} (data : given c.data = some text)
      (encoded : Utf8.encode (Text.trim text) = Base64.encode bytes) : Holds bytes
  | inFile {path : String} {bytes : Bytes} (data : given c.data = none) (file : given c.file = some path)
      (content : (files (Path.join directory path)).content = .ok bytes) : Holds bytes

variable {c directory files}

theorem Holds.unique {bytes bytes' : Bytes} (h : c.Holds directory files bytes)
    (h' : c.Holds directory files bytes') : bytes = bytes' := by
  cases h with
  | inPlace data encoded =>
    cases h' with
    | inPlace data' encoded' =>
      rw [data, Option.some_inj] at data'
      subst data'
      have hdecode := (Base64.decode_eq_ok.2 encoded).symm.trans (Base64.decode_eq_ok.2 encoded')
      exact Except.ok.inj hdecode
    | inFile data' => exact absurd (data.symm.trans data') (Option.some_ne_none _)
  | inFile data file content =>
    cases h' with
    | inPlace data' => exact absurd (data'.symm.trans data) (Option.some_ne_none _)
    | inFile data' file' content' =>
      rw [file, Option.some_inj] at file'
      subst file'
      rw [content] at content'
      exact Except.ok.inj content'

/-- What is given is used, or it is reported. -/
theorem outcome_cases (c : Credential) (directory : String) (files : Files) :
    (∃ e, (credential c.field c.data c.file directory).outcome files = .error e ∧
      c.fault? directory files = some e) ∨
    c.fault? directory files = none ∧ ∃ found,
      (credential c.field c.data c.file directory).outcome files = .ok found ∧
      found.isSome = c.isGiven ∧ ∀ bytes ∈ found, c.Holds directory files bytes := by
  unfold credential fault? isGiven
  cases hdata : given c.data with
  | some text =>
    cases hbytes : Base64.decode (Utf8.encode (Text.trim text)) with
    | error fault => exact .inl ⟨_, by dsimp only; rw [hbytes]; rfl, by dsimp only; rw [hbytes]⟩
    | ok bytes =>
      refine .inr ⟨by dsimp only; rw [hbytes], some bytes, by dsimp only; rw [hbytes]; rfl, rfl, ?_⟩
      simpa using Holds.inPlace hdata (Base64.decode_eq_ok.1 hbytes)
  | none =>
    cases hfile : given c.file with
    | none => exact .inr ⟨rfl, none, rfl, rfl, nofun⟩
    | some path =>
      have hread : (do return some (← ClusterLookup.bytes (Path.join directory path)) :
          ClusterLookup (Option Bytes)).outcome files =
          (files (Path.join directory path)).content.mapError (ClusterError.unreadable (Path.join directory path))
            >>= fun bytes => .ok (some bytes) := outcome_bind _ _ _
      cases hcontent : (files (Path.join directory path)).content with
      | error fault =>
        rw [hcontent] at hread
        exact .inl ⟨_, hread, by dsimp only; rw [hcontent]⟩
      | ok bytes =>
        rw [hcontent] at hread
        refine .inr ⟨by dsimp only; rw [hcontent], some bytes, hread, rfl, ?_⟩
        simpa using Holds.inFile hdata hfile hcontent

theorem reports (c : Credential) (directory : String) (files : Files) :
    Reports ((credential c.field c.data c.file directory).outcome files) (c.fault? directory files).toList := by
  obtain ⟨e, herror, hfault⟩ | ⟨hfault, found, hok, -⟩ := c.outcome_cases directory files
  · rw [herror, hfault]
    exact .fail e
  · rw [hok, hfault]
    exact .pure found

theorem of_ok {found : Option Bytes}
    (h : (credential c.field c.data c.file directory).outcome files = .ok found) :
    found.isSome = c.isGiven ∧ ∀ bytes ∈ found, c.Holds directory files bytes := by
  obtain ⟨e, herror, -⟩ | ⟨-, found', hok, hgiven⟩ := c.outcome_cases directory files
  · rw [herror] at h
    cases h
  · rw [hok] at h
    cases h
    exact hgiven

end Credential

def ClusterEntry.root (cluster : ClusterEntry) : Credential :=
  ⟨"certificate-authority-data", cluster.certificateAuthorityData, cluster.certificateAuthority⟩

def UserEntry.certificate (user : UserEntry) : Credential :=
  ⟨"client-certificate-data", user.clientCertificateData, user.clientCertificate⟩

def UserEntry.key (user : UserEntry) : Credential := ⟨"client-key-data", user.clientKeyData, user.clientKey⟩

/-! ## What is wrong -/

/-- An address that cannot be read. -/
def ClusterEntry.serverFault? (cluster : ClusterEntry) : Option ClusterError :=
  match Url.read cluster.server with
  | .error e => some (.invalidServer cluster.server e)
  | .ok _ => none

/-- A certificate without a key, or a key without a certificate. -/
def UserEntry.pairFault? (user : UserEntry) : Option ClusterError :=
  if user.certificate.isGiven && !user.key.isGiven then some (.incompleteCertificate "client-certificate")
  else if user.key.isGiven && !user.certificate.isGiven then some (.incompleteCertificate "client-key")
  else none

namespace Kubeconfig

/-- All that is wrong with what a context selects, in the order in which it counts. -/
def faults (k : Kubeconfig) (context : Option String) (directory : String) (files : Files) : List ClusterError :=
  [if context = none ∧ k.currentContext = "" then some .noCurrentContext else none,
    if k.context? context = none then some (.contextNotFound (context.getD k.currentContext)) else none,
    (k.context? context).bind fun c =>
      if k.cluster? context = none then some (.clusterNotFound c.cluster) else none,
    (k.cluster? context).bind ClusterEntry.serverFault?,
    (k.cluster? context).bind (·.root.fault? directory files),
    (k.context? context).bind fun c =>
      if c.user ≠ "" ∧ k.user? context = none then some (.userNotFound c.user) else none,
    (k.user? context).bind (·.certificate.fault? directory files),
    (k.user? context).bind (·.key.fault? directory files),
    (k.user? context).bind UserEntry.pairFault?].reduceOption

/-! ## What is given -/

/-- The access that a cluster and a user give, or a cluster by itself. -/
structure Grants (cluster : ClusterEntry) (user : Option UserEntry) (directory : String) (files : Files)
    (access : ClusterAccess) : Prop where
  server : Url.read cluster.server = .ok access.server
  unchecked : access.acceptInvalidCertificates = cluster.insecureSkipTlsVerify
  rootCount : access.rootCertificates.length = if cluster.root.isGiven then 1 else 0
  roots : ∀ root ∈ access.rootCertificates, cluster.root.Holds directory files root
  token : access.token = user.bind fun u =>
    (given u.token).map .fixed <|> (given u.tokenFile).map fun file => .file (Path.join directory file)
  identified : access.identity.isSome = user.any fun u => u.certificate.isGiven && u.key.isGiven
  identity : ∀ pem ∈ access.identity, ∃ u ∈ user, ∃ certificate key,
    u.certificate.Holds directory files certificate ∧ u.key.Holds directory files key ∧
      pem = certificate ++ newline :: key

/-! ## What is reported -/

variable {k : Kubeconfig} {context : Option String} {directory : String} {files : Files}

theorem outcome_readServer (server : String) :
    (liftM (readServer server) : ClusterLookup Url).outcome files = readServer server := rfl

theorem reports_readServer (cluster : ClusterEntry) :
    Reports (readServer cluster.server) cluster.serverFault?.toList := by
  unfold readServer ClusterEntry.serverFault?
  cases Url.read cluster.server with
  | error e => exact .fail _
  | ok server => exact .pure _

theorem reports_ofCluster (cluster : ClusterEntry) : Reports ((ofCluster cluster directory).outcome files)
    (cluster.serverFault?.toList ++ (cluster.root.fault? directory files).toList) := by
  rw [ofCluster, outcome_bind, outcome_readServer]
  refine (reports_readServer cluster).bind fun server _ => ?_
  rw [outcome_bind, ← List.append_nil (Option.toList _)]
  exact (cluster.root.reports directory files).bind fun root _ => .pure _

theorem reports_identity (user : UserEntry) {certificate key : Option Bytes}
    (hc : certificate.isSome = user.certificate.isGiven) (hk : key.isSome = user.key.isGiven) :
    Reports (identity certificate key) user.pairFault?.toList := by
  unfold identity UserEntry.pairFault?
  rw [← hc, ← hk]
  cases certificate <;> cases key
  · exact .pure _
  · exact .fail _
  · exact .fail _
  · exact .pure _

theorem reports_withUser (access : ClusterAccess) (user : UserEntry) :
    Reports ((withUser access user directory).outcome files)
      ((user.certificate.fault? directory files).toList ++
        ((user.key.fault? directory files).toList ++ user.pairFault?.toList)) := by
  rw [withUser, outcome_bind]
  refine (user.certificate.reports directory files).bind fun certificate hc => ?_
  rw [outcome_bind]
  refine (user.key.reports directory files).bind fun key hk => ?_
  rw [outcome_bind, ← List.append_nil (Option.toList _)]
  exact (reports_identity user (Credential.of_ok hc).1 (Credential.of_ok hk).1).bind fun pem _ => .pure _

theorem contextName_error {e : ClusterError} (h : k.contextName context = .error e) :
    e = .noCurrentContext ∧ context = none ∧ k.currentContext = "" := by
  unfold contextName at h
  cases context with
  | some name => cases h
  | none =>
    by_cases hempty : k.currentContext = ""
    · rw [if_pos hempty] at h
      cases h
      exact ⟨rfl, rfl, hempty⟩
    · rw [if_neg hempty] at h
      cases h

theorem contextName_ok {name : String} (h : k.contextName context = .ok name) :
    name = context.getD k.currentContext ∧ ¬ (context = none ∧ k.currentContext = "") := by
  unfold contextName at h
  cases context with
  | some name =>
    cases h
    simp
  | none =>
    by_cases hempty : k.currentContext = ""
    · rw [if_pos hempty] at h
      cases h
    · rw [if_neg hempty] at h
      cases h
      simp [hempty]

theorem user?_of_anonymous {c : ContextEntry} (hc : k.context? context = some c) (hu : c.user = "") :
    k.user? context = none := by
  rw [user?, hc, Option.bind_some, if_pos hu]

theorem reduceOption_cons {α : Type} (o : Option α) (l : List (Option α)) :
    (o :: l).reduceOption = o.toList ++ l.reduceOption := by
  cases o <;> rfl

theorem reports_resolve (k : Kubeconfig) (context : Option String) (directory : String) (files : Files) :
    Reports ((k.resolve context directory).outcome files) (k.faults context directory files) := by
  rw [resolve_eq, faults]
  -- where a lookup fails the rest of the list is not reached; else the next entry is the next thing that is read
  cases hn : k.contextName context with
  | error e =>
    obtain ⟨rfl, hnone, hempty⟩ := contextName_error hn
    rw [if_pos ⟨hnone, hempty⟩, List.reduceOption_cons_of_some]
    exact .fail_cons _ _
  | ok name =>
    obtain ⟨rfl, hnamed⟩ := contextName_ok hn
    rw [if_neg hnamed, List.reduceOption_cons_of_none]
    cases hc : k.context? context with
    | none =>
      rw [if_pos rfl, List.reduceOption_cons_of_some]
      exact .fail_cons _ _
    | some c =>
      rw [if_neg (Option.some_ne_none c), List.reduceOption_cons_of_none, Option.bind_some]
      cases hk : k.cluster? context with
      | none =>
        rw [if_pos rfl, List.reduceOption_cons_of_some]
        exact .fail_cons _ _
      | some cluster =>
        rw [if_neg (Option.some_ne_none cluster), List.reduceOption_cons_of_none, Option.bind_some, Option.bind_some,
          Option.bind_some, reduceOption_cons, reduceOption_cons, ← List.append_assoc]
        dsimp only
        rw [outcome_bind]
        refine (reports_ofCluster cluster).bind fun access _ => ?_
        by_cases hu : c.user = ""
        · rw [if_pos hu, user?_of_anonymous hc hu, if_neg fun h => h.1 hu]
          exact .pure access
        · rw [if_neg hu]
          cases hs : k.user? context with
          | none =>
            rw [if_pos ⟨hu, rfl⟩, List.reduceOption_cons_of_some]
            exact .fail_cons _ _
          | some user =>
            rw [if_neg fun h => Option.some_ne_none user h.2, List.reduceOption_cons_of_none, Option.bind_some,
              Option.bind_some, Option.bind_some, reduceOption_cons, reduceOption_cons, reduceOption_cons,
              List.reduceOption_nil, List.append_nil]
            exact reports_withUser access user

/-! ## What there is -/

theorem read_of_readServer {text : String} {server : Url} (h : readServer text = .ok server) :
    Url.read text = .ok server := by
  unfold readServer at h
  cases hread : Url.read text with
  | error e =>
    rw [hread] at h
    cases h
  | ok server' =>
    rw [hread] at h
    cases h
    rfl

theorem grants_ofCluster {cluster : ClusterEntry} {access : ClusterAccess}
    (h : (ofCluster cluster directory).outcome files = .ok access) : Grants cluster none directory files access := by
  rw [ofCluster, outcome_bind, outcome_readServer, bind_eq_ok] at h
  obtain ⟨server, hserver, h⟩ := h
  rw [outcome_bind, bind_eq_ok] at h
  obtain ⟨root, hroot, h⟩ := h
  cases h
  obtain ⟨hgiven, hholds⟩ := Credential.of_ok (c := cluster.root) hroot
  exact {
    server := read_of_readServer hserver
    unchecked := rfl
    rootCount := by rw [← hgiven]; cases root <;> rfl
    roots := fun bytes hb => hholds bytes (Option.mem_toList.1 hb)
    token := rfl
    identified := rfl
    identity := by simp }

theorem tokenSource_eq (user : UserEntry) (directory : String) : tokenSource user directory =
    ((given user.token).map .fixed <|> (given user.tokenFile).map fun file => .file (Path.join directory file)) := by
  unfold tokenSource
  cases given user.token <;> cases given user.tokenFile <;> rfl

theorem of_identity {certificate key pem : Option Bytes} (h : identity certificate key = .ok pem) :
    pem.isSome = (certificate.isSome && key.isSome) ∧
      ∀ p ∈ pem, ∃ c ∈ certificate, ∃ k ∈ key, p = c ++ newline :: k := by
  unfold identity at h
  cases certificate <;> cases key <;> cases h <;> simp

theorem grants_withUser {cluster : ClusterEntry} {user : UserEntry} {access access' : ClusterAccess}
    (hcluster : Grants cluster none directory files access)
    (h : (withUser access user directory).outcome files = .ok access') :
    Grants cluster (some user) directory files access' := by
  rw [withUser, outcome_bind, bind_eq_ok] at h
  obtain ⟨certificate, hcertificate, h⟩ := h
  rw [outcome_bind, bind_eq_ok] at h
  obtain ⟨key, hkey, h⟩ := h
  rw [outcome_bind, bind_eq_ok] at h
  obtain ⟨pem, hpem, h⟩ := h
  cases h
  obtain ⟨hcgiven, hcholds⟩ := Credential.of_ok (c := user.certificate) hcertificate
  obtain ⟨hkgiven, hkholds⟩ := Credential.of_ok (c := user.key) hkey
  obtain ⟨hsome, hjoined⟩ := of_identity hpem
  exact {
    server := hcluster.server
    unchecked := hcluster.unchecked
    rootCount := hcluster.rootCount
    roots := hcluster.roots
    token := tokenSource_eq user directory
    identified := by rw [hsome, hcgiven, hkgiven]; rfl
    identity := fun p hp => by
      obtain ⟨c, hc, k, hk, hjoin⟩ := hjoined p hp
      exact ⟨user, rfl, c, k, hcholds c hc, hkholds k hk, hjoin⟩ }

theorem grants_resolve {access : ClusterAccess} (h : (k.resolve context directory).outcome files = .ok access) :
    ∃ cluster ∈ k.cluster? context, Grants cluster (k.user? context) directory files access := by
  rw [resolve_eq] at h
  cases hn : k.contextName context with
  | error e =>
    rw [hn] at h
    cases h
  | ok name =>
    cases hc : k.context? context with
    | none =>
      simp only [hn, hc] at h
      cases h
    | some c =>
      cases hk : k.cluster? context with
      | none =>
        simp only [hn, hc, hk] at h
        cases h
      | some cluster =>
        simp only [hn, hc, hk, outcome_bind, bind_eq_ok] at h
        obtain ⟨access', hcluster, h⟩ := h
        have hgrants := grants_ofCluster hcluster
        by_cases hu : c.user = ""
        · rw [if_pos hu] at h
          cases h
          rw [user?_of_anonymous hc hu]
          exact ⟨cluster, rfl, hgrants⟩
        · rw [if_neg hu] at h
          cases hs : k.user? context with
          | none =>
            rw [hs] at h
            cases h
          | some user =>
            rw [hs] at h
            exact ⟨cluster, rfl, grants_withUser hgrants h⟩

theorem Grants.unique {cluster : ClusterEntry} {user : Option UserEntry} {access access' : ClusterAccess}
    (h : Grants cluster user directory files access) (h' : Grants cluster user directory files access') :
    access = access' := by
  have hserver : access.server = access'.server := Except.ok.inj (h.server.symm.trans h'.server)
  have hroots : access.rootCertificates = access'.rootCertificates :=
    List.ext_getElem (h.rootCount.trans h'.rootCount.symm) fun i hi hi' =>
      (h.roots _ (List.getElem_mem hi)).unique (h'.roots _ (List.getElem_mem hi'))
  have hidentity : access.identity = access'.identity := by
    have hsome := h.identified.trans h'.identified.symm
    cases hpem : access.identity with
    | none =>
      rw [hpem] at hsome
      exact (Option.isSome_eq_false_iff.1 hsome.symm |> Option.isNone_iff_eq_none.1).symm
    | some pem =>
      rw [hpem] at hsome
      obtain ⟨pem', hpem'⟩ := Option.isSome_iff_exists.1 hsome.symm
      obtain ⟨u, hu, c, key, hc, hkey, rfl⟩ := h.identity pem hpem
      obtain ⟨u', hu', c', key', hc', hkey', rfl⟩ := h'.identity pem' hpem'
      obtain rfl := Option.mem_unique hu hu'
      rw [hpem', hc.unique hc', hkey.unique hkey']
  have hunchecked := h.unchecked.trans h'.unchecked.symm
  have htoken := h.token.trans h'.token.symm
  cases access
  cases access'
  cases hserver
  cases hroots
  cases hidentity
  cases hunchecked
  cases htoken
  rfl

/-- A kubeconfig gives access exactly if nothing is wrong with what the context selects, and then the access that
its cluster and its user give. Else the first thing that is wrong is reported. -/
theorem resolve_complete (k : Kubeconfig) (context : Option String) (directory : String) (files : Files) :
    (∀ e, (k.resolve context directory).outcome files = .error e ↔
      (k.faults context directory files).head? = some e) ∧
    ∀ access, (k.resolve context directory).outcome files = .ok access ↔ k.faults context directory files = [] ∧
      ∃ cluster ∈ k.cluster? context, Grants cluster (k.user? context) directory files access := by
  have hreports := reports_resolve k context directory files
  refine ⟨fun e => hreports.error_iff, fun access => ⟨fun h => ⟨hreports.ok access h, grants_resolve h⟩, ?_⟩⟩
  rintro ⟨hnone, cluster, hcluster, hgrants⟩
  obtain ⟨access', h⟩ := hreports.ok_iff.2 hnone
  obtain ⟨cluster', hcluster', hgrants'⟩ := grants_resolve h
  obtain rfl := Option.mem_unique hcluster hcluster'
  rw [h, hgrants'.unique hgrants]

/-- The file of the key has no name. -/
def halfConfig : Kubeconfig := { mainConfig with users := [("admin", { admin with clientKey := some "" })] }

theorem halfConfig_refused :
    (halfConfig.resolve none "/k").outcome (mainFiles "") = .error (.incompleteCertificate "client-certificate") ∧
    ∃ access, (mainConfig.resolve none "/k").outcome (mainFiles "") = .ok access ∧ access.identity.isSome ∧
      access.rootCertificates.length = 1 := by
  obtain ⟨herror, -⟩ := resolve_complete halfConfig none "/k" (mainFiles "")
  obtain ⟨herror', hok⟩ := resolve_complete mainConfig none "/k" (mainFiles "")
  refine ⟨(herror _).2 (by decide +kernel), ?_⟩
  cases h : (mainConfig.resolve none "/k").outcome (mainFiles "") with
  | error e =>
    have hfaults : mainConfig.faults none "/k" (mainFiles "") = [] := by decide +kernel
    rw [herror', hfaults] at h
    cases h
  | ok access =>
    obtain ⟨-, cluster, hcluster, hgrants⟩ := (hok access).1 h
    cases hcluster
    exact ⟨access, rfl, hgrants.identified, hgrants.rootCount⟩

end Kubeconfig

end EventTally
