import EventTally.Proofs.Entries
import EventTally.Proofs.Selection
import EventTally.Startup.Arguments

/-! Where the access to a cluster comes from. If no kubeconfig is asked for, it is looked for in the files
that the environment lists, in the home directory, and at the account of the pod. The program asks for
the files that the environment lists as if an option had named them, so it does not look further where
there are none of them. -/

namespace EventTally

theorem FileLookup.run_firstFile (files : Files) (paths : List String) :
    (firstFile paths).run files = paths.find? fun path => (files path).isFile := by
  induction paths with
  | nil => rfl
  | cons path paths ih =>
    have hask : (firstFile (path :: paths)).run files =
        if (files path).isFile then some path else (firstFile paths).run files := by
      rw [firstFile, Dialogue.run_bind]
      change (if (files path).isFile then pure (some path) else firstFile paths : FileLookup _).run files = _
      split <;> rfl
    rw [hask, List.find?_cons, ih]
    cases (files path).isFile <;> rfl

theorem ClusterLookup.outcome_lift {α : Type} (x : FileLookup α) (files : Files) :
    (liftM x : ClusterLookup α).outcome files = .ok (x.run files) := by
  change (x >>= fun a => pure (Except.ok a) : FileLookup _).run files = _
  rw [Dialogue.run_bind, Dialogue.run_pure]

namespace Environment

/-- The paths that are listed, none by an empty list. -/
def listed (env : Environment) : List String := (env.kubeconfig.filter (· ≠ "")).elim [] Path.ofList

/-- The file in the home directory. -/
def homeFile? (env : Environment) : Option String :=
  env.home.map fun home => Path.join (Path.join home ".kube") "config"

end Environment

namespace ClusterAccess

/-- Where a kubeconfig is looked for, in order: in the paths that are asked for, and else in those that the
environment lists and in the home directory. -/
def candidates (choice : ClusterChoice) (env : Environment) : List String :=
  match choice.kubeconfig with
  | some paths => Path.ofList paths
  | none => env.listed ++ env.homeFile?.toList

/-- What is left where there is no kubeconfig: the account, unless one was asked for. -/
def lastResort (choice : ClusterChoice) (env : Environment) : ClusterLookup ClusterAccess :=
  match choice.kubeconfig with
  | some paths => throw (.unreadable paths .noneOfList)
  | none => ofAccount env.serviceHost env.servicePort accountDirectory

theorem load_eq (choice : ClusterChoice) (env : Environment) : load choice env = (do
    match ← FileLookup.firstFile (candidates choice env) with
    | some path => ofKubeconfig path choice.context
    | none => lastResort choice env) := by
  unfold load source candidates lastResort
  cases choice.kubeconfig with
  | some paths =>
    dsimp only
    rw [bind_assoc]
    refine bind_congr fun found => ?_
    cases found <;> rfl
  | none =>
    dsimp only
    rw [bind_assoc]
    refine bind_congr fun found => ?_
    cases found <;> rfl

/-- The first of the candidates that is a file. -/
theorem load_found (choice : ClusterChoice) (env : Environment) (files : Files) :
    (load choice env).outcome files =
      match (candidates choice env).find? fun path => (files path).isFile with
      | some path => (ofKubeconfig path choice.context).outcome files
      | none => (lastResort choice env).outcome files := by
  rw [load_eq, ClusterLookup.outcome_bind, ClusterLookup.outcome_lift, FileLookup.run_firstFile]
  change (match (candidates choice env).find? fun path => (files path).isFile with
    | some path => ofKubeconfig path choice.context
    | none => lastResort choice env : ClusterLookup _).outcome files = _
  cases (candidates choice env).find? fun path => (files path).isFile <;> rfl

variable {choice : ClusterChoice}

/-- A list that is asked for has to lead to a file. -/
theorem load_given {paths : String} (h : choice.kubeconfig = some paths) (env : Environment) (files : Files) :
    (load choice env).outcome files =
      match (Path.ofList paths).find? fun path => (files path).isFile with
      | some path => (ofKubeconfig path choice.context).outcome files
      | none => .error (.unreadable paths .noneOfList) := by
  rw [load_found, candidates, lastResort, h]
  rfl

/-- The first file of those that are listed and the one in the home directory, and else the account. -/
theorem load_searched (h : choice.kubeconfig = none) (env : Environment) (files : Files) :
    (load choice env).outcome files =
      match (env.listed ++ env.homeFile?.toList).find? fun path => (files path).isFile with
      | some path => (ofKubeconfig path choice.context).outcome files
      | none => (ofAccount env.serviceHost env.servicePort accountDirectory).outcome files := by
  rw [load_found, candidates, lastResort, h]

end ClusterAccess

/-! ## Faults that are told -/

namespace ClusterLookup

variable {α β : Type}

/-- A file that is told to be unreadable has the fault that is told, or is no text. -/
def Truthful (x : ClusterLookup α) : Prop :=
  ∀ files path fault, x.outcome files = .error (.unreadable path fault) →
    fault = .notText ∨ (files path).content = .error fault

theorem Truthful.bind {x : ClusterLookup α} {f : α → ClusterLookup β} (hx : Truthful x)
    (hf : ∀ a, Truthful (f a)) : Truthful (x >>= f) := by
  intro files path fault h
  rw [outcome_bind] at h
  cases ha : x.outcome files with
  | error e =>
    rw [ha] at h
    cases h
    exact hx files path fault ha
  | ok a =>
    rw [ha] at h
    exact hf a files path fault h

theorem truthful_bytes (path : String) : Truthful (bytes path) := by
  intro files path' fault h
  change (files path).content.mapError (ClusterError.unreadable path) = _ at h
  obtain ⟨fault', hf, he⟩ := mapError_eq_error.1 h
  cases he
  exact .inr hf

theorem truthful_text (path : String) : Truthful (text path) := by
  intro files path' fault h
  change (files path).text.mapError (ClusterError.unreadable path) = _ at h
  obtain ⟨fault', hf, he⟩ := mapError_eq_error.1 h
  cases he
  unfold File.Entry.text at hf
  cases hc : (files path).content with
  | error fault' =>
    rw [hc] at hf
    cases hf
    exact .inr rfl
  | ok bytes =>
    simp only [hc, Except.bind, Bind.bind] at hf
    split at hf <;> cases hf
    exact .inl rfl

/-- What comes of no file tells of none. -/
theorem truthful_lift {x : Except ClusterError α} (h : ∀ path fault, x ≠ .error (.unreadable path fault)) :
    Truthful (liftM x) := fun _ path fault he => absurd he (h path fault)

theorem truthful_pure (a : α) : Truthful (pure a) := fun _ _ _ h => by cases h

theorem truthful_throw {e : ClusterError} (h : ∀ path fault, e ≠ .unreadable path fault) :
    Truthful (throw e : ClusterLookup α) := fun _ path fault he => absurd (Except.error.inj he) (h path fault)

end ClusterLookup

namespace Kubeconfig

open ClusterLookup

theorem truthful_readServer (server : String) : Truthful (liftM (readServer server)) := by
  refine truthful_lift fun path fault h => ?_
  obtain ⟨e, -, he⟩ := mapError_eq_error.1 h
  cases he

theorem truthful_credential (field : String) (data file : Option String) (directory : String) :
    Truthful (credential field data file directory) := by
  unfold credential
  split
  · refine truthful_lift fun path fault h => ?_
    obtain ⟨e, -, he⟩ := mapError_eq_error.1 h
    cases he
  · exact (truthful_bytes _).bind fun _ => truthful_pure _
  · exact truthful_pure _

theorem truthful_withUser (access : ClusterAccess) (user : UserEntry) (directory : String) :
    Truthful (withUser access user directory) := by
  unfold withUser
  refine (truthful_credential _ _ _ _).bind fun certificate => ?_
  refine (truthful_credential _ _ _ _).bind fun key => ?_
  refine (truthful_lift fun path fault h => ?_).bind fun identity => truthful_pure _
  unfold identity at h
  split at h <;> cases h

theorem truthful_resolve (k : Kubeconfig) (context : Option String) (directory : String) :
    Truthful (k.resolve context directory) := by
  rw [resolve_eq]
  cases hn : k.contextName context with
  | error e =>
    refine truthful_throw fun path fault he => ?_
    unfold contextName at hn
    split at hn
    · cases hn
    · split at hn <;> cases hn
      cases he
  | ok name =>
    cases k.context? context with
    | none => exact truthful_throw fun _ _ h => by cases h
    | some c =>
      cases k.cluster? context with
      | none => exact truthful_throw fun _ _ h => by cases h
      | some cluster =>
        have hcluster : Truthful (ofCluster cluster directory) :=
          (truthful_readServer _).bind fun _ => (truthful_credential _ _ _ _).bind fun _ => truthful_pure _
        refine hcluster.bind fun access => ?_
        split
        · exact truthful_pure _
        · cases k.user? context with
          | none => exact truthful_throw fun _ _ h => by cases h
          | some user => exact truthful_withUser access user directory

end Kubeconfig

namespace ClusterAccess

open ClusterLookup

variable {choice : ClusterChoice}

theorem truthful_ofKubeconfig (path : String) (context : Option String) :
    Truthful (ofKubeconfig path context) := by
  unfold ofKubeconfig
  refine (truthful_text path).bind fun text => ?_
  split
  · exact Kubeconfig.truthful_resolve _ _ _
  · exact truthful_throw fun _ _ h => by cases h

theorem truthful_ofAccount (host port : Option String) (directory : String) :
    Truthful (ofAccount host port directory) := by
  unfold ofAccount
  split
  · exact (Kubeconfig.truthful_readServer _).bind fun _ => (truthful_bytes _).bind fun _ => truthful_pure _
  · exact truthful_throw fun _ _ h => by cases h

/-- Where no file is asked for, no list is told to lead to none. -/
theorem load_searched_ne (h : choice.kubeconfig = none) {env : Environment} {files : Files} {paths : String}
    (hfile : (files paths).content ≠ .error .noneOfList) :
    (load choice env).outcome files ≠ .error (.unreadable paths .noneOfList) := by
  intro he
  rw [load_searched h] at he
  have hfault : File.Fault.noneOfList = .notText ∨ (files paths).content = .error .noneOfList := by
    split at he
    · exact truthful_ofKubeconfig _ _ _ _ _ he
    · exact truthful_ofAccount _ _ _ _ _ _ he
  rcases hfault with hf | hf
  · cases hf
  · exact hfile hf

end ClusterAccess

/-! ## The arguments of the program -/

/-- The settings, if they are asked for. -/
def Asked.settings? : Asked → Option Settings
  | .run s => some s
  | _ => none

namespace Arguments

/-- The access that the program gets, or what it is told about the cluster, unless it is asked for a text or
does not take its arguments. -/
def access (arguments : List String) (vars : Variables) (files : Files) :
    Except UsageError (Option (Except ClusterError ClusterAccess)) :=
  (ask arguments vars).map fun asked => asked.settings?.map fun s =>
    (ClusterAccess.load s.cluster (.ofVariables vars)).outcome files

theorem fromVariable_ne {option : OptionName} (h : option ≠ .kubeconfig) :
    option.fromVariable ≠ "KUBECONFIG" := by
  cases option with
  | kubeconfig => exact absurd rfl h
  | _ => decide +kernel

variable {vars vars' : Variables} {g : Given} {arguments : List String} {s : Settings}

theorem value?_congr (hsame : ∀ name, name ≠ "KUBECONFIG" → vars.get? name = vars'.get? name)
    {option : OptionName} (h : option ≠ .kubeconfig) : value? g vars option = value? g vars' option := by
  rw [value?, value?, hsame _ (fromVariable_ne h)]

/-- Only the two paths are checked. -/
theorem settings_eq (g : Given) (vars : Variables) :
    settings g vars = do
      checkPath .config (value? g vars .config)
      checkPath .kubeconfig (value? g vars .kubeconfig)
      let discard ← (Span.parse ((value? g vars .discard).getD "")).mapError
        (.badSpan ((value? g vars .discard).getD ""))
      return {
        rulesPath := (value? g vars .config).getD ({} : Settings).rulesPath
        discard
        listenAddress := (value? g vars .listenAddress).getD ({} : Settings).listenAddress
        cluster := {
          kubeconfig := value? g vars .kubeconfig
          context := value? g vars .context
          namespace_ := value? g vars .namespace_ } } := by
  have hcheck : ∀ option, option.isPath = false → ∀ value, checkPath option value = pure () := by
    intro option h value
    rw [checkPath, h]
    rfl
  have hchecks : (OptionName.all.forM fun option => checkPath option (value? g vars option)) =
      checkPath .config (value? g vars .config) >>= fun _ =>
        checkPath .kubeconfig (value? g vars .kubeconfig) := by
    simp only [OptionName.all, List.forM_eq_forM, List.forM_cons, List.forM_nil,
      hcheck .discard rfl, hcheck .listenAddress rfl, hcheck .context rfl, hcheck .namespace_ rfl,
      pure_bind, bind_pure_unit]
  rw [settings, hchecks, bind_assoc]

/-- With a value for the kubeconfig, and else the same. -/
def withKubeconfig (s : Settings) : Option String → Except UsageError Settings
  | some "" => .error (.noValue .kubeconfig)
  | paths => .ok { s with cluster := { s.cluster with kubeconfig := paths } }

theorem withKubeconfig_none (h : s.cluster.kubeconfig = none) : withKubeconfig s none = .ok s := by
  obtain ⟨rulesPath, discard, listenAddress, kubeconfig, context, namespace_⟩ := s
  obtain rfl : kubeconfig = none := h
  rfl

theorem withKubeconfig_some {paths : String} (h : paths ≠ "") (s : Settings) : withKubeconfig s paths =
    .ok { s with cluster := { s.cluster with kubeconfig := paths } } := by
  unfold withKubeconfig
  split
  · rename_i he
    exact absurd (Option.some.inj he) h
  · rfl

/-- If no option names a kubeconfig, the variable counts as if one did. -/
theorem settings_of_unset
    (hsame : ∀ name, name ≠ "KUBECONFIG" → vars.get? name = vars'.get? name)
    (hs : settings g vars' = .ok s) (hflag : s.cluster.kubeconfig = none) :
    settings g vars = withKubeconfig s (vars.get? "KUBECONFIG") := by
  rw [settings_eq] at hs ⊢
  obtain ⟨⟨⟩, hconfig, hs⟩ := bind_eq_ok.1 hs
  obtain ⟨⟨⟩, -, hs⟩ := bind_eq_ok.1 hs
  obtain ⟨discard, hdiscard, hs⟩ := bind_eq_ok.1 hs
  obtain rfl := pure_eq_ok.1 hs
  have hpaths : value? g vars .kubeconfig = vars.get? "KUBECONFIG" := by
    have hgiven : g.values.lookup .kubeconfig = none := by
      have hnone : value? g vars' .kubeconfig = none := hflag
      rw [value?, Option.or_eq_none_iff, Option.or_eq_none_iff] at hnone
      exact hnone.1.1
    rw [value?, hgiven, Option.none_or]
    exact Option.or_none
  have hvalue : ∀ option, option ≠ .kubeconfig → value? g vars option = value? g vars' option :=
    fun option h => value?_congr hsame h
  rw [hvalue .config (by decide), hvalue .discard (by decide), hvalue .listenAddress (by decide),
    hvalue .context (by decide), hvalue .namespace_ (by decide), hpaths, hconfig, hdiscard]
  unfold withKubeconfig
  split
  · rename_i hempty
    rw [hempty]
    rfl
  · rename_i hfull
    have hcheck : checkPath .kubeconfig (vars.get? "KUBECONFIG") = .ok () := by
      rw [checkPath, if_neg]
      simp only [Bool.and_eq_true, decide_eq_true_eq, not_and]
      exact fun _ => hfull
    rw [hcheck]
    rfl

theorem ask_of_unset
    (hsame : ∀ name, name ≠ "KUBECONFIG" → vars.get? name = vars'.get? name)
    (hask : ask arguments vars' = .ok (.run s)) (hflag : s.cluster.kubeconfig = none) :
    ask arguments vars = (withKubeconfig s (vars.get? "KUBECONFIG")).map .run := by
  obtain ⟨g, hg, hask⟩ := bind_eq_ok.1 hask
  cases hf : g.flag with
  | some flag =>
    rw [hf] at hask
    cases flag <;> cases hask
  | none =>
    simp only [hf] at hask
    obtain ⟨s', hs, hask⟩ := bind_eq_ok.1 hask
    obtain ⟨rfl⟩ := pure_eq_ok.1 hask
    have hsettings := settings_of_unset hsame hs hflag
    simp only [ask, hg, bind, Except.bind, hf, hsettings]
    cases withKubeconfig s (vars.get? "KUBECONFIG") <;> rfl

theorem listed_ofVariables {paths : String} (h : vars.get? "KUBECONFIG" = some paths) (hne : paths ≠ "") :
    (Environment.ofVariables vars).listed = Path.ofList paths := by
  have hset : (Environment.ofVariables vars).kubeconfig = some paths := h
  rw [Environment.listed, hset, Option.filter_some]
  simp [hne]

theorem listed_ofVariables_empty (h : vars.get? "KUBECONFIG" = some "") :
    (Environment.ofVariables vars).listed = [] := by
  have hset : (Environment.ofVariables vars).kubeconfig = some "" := h
  rw [Environment.listed, hset]
  rfl

section

variable (hsame : ∀ name, name ≠ "KUBECONFIG" → vars.get? name = vars'.get? name)
  (hask : ask arguments vars' = .ok (.run s)) (hflag : s.cluster.kubeconfig = none) (files : Files)

include hsame hask hflag

/-- What the program gets, from its arguments and the value of the variable. -/
theorem access_of_unset : access arguments vars files =
    (withKubeconfig s (vars.get? "KUBECONFIG")).map fun s =>
      some ((ClusterAccess.load s.cluster (.ofVariables vars)).outcome files) := by
  rw [access, ask_of_unset hsame hask hflag]
  cases withKubeconfig s (vars.get? "KUBECONFIG") <;> rfl

/-- A list that is not empty has to lead to a file. -/
theorem access_of_list {paths : String} (hset : vars.get? "KUBECONFIG" = some paths) (hne : paths ≠ "") :
    access arguments vars files = .ok (some
      (match (Path.ofList paths).find? fun path => (files path).isFile with
      | some path => (ClusterAccess.ofKubeconfig path s.cluster.context).outcome files
      | none => .error (.unreadable paths .noneOfList))) := by
  let choice : ClusterChoice := { s.cluster with kubeconfig := some paths }
  have hload := ClusterAccess.load_given (rfl : choice.kubeconfig = some paths) (.ofVariables vars) files
  rw [access_of_unset hsame hask hflag, hset, withKubeconfig_some hne]
  exact congrArg (Except.ok ∘ some) hload

theorem access_list_iff {paths : String} (hset : vars.get? "KUBECONFIG" = some paths) (hne : paths ≠ "")
    (hfile : (files paths).content ≠ .error .noneOfList) :
    access arguments vars files =
        .ok (some ((ClusterAccess.load s.cluster (.ofVariables vars)).outcome files)) ↔
      ∃ path ∈ Path.ofList paths, (files path).isFile := by
  rw [access_of_list hsame hask hflag files hset hne]
  cases hfind : (Path.ofList paths).find? fun path => (files path).isFile with
  | none =>
    refine iff_of_false (fun h => ?_) (by simpa using hfind)
    exact ClusterAccess.load_searched_ne hflag hfile (Option.some.inj (Except.ok.inj h)).symm
  | some path =>
    have hload := ClusterAccess.load_searched hflag (.ofVariables vars) files
    rw [listed_ofVariables hset hne, List.find?_append, hfind, Option.some_or] at hload
    have hfile : (files path).isFile := List.find?_some (p := fun path => (files path).isFile) hfind
    exact iff_of_true (congrArg (Except.ok ∘ some) hload.symm)
      ⟨path, List.mem_of_find?_eq_some hfind, hfile⟩

end

/-- Arguments that name no kubeconfig lead to the access that is looked for in the listed files, in the
home directory and at the account of the pod, if and only if the variable is not set or one of its paths is
a file. Where it is set and empty, the arguments are not taken; where none of its paths is a file, it is
told to be unreadable, whatever there is in the other places. -/
theorem access_searched_iff (hsame : ∀ name, name ≠ "KUBECONFIG" → vars.get? name = vars'.get? name)
    (hask : ask arguments vars' = .ok (.run s)) (hflag : s.cluster.kubeconfig = none) (files : Files)
    (hfiles : ∀ path, (files path).content ≠ .error .noneOfList) :
    let env := Environment.ofVariables vars
    let searched := (ClusterAccess.load s.cluster env).outcome files
    (searched =
      match (env.listed ++ env.homeFile?.toList).find? fun path => (files path).isFile with
      | some path => (ClusterAccess.ofKubeconfig path s.cluster.context).outcome files
      | none => (ClusterAccess.ofAccount env.serviceHost env.servicePort
          ClusterAccess.accountDirectory).outcome files) ∧
    (access arguments vars files = .ok (some searched) ↔
      vars.get? "KUBECONFIG" = none ∨ ∃ path ∈ env.listed, (files path).isFile) ∧
    (vars.get? "KUBECONFIG" = some "" → access arguments vars files = .error (.noValue .kubeconfig)) ∧
    ∀ paths, vars.get? "KUBECONFIG" = some paths → paths ≠ "" →
      (∀ path ∈ Path.ofList paths, (files path).isFile = false) →
        access arguments vars files = .ok (some (.error (.unreadable paths .noneOfList))) := by
  intro env searched
  have haccess := access_of_unset hsame hask hflag files
  refine ⟨ClusterAccess.load_searched hflag env files, ?_, fun hset => by rw [haccess, hset]; rfl,
    fun paths hset hne hnone => ?_⟩
  · cases hset : vars.get? "KUBECONFIG" with
    | none =>
      rw [haccess, hset, withKubeconfig_none hflag]
      exact iff_of_true rfl (.inl rfl)
    | some paths =>
      rw [or_iff_right (Option.some_ne_none paths)]
      by_cases hempty : paths = ""
      · subst hempty
        rw [haccess, hset, listed_ofVariables_empty hset]
        exact iff_of_false (fun h => by cases h) (by simp)
      · rw [listed_ofVariables hset hempty]
        exact access_list_iff hsame hask hflag files hset hempty (hfiles paths)
  · rw [access_of_list hsame hask hflag files hset hne, List.find?_eq_none.2 (by simpa using hnone)]

/-- Variables with a value for the one that lists kubeconfigs. -/
def homeVariables (paths : Option String) : Variables :=
  .ofList ([("HOME", "/root")] ++ (paths.map ("KUBECONFIG", ·)).toList)

theorem get?_homeVariables (paths : String) {name : String} (h : name ≠ "KUBECONFIG") :
    (homeVariables (some paths)).get? name = (homeVariables none).get? name := by
  rw [homeVariables, homeVariables, StringMap.get?_ofList, StringMap.get?_ofList]
  exact StringMap.lookup_cons_of_ne h _ _

theorem ask_homeVariables : ask [] (homeVariables none) = .ok (.run {}) := by
  have hrun : (ask [] (homeVariables none)).toOption.bind Asked.settings? = some {} := by decide +kernel
  cases hask : ask [] (homeVariables none) with
  | error e =>
    rw [hask] at hrun
    cases hrun
  | ok asked =>
    rw [hask] at hrun
    cases asked with
    | run s =>
      cases hrun
      rfl
    | help => cases hrun
    | version => cases hrun

def kubeconfigText (server : String) : String :=
  "current-context: c\ncontexts:\n- name: c\n  context:\n    cluster: k\n" ++
    "clusters:\n- name: k\n  cluster:\n    server: " ++ server ++ "\n"

/-- A kubeconfig in the home directory, and another one. -/
def homeFiles : Files := fun path =>
  if path = "/root/.kube/config" then .file (.ok (Utf8.encode (kubeconfigText "https://[::1]")))
  else if path = "/work/config" then .file (.ok (Utf8.encode (kubeconfigText "https://[::2]")))
  else .absent .notFound

theorem content_homeFiles (path : String) : (homeFiles path).content ≠ .error .noneOfList := by
  unfold homeFiles
  split_ifs <;> exact fun h => by cases h

theorem homeVariables_searched :
    access [] (homeVariables (some "/absent:/work/config")) homeFiles =
        .ok (some ((ClusterAccess.load {}
          (.ofVariables (homeVariables (some "/absent:/work/config")))).outcome homeFiles)) ∧
      ((ClusterAccess.load {} (.ofVariables (homeVariables (some "/absent:/work/config")))).outcome
        homeFiles).map (·.server.write) = .ok "https://[::2]/" := by
  have hsame : ∀ name, name ≠ "KUBECONFIG" →
      (homeVariables (some "/absent:/work/config")).get? name = (homeVariables none).get? name :=
    fun name h => get?_homeVariables _ h
  obtain ⟨-, hiff, -, -⟩ :=
    access_searched_iff hsame ask_homeVariables rfl homeFiles content_homeFiles
  exact ⟨hiff.2 (.inr ⟨"/work/config", by decide +kernel, by decide +kernel⟩), by decide +kernel⟩

/-- A list that leads nowhere, or an empty one, keeps the program from the kubeconfig in the home
directory. -/
theorem homeVariables_misled :
    ((ClusterAccess.load {} (.ofVariables (homeVariables (some "/absent")))).outcome homeFiles).map
        (·.server.write) = .ok "https://[::1]/" ∧
      (access [] (homeVariables (some "/absent")) homeFiles).toOption =
        some (some (.error (.unreadable "/absent" .noneOfList))) ∧
      ((ClusterAccess.load {} (.ofVariables (homeVariables (some "")))).outcome homeFiles).map
        (·.server.write) = .ok "https://[::1]/" ∧
      (access [] (homeVariables (some "")) homeFiles).toOption = none := by
  have hfirst : ∀ paths ∈ ["/absent", ""],
      ((Environment.ofVariables (homeVariables (some paths))).listed ++
        (Environment.ofVariables (homeVariables (some paths))).homeFile?.toList).find?
          (fun path => (homeFiles path).isFile) = some "/root/.kube/config" := by decide +kernel
  have hhome : ((ClusterAccess.ofKubeconfig "/root/.kube/config" none).outcome homeFiles).map
      (·.server.write) = .ok "https://[::1]/" := by decide +kernel
  refine ⟨?_, by decide +kernel, ?_, by decide +kernel⟩
  · rw [ClusterAccess.load_searched rfl, hfirst "/absent" (by simp)]
    exact hhome
  · rw [ClusterAccess.load_searched rfl, hfirst "" (by simp)]
    exact hhome

end Arguments
end EventTally
