import EventTally.Proofs.SearchOrder

/-! Access to a cluster is taken from one place. The first candidate that is a file decides, even if it is of no
use: nothing behind it is looked at but what it names itself, and nothing that changes there changes the
access. -/

namespace EventTally

/-! ## What is looked at -/

namespace Dialogue

variable {Q A α : Type}

/-- Answers count only where they are asked for. -/
theorem run_of_agree {d : Dialogue Q A α} {known known' : Q → A}
    (h : ∀ q ∈ d.questions known, known' q = known q) : d.run known' = d.run known := by
  induction d with
  | done a => rfl
  | ask q next ih =>
    rw [questions, List.forall_mem_cons] at h
    rw [run, run, h.1]
    exact ih _ h.2

end Dialogue

theorem FileLookup.questions_none {files : Files} {paths : List String}
    (h : ∀ path ∈ paths, (files path).isFile = false) : (firstFile paths).questions files = paths := by
  induction paths with
  | nil => rfl
  | cons path paths ih =>
    obtain ⟨hpath, hpaths⟩ := List.forall_mem_cons.1 h
    rw [firstFile, Dialogue.questions_bind]
    change path :: ((if (files path).isFile then pure (some path) else firstFile paths : FileLookup _).questions
      files) = _
    rw [hpath, if_neg Bool.false_ne_true, ih hpaths]

/-- The search ends at the first file. -/
theorem FileLookup.questions_found {files : Files} {before after : List String} {path : String}
    (h : ∀ passed ∈ before, (files passed).isFile = false) (hpath : (files path).isFile) :
    (firstFile (before ++ path :: after)).questions files = before ++ [path] := by
  induction before with
  | nil =>
    rw [List.nil_append, firstFile, Dialogue.questions_bind]
    change path :: ((if (files path).isFile then pure (some path) else firstFile after : FileLookup _).questions
      files) = _
    rw [hpath, if_pos rfl]
    rfl
  | cons passed before ih =>
    obtain ⟨hpassed, hbefore⟩ := List.forall_mem_cons.1 h
    rw [List.cons_append, firstFile, Dialogue.questions_bind]
    change passed :: ((if (files passed).isFile then pure (some passed) else
      firstFile (before ++ path :: after) : FileLookup _).questions files) = _
    rw [hpassed, if_neg Bool.false_ne_true, ih hbefore]
    rfl

namespace ClusterLookup

variable {α β : Type}

/-- The paths that a lookup looks at, in order. -/
def looks (x : ClusterLookup α) (files : Files) : List String := x.run.questions files

theorem looks_lift_bind (x : FileLookup α) (f : α → ClusterLookup β) (files : Files) :
    ((liftM x : ClusterLookup α) >>= f).looks files = x.questions files ++ (f (x.run files)).looks files := by
  change ((x >>= fun a => pure (Except.ok a)) >>= ExceptT.bindCont f : FileLookup _).questions files = _
  rw [bind_assoc, Dialogue.questions_bind]
  rfl

/-- Files count only where they are looked at. -/
theorem outcome_of_agree {x : ClusterLookup α} {files files' : Files}
    (h : ∀ path ∈ x.looks files, files' path = files path) : x.outcome files' = x.outcome files :=
  Dialogue.run_of_agree h

end ClusterLookup

namespace ClusterAccess

/-! ## What decides -/

/-- The first of the candidates that is a file. -/
structure Decides (choice : ClusterChoice) (env : Environment) (files : Files) (before : List String)
    (path : String) (after : List String) : Prop where
  candidates_eq : candidates choice env = before ++ path :: after
  passed : ∀ p ∈ before, (files p).isFile = false
  isFile : (files path).isFile

variable {choice : ClusterChoice} {env : Environment} {files : Files} {before after : List String}
  {path : String}

theorem exists_decides {p : String} (hp : p ∈ candidates choice env) (hfile : (files p).isFile) :
    ∃ before path after, Decides choice env files before path after := by
  cases hfind : (candidates choice env).find? fun p => (files p).isFile with
  | none => exact absurd hfile (List.find?_eq_none.1 hfind p hp)
  | some path =>
    obtain ⟨hpath, before, after, heq, hpassed⟩ := List.find?_eq_some_iff_append.1 hfind
    exact ⟨before, path, after, heq, fun p hp => by simpa using hpassed p hp, hpath⟩

theorem Decides.find? (h : Decides choice env files before path after) :
    ((candidates choice env).find? fun p => (files p).isFile) = some path := by
  rw [h.candidates_eq]
  exact List.find?_eq_some_iff_append.2
    ⟨h.isFile, before, after, rfl, fun p hp => by simpa using h.passed p hp⟩

theorem Decides.load (h : Decides choice env files before path after) :
    (load choice env).outcome files = (ofKubeconfig path choice.context).outcome files := by
  rw [load_found, h.find?]

theorem Decides.looks (h : Decides choice env files before path after) :
    (ClusterAccess.load choice env).looks files =
      before ++ path :: (ofKubeconfig path choice.context).looks files := by
  rw [load_eq, ClusterLookup.looks_lift_bind, FileLookup.run_firstFile, h.find?, h.candidates_eq,
    FileLookup.questions_found h.passed h.isFile, List.append_assoc, List.singleton_append]

/-- What is looked at stays the same: so the same candidate decides, and gives the same. -/
theorem Decides.load_of_agree (h : Decides choice env files before path after) {choice' : ClusterChoice}
    {env' : Environment} {files' : Files} {after' : List String} (hcontext : choice'.context = choice.context)
    (hcandidates : candidates choice' env' = before ++ path :: after')
    (hfiles : ∀ p ∈ (ClusterAccess.load choice env).looks files, files' p = files p) :
    (ClusterAccess.load choice' env').outcome files' = (ClusterAccess.load choice env).outcome files := by
  rw [h.looks, List.forall_mem_append, List.forall_mem_cons] at hfiles
  obtain ⟨hbefore, hpath, hnamed⟩ := hfiles
  have h' : Decides choice' env' files' before path after' := {
    candidates_eq := hcandidates
    passed := fun p hp => hbefore p hp ▸ h.passed p hp
    isFile := hpath ▸ h.isFile }
  rw [h'.load, h.load, hcontext]
  exact ClusterLookup.outcome_of_agree hnamed

theorem load_exhausted (h : ∀ p ∈ candidates choice env, (files p).isFile = false) :
    (load choice env).outcome files = (lastResort choice env).outcome files ∧
      (load choice env).looks files = candidates choice env ++ (lastResort choice env).looks files := by
  have hfind : ((candidates choice env).find? fun p => (files p).isFile) = none :=
    List.find?_eq_none.2 fun p hp => by simpa using h p hp
  constructor
  · rw [load_found, hfind]
  · rw [load_eq, ClusterLookup.looks_lift_bind, FileLookup.run_firstFile, hfind, FileLookup.questions_none h]

/-- Access is taken from the first candidate that is a file, whether that gives access or an error, and else
from the last resort. Beside the candidates before it only what the deciding file names is looked at. So the
access, or the error, stays the same whatever other candidates follow, whatever the environment says besides,
and whatever there is in files that are not looked at. -/
theorem load_one_source (choice : ClusterChoice) (env : Environment) (files : Files) :
    (∀ before path after, Decides choice env files before path after →
      (load choice env).outcome files = (ofKubeconfig path choice.context).outcome files ∧
      (load choice env).looks files = before ++ path :: (ofKubeconfig path choice.context).looks files ∧
      ∀ (choice' : ClusterChoice) env' files' after', choice'.context = choice.context →
        candidates choice' env' = before ++ path :: after' →
        (∀ p ∈ (load choice env).looks files, files' p = files p) →
        (load choice' env').outcome files' = (load choice env).outcome files) ∧
    ((¬ ∃ before path after, Decides choice env files before path after) →
      (load choice env).outcome files = (lastResort choice env).outcome files ∧
      (load choice env).looks files = candidates choice env ++ (lastResort choice env).looks files) := by
  refine ⟨fun before path after h => ⟨h.load, h.looks, fun choice' env' files' after' hcontext hcandidates hfiles =>
    h.load_of_agree hcontext hcandidates hfiles⟩, fun h => load_exhausted fun p hp => ?_⟩
  by_contra hfile
  exact h (exists_decides hp (by simpa using hfile))

/-- A kubeconfig that is none, and another one in the home directory. -/
def brokenFiles : Files := fun path =>
  if path = "/work/config" then .file (.ok (Utf8.encode "clusters: 1\n"))
  else if path = "/root/.kube/config" then .file (.ok (Utf8.encode (Arguments.kubeconfigText "https://[::1]")))
  else .absent .notFound

theorem brokenFiles_decided :
    Decides {} { kubeconfig := some "/absent:/work/config:/root/.kube/config", home := some "/root" } brokenFiles
      ["/absent"] "/work/config" ["/root/.kube/config", "/root/.kube/config"] ∧
    (load {} { kubeconfig := some "/absent:/work/config:/root/.kube/config", home := some "/root" }).outcome
      brokenFiles = .error (.malformedKubeconfig "/work/config") ∧
    (load {} { kubeconfig := some "/absent:/work/config", serviceHost := some "::1" }).outcome brokenFiles =
      .error (.malformedKubeconfig "/work/config") := by
  have hdecides : Decides {} { kubeconfig := some "/absent:/work/config:/root/.kube/config", home := some "/root" }
      brokenFiles ["/absent"] "/work/config" ["/root/.kube/config", "/root/.kube/config"] :=
    ⟨by decide +kernel, by decide +kernel, by decide +kernel⟩
  obtain ⟨hload, -, hsame⟩ := (load_one_source _ _ _).1 _ _ _ hdecides
  have hbroken : (ofKubeconfig "/work/config" none).outcome brokenFiles =
      .error (.malformedKubeconfig "/work/config") := by decide +kernel
  refine ⟨hdecides, hload.trans hbroken, ?_⟩
  rw [hsame {} { kubeconfig := some "/absent:/work/config", serviceHost := some "::1" } brokenFiles [] rfl
    (by decide +kernel) fun _ _ => rfl]
  exact hload.trans hbroken

end ClusterAccess
end EventTally
