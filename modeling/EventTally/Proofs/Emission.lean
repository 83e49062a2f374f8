import EventTally.Proofs.Counting
import EventTally.Proofs.Scheduling
import EventTally.Proofs.Validation

/-! From the evaluation of an event to the counters. A rule that matches gives its own name and the keys
of its own labels, and these are what its counter was registered with; so each match is taken by one
counter, and the samples of the metrics add up to the matches. -/

namespace EventTally

namespace Rule

/-! ## What a rule gives -/

/-- The counter that a rule is registered with. -/
def counter (r : Rule) : Counter := ⟨r.name, r.labels.keys, []⟩

theorem labelValues_keys (event : Event) (s : Submatches) (labels : List (String × LabelSource)) :
    (labelValues event s labels).Always fun values =>
      ∀ vs, values = .ok vs → vs.map (·.1) = labels.map (·.1) := by
  induction labels with
  | nil =>
    intro vs hvs
    cases hvs
    rfl
  | cons label labels ih =>
    refine (Dialogue.Always.of_forall (p := fun _ => True) fun _ => trivial).bind fun value _ => ?_
    cases value with
    | error e =>
      intro vs hvs
      cases hvs
    | ok value =>
      refine ih.bind fun rest hrest => ?_
      intro vs hvs
      obtain ⟨rest', hr, rfl⟩ := map_eq_ok.1 hvs
      exact congrArg (label.1 :: ·) (hrest rest' hr)

/-- A match, if this is one, is taken by the counter of the rule. -/
def Fits (r : Rule) (outcome : Except EvalError Match) : Prop :=
  ∀ m, outcome = .ok m → r.counter.Takes m

theorem evaluate_fits (r : Rule) (event : Event) : (r.evaluate event).Always r.Fits := by
  unfold evaluate
  cases passMatchers event.view r.matchers with
  | error e =>
    intro m hm
    cases hm
  | ok s =>
    refine (labelValues_keys event s r.labels.entries).bind fun values hkeys => ?_
    intro m hm
    obtain ⟨vs, hvs, rfl⟩ := map_eq_ok.1 hm
    have hk : vs.map (·.1) = r.labels.keys := hkeys vs hvs
    have hsorted : vs.Pairwise (·.1 < ·.1) := List.pairwise_map.1 (hk ▸ r.labels.pairwise_keys)
    exact ⟨rfl, by rw [StringMap.keys, StringMap.entries_ofList hsorted]; exact hk⟩

/-! ## What all rules give -/

/-- What each of the rules gives, in their order. -/
def outcomes (event : Event) : List Rule → Lookup (List (Except EvalError Match))
  | [] => return []
  | r :: rest => do
    let found ← r.evaluate event
    return found :: (← outcomes event rest)

theorem evaluateAll_runState (event : Event) (rules : List Rule) {σ : Type}
    (fetch : PodName → σ → Except LookupError Pod × σ) (s : σ) :
    (evaluateAll event rules).runState fetch s =
      (((outcomes event rules).runState fetch s).1.filterMap Except.toOption,
        ((outcomes event rules).runState fetch s).2) := by
  induction rules generalizing s with
  | nil => rfl
  | cons r rest ih =>
    simp only [evaluateAll, outcomes, Dialogue.runState_bind, Dialogue.runState_pure, ih]
    cases ((r.evaluate event).runState fetch s).1 <;> rfl

theorem outcomes_fit (event : Event) (rules : List Rule) :
    (outcomes event rules).Always (List.Forall₂ Fits rules) := by
  induction rules with
  | nil => exact .nil
  | cons r rest ih =>
    exact (evaluate_fits r event).bind fun found hfound => ih.bind fun others hothers =>
      .cons hfound hothers

/-- The names of the rules that succeed. -/
def succeeding (rules : List Rule) (found : List (Except EvalError Match)) : List String :=
  ((rules.zip found).filter (·.2.isOk)).map (·.1.name)

variable {rules : List Rule} {found : List (Except EvalError Match)}

theorem names_matches (h : List.Forall₂ Fits rules found) :
    (found.filterMap Except.toOption).map Match.name = succeeding rules found := by
  induction h with
  | nil => rfl
  | @cons r o rules found hr h ih =>
    cases o with
    | error e => exact ih
    | ok m => exact congrArg₂ List.cons (hr m rfl).1.symm ih

theorem takes_matches (h : List.Forall₂ Fits rules found) :
    ∀ m ∈ found.filterMap Except.toOption, ∃ r ∈ rules, r.counter.Takes m := by
  induction h with
  | nil => simp
  | @cons r o rules found hr h ih =>
    intro m hm
    cases o with
    | error e =>
      obtain ⟨r', hr', ht⟩ := ih m hm
      exact ⟨r', List.mem_cons_of_mem _ hr', ht⟩
    | ok m' =>
      rcases List.mem_cons.1 hm with rfl | hm
      · exact ⟨r, by simp, hr m rfl⟩
      · obtain ⟨r', hr', ht⟩ := ih m hm
        exact ⟨r', List.mem_cons_of_mem _ hr', ht⟩

theorem nodup_succeeding (hn : (rules.map Rule.name).Nodup) (hlen : rules.length ≤ found.length) :
    (succeeding rules found).Nodup := by
  have hsub : (succeeding rules found).Sublist ((rules.zip found).map (·.1.name)) :=
    List.filter_sublist.map _
  have hall : (rules.zip found).map (·.1.name) = rules.map Rule.name := by
    rw [← List.map_fst_zip hlen, List.map_map, List.map_fst_zip hlen]
    rfl
  exact (hall ▸ hsub).nodup hn

theorem exists_succeeding {metric : String} (h : metric ∈ succeeding rules found) :
    ∃ r ∈ rules, r.name = metric := by
  obtain ⟨⟨r, o⟩, hr, rfl⟩ := List.mem_map.1 h
  exact ⟨r, (List.of_mem_zip (List.mem_filter.1 hr).1).1, rfl⟩

end Rule

namespace Registry

variable {r₀ r : Registry} {rules : List Rule}

/-! ## Sums of samples -/

/-- The samples of the metric of that name. -/
def samples (r : Registry) (metric : String) : List Sample :=
  (r.counters.filter (·.name = metric)).flatMap Counter.samples

/-- What the samples of a metric add up to. -/
def total (r : Registry) (metric : String) : ℕ := ((r.samples metric).map Sample.count).sum

theorem nodup_names_register (hr : register rules = .ok r₀) : (rules.map Rule.name).Nodup := by
  have hd := (isNew_register hr).distinct
  rwa [counters_register hr, List.map_map] at hd

theorem counting_append (r : Registry) (calls calls' : List Match) :
    r.counting (calls ++ calls') = (r.counting calls).counting calls' := List.foldl_append

theorem IsNew.samples_counting (h : r₀.IsNew) (calls : List Match) (metric : String) :
    (r₀.counting calls).samples metric =
      (r₀.counters.filter (·.name = metric)).flatMap fun c => samplesOf (c.valuesOf calls) := by
  rw [samples, counters_counting h, List.filter_map, List.flatMap_map]
  rfl

theorem IsNew.filter_name (h : r₀.IsNew) {c : Counter} (hc : c ∈ r₀.counters) :
    r₀.counters.filter (·.name = c.name) = [c] := by
  obtain ⟨before, after, hcs⟩ := List.append_of_mem hc
  have hd := h.distinct
  rw [hcs, List.map_append, List.map_cons, List.nodup_middle, List.nodup_cons, List.mem_append,
    not_or] at hd
  obtain ⟨⟨hbefore, hafter⟩, -⟩ := hd
  have hnone : ∀ cs : List Counter, c.name ∉ cs.map Counter.name →
      cs.filter (·.name = c.name) = [] := by
    intro cs hcs
    refine List.filter_eq_nil_iff.2 fun d hd he => hcs ?_
    exact List.mem_map.2 ⟨d, hd, of_decide_eq_true he⟩
  rw [hcs, List.filter_append, List.filter_cons_of_pos (by simp), hnone _ hbefore, hnone _ hafter]
  rfl

theorem IsNew.total_counting (h : r₀.IsNew) {c : Counter} (hc : c ∈ r₀.counters) {calls : List Match}
    (hlen : (c.valuesOf calls).length ≤ countLimit) :
    (r₀.counting calls).total c.name = (c.valuesOf calls).length := by
  rw [total, h.samples_counting, h.filter_name hc, List.flatMap_singleton, sum_samplesOf hlen]

theorem IsNew.length_valuesOf (h : r₀.IsNew) {c : Counter} (hc : c ∈ r₀.counters)
    {calls : List Match} (ht : ∀ m ∈ calls, r₀.Takes m) :
    (c.valuesOf calls).length = (calls.map Match.name).count c.name := by
  rw [Counter.valuesOf, List.length_map, ← List.countP_eq_length_filter, List.count, List.countP_map]
  refine List.countP_congr fun m hm => ?_
  simp only [decide_eq_true_eq, Function.comp_apply, beq_iff_eq]
  refine ⟨fun hcm => hcm.1.symm, fun hn => ?_⟩
  obtain ⟨d, hd, hdm⟩ := ht m hm
  rwa [h.eq_of_name hc hd (hn.symm.trans hdm.1.symm)]

/-- Calls that are taken and of which one is for a metric raise it by one, if it has counted few enough. -/
theorem IsNew.total_append (h : r₀.IsNew) {c : Counter} (hc : c ∈ r₀.counters)
    {calls calls' : List Match} (hlen : calls.length < countLimit) (ht : ∀ m ∈ calls', r₀.Takes m)
    (hone : (calls'.map Match.name).count c.name = 1) :
    (r₀.counting (calls ++ calls')).total c.name = (r₀.counting calls).total c.name + 1 := by
  have hbefore := c.length_valuesOf_le calls
  have hsum : (c.valuesOf (calls ++ calls')).length = (c.valuesOf calls).length + 1 := by
    rw [Counter.valuesOf_append, List.length_append, h.length_valuesOf hc ht, hone]
  rw [h.total_counting hc (by omega), h.total_counting hc (by omega), hsum]

/-- Calls of other metrics leave the samples of a metric alone. -/
theorem IsNew.samples_append (h : r₀.IsNew) (calls : List Match) {calls' : List Match}
    {metric : String} (hm : metric ∉ calls'.map Match.name) :
    (r₀.counting (calls ++ calls')).samples metric = (r₀.counting calls).samples metric := by
  rw [h.samples_counting, h.samples_counting]
  refine List.flatMap_congr fun c hc => ?_
  have hnone : c.valuesOf calls' = [] := by
    refine List.map_eq_nil_iff.2 (List.filter_eq_nil_iff.2 fun m hcall ht => hm ?_)
    have hname : m.name = metric :=
      (of_decide_eq_true ht).1.symm.trans (of_decide_eq_true (List.mem_filter.1 hc).2)
    exact List.mem_map.2 ⟨m, hcall, hname⟩
  rw [Counter.valuesOf_append, hnone, List.append_nil]

/-- A call that is taken has a counter that finds the values for its labels. -/
theorem IsNew.exists_values (h : r₀.IsNew) (calls : List Match) {m : Match} (ht : r₀.Takes m) :
    ∃ c ∈ (r₀.counting calls).counters, c.name = m.name ∧ (c.values? m.labels).isSome := by
  obtain ⟨c, hc, hn, hk⟩ := ht
  refine ⟨c.counting calls, ?_, hn, ?_⟩
  · rw [counters_counting h]
    exact List.mem_map_of_mem hc
  · have hs : (c.counting calls).labelNames.Pairwise (· < ·) := h.sorted c hc
    have hk' : m.labels.keys = (c.counting calls).labelNames := hk
    rw [Counter.values?_eq hs, if_pos hk']
    rfl

/-! ## Events -/

/-- Evaluates the rules on an event and counts their matches; also gives the number of matches. -/
def process (rules : List Rule) (event : Event) (r : Registry) : Lookup (Registry × ℕ) := do
  let found ← Rule.evaluateAll event rules
  return (r.counting found, found.length)

/-- The pods that are known are one way to answer the lookups, and then the matches are those that a task
for the event counts. -/
theorem run_process (known : Directory) (rules : List Rule) (event : Event) (r : Registry) :
    let found := (processEvent known rules event).filterMap Effect.match?
    (process rules event r).run known = (r.counting found, found.length) := by
  intro found
  rw [process, Dialogue.run_bind, ← matches_processEvent]
  rfl

/-- The registry is reached from a new one by processing events, with so many matches in all, whatever
the lookups of pods gave. -/
inductive Processed (rules : List Rule) (r₀ : Registry) : Registry → ℕ → Prop
  | start : Processed rules r₀ r₀ 0
  | event {r : Registry} {n : ℕ} (h : Processed rules r₀ r n) (event : Event) {σ : Type}
      (fetch : PodName → σ → Except LookupError Pod × σ) (s : σ) :
      Processed rules r₀ ((process rules event r).runState fetch s).1.1
        (n + ((process rules event r).runState fetch s).1.2)

theorem Processed.counting {n : ℕ} (h : Processed rules r₀ r n) :
    ∃ calls, r = r₀.counting calls ∧ calls.length = n := by
  induction h with
  | start => exact ⟨[], rfl, rfl⟩
  | event h event fetch s ih =>
    obtain ⟨calls, rfl, rfl⟩ := ih
    refine ⟨calls ++ ((Rule.evaluateAll event rules).runState fetch s).1, ?_, ?_⟩
    · rw [process, Dialogue.runState_bind, Dialogue.runState_pure, counting_append]
    · rw [process, Dialogue.runState_bind, Dialogue.runState_pure, List.length_append]

/-- No match is lost on its way to its counter. Processing an event raises the metrics of the rules that
succeed by one each and leaves the samples of all other metrics as they are, and it gives the number of
the metrics that are raised; each match finds a counter of its name, and this counter finds the values
for its labels. -/
theorem process_counts (hr : register rules = .ok r₀) {n : ℕ} (hp : Processed rules r₀ r n)
    (hn : n < countLimit) (event : Event) {σ : Type}
    (fetch : PodName → σ → Except LookupError Pod × σ) (s : σ) :
    let found := ((Rule.outcomes event rules).runState fetch s).1
    let after := ((process rules event r).runState fetch s).1
    found.length = rules.length ∧
    (∀ metric ∈ Rule.succeeding rules found, after.1.total metric = r.total metric + 1) ∧
    (∀ metric ∉ Rule.succeeding rules found, after.1.samples metric = r.samples metric) ∧
    (Rule.succeeding rules found).Nodup ∧ after.2 = (Rule.succeeding rules found).length ∧
    ∀ before m rest, found.filterMap Except.toOption = before ++ m :: rest →
      ∃ c ∈ (r.counting before).counters, c.name = m.name ∧ (c.values? m.labels).isSome := by
  intro found after
  obtain ⟨calls, rfl, rfl⟩ := hp.counting
  have hnew := isNew_register hr
  have hcounters : r₀.counters = rules.map Rule.counter := counters_register hr
  have hall := (Rule.outcomes_fit event rules).runState fetch s
  have hnames := Rule.names_matches hall
  have hafter : after = (r₀.counting (calls ++ found.filterMap Except.toOption),
      (found.filterMap Except.toOption).length) := by
    simp only [after, process, Dialogue.runState_bind, Dialogue.runState_pure, counting_append,
      Rule.evaluateAll_runState]
    rfl
  have htakes : ∀ m ∈ found.filterMap Except.toOption, r₀.Takes m := by
    intro m hm
    obtain ⟨rule, hrule, ht⟩ := Rule.takes_matches hall m hm
    exact ⟨rule.counter, hcounters ▸ List.mem_map_of_mem hrule, ht⟩
  -- registration refuses a second metric of a name, so no metric is raised twice
  have hnodup : (Rule.succeeding rules found).Nodup :=
    Rule.nodup_succeeding (nodup_names_register hr) hall.length_eq.le
  refine ⟨hall.length_eq.symm, fun metric hm => ?_, fun metric hm => ?_, hnodup, ?_, ?_⟩
  · obtain ⟨rule, hrule, rfl⟩ := Rule.exists_succeeding hm
    have hc : rule.counter ∈ r₀.counters := hcounters ▸ List.mem_map_of_mem hrule
    have hone : ((found.filterMap Except.toOption).map Match.name).count rule.counter.name = 1 := by
      rw [hnames]
      exact List.count_eq_one_of_mem hnodup hm
    rw [hafter]
    exact hnew.total_append hc hn htakes hone
  · rw [hafter]
    exact hnew.samples_append calls (hnames ▸ hm)
  · rw [hafter, ← hnames, List.length_map]
  · intro before m rest hsplit
    rw [← counting_append]
    exact hnew.exists_values _ (htakes m (by rw [hsplit]; simp))

def nodeDefinitions : List Definition :=
  [{ name := "pods_total", labels := .ofList [("name", "InvolvedObject.Name")] },
    { name := "nodes_total", labels := .ofList [("node", "Object.Spec.NodeName")] }]

def nodeRules : List Rule :=
  [⟨"pods_total", [], .ofList [("name", .direct "InvolvedObject.Name")]⟩,
    ⟨"nodes_total", [], .ofList [("node", .related "Spec.NodeName")]⟩]

def nodeRegistry : Registry := ⟨[⟨"pods_total", ["name"], []⟩, ⟨"nodes_total", ["node"], []⟩]⟩

def podEvent (name : String) : Event := { involvedObject := { kind := "Pod", name } }

/-- Finds no pod, and keeps the number of lookups. -/
def findNone (pod : PodName) (asked : ℕ) : Except LookupError Pod × ℕ :=
  (.error (.notFound pod), asked + 1)

theorem podEvent_counted :
    Rule.compile nodeDefinitions = .ok nodeRules ∧ ∃ r₀ r, register nodeRules = .ok r₀ ∧
      Processed nodeRules r₀ r 1 ∧
      let after := ((process nodeRules (podEvent "web-2") r).runState findNone 1).1
      after.1.total "pods_total" = r.total "pods_total" + 1 ∧
        after.1.samples "nodes_total" = r.samples "nodes_total" ∧ after.2 = 1 := by
  have hr : register nodeRules = .ok nodeRegistry := rfl
  have hp : Processed nodeRules nodeRegistry _ _ := .event .start (podEvent "web-1") findNone 0
  have hone : ((process nodeRules (podEvent "web-1") nodeRegistry).runState findNone 0).1.2 = 1 := by
    decide +kernel
  rw [hone] at hp
  have hsucceed : Rule.succeeding nodeRules
      ((Rule.outcomes (podEvent "web-2") nodeRules).runState findNone 1).1 = ["pods_total"] := by
    decide +kernel
  have hcounts := process_counts hr hp (by decide) (podEvent "web-2") findNone 1
  simp only [hsucceed] at hcounts
  obtain ⟨-, hraised, hsame, -, hnumber, -⟩ := hcounts
  exact ⟨by rfl, _, _, hr, hp, hraised _ (by simp), hsame _ (by decide), hnumber⟩

end Registry
end EventTally
