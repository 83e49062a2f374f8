import EventTally.Proofs.Characters
import EventTally.Proofs.Validation

/-! What a rule gives. Its matchers are tried in order, and the first that is at fault decides; behind
them its labels take their values in order, and again the first that has none decides. The pod is looked
up anew for each label that needs it, and for no label behind the first that fails. -/

namespace EventTally

/-! ## What matchers and labels give -/

/-- What is wrong with a matcher on an event: there is no text at its key, or its expression does not match
the text there. -/
def Matcher.fault? (event : View) (m : Matcher) : Option EvalError :=
  match event.resolve m.key with
  | .error e => some (.field m.key e)
  | .ok text =>
    match m.expression with
    | none => none
    | some e =>
      if ((Regex.compile? e).bind (·.captures? text)).isSome then none else some (.noMatch m.key)

/-- The text of a group in the match of the expression for a key. It is empty if the group took no part. -/
def Matcher.groupText? (event : View) (ms : List Matcher) (key : String) (index : ℕ) :
    Option String := do
  let m ← ms.find? (·.key = key)
  let r ← m.expression.bind Regex.compile?
  let text ← (event.resolve key).toOption
  let found ← r.captures? text
  let group ← found[index]?
  return group.getD ""

namespace LabelSource

/-- The value of a label, if a lookup of the pod that the event is about gives this. -/
def value (event : Event) (ms : List Matcher) (found : Except LookupError Pod) :
    LabelSource → Except LabelError String
  | direct path => (event.view.resolve path).mapError .path
  | submatch key index =>
    (Matcher.groupText? event.view ms key index).elim (.error (.missingSubmatch key index)) .ok
  | related path =>
    if event.involvedObject.kind = "Pod" then do
      let pod ← found.mapError .lookup
      (pod.view.resolve path).mapError .path
    else .error (.unsupportedKind event.involvedObject.kind)

def isRelated : LabelSource → Bool
  | related _ => true
  | _ => false

end LabelSource

/-- Where the labels get their values from, in the order of their names. -/
def Definition.sources (d : Definition) : List (String × LabelSource) :=
  d.labels.entries.map fun l => (l.1, .classify l.2)

namespace Rule

def podOf (event : Event) : PodName := ⟨event.involvedObject.namespace_, event.involvedObject.name⟩

/-- How many lookups labels need. No pod is looked up for an event about another kind of object. -/
def lookups (event : Event) (labels : List (String × LabelSource)) : ℕ :=
  if event.involvedObject.kind = "Pod" then labels.countP (·.2.isRelated) else 0

/-- What the lookups of a pod give, one after the other. -/
def answersFrom {σ : Type} (fetch : PodName → σ → Except LookupError Pod × σ) (pod : PodName) (s : σ) :
    ℕ → Except LookupError Pod
  | 0 => (fetch pod s).1
  | n + 1 => answersFrom fetch pod (fetch pod s).2 n

/-- What each label gives by itself. It gets the answer behind those of the labels before it. -/
def labelOutcomes (event : Event) (ms : List Matcher) (answers : ℕ → Except LookupError Pod)
    (labels : List (String × LabelSource)) : List (String × Except LabelError String) :=
  labels.mapIdx fun i label =>
    (label.1, label.2.value event ms (answers (lookups event (labels.take i))))

/-! ## Matchers -/

/-- The matchers have the expressions that they were given. -/
def Compiled (matchers : List (Matcher × Option Regex)) : Prop :=
  ∀ x ∈ matchers, x.1.expression.map Regex.compile? = x.2.map some

/-- The expression of a key is that of the first matcher for it. -/
theorem expression_of_compiled {matchers : List (Matcher × Option Regex)} (hc : Compiled matchers)
    (key : String) :
    (((matchers.map Prod.fst).find? (·.key = key)).bind Matcher.expression).map Regex.compile? =
      (expressionIn? matchers key).map some := by
  have hfirst : (matchers.map Prod.fst).find? (·.key = key) =
      (matchers.find? (·.1.key = key)).map Prod.fst := List.find?_map ..
  rw [hfirst, expressionIn?]
  cases hx : matchers.find? (·.1.key = key) with
  | none => rfl
  | some x => exact hc x (List.mem_of_find?_eq_some hx)

theorem compileMatchers_cons {metric : String} {seen : List String} {m : Matcher} {ms : List Matcher}
    {matchers : List (Matcher × Option Regex)}
    (h : compileMatchers metric seen (m :: ms) = .ok matchers) :
    ∃ regex rest, m.expression.map Regex.compile? = regex.map some ∧
      compileMatchers metric (m.key :: seen) ms = .ok rest ∧ matchers = (m, regex) :: rest := by
  unfold compileMatchers at h
  obtain ⟨-, h⟩ := guard_eq_ok.1 h
  cases he : m.expression with
  | none =>
    simp only [he] at h
    obtain ⟨regex, hregex, h⟩ := bind_eq_ok.1 h
    obtain rfl := pure_eq_ok.1 hregex
    obtain ⟨rest, hrest, h⟩ := bind_eq_ok.1 h
    exact ⟨none, rest, rfl, hrest, (pure_eq_ok.1 h).symm⟩
  | some e =>
    cases hr : Regex.compile? e with
    | none =>
      simp only [he, hr] at h
      cases h
    | some r =>
      simp only [he, hr] at h
      obtain ⟨regex, hregex, h⟩ := bind_eq_ok.1 h
      obtain rfl := pure_eq_ok.1 hregex
      obtain ⟨rest, hrest, h⟩ := bind_eq_ok.1 h
      exact ⟨some r, rest, congrArg some hr, hrest, (pure_eq_ok.1 h).symm⟩

theorem compileMatchers_ok {metric : String} {seen : List String} {ms : List Matcher}
    {matchers : List (Matcher × Option Regex)} (h : compileMatchers metric seen ms = .ok matchers) :
    matchers.map Prod.fst = ms ∧ Compiled matchers := by
  induction ms generalizing seen matchers with
  | nil =>
    cases h
    simp [Compiled]
  | cons m ms ih =>
    obtain ⟨regex, rest, hregex, hrest, rfl⟩ := compileMatchers_cons h
    obtain ⟨hms, hc⟩ := ih hrest
    exact ⟨by rw [List.map_cons, hms], List.forall_mem_cons.2 ⟨hregex, hc⟩⟩

theorem compileLabels_ok {metric : String} {matchers : List (Matcher × Option Regex)}
    {specs : List (String × String)} {labels : List (String × LabelSource)}
    (h : compileLabels metric matchers specs = .ok labels) :
    labels = specs.map fun l => (l.1, .classify l.2) := by
  induction specs generalizing labels with
  | nil =>
    cases h
    rfl
  | cons spec specs ih =>
    unfold compileLabels at h
    obtain ⟨⟨⟩, -, h⟩ := bind_eq_ok.1 h
    obtain ⟨rest, hrest, h⟩ := bind_eq_ok.1 h
    obtain rfl := pure_eq_ok.1 h
    rw [ih hrest, List.map_cons]

theorem ofDefinition_ok {d : Definition} {r : Rule} (h : ofDefinition d = .ok r) :
    r.name = d.name ∧ r.matchers.map Prod.fst = d.matchers ∧ r.labels.entries = d.sources ∧
      Compiled r.matchers := by
  obtain ⟨matchers, hm, h⟩ := bind_eq_ok.1 h
  obtain ⟨labels, hl, h⟩ := bind_eq_ok.1 h
  obtain rfl := pure_eq_ok.1 h
  obtain ⟨hms, hc⟩ := compileMatchers_ok hm
  obtain rfl := compileLabels_ok hl
  exact ⟨rfl, hms, StringMap.entries_ofList (List.pairwise_map.2 d.labels.sorted), hc⟩

variable {event : View} {matchers : List (Matcher × Option Regex)}

/-- The fault of a matcher whose key leads to a text, told from its compiled expression. -/
theorem fault?_of_resolve {m : Matcher} {regex : Option Regex} {text : String}
    (h : m.expression.map Regex.compile? = regex.map some) (ht : event.resolve m.key = .ok text) :
    m.fault? event = regex.bind fun r =>
      if (r.captures? text).isSome then none else some (.noMatch m.key) := by
  simp only [Matcher.fault?, ht]
  cases he : m.expression with
  | none =>
    rw [he] at h
    cases regex with
    | none => rfl
    | some r => cases h
  | some e =>
    rw [he] at h
    cases regex with
    | none => cases h
    | some r => simp only [Option.some.inj h, Option.bind_some]

/-- The first matcher that is at fault decides. -/
theorem passMatchers_error_iff (hc : Compiled matchers) {e : EvalError} :
    passMatchers event matchers = .error e ↔
      (matchers.map Prod.fst).findSome? (·.fault? event) = some e := by
  induction matchers with
  | nil => simp [passMatchers]
  | cons x matchers ih =>
    obtain ⟨m, regex⟩ := x
    obtain ⟨hx, hrest⟩ := List.forall_mem_cons.1 hc
    rw [passMatchers_cons, List.map_cons, List.findSome?_cons]
    cases ht : event.resolve m.key with
    | error e => simp [Matcher.fault?, ht]
    | ok text =>
      rw [fault?_of_resolve hx ht]
      cases regex with
      | none => exact ih hrest
      | some r =>
        cases hf : r.captures? text with
        | none => simp [hf]
        | some found => simpa [hf] using map_eq_error.trans (ih hrest)

/-- A group that a label takes is the one that was recorded. -/
theorem submatch?_eq {s : Submatches} (hc : Compiled matchers)
    (h : passMatchers event matchers = .ok s) {key : String} {index : ℕ}
    (hb : Backed matchers (.submatch key index)) :
    submatch? s key index = Matcher.groupText? event (matchers.map Prod.fst) key index := by
  obtain ⟨r, he, -⟩ := hb
  obtain ⟨text, found, ht, hf, hl⟩ := lookup_passMatchers h he
  have hregex := expression_of_compiled hc key
  rw [he, Option.map_some, Option.map_eq_some_iff] at hregex
  obtain ⟨e, hexpr, hr⟩ := hregex
  obtain ⟨m, hfirst, hexpr⟩ := Option.bind_eq_some_iff.1 hexpr
  have hgroup : Matcher.groupText? event (matchers.map Prod.fst) key index =
      found[index]?.map (·.getD "") := by
    rw [Matcher.groupText?, hfirst, Option.bind_eq_bind, Option.bind_some, hexpr, Option.bind_some, hr]
    simp only [ht, hf, Except.toOption, Option.bind_eq_bind, Option.bind_some]
    cases found[index]? <;> rfl
  rw [hgroup, submatch?, hl, Option.bind_some, List.getElem?_map]

/-! ## Labels -/

section

variable {σ : Type} (fetch : PodName → σ → Except LookupError Pod × σ) {event : Event}
  {ms : List Matcher} {answers : ℕ → Except LookupError Pod} {s : Submatches}

theorem lookups_cons (event : Event) (label : String × LabelSource)
    (labels : List (String × LabelSource)) :
    lookups event (label :: labels) = lookups event [label] + lookups event labels := by
  unfold lookups
  split
  · rw [List.countP_cons, List.countP_singleton, Nat.add_comm]
  · rfl

theorem labelOutcomes_cons (label : String × LabelSource) (labels : List (String × LabelSource)) :
    labelOutcomes event ms answers (label :: labels) =
      (label.1, label.2.value event ms (answers 0)) ::
        labelOutcomes event ms (fun n => answers (lookups event [label] + n)) labels := by
  have hnone : lookups event [] = 0 := by simp [lookups]
  have hlater : ∀ i, lookups event ((label :: labels).take (i + 1)) =
      lookups event [label] + lookups event (labels.take i) := by
    intro i
    rw [List.take_succ_cons, lookups_cons]
  rw [labelOutcomes, List.mapIdx_cons, List.take_zero, hnone]
  simp only [hlater]
  rfl

/-- The value of a label is looked up with at most one lookup, if it needs the pod. -/
theorem runState_labelValue (label : String × LabelSource)
    (hs : ∀ key index, label.2 = .submatch key index →
      submatch? s key index = Matcher.groupText? event.view ms key index) (t : σ) (log : List PodName) :
    ∃ t', (labelValue event s label.2).runState (Dialogue.recorded fetch) (t, log) =
        (label.2.value event ms (fetch (podOf event) t).1, t',
          log ++ List.replicate (lookups event [label]) (podOf event)) ∧
      ∀ n, answersFrom fetch (podOf event) t (lookups event [label] + n) =
        answersFrom fetch (podOf event) t' n := by
  obtain ⟨name, source⟩ := label
  cases source with
  | direct path =>
    have hnone : lookups event [(name, .direct path)] = 0 := by simp [lookups, LabelSource.isRelated]
    rw [hnone]
    exact ⟨t, by simp [labelValue, LabelSource.value], fun n => by rw [Nat.zero_add]⟩
  | submatch key index =>
    have hnone : lookups event [(name, .submatch key index)] = 0 := by
      simp [lookups, LabelSource.isRelated]
    rw [hnone]
    refine ⟨t, ?_, fun n => by rw [Nat.zero_add]⟩
    simp [labelValue, LabelSource.value, hs key index rfl]
  | related path =>
    by_cases hk : event.involvedObject.kind = "Pod"
    · have hone : lookups event [(name, .related path)] = 1 := by
        simp [lookups, hk, LabelSource.isRelated]
      rw [hone]
      refine ⟨(fetch (podOf event) t).2, ?_, fun n => by rw [Nat.add_comm, answersFrom]⟩
      have hpod : (relatedPod event).runState (Dialogue.recorded fetch) (t, log) =
          ((fetch (podOf event) t).1.mapError .lookup, (fetch (podOf event) t).2,
            log ++ [podOf event]) := by
        rw [relatedPod, if_pos hk]
        rfl
      simp only [labelValue, Dialogue.runState_bind, hpod, LabelSource.value, if_pos hk]
      cases (fetch (podOf event) t).1 <;> rfl
    · have hnone : lookups event [(name, .related path)] = 0 := by simp [lookups, hk]
      rw [hnone]
      refine ⟨t, ?_, fun n => by rw [Nat.zero_add]⟩
      simp [labelValue, relatedPod, hk, LabelSource.value]

/-- The first label without a value decides. -/
def collect : List (String × Except LabelError String) → Except EvalError (List (String × String))
  | [] => .ok []
  | (name, .error e) :: _ => .error (.label name e)
  | (name, .ok text) :: rest => (collect rest).map ((name, text) :: ·)

/-- The outcomes up to the first failure, with it. -/
def reached (outcomes : List (String × Except LabelError String)) : ℕ :=
  (outcomes.takeWhile (·.2.isOk)).length + 1

theorem reached_ok (name text : String) (outcomes : List (String × Except LabelError String)) :
    reached ((name, .ok text) :: outcomes) = reached outcomes + 1 := rfl

theorem runState_labelValues {labels : List (String × LabelSource)}
    (hs : ∀ label ∈ labels, ∀ key index, label.2 = .submatch key index →
      submatch? s key index = Matcher.groupText? event.view ms key index) (t : σ) (log : List PodName) :
    let outcomes := labelOutcomes event ms (answersFrom fetch (podOf event) t) labels
    ∃ t', (labelValues event s labels).runState (Dialogue.recorded fetch) (t, log) =
      (collect outcomes, t',
        log ++ List.replicate (lookups event (labels.take (reached outcomes))) (podOf event)) := by
  induction labels generalizing t log with
  | nil => exact ⟨t, by simp [labelValues, labelOutcomes, collect, lookups]⟩
  | cons label labels ih =>
    obtain ⟨hlabel, hlabels⟩ := List.forall_mem_cons.1 hs
    obtain ⟨t₁, hfirst, hanswers⟩ := runState_labelValue fetch label hlabel t log
    intro outcomes
    have houtcomes : outcomes = (label.1, label.2.value event ms (fetch (podOf event) t).1) ::
        labelOutcomes event ms (answersFrom fetch (podOf event) t₁) labels := by
      simp only [outcomes, labelOutcomes_cons, hanswers]
      rfl
    rw [houtcomes, labelValues]
    simp only [Dialogue.runState_bind, hfirst]
    cases hv : label.2.value event ms (fetch (podOf event) t).1 with
    | error e => exact ⟨t₁, by simp [collect, reached, Except.isOk, Except.toBool]⟩
    | ok text =>
      obtain ⟨t₂, hrest⟩ := ih hlabels t₁ (log ++ List.replicate (lookups event [label]) (podOf event))
      refine ⟨t₂, ?_⟩
      simp only [Dialogue.runState_bind, hrest, Dialogue.runState_pure]
      rw [reached_ok, List.take_succ_cons, lookups_cons event label (labels.take _), List.replicate_add,
        List.append_assoc]
      rfl

end

theorem collect_ok_iff {outcomes : List (String × Except LabelError String)}
    {values : List (String × String)} :
    collect outcomes = .ok values ↔ outcomes = values.map fun v => (v.1, .ok v.2) := by
  induction outcomes generalizing values with
  | nil => cases values <;> simp [collect]
  | cons outcome rest ih =>
    obtain ⟨name, e | text⟩ := outcome
    · cases values <;> simp [collect]
    · rw [collect, map_eq_ok]
      cases values with
      | nil => simp
      | cons v values => simp [ih, and_comm, Prod.ext_iff]

theorem collect_error_iff {outcomes : List (String × Except LabelError String)} {e : EvalError} :
    collect outcomes = .error e ↔ ∃ before name fault after,
      outcomes = before ++ (name, .error fault) :: after ∧ (∀ o ∈ before, o.2.isOk) ∧
        e = .label name fault := by
  induction outcomes with
  | nil => simp [collect]
  | cons outcome rest ih =>
    obtain ⟨name, fault | text⟩ := outcome
    · constructor
      · intro h
        cases h
        exact ⟨[], name, fault, rest, rfl, by simp, rfl⟩
      · rintro ⟨_ | ⟨o, before⟩, name', fault', after, h, hok, rfl⟩
        · cases h
          rfl
        · cases h
          exact absurd (hok _ List.mem_cons_self) (by simp [Except.isOk, Except.toBool])
    · rw [collect, map_eq_error, ih]
      constructor
      · rintro ⟨before, name', fault, after, rfl, hok, rfl⟩
        exact ⟨(name, .ok text) :: before, name', fault, after, rfl, List.forall_mem_cons.2 ⟨rfl, hok⟩, rfl⟩
      · rintro ⟨_ | ⟨o, before⟩, name', fault, after, h, hok, rfl⟩
        · cases h
        · cases h
          exact ⟨before, name', fault, after, rfl, (List.forall_mem_cons.1 hok).2, rfl⟩

/-! ## Rules -/

section

variable {r : Rule} {event : Event} {σ : Type} (fetch : PodName → σ → Except LookupError Pod × σ) {t : σ}

theorem runState_evaluate_fault (hc : Compiled r.matchers) {e : EvalError}
    (he : (r.matchers.map Prod.fst).findSome? (·.fault? event.view) = some e) :
    (r.evaluate event).runState (Dialogue.recorded fetch) (t, []) = (.error e, t, []) := by
  rw [evaluate, (passMatchers_error_iff hc).2 he]
  rfl

theorem runState_evaluate_labels (hc : Compiled r.matchers)
    (hb : ∀ label ∈ r.labels.entries, Backed r.matchers label.2)
    (hn : (r.matchers.map Prod.fst).findSome? (·.fault? event.view) = none) :
    let outcomes := labelOutcomes event (r.matchers.map Prod.fst) (answersFrom fetch (podOf event) t)
      r.labels.entries
    ∃ t', (r.evaluate event).runState (Dialogue.recorded fetch) (t, []) =
      ((collect outcomes).map fun values => ⟨r.name, .ofList values⟩, t',
        List.replicate (lookups event (r.labels.entries.take (reached outcomes))) (podOf event)) := by
  intro outcomes
  cases hp : passMatchers event.view r.matchers with
  | error e =>
    rw [(passMatchers_error_iff hc).1 hp] at hn
    cases hn
  | ok s =>
    have hs : ∀ label ∈ r.labels.entries, ∀ key index, label.2 = .submatch key index →
        submatch? s key index =
          Matcher.groupText? event.view (r.matchers.map Prod.fst) key index := by
      intro label hl key index he
      exact submatch?_eq hc hp (he ▸ hb label hl)
    obtain ⟨t', hvalues⟩ := runState_labelValues fetch hs t []
    refine ⟨t', ?_⟩
    simp only [evaluate, hp, Dialogue.runState_bind, hvalues, List.nil_append, Dialogue.runState_pure]
    rfl

theorem map_fst_labelOutcomes (event : Event) (ms : List Matcher)
    (answers : ℕ → Except LookupError Pod) (labels : List (String × LabelSource)) :
    (labelOutcomes event ms answers labels).map Prod.fst = labels.map Prod.fst := by
  induction labels generalizing answers with
  | nil => rfl
  | cons label labels ih => rw [labelOutcomes_cons, List.map_cons, ih, List.map_cons]

/-- The match whose labels have these values is the one that is made of them. -/
theorem collect_match_iff {outcomes : List (String × Except LabelError String)} {name : String}
    (hsorted : (outcomes.map Prod.fst).Pairwise (· < ·)) {m : Match} :
    ((collect outcomes).map fun values => (⟨name, .ofList values⟩ : Match)) = .ok m ↔
      m.name = name ∧ outcomes = m.labels.entries.map fun l => (l.1, .ok l.2) := by
  rw [map_eq_ok]
  constructor
  · rintro ⟨values, hv, rfl⟩
    rw [collect_ok_iff] at hv
    have hpairs : values.Pairwise (·.1 < ·.1) := by
      rw [hv, List.map_map] at hsorted
      exact List.pairwise_map.1 hsorted
    exact ⟨rfl, by rw [StringMap.entries_ofList hpairs, hv]⟩
  · rintro ⟨rfl, hv⟩
    exact ⟨m.labels.entries, collect_ok_iff.2 hv, by rw [StringMap.ofList_entries]⟩

theorem collect_isOk {outcomes : List (String × Except LabelError String)} :
    (collect outcomes).isOk ↔ ∀ o ∈ outcomes, o.2.isOk := by
  induction outcomes with
  | nil => exact iff_of_true rfl (by simp)
  | cons outcome rest ih =>
    obtain ⟨name, fault | text⟩ := outcome
    · exact iff_of_false Bool.false_ne_true fun h => Bool.false_ne_true (h _ List.mem_cons_self)
    · have hmap : ((collect rest).map ((name, text) :: ·)).isOk = (collect rest).isOk := by
        cases collect rest <;> rfl
      have hok : (name, Except.ok (ε := LabelError) text).2.isOk := rfl
      rw [collect, hmap, ih, List.forall_mem_cons, and_iff_right hok]

end

/-- What the matchers and the labels of a definition come to on an event, where each label has its outcome:
what is found, and which pods are looked up for it. -/
structure Pipelines (d : Definition) (event : Event) (outcomes : List (String × Except LabelError String))
    (found : Except EvalError Match) (lookedUp : List PodName) : Prop where
  isOk_iff : found.isOk ↔ (∀ x ∈ d.matchers, x.fault? event.view = none) ∧ ∀ o ∈ outcomes, o.2.isOk
  /-- A match has the outcomes of all labels as their values. -/
  ofMatch : ∀ m, found = .ok m → m.name = d.name ∧ outcomes = m.labels.entries.map fun l => (l.1, .ok l.2)
  /-- The first fault of a matcher is the error, and behind matchers that all pass the first failure of a
  label. -/
  error_iff : ∀ e, found = .error e ↔
    (∃ before x after, d.matchers = before ++ x :: after ∧ x.fault? event.view = some e ∧
      ∀ y ∈ before, y.fault? event.view = none) ∨
    (∀ x ∈ d.matchers, x.fault? event.view = none) ∧ ∃ before name fault after,
      outcomes = before ++ (name, .error fault) :: after ∧ (∀ o ∈ before, o.2.isOk) ∧
        e = .label name fault
  names : outcomes.map Prod.fst = d.labels.keys
  order : (d.labels.keys.map Utf8.encode).Pairwise (· < ·)
  ofFault : (∃ x ∈ d.matchers, x.fault? event.view ≠ none) → lookedUp = []
  /-- One lookup for each label that needs the pod, up to the first failure. -/
  ofPass : (∀ x ∈ d.matchers, x.fault? event.view = none) →
    lookedUp = List.replicate (lookups event (d.sources.take (reached outcomes))) (podOf event)

section

variable {d : Definition} {event : Event} {outcomes : List (String × Except LabelError String)}

theorem sorted_encode (d : Definition) : (d.labels.keys.map Utf8.encode).Pairwise (· < ·) :=
  List.pairwise_map.2 (List.pairwise_map.2 (d.labels.sorted.imp Utf8.encode_lt))

theorem pipelines_of_fault (hnames : outcomes.map Prod.fst = d.labels.keys) {e : EvalError}
    (he : d.matchers.findSome? (·.fault? event.view) = some e) :
    Pipelines d event outcomes (.error e) [] := by
  have hsome : ¬ ∀ x ∈ d.matchers, x.fault? event.view = none := by
    rw [← List.findSome?_eq_none_iff, he]
    simp
  refine ⟨iff_of_false Bool.false_ne_true fun hn => hsome hn.1, fun m hm => ?_, fun e' => ?_, hnames,
    sorted_encode d, fun _ => rfl, fun hn => absurd hn hsome⟩
  · cases hm
  · rw [Except.error.injEq, ← List.findSome?_eq_some_iff, he, Option.some.injEq, or_iff_left]
    exact fun hn => hsome hn.1

theorem pipelines_of_pass (hnames : outcomes.map Prod.fst = d.labels.keys)
    (hn : d.matchers.findSome? (·.fault? event.view) = none) :
    Pipelines d event outcomes ((collect outcomes).map fun values => ⟨d.name, .ofList values⟩)
      (List.replicate (lookups event (d.sources.take (reached outcomes))) (podOf event)) := by
  have hnone := List.findSome?_eq_none_iff.1 hn
  have hsorted : (outcomes.map Prod.fst).Pairwise (· < ·) := by
    rw [hnames]
    exact List.pairwise_map.2 d.labels.sorted
  refine ⟨?_, fun m hm => (collect_match_iff hsorted).1 hm, fun e => ?_, hnames, sorted_encode d,
    fun ⟨x, hx, hne⟩ => absurd (hnone x hx) hne, fun _ => rfl⟩
  · rw [and_iff_right hnone, ← collect_isOk]
    cases collect outcomes <;> rfl
  · rw [map_eq_error, collect_error_iff, and_iff_right hnone, ← List.findSome?_eq_some_iff, hn,
      or_iff_right (Option.some_ne_none e).symm]

end

/-- A rule that was compiled is made from a definition, and comes to what the matchers and the labels of the
definition come to, on any event and with any answers to the lookups. -/
theorem evaluate_pipelines {ds : List Definition} {rules : List Rule} (h : compile ds = .ok rules)
    {r : Rule} (hr : r ∈ rules) (event : Event) {σ : Type}
    (fetch : PodName → σ → Except LookupError Pod × σ) (t : σ) :
    ∃ d ∈ ds, ofDefinition d = .ok r ∧
      let outcomes := labelOutcomes event d.matchers (answersFrom fetch (podOf event) t) d.sources
      let ran := (r.evaluate event).runState (Dialogue.recorded fetch) (t, [])
      Pipelines d event outcomes ran.1 ran.2.2 := by
  obtain ⟨d, hd, hof⟩ := exists_ofDefinition h r hr
  obtain ⟨hname, hms, hlabels, hc⟩ := ofDefinition_ok hof
  refine ⟨d, hd, hof, ?_⟩
  intro outcomes ran
  have hnames : outcomes.map Prod.fst = d.labels.keys := by
    rw [map_fst_labelOutcomes, Definition.sources, List.map_map]
    rfl
  cases hf : d.matchers.findSome? (·.fault? event.view) with
  | some e =>
    have hran : ran = (.error e, t, []) := runState_evaluate_fault fetch hc (hms ▸ hf)
    rw [hran]
    exact pipelines_of_fault hnames hf
  | none =>
    obtain ⟨t', hran⟩ :=
      runState_evaluate_labels fetch (t := t) hc (ofDefinition_backed hof) (hms ▸ hf)
    rw [hms, hlabels, hname] at hran
    change ran = _ at hran
    rw [hran]
    exact pipelines_of_pass hnames hf

/-- Labels that need the pod, on both sides of one that does not. -/
def pulledOnNode : Definition where
  name := "pulls_total"
  matchers := [{ key := "Message" }]
  labels := .ofList [("a_node", "Object.Spec.NodeName"), ("b_text", "Message"),
    ("c_phase", "Object.Status.Phase"), ("d_node", "Object.Spec.NodeName")]

def pulled : Event where
  message := "Pulled nginx"
  involvedObject := { kind := "Pod", namespace_ := "shop", name := "web-1" }

/-- Finds the pod once. -/
def findOnce (pod : PodName) (found : Bool) : Except LookupError Pod × Bool :=
  (if found then .error (.notFound pod) else .ok { spec := { nodeName := "node-1" } }, true)

theorem pulledOnNode_stops :
    ∃ rules r, compile [pulledOnNode] = .ok rules ∧ r ∈ rules ∧
      let ran := (r.evaluate pulled).runState (Dialogue.recorded findOnce) (false, [])
      ran.1 = .error (.label "c_phase" (.lookup (.notFound ⟨"shop", "web-1"⟩))) ∧
        ran.2.2 = [⟨"shop", "web-1"⟩, ⟨"shop", "web-1"⟩] := by
  have hlen : (compile [pulledOnNode]).map List.length = .ok 1 := by decide +kernel
  obtain ⟨rules, h, hone⟩ := map_eq_ok.1 hlen
  obtain ⟨r, rfl⟩ := List.length_eq_one_iff.1 hone
  have hpass : ∀ x ∈ pulledOnNode.matchers, x.fault? pulled.view = none := by decide +kernel
  have houtcomes : labelOutcomes pulled pulledOnNode.matchers (answersFrom findOnce (podOf pulled) false)
      pulledOnNode.sources = [("a_node", .ok "node-1"), ("b_text", .ok "Pulled nginx"),
        ("c_phase", .error (.lookup (.notFound ⟨"shop", "web-1"⟩))),
        ("d_node", .error (.lookup (.notFound ⟨"shop", "web-1"⟩)))] := by decide +kernel
  have hlookups : lookups pulled (pulledOnNode.sources.take 3) = 2 := by decide +kernel
  obtain ⟨d, hd, -, hran⟩ :=
    evaluate_pipelines h (List.mem_singleton.2 rfl) pulled findOnce false
  obtain rfl := List.mem_singleton.1 hd
  refine ⟨[r], r, h, List.mem_singleton.2 rfl, (hran.error_iff _).2 (.inr ⟨hpass, ?_⟩), ?_⟩
  · exact ⟨[("a_node", .ok "node-1"), ("b_text", .ok "Pulled nginx")], _, _, _, houtcomes, by decide, rfl⟩
  · rw [hran.ofPass hpass, houtcomes]
    exact congrArg (List.replicate · (podOf pulled)) hlookups

end Rule
end EventTally
