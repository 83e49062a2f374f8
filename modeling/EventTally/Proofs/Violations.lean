import EventTally.Proofs.Evaluation

/-! What is wrong with definitions. `violations` lists all of it, in the order in which it counts, and says of
each item only what it is wrong with beside the items before it. Compiling reports the first violation; where
there is none, each definition is compiled by itself. -/

namespace EventTally

/-! ## Items beside those before them -/

section

variable {α β : Type}

/-- What a list gives item by item, each beside the items before it. -/
def eachAfter (f : List α → α → List β) (l : List α) : List β :=
  (l.inits.zip l).flatMap fun p => f p.1 p.2

theorem eachAfter_nil (f : List α → α → List β) : eachAfter f [] = [] := rfl

theorem eachAfter_cons (f : List α → α → List β) (a : α) (l : List α) :
    eachAfter f (a :: l) = f [] a ++ eachAfter (fun before => f (a :: before)) l := by
  rw [eachAfter, List.inits_cons, List.zip_cons_cons, List.flatMap_cons, List.zip_map_left, List.flatMap_map]
  rfl

theorem eachAfter_append (f : List α → α → List β) (l l' : List α) :
    eachAfter f (l ++ l') = eachAfter f l ++ eachAfter (fun before => f (l ++ before)) l' := by
  induction l generalizing f with
  | nil => rfl
  | cons a l ih => rw [List.cons_append, eachAfter_cons, eachAfter_cons, ih, List.append_assoc]; rfl

theorem eachAfter_eq_nil_iff {f : List α → α → List β} {l : List α} :
    eachAfter f l = [] ↔ ∀ before a after, l = before ++ a :: after → f before a = [] := by
  constructor
  · rintro h before a after rfl
    rw [eachAfter_append, eachAfter_cons, List.append_eq_nil_iff, List.append_eq_nil_iff, List.append_nil] at h
    exact h.2.1
  · intro h
    induction l using List.reverseRecOn with
    | nil => rfl
    | append_singleton l a ih =>
      rw [eachAfter_append, eachAfter_cons, eachAfter_nil, List.append_nil, List.append_nil,
        h l a [] rfl, List.append_nil]
      exact ih fun before b after hl => h before b (after ++ [a]) (by simp [hl])

theorem nodup_map_iff {f : α → β} {l : List α} :
    (l.map f).Nodup ↔ ∀ before a after, l = before ++ a :: after → f a ∉ before.map f := by
  constructor
  · rintro h before a after rfl
    rw [List.map_append, List.map_cons, List.nodup_middle, List.nodup_cons] at h
    exact fun hm => h.1 (List.mem_append_left _ hm)
  · intro h
    induction l using List.reverseRecOn with
    | nil => exact List.nodup_nil
    | append_singleton l a ih =>
      rw [List.map_append, List.map_singleton, ← List.concat_eq_append]
      refine (ih fun before b after hl => h before b (after ++ [a]) (by simp [hl])).concat (h l a [] rfl)

end

/-! ## Violations -/

section

variable (metric : String)

/-- What is wrong with a matcher of a metric that stands behind others. -/
def Matcher.violations (before : List Matcher) (m : Matcher) : List ConfigError :=
  (if m.key ∈ before.map Matcher.key then [.duplicateMatcher metric m.key] else []) ++
    if m.expression.all fun e => (Regex.compile? e).isSome then [] else [.invalidExpression metric m.key]

/-- A group must be one of the expression of its key. -/
def LabelSource.violations (ms : List Matcher) : LabelSource → List ConfigError
  | submatch key index =>
    match (ms.find? (·.key = key)).bind Matcher.expression with
    | none => [.submatchWithoutExpression metric key]
    | some e =>
      if (Regex.compile? e).any fun r => index ≤ r.groups then []
      else [.missingSubexpression metric key index]
  | _ => []

end

/-- What is wrong with a definition behind others. -/
def Definition.violations (before : List Definition) (d : Definition) : List ConfigError :=
  (if d.name = "" then [.emptyName before.length] else []) ++
  (if d.name ∈ before.map Definition.name then [.duplicateMetric d.name] else []) ++
  eachAfter (Matcher.violations d.name) d.matchers ++
  d.labels.entries.flatMap fun l => (LabelSource.classify l.2).violations d.name d.matchers

def Definition.allViolations (ds : List Definition) : List ConfigError := eachAfter Definition.violations ds

/-! ## Reports -/

/-- A computation that fails with the first of the errors, and succeeds if there are none. -/
structure Reports {ε α : Type} (x : Except ε α) (errors : List ε) : Prop where
  error : ∀ e, x = .error e → errors.head? = some e
  ok : ∀ a, x = .ok a → errors = []

namespace Reports

variable {ε α β : Type} {x : Except ε α} {errors errors' : List ε}

theorem error_iff (h : Reports x errors) {e : ε} : x = .error e ↔ errors.head? = some e := by
  refine ⟨h.error e, fun he => ?_⟩
  cases hx : x with
  | ok a => simp [h.ok a hx] at he
  | error e' =>
    have he' := h.error e' hx
    rw [he, Option.some.injEq] at he'
    rw [he']

theorem ok_iff (h : Reports x errors) : (∃ a, x = .ok a) ↔ errors = [] := by
  refine ⟨fun ⟨a, ha⟩ => h.ok a ha, fun he => ?_⟩
  cases hx : x with
  | ok a => exact ⟨a, rfl⟩
  | error e => simpa [he] using h.error e hx

theorem pure (a : α) : Reports (Pure.pure a : Except ε α) [] := ⟨nofun, fun _ _ => rfl⟩

theorem fail_cons (e : ε) (errors : List ε) : Reports (throw e : Except ε α) (e :: errors) := by
  refine ⟨fun e' he' => ?_, nofun⟩
  cases he'
  rfl

theorem fail (e : ε) : Reports (throw e : Except ε α) [e] := fail_cons e []

theorem bind {f : α → Except ε β} (h : Reports x errors) (hf : ∀ a, x = .ok a → Reports (f a) errors') :
    Reports (x >>= f) (errors ++ errors') := by
  cases hx : x with
  | error e =>
    have hhead := h.error e hx
    refine ⟨fun e' he' => ?_, nofun⟩
    cases he'
    rw [List.head?_append, hhead, Option.some_or]
  | ok a =>
    rw [h.ok a hx, List.nil_append]
    exact hf a hx

/-- A check in front of a computation. -/
theorem guard {p q : Prop} [Decidable p] [Decidable q] (hpq : p ↔ q) {e : ε} {next : PUnit → Except ε α}
    (h : Reports (next ()) errors) :
    Reports (if p then throw e >>= next else next ()) ((if q then [e] else []) ++ errors) := by
  by_cases hp : p
  · rw [if_pos hp, if_pos (hpq.1 hp)]
    refine ⟨fun e' he' => ?_, nofun⟩
    cases he'
    rfl
  · rw [if_neg hp, if_neg (mt hpq.2 hp), List.nil_append]
    exact h

end Reports

namespace Rule

/-! ## What compiling reports -/

theorem compileMatchers_reports (metric : String) {seen : List String} {before : List Matcher}
    (hseen : ∀ key, key ∈ seen ↔ key ∈ before.map Matcher.key) (ms : List Matcher) :
    Reports (compileMatchers metric seen ms)
      (eachAfter (fun before' => Matcher.violations metric (before ++ before')) ms) := by
  induction ms generalizing seen before with
  | nil => exact .pure _
  | cons m ms ih =>
    have hseen' : ∀ key, key ∈ m.key :: seen ↔ key ∈ (before ++ [m]).map Matcher.key := by
      intro key
      simp [hseen, or_comm]
    have hkey : seen.contains m.key = true ↔ m.key ∈ before.map Matcher.key :=
      List.contains_iff_mem.trans (hseen m.key)
    rw [eachAfter_cons, List.append_nil, Matcher.violations, List.append_assoc]
    unfold compileMatchers
    refine .guard hkey ?_
    have hrest : ∀ regex, Reports (do return (m, regex) :: (← compileMatchers metric (m.key :: seen) ms))
        (eachAfter (fun before' => Matcher.violations metric (before ++ m :: before')) ms) := by
      intro regex
      have hms := ih hseen'
      simp only [List.append_assoc, List.singleton_append] at hms
      rw [← List.append_nil (eachAfter _ ms)]
      exact hms.bind fun rest _ => .pure _
    cases m.expression with
    | none => exact hrest none
    | some e =>
      cases hr : Regex.compile? e with
      | some r => simpa [hr] using hrest (some r)
      | none => simpa [hr] using (Reports.fail _).bind fun a ha => by cases ha

theorem checkSource_reports {metric : String} {matchers : List (Matcher × Option Regex)}
    (hc : Compiled matchers) (source : LabelSource) :
    Reports (checkSource metric matchers source) (source.violations metric (matchers.map Prod.fst)) := by
  cases source with
  | direct path => exact .pure _
  | related path => exact .pure _
  | submatch key index =>
    have hcompiled := expression_of_compiled hc key
    unfold checkSource LabelSource.violations
    cases he : ((matchers.map Prod.fst).find? (·.key = key)).bind Matcher.expression with
    | none =>
      rw [he, Option.map_none, eq_comm, Option.map_eq_none_iff] at hcompiled
      simp only [he, hcompiled]
      exact .fail _
    | some e =>
      rw [he, Option.map_some, eq_comm, Option.map_eq_some_iff] at hcompiled
      obtain ⟨r, hr, hcompiled⟩ := hcompiled
      simp only [he, hr, ← hcompiled, Option.any_some]
      by_cases hindex : r.groups < index
      · rw [if_pos hindex, if_neg (by simpa using hindex)]
        exact .fail _
      · rw [if_neg hindex, if_pos (by simpa using hindex)]
        exact .pure ()

theorem compileLabels_reports {metric : String} {matchers : List (Matcher × Option Regex)}
    (hc : Compiled matchers) (specs : List (String × String)) :
    Reports (compileLabels metric matchers specs)
      (specs.flatMap fun l => (LabelSource.classify l.2).violations metric (matchers.map Prod.fst)) := by
  induction specs with
  | nil => exact .pure _
  | cons spec specs ih =>
    obtain ⟨label, spec⟩ := spec
    rw [List.flatMap_cons, ← List.append_nil (List.flatMap _ specs)]
    exact .bind (checkSource_reports hc _) fun _ _ => .bind ih fun _ _ => .pure _

theorem ofDefinition_reports (d : Definition) : Reports (ofDefinition d)
    (eachAfter (Matcher.violations d.name) d.matchers ++
      d.labels.entries.flatMap fun l => (LabelSource.classify l.2).violations d.name d.matchers) := by
  rw [← List.append_nil (List.flatMap _ d.labels.entries)]
  have hmatchers := @compileMatchers_reports d.name [] [] (by simp) d.matchers
  refine hmatchers.bind fun matchers hm => ?_
  obtain ⟨hms, hc⟩ := compileMatchers_ok hm
  rw [← hms]
  exact .bind (compileLabels_reports hc _) fun _ _ => .pure _

theorem compileFrom_reports {seen : List String} {before : List Definition}
    (hseen : ∀ name, name ∈ seen ↔ name ∈ before.map Definition.name) (ds : List Definition) :
    Reports (compileFrom seen before.length ds)
      (eachAfter (fun before' => Definition.violations (before ++ before')) ds) := by
  induction ds generalizing seen before with
  | nil => exact .pure _
  | cons d ds ih =>
    have hseen' : ∀ name, name ∈ d.name :: seen ↔ name ∈ (before ++ [d]).map Definition.name := by
      intro name
      simp [hseen, or_comm]
    have hname : seen.contains d.name = true ↔ d.name ∈ before.map Definition.name :=
      List.contains_iff_mem.trans (hseen d.name)
    have hrest := ih hseen'
    simp only [List.append_assoc, List.singleton_append, List.length_append, List.length_singleton] at hrest
    rw [eachAfter_cons, List.append_nil, Definition.violations, List.append_assoc, List.append_assoc,
      List.append_assoc, ← List.append_nil (eachAfter _ ds), ← List.append_assoc (eachAfter _ d.matchers)]
    unfold compileFrom
    refine .guard Iff.rfl ?_
    refine .guard hname ?_
    exact (ofDefinition_reports d).bind fun rule _ => hrest.bind fun rest _ => .pure _

theorem compile_reports (ds : List Definition) : Reports (compile ds) (Definition.allViolations ds) :=
  @compileFrom_reports [] [] (by simp) ds

end Rule

/-! ## Valid definitions -/

/-- Definitions that all have names of their own, matchers with keys of their own and expressions that can be
read, and labels that take only groups which the expression of the key has. -/
structure Definition.AreValid (ds : List Definition) : Prop where
  named : ∀ d ∈ ds, d.name ≠ ""
  names : (ds.map Definition.name).Nodup
  keys : ∀ d ∈ ds, (d.matchers.map Matcher.key).Nodup
  expressions : ∀ d ∈ ds, ∀ m ∈ d.matchers, ∀ e, m.expr = some e → e ≠ "" → ∃ r, Regex.compile? e = some r
  groups : ∀ d ∈ ds, ∀ l ∈ d.labels.entries, ∀ key index, LabelSource.classify l.2 = .submatch key index →
    ∃ m ∈ d.matchers, m.key = key ∧ ∃ e r, m.expr = some e ∧ e ≠ "" ∧ Regex.compile? e = some r ∧
      index ≤ r.groups

theorem Definition.AreValid.sublist {ds ds' : List Definition} (h : AreValid ds) (hs : ds'.Sublist ds) :
    AreValid ds' where
  named d hd := h.named d (hs.subset hd)
  names := h.names.sublist (hs.map Definition.name)
  keys d hd := h.keys d (hs.subset hd)
  expressions d hd := h.expressions d (hs.subset hd)
  groups d hd := h.groups d (hs.subset hd)

theorem Matcher.expression_eq_some_iff {m : Matcher} {e : String} :
    m.expression = some e ↔ m.expr = some e ∧ e ≠ "" := by
  simp [expression]

/-- Where each key has one matcher, this has the expression of the key. -/
theorem Matcher.find?_expression {ms : List Matcher} (h : (ms.map key).Nodup) {k e : String} :
    (ms.find? (·.key = k)).bind expression = some e ↔ ∃ m ∈ ms, m.key = k ∧ m.expr = some e ∧ e ≠ "" := by
  rw [Option.bind_eq_some_iff]
  constructor
  · rintro ⟨m, hm, he⟩
    exact ⟨m, List.mem_of_find?_eq_some hm, by simpa using List.find?_some hm, expression_eq_some_iff.1 he⟩
  · rintro ⟨m, hm, rfl, he⟩
    refine ⟨m, ?_, expression_eq_some_iff.2 he⟩
    obtain ⟨before, after, rfl⟩ := List.append_of_mem hm
    have hbefore := nodup_map_iff.1 h before m after rfl
    refine List.find?_eq_some_iff_append.2 ⟨by simp, before, after, rfl, fun m' hm' => ?_⟩
    have hne : m'.key ≠ m.key := fun he => hbefore (he ▸ List.mem_map_of_mem hm')
    simpa using hne

theorem Matcher.violations_eq_nil {metric : String} {before : List Matcher} {m : Matcher} :
    violations metric before m = [] ↔ m.key ∉ before.map key ∧
      ∀ e, m.expr = some e → e ≠ "" → ∃ r, Regex.compile? e = some r := by
  have hexpression : (m.expression.all fun e => (Regex.compile? e).isSome) = true ↔
      ∀ e, m.expr = some e → e ≠ "" → ∃ r, Regex.compile? e = some r := by
    simp only [Option.all_eq_true, expression_eq_some_iff, Option.isSome_iff_exists, and_imp]
  rw [violations, List.append_eq_nil_iff, ite_eq_right_iff, ite_eq_left_iff, ← hexpression]
  simp

theorem Matcher.eachAfter_violations_eq_nil {metric : String} {ms : List Matcher} :
    eachAfter (violations metric) ms = [] ↔ (ms.map key).Nodup ∧
      ∀ m ∈ ms, ∀ e, m.expr = some e → e ≠ "" → ∃ r, Regex.compile? e = some r := by
  simp only [eachAfter_eq_nil_iff, nodup_map_iff, violations_eq_nil]
  constructor
  · intro h
    refine ⟨fun before m after hl => (h before m after hl).1, fun m hm => ?_⟩
    obtain ⟨before, after, hl⟩ := List.append_of_mem hm
    exact (h before m after hl).2
  · rintro ⟨hkeys, he⟩ before m after rfl
    exact ⟨hkeys before m after rfl, he m (by simp)⟩

theorem LabelSource.violations_eq_nil {metric : String} {ms : List Matcher}
    (h : (ms.map Matcher.key).Nodup) {source : LabelSource} :
    source.violations metric ms = [] ↔ ∀ key index, source = .submatch key index →
      ∃ m ∈ ms, m.key = key ∧ ∃ e r, m.expr = some e ∧ e ≠ "" ∧ Regex.compile? e = some r ∧
        index ≤ r.groups := by
  cases source with
  | direct path => simp [violations]
  | related path => simp [violations]
  | submatch key index =>
    have hgoal : (∀ key' index', submatch key index = submatch key' index' →
        ∃ m ∈ ms, m.key = key' ∧ ∃ e r, m.expr = some e ∧ e ≠ "" ∧ Regex.compile? e = some r ∧
          index' ≤ r.groups) ↔
        ∃ e r, (∃ m ∈ ms, m.key = key ∧ m.expr = some e ∧ e ≠ "") ∧ Regex.compile? e = some r ∧
          index ≤ r.groups := by
      constructor
      · intro hall
        obtain ⟨m, hm, hk, e, r, he, hne, hr, hi⟩ := hall key index rfl
        exact ⟨e, r, ⟨m, hm, hk, he, hne⟩, hr, hi⟩
      · rintro ⟨e, r, ⟨m, hm, hk, he, hne⟩, hr, hi⟩ key' index' ⟨⟩
        exact ⟨m, hm, hk, e, r, he, hne, hr, hi⟩
    rw [hgoal, violations]
    simp only [← Matcher.find?_expression h]
    cases (ms.find? (·.key = key)).bind Matcher.expression with
    | none => simp
    | some e => simp [Option.any_eq_true]

theorem Definition.violations_eq_nil {before : List Definition} {d : Definition} :
    violations before d = [] ↔ d.name ≠ "" ∧ d.name ∉ before.map name ∧
      eachAfter (Matcher.violations d.name) d.matchers = [] ∧
      ∀ l ∈ d.labels.entries, (LabelSource.classify l.2).violations d.name d.matchers = [] := by
  simp only [violations, List.append_eq_nil_iff, List.flatMap_eq_nil_iff, ite_eq_right_iff]
  simp [and_assoc]

theorem Definition.allViolations_eq_nil {ds : List Definition} : allViolations ds = [] ↔ AreValid ds := by
  rw [allViolations, eachAfter_eq_nil_iff]
  simp only [violations_eq_nil, Matcher.eachAfter_violations_eq_nil]
  constructor
  · intro h
    have hmem : ∀ d ∈ ds, ∃ before after, ds = before ++ d :: after := fun d hd => List.append_of_mem hd
    refine ⟨fun d hd => ?_, nodup_map_iff.2 fun before d after hl => (h before d after hl).2.1,
      fun d hd => ?_, fun d hd => ?_, fun d hd l hl => ?_⟩
    all_goals
      obtain ⟨before, after, hds⟩ := hmem d hd
      obtain ⟨hname, -, ⟨hkeys, hexpressions⟩, hlabels⟩ := h before d after hds
    · exact hname
    · exact hkeys
    · exact hexpressions
    · exact (LabelSource.violations_eq_nil hkeys).1 (hlabels l hl)
  · rintro hv before d after rfl
    have hd : d ∈ before ++ d :: after := by simp
    exact ⟨hv.named d hd, nodup_map_iff.1 hv.names before d after rfl, ⟨hv.keys d hd, hv.expressions d hd⟩,
      fun l hl => (LabelSource.violations_eq_nil (hv.keys d hd)).2 (hv.groups d hd l hl)⟩

namespace Rule

/-! ## What is compiled -/

/-- A rule with the name, the matchers and the labels of a definition, and with an expression for just those
keys that have one. -/
structure Compiles (d : Definition) (r : Rule) : Prop where
  name : r.name = d.name
  matchers : r.matchers.map Prod.fst = d.matchers
  expression_isSome : ∀ key, (r.expression? key).isSome ↔
    ∃ m ∈ d.matchers, m.key = key ∧ ∃ e, m.expr = some e ∧ e ≠ ""
  expression_eq : ∀ key regex, r.expression? key = some regex ↔
    ∃ m ∈ d.matchers, m.key = key ∧ ∃ e, m.expr = some e ∧ e ≠ "" ∧ Regex.compile? e = some regex
  labels : r.labels.entries = d.labels.entries.map fun l => (l.1, .classify l.2)

theorem compiles_of_ofDefinition {d : Definition} {r : Rule} (h : ofDefinition d = .ok r)
    (hkeys : (d.matchers.map Matcher.key).Nodup) : Compiles d r := by
  obtain ⟨hname, hms, hlabels, hc⟩ := ofDefinition_ok h
  have hcompiled : ∀ key, ((d.matchers.find? (·.key = key)).bind Matcher.expression).map Regex.compile? =
      (r.expression? key).map some := fun key => hms ▸ expression_of_compiled hc key
  refine ⟨hname, hms, fun key => ?_, fun key regex => ?_, hlabels⟩
  · have hsome := congrArg Option.isSome (hcompiled key)
    rw [Option.isSome_map, Option.isSome_map] at hsome
    rw [← hsome, Option.isSome_iff_exists]
    simp only [Matcher.find?_expression hkeys]
    exact ⟨fun ⟨e, m, hm, hk, he⟩ => ⟨m, hm, hk, e, he⟩, fun ⟨m, hm, hk, e, he⟩ => ⟨e, m, hm, hk, he⟩⟩
  · have hsome : r.expression? key = some regex ↔ (r.expression? key).map some = some (some regex) := by
      cases r.expression? key <;> simp
    rw [hsome, ← hcompiled, Option.map_eq_some_iff]
    simp only [Matcher.find?_expression hkeys]
    constructor
    · rintro ⟨e, ⟨m, hm, hk, he, hne⟩, hr⟩
      exact ⟨m, hm, hk, e, he, hne, hr⟩
    · rintro ⟨m, hm, hk, e, he, hne, hr⟩
      exact ⟨e, ⟨m, hm, hk, he, hne⟩, hr⟩

theorem compileFrom_map {seen : List String} {position : ℕ} {ds : List Definition} {rules : List Rule}
    (h : compileFrom seen position ds = .ok rules) : ds.map ofDefinition = rules.map .ok := by
  induction ds generalizing seen position rules with
  | nil =>
    cases h
    rfl
  | cons d ds ih =>
    unfold compileFrom at h
    obtain ⟨-, h⟩ := guard_eq_ok.1 h
    obtain ⟨-, h⟩ := guard_eq_ok.1 h
    obtain ⟨r, hr, h⟩ := bind_eq_ok.1 h
    obtain ⟨rest, hrest, h⟩ := bind_eq_ok.1 h
    obtain rfl := pure_eq_ok.1 h
    rw [List.map_cons, List.map_cons, hr, ih hrest]

theorem compile_forall₂ {ds : List Definition} {rules : List Rule} (h : compile ds = .ok rules) :
    List.Forall₂ Compiles ds rules := by
  have hkeys := (Definition.allViolations_eq_nil.1 ((compile_reports ds).ok rules h)).keys
  have hmap := compileFrom_map h
  clear h
  induction ds generalizing rules with
  | nil =>
    obtain rfl := List.map_eq_nil_iff.1 hmap.symm
    exact .nil
  | cons d ds ih =>
    obtain ⟨hd, hds⟩ := List.forall_mem_cons.1 hkeys
    cases rules with
    | nil => cases hmap
    | cons r rules =>
      obtain ⟨hr, hrest⟩ := List.cons.inj hmap
      exact .cons (compiles_of_ofDefinition hr hd) (ih hds hrest)

/-- Compiling succeeds for just the valid lists of definitions, and gives a rule for each definition. Else
it fails with the first violation. So a list with more definitions behind it fails as it does alone, or gives
the rules of both lists. -/
theorem compile_exact (ds : List Definition) :
    ((∃ rules, compile ds = .ok rules) ↔ Definition.AreValid ds) ∧
    (∀ rules, compile ds = .ok rules → List.Forall₂ Compiles ds rules) ∧
    (∀ e, compile ds = .error e ↔ (Definition.allViolations ds).head? = some e) ∧
    (∀ d ∈ ds, (d.labels.keys.map Utf8.encode).Pairwise (· < ·)) ∧
    ∀ more, (∀ e, compile ds = .error e → compile (ds ++ more) = .error e) ∧
      ∀ rules, compile (ds ++ more) = .ok rules →
        ∃ rs rs', compile ds = .ok rs ∧ compile more = .ok rs' ∧ rules = rs ++ rs' := by
  refine ⟨?_, fun rules => compile_forall₂, fun e => (compile_reports ds).error_iff, fun d _ => sorted_encode d,
    fun more => ⟨fun e he => ?_, fun rules h => ?_⟩⟩
  · rw [(compile_reports ds).ok_iff, Definition.allViolations_eq_nil]
  · rw [(compile_reports _).error_iff] at he ⊢
    rw [Definition.allViolations, eachAfter_append, List.head?_append]
    exact Option.or_eq_some_iff.2 (.inl he)
  · have hv := Definition.allViolations_eq_nil.1 ((compile_reports _).ok rules h)
    have hleft := Definition.allViolations_eq_nil.2 (hv.sublist (List.sublist_append_left ds more))
    have hright := Definition.allViolations_eq_nil.2 (hv.sublist (List.sublist_append_right ds more))
    obtain ⟨rs, hrs⟩ := (compile_reports ds).ok_iff.2 hleft
    obtain ⟨rs', hrs'⟩ := (compile_reports more).ok_iff.2 hright
    refine ⟨rs, rs', hrs, hrs', ?_⟩
    have hmap := compileFrom_map h
    rw [List.map_append, compileFrom_map hrs, compileFrom_map hrs', ← List.map_append] at hmap
    exact (List.map_injective_iff.2 (fun r r' => Except.ok.inj) hmap).symm

/-- Three faults: a group that its expression does not have, a repeated name, and an empty one. -/
def faultyDefinitions : List Definition :=
  [⟨"pulls_total", [{ key := "Message", expr := some "Pulled ([a-z]+)" }], .ofList [("image", "Message[2]")]⟩,
    ⟨"pulls_total", [], .empty⟩, ⟨"", [], .empty⟩]

theorem faultyDefinitions_refused :
    compile faultyDefinitions = .error (.missingSubexpression "pulls_total" "Message" 2) ∧
    ¬ Definition.AreValid faultyDefinitions ∧
    ∀ more, compile (faultyDefinitions ++ more) = .error (.missingSubexpression "pulls_total" "Message" 2) := by
  obtain ⟨hvalid, -, herror, -, happend⟩ := compile_exact faultyDefinitions
  have hfirst : (Definition.allViolations faultyDefinitions).head? =
      some (.missingSubexpression "pulls_total" "Message" 2) := by decide +kernel
  have he := (herror _).2 hfirst
  refine ⟨he, fun hv => ?_, fun more => (happend more).1 _ he⟩
  obtain ⟨rules, hrules⟩ := hvalid.2 hv
  rw [he] at hrules
  cases hrules

end Rule
end EventTally
