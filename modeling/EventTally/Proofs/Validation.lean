import EventTally.Proofs.Answering
import EventTally.Proofs.Entries
import EventTally.Rule.Evaluate

/-! What is checked when rules are compiled holds when they are evaluated. Each group that a label takes
is one of the expression of its key, and an expression that matches records all its groups; so no label
lacks its group, whatever the event and the pods that are looked up. -/

namespace EventTally

namespace Rule

variable {metric : String} {ms : List (Matcher × Option Regex)}

/-! ## What is checked -/

/-- A group that the source takes is one of the expression of its key. -/
def Backed (ms : List (Matcher × Option Regex)) : LabelSource → Prop
  | .submatch key index => ∃ r, expressionIn? ms key = some r ∧ index ≤ r.groups
  | _ => True

theorem checkSource_ok_iff {source : LabelSource} :
    checkSource metric ms source = .ok () ↔ Backed ms source := by
  cases source with
  | submatch key index =>
    unfold checkSource Backed
    cases he : expressionIn? ms key with
    | none => simp [he]
    | some r => by_cases hr : r.groups < index <;> simp [he, hr, Nat.not_lt.1]
  | direct path => simp [checkSource, Backed]
  | related path => simp [checkSource, Backed]

theorem compileLabels_backed {specs : List (String × String)} {labels : List (String × LabelSource)}
    (h : compileLabels metric ms specs = .ok labels) : ∀ e ∈ labels, Backed ms e.2 := by
  induction specs generalizing labels with
  | nil =>
    cases h
    simp
  | cons spec specs ih =>
    obtain ⟨label, spec⟩ := spec
    unfold compileLabels at h
    obtain ⟨⟨⟩, hs, h⟩ := bind_eq_ok.1 h
    obtain ⟨rest, hrest, h⟩ := bind_eq_ok.1 h
    obtain rfl := pure_eq_ok.1 h
    exact List.forall_mem_cons.2 ⟨checkSource_ok_iff.1 hs, ih hrest⟩

theorem ofDefinition_backed {d : Definition} {r : Rule} (h : ofDefinition d = .ok r) :
    ∀ e ∈ r.labels.entries, Backed r.matchers e.2 := by
  obtain ⟨ms, -, h⟩ := bind_eq_ok.1 h
  obtain ⟨labels, hl, h⟩ := bind_eq_ok.1 h
  obtain rfl := pure_eq_ok.1 h
  intro e he
  exact compileLabels_backed hl e (StringMap.mem_ofList he)

theorem exists_ofDefinition {seen : List String} {position : ℕ} {ds : List Definition}
    {rules : List Rule} (h : compileFrom seen position ds = .ok rules) :
    ∀ r ∈ rules, ∃ d ∈ ds, ofDefinition d = .ok r := by
  induction ds generalizing seen position rules with
  | nil =>
    cases h
    simp
  | cons d ds ih =>
    unfold compileFrom at h
    obtain ⟨-, h⟩ := guard_eq_ok.1 h
    obtain ⟨-, h⟩ := guard_eq_ok.1 h
    obtain ⟨r, hr, h⟩ := bind_eq_ok.1 h
    obtain ⟨rest, hrest, h⟩ := bind_eq_ok.1 h
    obtain rfl := pure_eq_ok.1 h
    refine List.forall_mem_cons.2 ⟨⟨d, by simp, hr⟩, fun r' hr' => ?_⟩
    obtain ⟨d', hd', hr'⟩ := ih hrest r' hr'
    exact ⟨d', List.mem_cons_of_mem _ hd', hr'⟩

theorem compile_backed {ds : List Definition} {rules : List Rule} (h : compile ds = .ok rules) :
    ∀ r ∈ rules, ∀ e ∈ r.labels.entries, Backed r.matchers e.2 := by
  intro r hr
  obtain ⟨d, -, hd⟩ := exists_ofDefinition h r hr
  exact ofDefinition_backed hd

/-! ## What is recorded -/

theorem passMatchers_cons (event : View) (m : Matcher) (regex : Option Regex) :
    passMatchers event ((m, regex) :: ms) =
      match event.resolve m.key with
      | .error e => .error (.field m.key e)
      | .ok text =>
        match regex with
        | none => passMatchers event ms
        | some r =>
          match r.captures? text with
          | none => .error (.noMatch m.key)
          | some found => (passMatchers event ms).map ((m.key, found.map (·.getD "")) :: ·) := by
  rw [passMatchers]
  cases event.resolve m.key with
  | error e => rfl
  | ok text =>
    cases regex with
    | none => rfl
    | some r =>
      simp only [Except.mapError, bind, Except.bind]
      cases r.captures? text with
      | none => rfl
      | some found => cases passMatchers event ms <;> rfl

/-- The matchers that have passed recorded all groups of the expression of a key, from its match in the
text at the key. -/
theorem lookup_passMatchers {event : View} {s : Submatches} (h : passMatchers event ms = .ok s)
    {key : String} {r : Regex} (he : expressionIn? ms key = some r) :
    ∃ text found, event.resolve key = .ok text ∧ r.captures? text = some found ∧
      s.lookup key = some (found.map (·.getD "")) := by
  induction ms generalizing s with
  | nil => simp [expressionIn?] at he
  | cons m ms ih =>
    obtain ⟨m, regex⟩ := m
    rw [passMatchers_cons] at h
    cases ht : event.resolve m.key with
    | error e => simp [ht] at h
    | ok text =>
      simp only [ht] at h
      by_cases hk : m.key = key
      · -- the first matcher of the key has the expression that was checked
        obtain rfl : regex = some r := by simpa [expressionIn?, hk] using he
        cases hc : r.captures? text with
        | none => simp [hc] at h
        | some found =>
          simp only [hc, map_eq_ok] at h
          obtain ⟨rest, -, rfl⟩ := h
          exact ⟨text, found, hk ▸ ht, hc, by simp [hk]⟩
      · have he' : expressionIn? ms key = some r := by simpa [expressionIn?, hk] using he
        cases regex with
        | none => exact ih h he'
        | some r' =>
          cases hc : r'.captures? text with
          | none => simp [hc] at h
          | some found =>
            simp only [hc, map_eq_ok] at h
            obtain ⟨rest, hrest, rfl⟩ := h
            obtain ⟨text', found', ht', hc', hl⟩ := ih hrest he'
            refine ⟨text', found', ht', hc', ?_⟩
            rw [List.lookup_cons, beq_eq_false_iff_ne.2 (Ne.symm hk)]
            exact hl

theorem passMatchers_ne_label {event : View} {label : String} {e : LabelError} :
    passMatchers event ms ≠ .error (.label label e) := by
  induction ms with
  | nil =>
    intro h
    cases h
  | cons m ms ih =>
    obtain ⟨m, regex⟩ := m
    intro h
    rw [passMatchers_cons] at h
    cases ht : event.resolve m.key with
    | error e => simp [ht] at h
    | ok text =>
      simp only [ht] at h
      cases regex with
      | none => exact ih h
      | some r =>
        cases hc : r.captures? text with
        | none => simp [hc] at h
        | some found =>
          simp only [hc, map_eq_error] at h
          exact ih h

/-- A group that was checked is there when a label takes it. -/
theorem exists_submatch {event : View} {s : Submatches} (h : passMatchers event ms = .ok s)
    {key : String} {index : ℕ} (hb : Backed ms (.submatch key index)) :
    ∃ text, submatch? s key index = some text := by
  obtain ⟨r, he, hi⟩ := hb
  obtain ⟨text, found, -, hc, hl⟩ := lookup_passMatchers h he
  have hlen := Regex.length_captures? hc
  have hlt : index < (found.map (·.getD "")).length := by
    rw [List.length_map]
    omega
  exact ⟨_, by rw [submatch?, hl, Option.bind_some, List.getElem?_eq_getElem hlt]⟩

/-! ## What is evaluated -/

variable {event : Event} {s : Submatches}

theorem relatedPod_always (event : Event) :
    (relatedPod event).Always fun found => ∀ key index, found ≠ .error (.missingSubmatch key index) := by
  unfold relatedPod
  split
  · intro answer key index he
    obtain ⟨e, -, he⟩ := mapError_eq_error.1 he
    cases he
  · intro key index he
    cases he

theorem labelValue_always (h : passMatchers event.view ms = .ok s) {source : LabelSource}
    (hb : Backed ms source) : (labelValue event s source).Always fun value =>
      ∀ key index, value ≠ .error (.missingSubmatch key index) := by
  have hpath : ∀ (v : View) (path : String) key index,
      (v.resolve path).mapError LabelError.path ≠ .error (.missingSubmatch key index) := by
    intro v path key index he
    obtain ⟨e, -, he⟩ := mapError_eq_error.1 he
    cases he
  cases source with
  | direct path => exact hpath event.view path
  | submatch key index =>
    obtain ⟨text, ht⟩ := exists_submatch h hb
    intro key' index' he
    rw [ht] at he
    cases he
  | related path =>
    refine (relatedPod_always event).bind fun found hfound => ?_
    cases found with
    | error e =>
      intro key index he
      cases he
      exact hfound key index rfl
    | ok pod => exact hpath pod.view path

theorem labelValues_always (h : passMatchers event.view ms = .ok s)
    {labels : List (String × LabelSource)} (hb : ∀ e ∈ labels, Backed ms e.2) :
    (labelValues event s labels).Always fun values =>
      ∀ label key index, values ≠ .error (.label label (.missingSubmatch key index)) := by
  induction labels with
  | nil =>
    intro label key index he
    cases he
  | cons label labels ih =>
    obtain ⟨hl, hls⟩ := List.forall_mem_cons.1 hb
    refine (labelValue_always h hl).bind fun value hv => ?_
    cases value with
    | error e =>
      intro label' key index he
      cases he
      exact hv key index rfl
    | ok value =>
      refine (ih hls).bind fun rest hrest => ?_
      intro label' key index he
      exact hrest label' key index (map_eq_error.1 he)

theorem evaluate_always {r : Rule} (hb : ∀ e ∈ r.labels.entries, Backed r.matchers e.2) (event : Event) :
    (r.evaluate event).Always fun found =>
      ∀ label key index, found ≠ .error (.label label (.missingSubmatch key index)) := by
  unfold evaluate
  cases h : passMatchers event.view r.matchers with
  | error e =>
    intro label key index he
    cases he
    exact passMatchers_ne_label h
  | ok s =>
    refine (labelValues_always h hb).bind fun values hv => ?_
    intro label key index he
    exact hv label key index (map_eq_error.1 he)

/-- No rule that was compiled fails for a group that a label lacks, whatever the event is and whatever
the lookups of pods give. -/
theorem evaluate_ne_missingSubmatch {ds : List Definition} {rules : List Rule}
    (h : compile ds = .ok rules) {r : Rule} (hr : r ∈ rules) (event : Event) {σ : Type}
    (fetch : PodName → σ → Except LookupError Pod × σ) (s : σ) (label key : String) (index : ℕ) :
    ((r.evaluate event).runState fetch s).1 ≠ .error (.label label (.missingSubmatch key index)) :=
  (evaluate_always (compile_backed h r hr) event).runState fetch s label key index

/-- Takes the group of an image that is pulled. -/
def pulledDefinition : Definition where
  name := "pulls_total"
  matchers := [{ key := "Message", expr := some "Pulled (image )?([a-z]+)" }]
  labels := .ofList [("image", "Message[2]"), ("kind", "Message[1]")]

theorem pulledDefinition_complete :
    ∃ rules r, compile [pulledDefinition] = .ok rules ∧ r ∈ rules ∧
      ∀ label key index, ((r.evaluate { message := "Pulled nginx" }).runState
        (fun pod (_ : Unit) => (.error (.notFound pod), ())) ()).1 ≠
          .error (.label label (.missingSubmatch key index)) := by
  have hlen : (compile [pulledDefinition]).map List.length = .ok 1 := by decide +kernel
  obtain ⟨rules, h, hone⟩ := map_eq_ok.1 hlen
  obtain ⟨r, rfl⟩ := List.length_eq_one_iff.1 hone
  refine ⟨[r], r, h, by simp, fun label key index => ?_⟩
  exact evaluate_ne_missingSubmatch h (by simp) _ _ _ label key index

end Rule
end EventTally
