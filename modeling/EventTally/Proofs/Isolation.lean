import EventTally.Proofs.Emission

/-! Rules do not touch each other. Evaluating a list of rules is evaluating each of them by itself: the
matches are those of the rules that succeed, in the order of the rules, and the lookups are those of one
rule after the other. So whatever one rule does, and however it fails, it leaves no trace in the matches
and lookups of the others. -/

namespace EventTally.Rule

variable (known : Directory) (event : Event)

/-- The match of a rule, if it has one. -/
def match? (r : Rule) : Option Match := ((r.evaluate event).run known).toOption

theorem match?_eq_some_iff {r : Rule} {m : Match} :
    match? known event r = some m ↔ (r.evaluate event).run known = .ok m := by
  unfold match?
  cases (r.evaluate event).run known <;> simp [Except.toOption]

theorem run_evaluateAll (rules : List Rule) :
    (evaluateAll event rules).run known = rules.filterMap (match? known event) := by
  induction rules with
  | nil => rfl
  | cons r rest ih =>
    simp only [evaluateAll, Dialogue.run_bind, Dialogue.run_pure, ih, List.filterMap_cons, match?]
    cases ((r.evaluate event).run known).toOption <;> rfl

theorem questions_evaluateAll (rules : List Rule) :
    (evaluateAll event rules).questions known =
      rules.flatMap fun r => (r.evaluate event).questions known := by
  induction rules with
  | nil => rfl
  | cons r rest ih =>
    simp only [evaluateAll, Dialogue.questions_bind, Dialogue.questions_pure, ih, List.flatMap_cons,
      List.append_nil]

theorem name_of_match? {r : Rule} {m : Match} (h : match? known event r = some m) : m.name = r.name :=
  ((evaluate_fits r event).run known m ((match?_eq_some_iff known event).1 h)).1.symm

/-- Matches stand in the order of their rules. -/
theorem names_sublist (rules : List Rule) :
    ((rules.filterMap (match? known event)).map Match.name).Sublist (rules.map Rule.name) := by
  induction rules with
  | nil => exact .slnil
  | cons r rest ih =>
    cases hm : match? known event r with
    | none =>
      rw [List.filterMap_cons_none hm, List.map_cons]
      exact ih.cons _
    | some m =>
      rw [List.filterMap_cons_some hm, List.map_cons, List.map_cons, name_of_match? known event hm]
      exact ih.cons_cons _

/-- The rules of two lists do not touch each other, and a rule among others adds its own match, if it has
one, and its own lookups at its place. So a rule that fails, for whatever reason, takes no match away;
and matches stand in the order of their rules. -/
theorem evaluateAll_isolated :
    (∀ rules rules',
      (evaluateAll event (rules ++ rules')).run known =
        (evaluateAll event rules).run known ++ (evaluateAll event rules').run known ∧
      (evaluateAll event (rules ++ rules')).questions known =
        (evaluateAll event rules).questions known ++ (evaluateAll event rules').questions known) ∧
    (∀ before r after,
      (evaluateAll event (before ++ [r] ++ after)).run known =
        (evaluateAll event before).run known ++ ((r.evaluate event).run known).toOption.toList ++
          (evaluateAll event after).run known ∧
      (evaluateAll event (before ++ [r] ++ after)).questions known =
        (evaluateAll event before).questions known ++ (r.evaluate event).questions known ++
          (evaluateAll event after).questions known) ∧
    (∀ before r after e, (r.evaluate event).run known = .error e →
      (evaluateAll event (before ++ [r] ++ after)).run known =
        (evaluateAll event (before ++ after)).run known) ∧
    ∀ rules, (((evaluateAll event rules).run known).map Match.name).Sublist (rules.map Rule.name) := by
  have hone : ∀ r, [r].filterMap (match? known event) =
      ((r.evaluate event).run known).toOption.toList := by
    intro r
    rw [← match?]
    cases hm : match? known event r <;> simp [hm]
  simp only [run_evaluateAll, questions_evaluateAll]
  refine ⟨?_, ?_, ?_, names_sublist known event⟩
  · intro rules rules'
    exact ⟨List.filterMap_append, List.flatMap_append⟩
  · intro before r after
    rw [List.filterMap_append, List.filterMap_append, hone, List.flatMap_append, List.flatMap_append,
      List.flatMap_singleton]
    exact ⟨rfl, rfl⟩
  · intro before r after e he
    rw [List.filterMap_append, List.filterMap_append, hone, he, List.filterMap_append]
    simp [Except.toOption]

def nameRule : Rule := ⟨"pods_total", [], .ofList [("name", .direct "InvolvedObject.Name")]⟩

/-- Needs the pod. -/
def nodeRule : Rule := ⟨"nodes_total", [], .ofList [("node", .related "Spec.NodeName")]⟩

def reasonRule : Rule := ⟨"reasons_total", [], .ofList [("reason", .direct "Reason")]⟩

def absentPod : Directory := fun pod => .error (.notFound pod)

def killed : Event := { involvedObject := { kind := "Pod", name := "web-1" }, reason := "Killing" }

theorem nodeRule_isolated :
    (nodeRule.evaluate killed).run absentPod = .error (.label "node" (.lookup (.notFound ⟨"", "web-1"⟩))) ∧
      (evaluateAll killed ([nameRule] ++ [nodeRule] ++ [reasonRule])).run absentPod =
        (evaluateAll killed ([nameRule] ++ [reasonRule])).run absentPod ∧
      ((evaluateAll killed ([nameRule] ++ [reasonRule])).run absentPod).length = 2 := by
  have hfails : (nodeRule.evaluate killed).run absentPod =
      .error (.label "node" (.lookup (.notFound ⟨"", "web-1"⟩))) := by decide +kernel
  obtain ⟨-, -, hfailed, -⟩ := evaluateAll_isolated absentPod killed
  exact ⟨hfails, hfailed [nameRule] nodeRule [reasonRule] _ hfails, by decide +kernel⟩

end EventTally.Rule
