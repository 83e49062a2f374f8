import EventTally.Proofs.Answering
import EventTally.Router

/-! Routers under any scheduling. What the tasks of a router will still do is pending: a step moves one
effect from there to the outside, forgetting a task that has ended drops nothing, and an event that is
admitted adds its own effects. So the effects of a whole run are those of the admitted events, in
whatever order the tasks take their steps. -/

namespace EventTally

open List (Perm)

/-! ## Tasks -/

namespace Task

variable (known : Directory)

theorem filterMap_effects {α : Type} (f : Effect → Option α) (rest : Lookup (List Match)) :
    ((evaluating rest).effects known).filterMap f =
      (rest.questions known).filterMap (fun pod => f (.lookup pod)) ++
        (rest.run known).filterMap fun m => f (.count m) := by
  rw [effects, List.filterMap_append, List.filterMap_map, List.filterMap_map]
  rfl

theorem matches_evaluating (rest : Lookup (List Match)) :
    ((evaluating rest).effects known).filterMap Effect.match? = rest.run known := by
  rw [filterMap_effects]
  simp [Effect.match?]

theorem lookups_evaluating (rest : Lookup (List Match)) :
    ((evaluating rest).effects known).filterMap Effect.lookup? = rest.questions known := by
  rw [filterMap_effects]
  simp [Effect.lookup?]

/-- A step does the first of the effects that are left, if it does one. -/
theorem effects_step (t : Task) :
    (t.step known).1.toList ++ (t.step known).2.effects known = t.effects known := by
  cases t with
  | evaluating rest => cases rest <;> rfl
  | counting rest => cases rest <;> rfl

theorem effects_of_ended {t : Task} (h : t.ended) : t.effects known = [] := by
  cases t with
  | evaluating rest => cases h
  | counting rest =>
    cases rest with
    | nil => rfl
    | cons m rest => cases h

end Task

section

variable (known : Directory) (rules : List Rule) (event : Event)

theorem matches_processEvent : (processEvent known rules event).filterMap Effect.match? =
    (Rule.evaluateAll event rules).run known := Task.matches_evaluating known _

theorem lookups_processEvent : (processEvent known rules event).filterMap Effect.lookup? =
    (Rule.evaluateAll event rules).questions known := Task.lookups_evaluating known _

end

namespace Router

variable {known : Directory} {r r' : Router}

/-- What the tasks will still do. -/
def pending (known : Directory) (r : Router) : List Effect := r.tasks.flatMap (·.effects known)

theorem step_pending (known : Directory) (r : Router) (i : ℕ) :
    ((r.step known i).1.toList ++ (r.step known i).2.pending known).Perm (r.pending known) := by
  unfold step
  cases ht : r.tasks[i]? with
  | none => exact .refl _
  | some t =>
    obtain ⟨hi, ht⟩ := List.getElem?_eq_some_iff.1 ht
    have htasks : r.tasks = r.tasks.take i ++ t :: r.tasks.drop (i + 1) := by
      rw [← ht, List.cons_getElem_drop_succ, List.take_append_drop]
    simp only [pending, List.set_eq_take_append_cons_drop, if_pos hi, List.flatMap_append,
      List.flatMap_cons]
    -- the effect of the step moves in front of those of the tasks before
    conv_rhs => rw [htasks, List.flatMap_append, List.flatMap_cons, ← t.effects_step known,
      List.append_assoc]
    exact List.perm_append_comm_assoc _ _ _

/-- A task that has ended can be forgotten at any time. -/
theorem pending_filter (known : Directory) (tasks : List Task) :
    (tasks.filter (!·.ended)).flatMap (·.effects known) = tasks.flatMap (·.effects known) := by
  induction tasks with
  | nil => rfl
  | cons t tasks ih =>
    by_cases he : t.ended
    · rw [List.filter_cons_of_neg (by simp [he]), List.flatMap_cons, t.effects_of_ended known he, ih,
        List.nil_append]
    · rw [List.filter_cons_of_pos (by simp [he]), List.flatMap_cons, List.flatMap_cons, ih]

/-! ## Runs -/

/-- What comes to a router that runs: a change with the instant at which it is seen, or the turn of a
task. -/
inductive Happening where
  | notified (change : Change) (now : Timestamp)
  | stepped (task : ℕ)

def happen (known : Directory) (r : Router) : Happening → List Effect × Router
  | .notified change now => ([], r.notify change now)
  | .stepped i => ((r.step known i).1.toList, (r.step known i).2)

/-- All effects of what happens in turn. -/
def play (known : Directory) (r : Router) : List Happening → List Effect × Router
  | [] => ([], r)
  | h :: hs =>
    let (done, r) := r.happen known h
    let (rest, r) := r.play known hs
    (done ++ rest, r)

/-- The event that is admitted, if one is. -/
def admitted? (filter : AgeFilter) : Happening → Option Event
  | .notified (.added event) now | .notified (.modified event) now =>
    if filter.discards event now then none else some event
  | _ => none

theorem accept_pending (known : Directory) (r : Router) (event : Event) (now : Timestamp) :
    (r.accept event now).pending known = r.pending known ++
      if r.filter.discards event now then [] else processEvent known r.rules event := by
  unfold accept
  split
  · rw [pending, pending_filter, List.append_nil]
    rfl
  · rw [pending, List.flatMap_append, pending_filter, List.flatMap_singleton]
    rfl

theorem accept_same (r : Router) (event : Event) (now : Timestamp) :
    (r.accept event now).rules = r.rules ∧ (r.accept event now).filter = r.filter := by
  unfold accept
  split <;> exact ⟨rfl, rfl⟩

theorem happen_same (known : Directory) (r : Router) (h : Happening) :
    (r.happen known h).2.rules = r.rules ∧ (r.happen known h).2.filter = r.filter := by
  cases h with
  | notified change now =>
    cases change with
    | added event => exact r.accept_same event now
    | modified event => exact r.accept_same event now
    | deleted | bookmark | failure => exact ⟨rfl, rfl⟩
  | stepped i =>
    show (r.step known i).2.rules = r.rules ∧ (r.step known i).2.filter = r.filter
    unfold step
    cases r.tasks[i]? <;> exact ⟨rfl, rfl⟩

/-- The effects of the event that comes in are pending behind those that were. -/
theorem notify_pending (known : Directory) (r : Router) (change : Change) (now : Timestamp) :
    (r.notify change now).pending known = r.pending known ++
      (admitted? r.filter (.notified change now)).toList.flatMap (processEvent known r.rules) := by
  have haccept : ∀ event, (r.accept event now).pending known = r.pending known ++
      (if r.filter.discards event now then none else some event).toList.flatMap
        (processEvent known r.rules) := by
    intro event
    rw [accept_pending]
    split <;> simp
  cases change with
  | added event => exact haccept event
  | modified event => exact haccept event
  | deleted | bookmark | failure => exact (List.append_nil _).symm

/-- The effects that were pending and those of the event that comes in are done or pending. -/
theorem happen_pending (known : Directory) (r : Router) (h : Happening) :
    ((r.happen known h).1 ++ (r.happen known h).2.pending known).Perm
      (r.pending known ++ (admitted? r.filter h).toList.flatMap (processEvent known r.rules)) := by
  cases h with
  | notified change now => exact .of_eq (r.notify_pending known change now)
  | stepped i =>
    simp only [admitted?, Option.toList_none, List.flatMap_nil, List.append_nil]
    exact step_pending known r i

theorem play_pending (known : Directory) (r : Router) (hs : List Happening) :
    ((r.play known hs).1 ++ (r.play known hs).2.pending known).Perm
      (r.pending known ++ (hs.filterMap (admitted? r.filter)).flatMap (processEvent known r.rules)) := by
  induction hs generalizing r with
  | nil => exact .of_eq (List.append_nil _).symm
  | cons h hs ih =>
    obtain ⟨hrules, hfilter⟩ := r.happen_same known h
    have htail := ih (r.happen known h).2
    rw [hrules, hfilter] at htail
    have hevents : (h :: hs).filterMap (admitted? r.filter) =
        (admitted? r.filter h).toList ++ hs.filterMap (admitted? r.filter) := by
      cases ha : admitted? r.filter h <;> simp [ha]
    rw [hevents, List.flatMap_append, ← List.append_assoc]
    refine .trans ?_ ((r.happen_pending known h).append_right _)
    simp only [play, List.append_assoc]
    exact htail.append_left _

/-! ## The end of a run -/

/-- Waiting for all tasks: they take steps in any order, and one that has ended is forgotten, until
none is left. -/
inductive Drains (known : Directory) : Router → List Effect → Router → Prop
  | empty {r : Router} (h : r.tasks = []) : Drains known r [] r
  | step {r r' : Router} {done : List Effect} (i : ℕ) (h : Drains known (r.step known i).2 done r') :
      Drains known r ((r.step known i).1.toList ++ done) r'
  | reap {r r' : Router} {done : List Effect} (before : List Task) {t : Task} {after : List Task}
      (ht : r.tasks = before ++ t :: after) (he : t.ended)
      (h : Drains known { r with tasks := before ++ after } done r') : Drains known r done r'

theorem Drains.tasks {done : List Effect} (h : Drains known r done r') : r'.tasks = [] := by
  induction h with
  | empty h => exact h
  | step i h ih => exact ih
  | reap before ht he h ih => exact ih

theorem Drains.perm {done : List Effect} (h : Drains known r done r') :
    done.Perm (r.pending known) := by
  induction h with
  | empty h => rw [pending, h, List.flatMap_nil]
  | @step r r' done i h ih => exact (ih.append_left _).trans (step_pending known r i)
  | @reap r r' done before t after ht he h ih =>
    have hsame : r.pending known = (before ++ after).flatMap (·.effects known) := by
      rw [pending, ht, List.flatMap_append, List.flatMap_cons, t.effects_of_ended known he,
        List.nil_append, List.flatMap_append]
    rw [hsame]
    exact ih

/-- Waiting ends when each task in turn takes all its steps. -/
theorem Drains.alone {t : Task} {tasks : List Task} {done : List Effect}
    (h : Drains known { r with tasks } done r') :
    Drains known { r with tasks := t :: tasks } (t.effects known ++ done) r' := by
  have hcounting : ∀ found : List Match,
      Drains known { r with tasks := .counting found :: tasks }
        ((Task.counting found).effects known ++ done) r' := by
    intro found
    induction found with
    | nil => exact .reap [] rfl rfl h
    | cons m found ih => exact .step 0 ih
  cases t with
  | counting found => exact hcounting found
  | evaluating rest =>
    -- one step for each lookup, and one that turns to counting
    induction rest with
    | done found => exact .step 0 (hcounting found)
    | ask pod next ih => exact .step 0 (ih (known pod))

theorem drain_drains (known : Directory) (r : Router) :
    Drains known r (r.drain known).1 (r.drain known).2 := by
  have hall : ∀ tasks : List Task, Drains known { r with tasks }
      (tasks.flatMap (·.effects known)) { r with tasks := [] } := by
    intro tasks
    induction tasks with
    | nil => exact .empty rfl
    | cons t tasks ih => exact ih.alone
  exact hall r.tasks

theorem play_append (known : Directory) (r : Router) (before after : List Happening) :
    r.play known (before ++ after) =
      ((r.play known before).1 ++ ((r.play known before).2.play known after).1,
        ((r.play known before).2.play known after).2) := by
  induction before generalizing r with
  | nil => rfl
  | cons h before ih =>
    simp only [List.cons_append, play, ih, List.append_assoc]

theorem play_deleted (known : Directory) (r : Router) (before after : List Happening) (event : Event)
    (now : Timestamp) : r.play known (before ++ .notified (.deleted event) now :: after) =
      r.play known (before ++ after) := by
  rw [play_append, play_append]
  rfl

/-- Whatever the order in which changes come and tasks take their steps, and whatever the order in which
the tasks that are left are waited for: then none is in flight, each match of each event that was
admitted has been counted once, and each lookup of the evaluation of such an event has been made once.
Waiting for one task after the other is such an order, and deletions leave no trace. -/
theorem counts_admitted (rules : List Rule) (filter : AgeFilter) (known : Directory)
    (hs : List Happening) :
    let r : Router := { rules, filter }
    let played := r.play known hs
    let events := hs.filterMap (admitted? filter)
    (∀ last r', Drains known played.2 last r' → r'.inFlight = 0 ∧
      ((played.1 ++ last).filterMap Effect.match?).Perm
        (events.flatMap fun event => (Rule.evaluateAll event rules).run known) ∧
      ((played.1 ++ last).filterMap Effect.lookup?).Perm
        (events.flatMap fun event => (Rule.evaluateAll event rules).questions known)) ∧
    Drains known played.2 (played.2.drain known).1 (played.2.drain known).2 ∧
    ∀ before after event now, r.play known (before ++ .notified (.deleted event) now :: after) =
      r.play known (before ++ after) := by
  intro r played events
  refine ⟨?_, drain_drains known played.2, r.play_deleted known⟩
  intro last r' h
  have heffects : (played.1 ++ last).Perm (events.flatMap (processEvent known rules)) :=
    (h.perm.append_left _).trans (r.play_pending known hs)
  refine ⟨List.length_eq_zero_iff.2 h.tasks, ?_, ?_⟩
  · have hmatches := heffects.filterMap Effect.match?
    rw [List.filterMap_flatMap] at hmatches
    simpa only [matches_processEvent] using hmatches
  · have hlookups := heffects.filterMap Effect.lookup?
    rw [List.filterMap_flatMap] at hlookups
    simpa only [lookups_processEvent] using hlookups

/-! Two tasks that take turns, for two pods of which one is known. An event that was never seen is discarded,
and another one is deleted after its pod was looked up. -/

def nodeRules : List Rule := [⟨"nodes_total", [], .ofList [("node", .related "Spec.NodeName")]⟩]

def findWeb : Directory := fun pod =>
  if pod.name = "web-1" then .ok { spec := { nodeName := "a" } } else .error (.notFound pod)

def pastNoon : Timestamp where
  date := ⟨2024, 5, 17, by decide⟩
  second := 43201
  nano := 250000000
  second_lt := by decide
  nano_lt := by decide
  leap_last := by decide

def unseen (pod : String) : Event :=
  { involvedObject := { kind := "Pod", namespace_ := "shop", name := pod } }

def seen (pod : String) : Event := { unseen pod with lastTimestamp := some pastNoon }

def takingTurns : List Happening :=
  [.notified (.added (seen "web-1")) pastNoon, .stepped 0, .notified (.added (unseen "web-3")) pastNoon,
    .notified (.modified (seen "web-2")) pastNoon, .stepped 1, .notified (.deleted (seen "web-2")) pastNoon,
    .stepped 0, .stepped 1]

theorem takingTurns_counted :
    let r : Router := { rules := nodeRules, filter := ⟨.usual⟩ }
    let played := r.play findWeb takingTurns
    let drained := played.2.drain findWeb
    played.2.inFlight = 2 ∧ drained.2.inFlight = 0 ∧
      (played.1 ++ drained.1).filterMap Effect.match? = [⟨"nodes_total", .ofList [("node", "a")]⟩] ∧
      ((played.1 ++ drained.1).filterMap Effect.lookup?).Perm [⟨"shop", "web-1"⟩, ⟨"shop", "web-2"⟩] := by
  obtain ⟨hall, hdrains, -⟩ := counts_admitted nodeRules ⟨.usual⟩ findWeb takingTurns
  obtain ⟨hflight, hmatches, hlookups⟩ := hall _ _ hdrains
  have hevents : takingTurns.filterMap (admitted? ⟨.usual⟩) = [seen "web-1", seen "web-2"] := by decide +kernel
  rw [hevents] at hmatches hlookups
  refine ⟨by decide +kernel, hflight, List.perm_singleton.1 (hmatches.trans (.of_eq ?_)),
    hlookups.trans (.of_eq ?_)⟩
  · decide +kernel
  · decide +kernel

end Router
end EventTally
