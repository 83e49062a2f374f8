import EventTally.Exporter
import EventTally.Proofs.Delivery
import EventTally.Proofs.Isolation

/-! A whole run of the exporter. What the feed delivers comes to the router, and what the tasks of the router
find is counted, at whatever moments they are waited for. The invariant is about the registry that an exporter
comes to once all its tasks have ended: an answer adds to it the matches of the events that it brings and that
are admitted, and waiting for tasks changes nothing of it. -/

namespace EventTally

/-! ## Events in turn -/

namespace Rule

variable {known : Directory} {rules : List Rule} {rule : Rule}

/-- Where names are not repeated, a rule that succeeds on an event gives the only match of its name. -/
theorem count_matches (hn : (rules.map name).Nodup) (hr : rule ∈ rules) (event : Event) :
    (((evaluateAll event rules).run known).map Match.name).count rule.name =
      if ((rule.evaluate event).run known).isOk then 1 else 0 := by
  obtain ⟨before, after, rfl⟩ := List.append_of_mem hr
  rw [List.map_append, List.map_cons, List.nodup_middle, List.nodup_cons, List.mem_append, not_or] at hn
  obtain ⟨⟨hbefore, hafter⟩, -⟩ := hn
  have hnone : ∀ rs : List Rule, rule.name ∉ rs.map name →
      ((rs.filterMap (match? known event)).map Match.name).count rule.name = 0 := fun rs hrs =>
    List.count_eq_zero.2 fun hm => hrs ((names_sublist known event rs).subset hm)
  rw [run_evaluateAll, List.filterMap_append, List.map_append, List.count_append, hnone before hbefore,
    Nat.zero_add]
  cases ho : (rule.evaluate event).run known with
  | error e =>
    have hm : match? known event rule = none := by
      rw [match?, ho]
      rfl
    rw [List.filterMap_cons_none hm, hnone after hafter]
    rfl
  | ok m =>
    have hm : match? known event rule = some m := (match?_eq_some_iff known event).2 ho
    rw [List.filterMap_cons_some hm, List.map_cons, name_of_match? known event hm, List.count_cons_self,
      hnone after hafter]
    rfl

/-- The matches of a name are as many as the events on which the rule of that name succeeds. -/
theorem count_matches_flatMap (hn : (rules.map name).Nodup) (hr : rule ∈ rules) (events : List Event) :
    ((events.flatMap fun event => (evaluateAll event rules).run known).map Match.name).count rule.name =
      events.countP fun event => ((rule.evaluate event).run known).isOk := by
  induction events with
  | nil => rfl
  | cons event events ih =>
    rw [List.flatMap_cons, List.map_append, List.count_append, ih, count_matches hn hr, List.countP_cons,
      Nat.add_comm]

theorem takes_of_mem {event : Event} {m : Match} (hm : m ∈ (evaluateAll event rules).run known) :
    ∃ r ∈ rules, r.counter.Takes m := by
  rw [run_evaluateAll] at hm
  obtain ⟨r, hr, hmatch⟩ := List.mem_filterMap.1 hm
  exact ⟨r, hr, (evaluate_fits r event).run known m ((match?_eq_some_iff known event).1 hmatch)⟩

end Rule

namespace Registry

variable {known : Directory} {rules : List Rule}

/-- Processes events one after the other, with the pods that are known. -/
def processAll (known : Directory) (rules : List Rule) (r : Registry) (events : List Event) : Registry :=
  events.foldl (fun r event => ((process rules event r).run known).1) r

theorem processAll_append (r : Registry) (events events' : List Event) :
    r.processAll known rules (events ++ events') =
      (r.processAll known rules events).processAll known rules events' := List.foldl_append

theorem processAll_eq (r : Registry) (events : List Event) : r.processAll known rules events =
    r.counting ((events.flatMap (processEvent known rules)).filterMap Effect.match?) := by
  induction events generalizing r with
  | nil => rfl
  | cons event events ih =>
    rw [processAll, List.foldl_cons, run_process, ← processAll, ih, List.flatMap_cons, List.filterMap_append,
      counting_append]

/-- The metric of a rule adds up to the number of events on which the rule succeeds, in whatever order the
matches are counted. -/
theorem total_of_perm {r₀ : Registry} (hr : register rules = .ok r₀) {events : List Event}
    (hlen : events.length ≤ countLimit) {calls : List Match}
    (hp : calls.Perm ((events.flatMap (processEvent known rules)).filterMap Effect.match?))
    {rule : Rule} (hrule : rule ∈ rules) : (r₀.counting calls).total rule.name =
      events.countP fun event => ((rule.evaluate event).run known).isOk := by
  have hnew := isNew_register hr
  have hcounters : r₀.counters = rules.map Rule.counter := counters_register hr
  have hc : rule.counter ∈ r₀.counters := hcounters ▸ List.mem_map_of_mem hrule
  simp only [List.filterMap_flatMap, matches_processEvent] at hp
  have htakes : ∀ m ∈ calls, r₀.Takes m := by
    intro m hm
    obtain ⟨event, -, hm⟩ := List.mem_flatMap.1 (hp.mem_iff.1 hm)
    obtain ⟨r, hr, ht⟩ := Rule.takes_of_mem hm
    exact ⟨r.counter, hcounters ▸ List.mem_map_of_mem hr, ht⟩
  have hcount : (rule.counter.valuesOf calls).length =
      events.countP fun event => ((rule.evaluate event).run known).isOk := by
    rw [hnew.length_valuesOf hc htakes, (hp.map Match.name).count_eq]
    exact Rule.count_matches_flatMap (nodup_names_register hr) hrule events
  have hle := List.countP_le_length (p := fun event => ((rule.evaluate event).run known).isOk) (l := events)
  exact (hnew.total_counting hc (by omega)).trans hcount

end Registry

/-! ## Notices -/

namespace Feed

/-- The changes that an answer brings to the feed, none if it has ended. -/
def brings (f : Feed) (reached : Reached) : List Change :=
  match f.cursor with
  | .ok cursor => delivered cursor reached
  | .error _ => []

theorem step_changes (f : Feed) (reached : Reached) :
    (f.step reached).changes = f.changes ++ f.brings reached := by
  unfold brings
  cases h : f.cursor with
  | ok cursor => rw [step_ok h]
  | error e => rw [step, h, List.append_nil]

end Feed

namespace Router

/-- The change that the router is notified of; the turn of a task is none. -/
def Happening.change? : Happening → Option Change
  | .notified change _ => some change
  | .stepped _ => none

theorem admitted?_filter (filter : AgeFilter) (hs : List Happening) :
    (hs.filter (·.change?.isSome)).filterMap (admitted? filter) = hs.filterMap (admitted? filter) := by
  rw [List.filterMap_filter]
  refine List.filterMap_congr fun h _ => ?_
  cases h <;> rfl

/-- Changes that come at once: their events are pending in the order of the changes. -/
theorem foldl_notify (known : Directory) (r : Router) (cs : List Change) (now : Timestamp) :
    let after := cs.foldl (fun r change => r.notify change now) r
    after.rules = r.rules ∧ after.filter = r.filter ∧
      after.pending known = r.pending known ++
        ((cs.map (Happening.notified · now)).filterMap (admitted? r.filter)).flatMap
          (processEvent known r.rules) := by
  induction cs generalizing r with
  | nil => exact ⟨rfl, rfl, (List.append_nil _).symm⟩
  | cons c cs ih =>
    obtain ⟨hrules, hfilter⟩ := r.happen_same known (.notified c now)
    obtain ⟨h1, h2, h3⟩ := ih (r.notify c now)
    rw [show (r.notify c now).rules = r.rules from hrules,
      show (r.notify c now).filter = r.filter from hfilter, r.notify_pending known c now] at h3
    refine ⟨h1.trans hrules, h2.trans hfilter, h3.trans ?_⟩
    cases ha : admitted? r.filter (.notified c now) <;> simp [ha]

end Router

/-! ## Runs -/

/-- What a server knows of pods that a client looks up. -/
def Client.directory (c : Client) (server : Request → Reached) : Directory :=
  fun pod => (c.fetchPod pod).run server

theorem Task.run_calls (c : Client) (server : Request → Reached) (t : Task) :
    (t.calls c).run server = (t.effects (c.directory server)).filterMap Effect.match? := by
  cases t with
  | evaluating rest =>
    rw [matches_evaluating]
    exact Dialogue.run_through server rest c.fetchPod
  | counting rest =>
    rw [effects, List.filterMap_map]
    exact List.filterMap_some.symm

namespace Exporter

open Router (Happening admitted? Drains)

/-- What comes to an exporter that runs: an answer with the instant at which it is seen, or the time to wait
for all tasks. -/
inductive Turn where
  | answered (reached : Reached) (now : Timestamp)
  | waited

def Turn.answer? : Turn → Option Reached
  | .answered reached _ => some reached
  | .waited => none

def turn (x : Exporter) : Turn → ApiCall Exporter
  | .answered reached now => return x.receive reached now
  | .waited => x.drain

/-- Takes its turns, and waits for all tasks in the end. -/
def run (x : Exporter) : List Turn → ApiCall Exporter
  | [] => x.drain
  | t :: ts => do run (← x.turn t) ts

/-- What the router is notified of by the answers to a feed. -/
def notices (f : Feed) : List Turn → List Happening
  | [] => []
  | .waited :: ts => notices f ts
  | .answered reached now :: ts =>
    (f.brings reached).map (Happening.notified · now) ++ notices (f.step reached) ts

theorem changes_notices (f : Feed) (turns : List Turn) :
    f.changes ++ (notices f turns).filterMap Happening.change? =
      ((turns.filterMap Turn.answer?).foldl Feed.step f).changes := by
  induction turns generalizing f with
  | nil => exact List.append_nil _
  | cons t ts ih =>
    cases t with
    | waited => exact ih f
    | answered reached now =>
      have hchanges : ((f.brings reached).map (Happening.notified · now)).filterMap Happening.change? =
          f.brings reached := by
        rw [List.filterMap_map]
        exact List.filterMap_some
      rw [notices, List.filterMap_append, hchanges, ← List.append_assoc, ← Feed.step_changes, ih]
      rfl

/-- The registry that the exporter comes to once its tasks have ended. -/
def settled (server : Request → Reached) (x : Exporter) : Registry :=
  x.counters.counting ((x.router.pending (x.client.directory server)).filterMap Effect.match?)

variable {server : Request → Reached} {x : Exporter}

theorem run_finish (x : Exporter) (tasks : List Task) : (x.finish tasks).run server = { x with
    counters := x.counters.counting
      ((tasks.flatMap (·.effects (x.client.directory server))).filterMap Effect.match?) } := by
  induction tasks generalizing x with
  | nil => rfl
  | cons t tasks ih =>
    rw [finish, Dialogue.run_bind, Task.run_calls, ih, List.flatMap_cons, List.filterMap_append,
      Registry.counting_append]
    rfl

theorem drain_settles (x : Exporter) : x.drain.run server = { x with
    router := { x.router with tasks := [] }
    counters := x.settled server } := run_finish _ _

/-- An answer does to the cursor what it does to that of the feed. -/
theorem receive_eq {f : Feed} (h : f.cursor = x.cursor) (reached : Reached) (now : Timestamp) :
    x.receive reached now = { x with
      cursor := (f.step reached).cursor
      router := (f.brings reached).foldl (fun r change => r.notify change now) x.router } := by
  cases hc : x.cursor with
  | ok cursor =>
    have hf : f.cursor = .ok cursor := h.trans hc
    simp only [receive, advance, hc, Feed.brings, Feed.step_ok hf, hf, Cursor.step_changes]
  | error e =>
    have hf : f.cursor = .error e := h.trans hc
    simp only [receive, hc, Feed.brings, Feed.step, hf, List.foldl_nil]
    rw [← hc]

/-- The matches of the events that come in are added to those that are still to be counted. -/
theorem settled_notified (cs : List Change) (now : Timestamp) (cursor : Except ClusterError Cursor) :
    settled server { x with
      cursor := cursor
      router := cs.foldl (fun r change => r.notify change now) x.router } =
    (x.settled server).processAll (x.client.directory server) x.router.rules
      ((cs.map (Happening.notified · now)).filterMap (admitted? x.router.filter)) := by
  obtain ⟨-, -, hpending⟩ := Router.foldl_notify (x.client.directory server) x.router cs now
  rw [Registry.processAll_eq, settled, settled, ← Registry.counting_append, ← List.filterMap_append,
    ← hpending]

/-- The feed, the router and the counters of an exporter that runs go on as they do alone: it has the cursor of
the feed that took in the answers, no task, and the counters that the admitted events lead to in turn. -/
theorem run_joins {f : Feed} (h : f.cursor = x.cursor) (server : Request → Reached) (turns : List Turn) :
    (x.run turns).run server = { x with
      cursor := ((turns.filterMap Turn.answer?).foldl Feed.step f).cursor
      router := { x.router with tasks := [] }
      counters := (x.settled server).processAll (x.client.directory server) x.router.rules
        ((notices f turns).filterMap (admitted? x.router.filter)) } := by
  -- on the turns; the feed may differ from the cursor's own in the changes that it has had before
  induction turns generalizing x f with
  | nil =>
    rw [run, drain_settles]
    simp only [List.filterMap_nil, List.foldl_nil, h]
    rfl
  | cons t ts ih =>
    cases t with
    | waited =>
      rw [run, turn, Dialogue.run_bind, drain_settles]
      exact ih h
    | answered reached now =>
      have hcursor : (f.step reached).cursor = (x.receive reached now).cursor := by rw [receive_eq h]
      obtain ⟨hrules, hfilter, -⟩ :=
        Router.foldl_notify (x.client.directory server) x.router (f.brings reached) now
      rw [run, turn, Dialogue.run_bind, Dialogue.run_pure, ih hcursor, receive_eq h, settled_notified]
      simp only [notices, hrules, hfilter, List.filterMap_append, Registry.processAll_append]
      rfl

/-! ## From the start -/

/-- An exporter before its feed is opened. -/
structure IsNew (x : Exporter) : Prop where
  cursor : x.cursor = .ok .list
  tasks : x.router.tasks = []
  registered : Registry.register x.router.rules = .ok x.counters

/-- Whatever files are found, an exporter that has started is a new one. -/
theorem isNew_start (s : Settings) (env : Environment) (listen : ListenAddress → Except ListenError Unit) :
    (start s env listen).run.Always fun found => ∀ x, found = .ok x → x.IsNew := by
  unfold start
  refine .except_bind (p := fun _ => True) (.of_forall fun _ _ _ => trivial) fun rules _ => ?_
  refine .except_bind (p := fun counters => Registry.register rules = .ok counters) ?_ fun counters hr => ?_
  · intro counters hc
    cases hr : Registry.register rules with
    | error e =>
      rw [hr] at hc
      cases hc
    | ok r =>
      rw [hr] at hc
      cases hc
      rfl
  refine .except_bind (p := fun _ => True) (.of_forall fun _ _ _ => trivial) fun client _ => ?_
  refine .except_bind (p := fun _ => True) (.of_forall fun _ _ _ => trivial) fun _ _ => ?_
  intro x hx
  cases hx
  exact ⟨rfl, rfl, hr⟩

theorem IsNew.settled (h : x.IsNew) (server : Request → Reached) : x.settled server = x.counters := by
  rw [Exporter.settled, Router.pending, h.tasks]
  rfl

/-- When a run of a new exporter is over, its feed has come as far as the answers lead, the router has been
notified of what they deliver, and the events that it admitted have been processed in turn. The metric of a
rule then adds up to the number of these events on which the rule succeeds, and it does so too when tasks take
their steps in any other order, between the same notices. -/
theorem run_counts (h : x.IsNew) (server : Request → Reached) (turns : List Turn) :
    let known := x.client.directory server
    let answers := turns.filterMap Turn.answer?
    let noticed := notices {} turns
    let events := noticed.filterMap (admitted? x.router.filter)
    let y := (x.run turns).run server
    y.cursor = (Feed.run answers).cursor ∧
    noticed.filterMap Happening.change? = (Feed.run answers).changes ∧
    y.router.inFlight = 0 ∧
    y.counters = x.counters.processAll known x.router.rules events ∧
    (events.length ≤ countLimit → ∀ rule ∈ x.router.rules,
      y.counters.total rule.name = events.countP (fun event => ((rule.evaluate event).run known).isOk) ∧
      ∀ hs last r, hs.filter (·.change?.isSome) = noticed →
        Drains known (x.router.play known hs).2 last r →
        (x.counters.counting (((x.router.play known hs).1 ++ last).filterMap Effect.match?)).total rule.name =
          y.counters.total rule.name) := by
  intro known answers noticed events y
  have hy : y = _ := run_joins (f := {}) h.cursor.symm server turns
  have hcounters : y.counters = x.counters.processAll known x.router.rules events := by
    rw [hy, h.settled]
  refine ⟨by rw [hy]; rfl, changes_notices {} turns, by rw [hy]; rfl, hcounters, fun hlen rule hrule => ?_⟩
  have htotal : y.counters.total rule.name =
      events.countP fun event => ((rule.evaluate event).run known).isOk := by
    rw [hcounters, Registry.processAll_eq]
    exact Registry.total_of_perm h.registered hlen (.refl _) hrule
  refine ⟨htotal, fun hs last r hsame hdrains => ?_⟩
  have hevents : hs.filterMap (admitted? x.router.filter) = events := by
    rw [← Router.admitted?_filter, hsame]
  have hpending : x.router.pending known = [] := by rw [Router.pending, h.tasks, List.flatMap_nil]
  have heffects : ((x.router.play known hs).1 ++ last).Perm
      (events.flatMap (processEvent known x.router.rules)) := by
    have hplayed := (hdrains.perm.append_left _).trans (x.router.play_pending known hs)
    rwa [hpending, hevents, List.nil_append] at hplayed
  rw [htotal]
  exact Registry.total_of_perm h.registered hlen (heffects.filterMap Effect.match?) hrule

def shopExporter : Exporter where
  client := { base := { scheme := "http", authority := some { host := .name "shop" }, path := .segments [""] } }
  namespace_ := none
  router := { rules := Registry.nodeRules, filter := ⟨.usual⟩ }
  counters := Registry.nodeRegistry

/-- Tasks are waited for between the answers. -/
def shopTurns : List Turn :=
  ((Feed.shopAnswers [Feed.shopWatch]).map fun reached => .answered reached Router.pastNoon).intersperse .waited

/-- Finds each pod on the same node. -/
def shopServer (_ : Request) : Reached :=
  .ok { status := 200, chunks := [Utf8.encode "\x7b\"spec\":\x7b\"nodeName\":\"a\"\x7d\x7d"] }

example :
    let y := (shopExporter.run shopTurns).run shopServer
    y.counters.total "pods_total" = 2 ∧ y.counters.total "nodes_total" = 2 ∧
      (y.counters.samples "nodes_total").map Sample.values = [["a"]] ∧
      y.cursor = .error (.refused 403 "no") := by
  decide +kernel

end Exporter
end EventTally
