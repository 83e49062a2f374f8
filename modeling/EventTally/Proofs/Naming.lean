import EventTally.Proofs.Readings
import EventTally.Proofs.Shapes

/-! Paths on records that were read. Each field that is read agrees with its shape, so that what a path
gives on a record is what its shape finds in the document. -/

namespace EventTally.Shape

variable {j : Json}

/-! ## Fields that were read -/

section

open Json (field)

variable {fs members : List (String × Json)} {names : List String} {name wire : String}

theorem lookup_known (h : Json.knownMembers? names members = some fs) (hn : wire ∈ names) :
    fs.lookup wire = (Json.obj members).get? wire := by
  unfold Json.knownMembers? at h
  simp only [Option.ite_none_right_eq_some, Option.some.injEq] at h
  obtain ⟨-, rfl⟩ := h
  rw [Json.get?, Json.obj?, Option.bind_some]
  induction members with
  | nil => rfl
  | cons m members ih =>
    obtain ⟨key, j⟩ := m
    by_cases he : wire = key
    · subst he
      simp [hn]
    · rw [StringMap.lookup_cons_of_ne he, ← ih]
      by_cases hk : key ∈ names
      · simpa [hk] using StringMap.lookup_cons_of_ne he j _
      · simp [hk]

theorem lookup_headed {room : ℕ} (h : j.headed? names room = some fs) (hn : wire ∈ TypeMeta.names ++ names) :
    fs.lookup wire = j.get? wire := by
  cases j with
  | obj members =>
    simp only [Json.headed?, Option.ite_none_right_eq_some] at h
    exact lookup_known h.2 hn
  | _ => simp [Json.headed?] at h

theorem stringEntries?_eq_some {entries : List (String × String)}
    (h : Json.stringEntries? members = some entries) :
    members = entries.map fun e => (e.1, .str e.2) := by
  induction members generalizing entries with
  | nil =>
    cases h
    rfl
  | cons m members ih =>
    obtain ⟨key, v⟩ := m
    cases v <;> simp only [Json.stringEntries?, Option.map_eq_some_iff, reduceCtorEq] at h
    obtain ⟨rest, hr, rfl⟩ := h
    rw [ih hr]
    rfl

variable (hl : fs.lookup wire = j.get? wire)

include hl

theorem given_text {s : String} (h : Json.text fs wire = some s) :
    Given j (name, [wire], text) (name, some (.text s)) := by
  refine ⟨rfl, fun path => ?_⟩
  rw [Json.text, field, hl] at h
  cases path with
  | nil => cases hj : j.get? wire <;> simp_all [read?, View.textAt?]
  | cons name rest => rfl

theorem given_textIfAny {c : Option String} (h : field fs wire none (Json.optional Json.str?) = some c) :
    Given j (name, [wire], textIfAny) (name, c.map .text) := by
  refine ⟨rfl, fun path => ?_⟩
  rw [field, hl] at h
  cases path with
  | nil =>
    cases hj : j.get? wire with
    | none =>
      rw [hj] at h
      cases h
      simp [hj, read?]
    | some member =>
      rw [hj] at h
      cases member <;> simp [Json.optional, Json.str?] at h <;> subst h <;>
        simp [hj, read?, Json.str?, View.textAt?]
  | cons name rest => cases c <;> rfl

theorem given_texts {m : StringMap String} (h : field fs wire .empty Json.stringMap? = some m) :
    Given j (name, [wire], texts) (name, some (.ofEntries m.entries)) := by
  have hm : ∀ key, m.get? key =
      (((j.get? wire).bind Json.obj?).bind (·.reverse.lookup key)).bind Json.str? := by
    intro key
    rw [field, hl] at h
    cases hj : j.get? wire with
    | none =>
      rw [hj] at h
      cases h
      rfl
    | some member =>
      rw [hj] at h
      simp only [Json.stringMap?, Option.map_eq_some_iff, Option.bind_eq_some_iff] at h
      obtain ⟨entries, ⟨members, hmembers, hentries⟩, rfl⟩ := h
      rw [StringMap.get?_ofList, Option.bind_some, hmembers, Option.bind_some,
        stringEntries?_eq_some hentries, ← List.map_reverse, StringMap.lookup_map]
      cases entries.reverse.lookup key <;> rfl
  refine ⟨rfl, fun path => ?_⟩
  rcases path with _ | ⟨key, _ | ⟨key', rest⟩⟩
  · rfl
  · rw [Option.bind_some, View.ofEntries, View.textAt?]
    rw [Json.find?_singleton, read?, ← hm key, StringMap.lookup_map, StringMap.get?]
    cases m.entries.lookup key <;> rfl
  · rw [Option.bind_some, View.ofEntries, View.textAt?, StringMap.lookup_map]
    cases m.entries.lookup key <;> rfl

end

theorem given_hidden (j : Json) (name wire kind : String) :
    Given j (name, [wire], hidden) (name, some (.other kind)) := ⟨rfl, agrees_hidden _ kind⟩

/-! ## Records that were read -/

section

open Json (field)

variable {α : Type} {read : Json → Option α} {absent : α} {view : α → View}
  {fields : List (String × List String × Shape)} {fs : List (String × Json)} {name wire : String}

/-- A record is read from an object or an array; from an object it has the fields of the shape. -/
structure Reads (read : Json → Option α) (absent : α) (view : α → View)
    (fields : List (String × List String × Shape)) : Prop where
  empty : read (.obj []) = some absent
  named : ∀ members a, read (.obj members) = some a →
    Agrees (record fields) (some (.obj members)) (some (view a))
  only : ∀ j a, read j = some a → (∃ members, j = .obj members) ∨ ∃ items, j = .arr items

theorem exists_of_known {names : List String} (h : j.known? names = some fs) :
    (∃ members, j = .obj members) ∨ ∃ items, j = .arr items := by
  cases j with
  | obj members => exact .inl ⟨members, rfl⟩
  | arr items => exact .inr ⟨items, rfl⟩
  | _ => cases h

theorem reads_of_known {names : List String} {ofFields? : List (String × Json) → Option α}
    (vs : α → List (String × Option View)) (hread : ∀ j, read j = (j.known? names).bind ofFields?)
    (hempty : ofFields? [] = some absent) (hn : (fields.map (·.1)).Nodup)
    (hview : ∀ a, view a = .record (View.present (vs a)))
    (hgiven : ∀ j fs a, (∀ wire ∈ names, fs.lookup wire = j.get? wire) → ofFields? fs = some a →
      List.Forall₂ (Given j) fields (vs a)) : Reads read absent view fields := by
  refine ⟨?_, ?_, ?_⟩
  · rw [hread]
    exact hempty
  · intro members a h
    rw [hread] at h
    obtain ⟨fs, hfs, ha⟩ := Option.bind_eq_some_iff.1 h
    rw [hview]
    exact agrees_record hn (hgiven _ fs a (fun wire hw => lookup_known hfs hw) ha)
  · intro j a h
    rw [hread] at h
    obtain ⟨fs, hfs, -⟩ := Option.bind_eq_some_iff.1 h
    exact exists_of_known hfs

variable (hr : Reads read absent view fields) (hl : fs.lookup wire = j.get? wire)
  (hn : ∀ items, j.get? wire ≠ some (.arr items))

include hr hl hn

theorem given_record {a : α} (h : field fs wire absent read = some a) :
    Given j (name, [wire], record fields) (name, some (view a)) := by
  refine ⟨rfl, ?_⟩
  rw [field, hl] at h
  rw [Json.find?_singleton]
  cases hj : j.get? wire with
  | none =>
    rw [hj] at h
    cases h
    -- an absent record is one without members
    intro path
    rw [hr.named [] absent hr.empty path]
    cases path <;> rfl
  | some member =>
    rw [hj] at h
    rcases hr.only member a h with ⟨members, rfl⟩ | ⟨items, rfl⟩
    · exact hr.named members a h
    · exact absurd hj (hn items)

theorem given_recordIfAny {c : Option α} (h : field fs wire none (Json.optional read) = some c) :
    Given j (name, [wire], recordIfAny fields) (name, c.map view) := by
  refine ⟨rfl, ?_⟩
  rw [field, hl] at h
  rw [Json.find?_singleton]
  cases hj : j.get? wire with
  | none =>
    rw [hj] at h
    cases h
    exact agrees_recordIfAny_none fields rfl
  | some member =>
    rw [hj] at h
    cases member with
    | null =>
      cases h
      exact agrees_recordIfAny_none fields rfl
    | obj members =>
      obtain ⟨a, ha, rfl⟩ := Option.map_eq_some_iff.1 h
      exact agrees_recordIfAny (hr.named members a ha)
    | arr items => exact absurd hj (hn items)
    | _ =>
      obtain ⟨a, ha, rfl⟩ := Option.map_eq_some_iff.1 h
      rcases hr.only _ a ha with ⟨members, he⟩ | ⟨items, he⟩ <;> cases he

end

variable {fs : List (String × Json)}

theorem given_typeMeta (hl : ∀ wire ∈ TypeMeta.names, fs.lookup wire = j.get? wire) {m : TypeMeta}
    (h : TypeMeta.ofFields? fs = some m) : List.Forall₂ (Given j) typeMeta (View.whole m.fields) := by
  simp only [TypeMeta.ofFields?, Option.bind_eq_bind, Option.bind_eq_some_iff] at h
  obtain ⟨kind, hkind, apiVersion, hversion, h⟩ := h
  cases h
  simp only [TypeMeta.names, List.forall_mem_cons] at hl
  simp only [typeMeta, named, List.map_cons, List.map_nil, wireNames]
  exact .cons (given_text hl.1 hkind) (.cons (given_text hl.2.1 hversion) .nil)

theorem given_objectMeta {members : List (String × Json)} {m : ObjectMeta}
    (h : ObjectMeta.ofJson? (.obj members) = some m) :
    List.Forall₂ (Given (.obj members)) objectMeta (View.whole m.fields) := by
  simp only [ObjectMeta.ofJson?, Option.bind_eq_bind, Option.bind_eq_some_iff] at h
  obtain ⟨fs, hfs, name, hname, generateName, hgenerate, namespace_, hnamespace, uid, huid, version,
    hversion, generation, -, created, -, labels, hlabels, annotations, hannotations, h⟩ := h
  cases h
  have hl : ∀ wire ∈ ObjectMeta.names, fs.lookup wire = (Json.obj members).get? wire :=
    fun wire hw => lookup_known hfs hw
  simp only [ObjectMeta.names, List.forall_mem_cons] at hl
  obtain ⟨h1, h2, h3, h4, h5, -, -, h8, h9, -⟩ := hl
  simp only [objectMeta, named, List.map_cons, List.map_nil, wireNames]
  exact .cons (given_text h1 hname) <| .cons (given_text h2 hgenerate) <|
    .cons (given_text h3 hnamespace) <| .cons (given_text h4 huid) <| .cons (given_text h5 hversion) <|
    .cons (given_hidden ..) <| .cons (given_hidden ..) <|
    .cons (given_texts h8 hlabels) <| .cons (given_texts h9 hannotations) .nil

theorem reads_objectMeta :
    Reads ObjectMeta.ofJson? {} (fun m => .record m.fields) objectMeta := by
  refine ⟨rfl, ?_, ?_⟩
  · intro members m h
    rw [← View.present_whole m.fields]
    exact agrees_record (by simp [objectMeta, named]) (given_objectMeta h)
  · intro j m h
    obtain ⟨fs, hfs, -⟩ := Option.bind_eq_some_iff.1 h
    exact exists_of_known hfs

theorem reads_objectReference :
    Reads ObjectReference.ofJson? {} ObjectReference.view objectReference := by
  refine reads_of_known _ (fun _ => rfl) rfl (by simp [objectReference, named])
    (fun r => congrArg View.record (View.present_whole _).symm) ?_
  intro j fs r hl h
  simp only [Option.bind_eq_bind, Option.bind_eq_some_iff] at h
  obtain ⟨kind, hkind, namespace_, hnamespace, name, hname, uid, huid, version, hversion,
    resource, hresource, path, hpath, h⟩ := h
  cases h
  simp only [ObjectReference.names, List.forall_mem_cons] at hl
  obtain ⟨h1, h2, h3, h4, h5, h6, h7, -⟩ := hl
  simp only [objectReference, named, List.map_cons, List.map_nil, wireNames]
  exact .cons (given_text h1 hkind) <| .cons (given_text h2 hnamespace) <|
    .cons (given_text h3 hname) <| .cons (given_text h4 huid) <| .cons (given_text h5 hversion) <|
    .cons (given_text h6 hresource) <| .cons (given_text h7 hpath) .nil

theorem reads_eventSource : Reads EventSource.ofJson? {} EventSource.view eventSource := by
  refine reads_of_known _ (fun _ => rfl) rfl (by simp [eventSource, named])
    (fun r => congrArg View.record (View.present_whole _).symm) ?_
  intro j fs r hl h
  simp only [Option.bind_eq_bind, Option.bind_eq_some_iff] at h
  obtain ⟨component, hcomponent, host, hhost, h⟩ := h
  cases h
  simp only [List.forall_mem_cons] at hl
  simp only [eventSource, named, List.map_cons, List.map_nil, wireNames]
  exact .cons (given_text hl.1 hcomponent) (.cons (given_text hl.2.1 hhost) .nil)

theorem reads_eventSeries : Reads EventSeries.ofJson? {} (fun _ => EventSeries.view) eventSeries := by
  refine reads_of_known _ (fun _ => rfl) rfl (by simp [eventSeries, named])
    (fun _ => congrArg View.record (View.present_whole _).symm) ?_
  intro j fs r hl h
  simp only [eventSeries, named, List.map_cons, List.map_nil]
  exact .cons (given_hidden ..) (.cons (given_hidden ..) .nil)

theorem reads_podSpec : Reads PodSpec.ofJson? {} PodSpec.view podSpec := by
  refine reads_of_known (fun s => View.whole [("NodeName", .text s.nodeName),
    ("ServiceAccountName", .text s.serviceAccountName), ("Hostname", .text s.hostname),
    ("Subdomain", .text s.subdomain), ("SchedulerName", .text s.schedulerName),
    ("PriorityClassName", .text s.priorityClassName), ("RestartPolicy", .text s.restartPolicy),
    ("DNSPolicy", .text s.dnsPolicy), ("NodeSelector", .ofEntries s.nodeSelector.entries)] ++
    [("RuntimeClassName", s.runtimeClassName.map .text)])
    (fun _ => rfl) rfl (by simp [podSpec, named]) ?_ ?_
  · intro s
    rw [View.present_append, View.present_whole, PodSpec.view]
    cases s.runtimeClassName <;> rfl
  · intro j fs s hl h
    simp only [Option.bind_eq_bind, Option.bind_eq_some_iff] at h
    obtain ⟨node, hnode, account, haccount, host, hhost, subdomain, hsubdomain, scheduler, hscheduler,
      priority, hpriority, restart, hrestart, dns, hdns, selector, hselector, runtime, hruntime, h⟩ := h
    cases h
    simp only [PodSpec.names, List.forall_mem_cons] at hl
    obtain ⟨h1, h2, h3, h4, h5, h6, h7, h8, h9, h10, -⟩ := hl
    simp only [podSpec, named, List.map_cons, List.map_nil, wireNames]
    exact .cons (given_text h1 hnode) <| .cons (given_text h2 haccount) <|
      .cons (given_text h3 hhost) <| .cons (given_text h4 hsubdomain) <|
      .cons (given_text h5 hscheduler) <| .cons (given_text h6 hpriority) <|
      .cons (given_text h7 hrestart) <| .cons (given_text h8 hdns) <|
      .cons (given_texts h9 hselector) <| .cons (given_textIfAny h10 hruntime) .nil

theorem reads_podStatus : Reads PodStatus.ofJson? {} PodStatus.view podStatus := by
  refine reads_of_known _ (fun _ => rfl) rfl (by simp [podStatus, named])
    (fun r => congrArg View.record (View.present_whole _).symm) ?_
  intro j fs r hl h
  simp only [Option.bind_eq_bind, Option.bind_eq_some_iff] at h
  obtain ⟨phase, hphase, message, hmessage, reason, hreason, host, hhost, pod, hpod, qos, hqos,
    nominated, hnominated, start, -, h⟩ := h
  cases h
  simp only [PodStatus.names, List.forall_mem_cons] at hl
  obtain ⟨h1, h2, h3, h4, h5, h6, h7, -⟩ := hl
  simp only [podStatus, named, List.map_cons, List.map_nil, wireNames]
  exact .cons (given_text h1 hphase) <| .cons (given_text h2 hmessage) <|
    .cons (given_text h3 hreason) <| .cons (given_text h4 hhost) <| .cons (given_text h5 hpod) <|
    .cons (given_text h6 hqos) <| .cons (given_text h7 hnominated) <| .cons (given_hidden ..) .nil

/-! ## Headers -/

theorem given_inside {j : Json} {member : String} {o : Json} {fields : List (String × List String × Shape)}
    {vs : List (String × Option View)} (ho : o = (j.get? member).getD (.obj []))
    (hp : ∀ f ∈ fields, f.2.1 ≠ []) (h : List.Forall₂ (Given o) fields vs) :
    List.Forall₂ (Given j) (inside member fields) vs := by
  induction h with
  | nil => exact .nil
  | @cons f v fields vs hg _ ih =>
    obtain ⟨hf, hp⟩ := List.forall_mem_cons.1 hp
    refine .cons ⟨hg.1, ?_⟩ (ih hp)
    have hfind : j.find? (member :: f.2.1) = o.find? f.2.1 := by
      rw [Json.find?, ho]
      cases j.get? member with
      | some o => rfl
      | none =>
        obtain ⟨name, rest, hr⟩ := List.exists_cons_of_ne_nil hf
        rw [hr]
        rfl
    rw [hfind]
    exact hg.2

theorem given_headers {j : Json} {m : TypeMeta} {metadata : ObjectMeta}
    (htype : List.Forall₂ (Given j) typeMeta (View.whole m.fields))
    (hl : fs.lookup "metadata" = j.get? "metadata") (hn : ∀ items, j.get? "metadata" ≠ some (.arr items))
    (h : Json.field fs "metadata" {} ObjectMeta.ofJson? = some metadata) :
    List.Forall₂ (Given j) headers
        [("TypeMeta", some (.record m.fields)), ("ObjectMeta", some (.record metadata.fields))] ∧
      List.Forall₂ (Given j) promoted (View.whole (m.fields ++ metadata.fields)) := by
  constructor
  · refine .cons ⟨rfl, ?_⟩ (.cons (given_record reads_objectMeta hl hn h) .nil)
    rw [← View.present_whole m.fields]
    exact agrees_record (by simp [typeMeta, named]) htype
  · have hmeta : List.Forall₂ (Given ((j.get? "metadata").getD (.obj []))) objectMeta
        (View.whole metadata.fields) := by
      rw [Json.field, hl] at h
      cases hj : j.get? "metadata" with
      | none =>
        rw [hj] at h
        cases h
        exact given_objectMeta rfl
      | some o =>
        rw [hj] at h
        rcases reads_objectMeta.only o metadata h with ⟨members, rfl⟩ | ⟨items, rfl⟩
        · exact given_objectMeta h
        · exact absurd hj (hn items)
    rw [promoted, View.whole, List.map_append]
    exact List.rel_append htype (given_inside rfl (by simp [objectMeta, named]) hmeta)

/-! ## Events and pods -/

theorem agrees_event {j : Json} {room : ℕ} {e : Event} (h : Event.ofJson? room j = some e)
    (hn : j.NamesFields ["metadata", "involvedObject", "source", "series", "related"]) :
    Agrees event (some j) (some e.view) := by
  obtain ⟨fs, hfs, hfrom⟩ := Event.exists_readFrom h
  have hl : ∀ wire ∈ TypeMeta.names ++ Event.names, fs.lookup wire = j.get? wire :=
    fun wire hw => lookup_headed hfs hw
  obtain ⟨hlt, hl⟩ := List.forall_mem_append.1 hl
  simp only [Event.names, List.forall_mem_cons] at hl
  obtain ⟨h1, h2, h3, h4, h5, -, -, -, h9, -, h11, h12, h13, h14, h15, -⟩ := hl
  simp only [Json.NamesFields, List.forall_mem_cons] at hn
  obtain ⟨n1, n2, n3, n4, n5, -⟩ := hn
  obtain ⟨hheaders, hpromoted⟩ := given_headers (given_typeMeta hlt hfrom.typeMeta) h1 n1 hfrom.metadata
  have hfields : List.Forall₂ (Given j) eventFields (View.whole [("InvolvedObject", e.involvedObject.view),
      ("Reason", .text e.reason), ("Message", .text e.message), ("Source", e.source.view),
      ("FirstTimestamp", .other "time"), ("LastTimestamp", .other "time"), ("EventTime", .other "time"),
      ("Count", .other "int32"), ("Type", .text e.type), ("Action", .text e.action),
      ("ReportingController", .text e.reportingController),
      ("ReportingInstance", .text e.reportingInstance)] ++
      [("Series", e.series.map fun _ => EventSeries.view), ("Related", e.related.map ObjectReference.view)]) := by
    simp only [eventFields, named, List.map_cons, List.map_nil, wireNames]
    exact .cons (given_record reads_objectReference h2 n2 hfrom.involvedObject) <|
      .cons (given_text h3 hfrom.reason) <| .cons (given_text h4 hfrom.message) <|
      .cons (given_record reads_eventSource h5 n3 hfrom.source) <|
      .cons (given_hidden ..) <| .cons (given_hidden ..) <| .cons (given_hidden ..) <|
      .cons (given_hidden ..) <| .cons (given_text h9 hfrom.type) <| .cons (given_text h12 hfrom.action) <|
      .cons (given_text h14 hfrom.reportingController) <| .cons (given_text h15 hfrom.reportingInstance) <|
      .cons (given_recordIfAny reads_eventSeries h11 n4 hfrom.series) <|
      .cons (given_recordIfAny reads_objectReference h13 n5 hfrom.related) .nil
  have hagrees := agrees_record (o := some j) (by decide +kernel)
    (List.rel_append (List.rel_append hheaders hfields) hpromoted)
  simp only [View.present_append, View.present_whole] at hagrees
  rw [Event.view]
  revert hagrees
  cases e.series <;> cases e.related <;> exact id

theorem agrees_pod {j : Json} {p : Pod} (h : Pod.ofDocument? j = some p)
    (hn : j.NamesFields ["metadata", "spec", "status"]) : Agrees pod (some j) (some p.view) := by
  obtain ⟨fs, hfs, hfrom⟩ := Pod.exists_readFrom h
  have hl : ∀ wire ∈ TypeMeta.names ++ Pod.names, fs.lookup wire = j.get? wire :=
    fun wire hw => lookup_headed hfs hw
  obtain ⟨hlt, hl⟩ := List.forall_mem_append.1 hl
  simp only [Pod.names, List.forall_mem_cons] at hl
  simp only [Json.NamesFields, List.forall_mem_cons] at hn
  obtain ⟨hheaders, hpromoted⟩ := given_headers (given_typeMeta hlt hfrom.typeMeta) hl.1 hn.1 hfrom.metadata
  have hfields : List.Forall₂ (Given j) podFields
      (View.whole [("Spec", p.spec.view), ("Status", p.status.view)]) := by
    simp only [podFields, named, wireNames]
    exact .cons (given_record reads_podSpec hl.2.1 hn.2.1 hfrom.spec) <|
      .cons (given_record reads_podStatus hl.2.2.1 hn.2.2.1 hfrom.status) .nil
  have hagrees := agrees_record (o := some j) (by decide +kernel)
    (List.rel_append (List.rel_append hheaders hfields) hpromoted)
  simp only [View.present_append, View.present_whole] at hagrees
  exact hagrees

end EventTally.Shape

namespace EventTally

/-! ## Paths on records that were read -/

/-- The kinds of records that labels are taken from. -/
inductive RecordKind where
  | event | pod

namespace RecordKind

def view? : RecordKind → Json → Option View
  | event, j => (Event.ofDocument? j).map Event.view
  | pod, j => (Pod.ofDocument? j).map Pod.view

def fields : RecordKind → List (String × List String × Shape)
  | event => Shape.eventFields
  | pod => Shape.podFields

def shape (kind : RecordKind) : Shape := .record (Shape.headers ++ kind.fields ++ Shape.promoted)

/-- The members that hold records. -/
def records : RecordKind → List String
  | event => ["metadata", "involvedObject", "source", "series", "related"]
  | pod => ["metadata", "spec", "status"]

/-- The paths to numbers and instants. -/
def hidden : RecordKind → List String
  | event => ["FirstTimestamp", "LastTimestamp", "EventTime", "Count", "Generation", "CreationTimestamp",
      "ObjectMeta.Generation", "ObjectMeta.CreationTimestamp"]
  | pod => ["Generation", "CreationTimestamp", "ObjectMeta.Generation", "ObjectMeta.CreationTimestamp",
      "Status.StartTime"]

theorem agrees {kind : RecordKind} {j : Json} {v : View} (hv : kind.view? j = some v)
    (hn : j.NamesFields kind.records) : Shape.Agrees kind.shape (some j) (some v) := by
  cases kind with
  | event =>
    obtain ⟨e, he, rfl⟩ := Option.map_eq_some_iff.1 hv
    exact Shape.agrees_event he hn
  | pod =>
    obtain ⟨p, hp, rfl⟩ := Option.map_eq_some_iff.1 hv
    exact Shape.agrees_pod hp hn

theorem lookup_typeMeta (kind : RecordKind) : ∀ name ∈ Shape.typeMeta.map (·.1),
    (Shape.headers ++ kind.fields).lookup name = none := by
  have h : ∀ name ∈ Shape.typeMeta.map (·.1),
      ((Shape.headers ++ kind.fields).lookup name).isNone := by cases kind <;> decide +kernel
  intro name hname
  exact Option.isNone_iff_eq_none.1 (h name hname)

theorem lookup_objectMeta (kind : RecordKind) : ∀ name ∈ Shape.objectMeta.map (·.1),
    (Shape.headers ++ kind.fields ++ Shape.typeMeta).lookup name = none := by
  have h : ∀ name ∈ Shape.objectMeta.map (·.1),
      ((Shape.headers ++ kind.fields ++ Shape.typeMeta).lookup name).isNone := by
    cases kind <;> decide +kernel
  intro name hname
  exact Option.isNone_iff_eq_none.1 (h name hname)

theorem read?_hidden {kind : RecordKind} {path : String} (hpath : path ∈ kind.hidden) (o : Option Json) :
    kind.shape.read? o (View.segments path) = none := by
  have hhidden : ∀ path ∈ kind.hidden, kind.shape.hides (View.segments path) := by
    cases kind <;> decide +kernel
  exact Shape.read?_of_hides (hhidden path hpath) o

theorem read?_series (kind : RecordKind) (j : Json) (path : List String) :
    kind.shape.read? (some j) ("Series" :: path) = none := by
  cases kind with
  | event =>
    have hseries : (Shape.headers ++ Shape.eventFields ++ Shape.promoted).lookup "Series" =
        some ([wireName "Series"], .recordIfAny Shape.eventSeries) := rfl
    rw [shape, fields, Shape.read?, hseries, Option.bind_some, Shape.read?_series]
  | pod =>
    -- pods have no such field
    have hnone : (Shape.headers ++ Shape.podFields ++ Shape.promoted).lookup "Series" = none := rfl
    rw [shape, fields, Shape.read?, hnone, Option.bind_none]

/-- What a path gives on a record is the text that the document has there, by the names that it has in
documents. A field of a header may be named with its header or without it, and no path through a series or
to a number or an instant gives a text. -/
theorem resolve_reads {kind : RecordKind} {j : Json} {v : View} (hv : kind.view? j = some v)
    (hn : j.NamesFields kind.records) :
    (∀ path s, v.resolve path = .ok s ↔ kind.shape.read? (some j) (View.segments path) = some s) ∧
    (∀ name ∈ Shape.typeMeta.map (·.1), ∀ path s, (View.segments path).head? = some name →
      (v.resolve path = .ok s ↔ v.resolve ("TypeMeta" ++ "." ++ path) = .ok s)) ∧
    (∀ name ∈ Shape.objectMeta.map (·.1), ∀ path s, (View.segments path).head? = some name →
      (v.resolve path = .ok s ↔ v.resolve ("ObjectMeta" ++ "." ++ path) = .ok s)) ∧
    (∀ path s, v.resolve ("Series" ++ "." ++ path) ≠ .ok s) ∧
    ∀ path ∈ kind.hidden, ∀ s, v.resolve path ≠ .ok s := by
  have hread : ∀ path s, v.resolve path = .ok s ↔
      kind.shape.read? (some j) (View.segments path) = some s := by
    intro path s
    rw [View.resolve_ok_iff, ← agrees hv hn]
    rfl
  refine ⟨hread, ?_, ?_, ?_, ?_⟩
  · intro name hname path s hpath
    obtain ⟨rest, hrest⟩ := List.head?_eq_some_iff.1 hpath
    rw [hread, hread, View.segments_append (by decide), hrest, shape,
      Shape.read?_typeMeta hname (lookup_typeMeta kind name hname)]
  · intro name hname path s hpath
    obtain ⟨rest, hrest⟩ := List.head?_eq_some_iff.1 hpath
    rw [hread, hread, View.segments_append (by decide), hrest, shape,
      Shape.read?_objectMeta hname (lookup_objectMeta kind name hname)]
  · intro path s
    rw [ne_eq, hread, View.segments_append (by decide), read?_series]
    simp
  · intro path hpath s
    rw [ne_eq, hread, read?_hidden hpath]
    simp

/-- An event that names its reporter and has a label. -/
def labelled : Json :=
  .obj [("metadata", .obj [("labels", .obj [("app", .str "web")])]), ("kind", .str "Event"),
    ("reportingComponent", .str "kubelet")]

theorem resolve_reads_labelled : ∃ v, event.view? labelled = some v ∧ labelled.NamesFields event.records ∧
    v.resolve "ReportingController" = .ok "kubelet" ∧ v.resolve "ObjectMeta.Labels.app" = .ok "web" ∧
    v.resolve "Message" = .ok "" ∧ ∀ s, v.resolve "Related.Name" ≠ .ok s := by
  have hv : (event.view? labelled).isSome := by decide +kernel
  obtain ⟨v, hv⟩ := Option.isSome_iff_exists.1 hv
  have hn : labelled.NamesFields event.records := by
    have hnone : ∀ name ∈ event.records, ((labelled.get? name).bind Json.arr?).isNone := by
      decide +kernel
    intro name hname items h
    have hname := hnone name hname
    rw [h] at hname
    cases hname
  obtain ⟨hread, -⟩ := resolve_reads hv hn
  refine ⟨v, hv, hn, ?_, ?_, ?_, ?_⟩
  · exact (hread _ _).2 (by decide +kernel)
  · exact (hread _ _).2 (by decide +kernel)
  · exact (hread _ _).2 (by decide +kernel)
  · intro s
    have hnone : event.shape.read? (some labelled) (View.segments "Related.Name") = none := by decide +kernel
    rw [ne_eq, hread, hnone]
    simp

end RecordKind
end EventTally
