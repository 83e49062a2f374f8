import EventTally.Proofs.Entries
import EventTally.Record.Pod

/-! The names in paths and the names in documents. A shape says what a path leads to and where in the
document it stands: by rule a field has the same name in both, but for the capitals at its start. -/

namespace EventTally

/-! ## Names and places -/

/-- The name in documents: capitals at the start are small there, up to the one that starts a word. -/
def wireName (name : String) : String :=
  let capitals := name.toList.takeWhile Char.isUpper
  let rest := name.toList.dropWhile Char.isUpper
  let small := if rest.isEmpty then capitals.length else max 1 (capitals.length - 1)
  String.ofList ((capitals.take small).map Char.toLower ++ capitals.drop small ++ rest)

/-- The value at a place, which is given by the names of members inside each other. -/
def Json.find? (j : Json) : List String → Option Json
  | [] => some j
  | name :: rest => (j.get? name).bind (find? · rest)

@[simp] theorem Json.find?_singleton (j : Json) (name : String) : j.find? [name] = j.get? name := by
  rw [find?]
  cases j.get? name <;> rfl

/-- No member of these names, which hold records, is an array of the record's fields. -/
def Json.NamesFields (records : List String) (j : Json) : Prop :=
  ∀ name ∈ records, ∀ items, j.get? name ≠ some (.arr items)

/-- What stands in a document, as far as paths lead to it. A field of a record has its name in paths, its
place in the record, and its own shape. -/
inductive Shape where
  /-- A text, which is empty if it is absent. -/
  | text
  | textIfAny
  /-- A number or an instant. -/
  | hidden
  /-- A map of texts, each of which has its key as its name. -/
  | texts
  /-- A record, which has no members if it is absent. -/
  | record (fields : List (String × List String × Shape))
  | recordIfAny (fields : List (String × List String × Shape))

/-- What the segments of a path lead to. A repeated key of a map has its last value. -/
def Shape.read? (j : Option Json) : Shape → List String → Option String
  | text, [] => j.elim (some "") Json.str?
  | textIfAny, [] => j.bind Json.str?
  | texts, [key] => ((j.bind Json.obj?).bind (·.reverse.lookup key)).bind Json.str?
  | record fields, name :: rest =>
    (fields.lookup name).bind fun f => read? ((j.getD (.obj [])).find? f.1) f.2 rest
  | recordIfAny fields, name :: rest =>
    (j.bind Json.obj?).bind fun members => (fields.lookup name).bind fun f =>
      read? ((Json.obj members).find? f.1) f.2 rest
  | _, _ => none

namespace Shape

/-! ## The shapes of records -/

def named (shape : Shape) (name : String) : String × List String × Shape :=
  (name, [wireName name], shape)

/-- The fields of a record that stands in a member of another one. -/
def inside (member : String) (fields : List (String × List String × Shape)) :
    List (String × List String × Shape) :=
  fields.map fun f => (f.1, member :: f.2.1, f.2.2)

def typeMeta : List (String × List String × Shape) := ["Kind", "APIVersion"].map (named text)

def objectMeta : List (String × List String × Shape) :=
  ["Name", "GenerateName", "Namespace", "UID", "ResourceVersion"].map (named text) ++
    ["Generation", "CreationTimestamp"].map (named hidden) ++
    ["Labels", "Annotations"].map (named texts)

def objectReference : List (String × List String × Shape) :=
  ["Kind", "Namespace", "Name", "UID", "APIVersion", "ResourceVersion", "FieldPath"].map (named text)

def eventSource : List (String × List String × Shape) := ["Component", "Host"].map (named text)

def eventSeries : List (String × List String × Shape) :=
  ["Count", "LastObservedTime"].map (named hidden)

/-- The headers of a record, whose fields also stand for themselves. The type is among the members of the
record itself. -/
def headers : List (String × List String × Shape) :=
  [("TypeMeta", [], record typeMeta), ("ObjectMeta", ["metadata"], record objectMeta)]

def promoted : List (String × List String × Shape) := typeMeta ++ inside "metadata" objectMeta

def eventFields : List (String × List String × Shape) :=
  named (record objectReference) "InvolvedObject" :: ["Reason", "Message"].map (named text) ++
    named (record eventSource) "Source" ::
    ["FirstTimestamp", "LastTimestamp", "EventTime", "Count"].map (named hidden) ++
    ["Type", "Action"].map (named text) ++
    [("ReportingController", ["reportingComponent"], text), named text "ReportingInstance",
      named (recordIfAny eventSeries) "Series", named (recordIfAny objectReference) "Related"]

def event : Shape := record (headers ++ eventFields ++ promoted)

def podSpec : List (String × List String × Shape) :=
  ["NodeName", "ServiceAccountName", "Hostname", "Subdomain", "SchedulerName", "PriorityClassName",
    "RestartPolicy", "DNSPolicy"].map (named text) ++
    [named texts "NodeSelector", named textIfAny "RuntimeClassName"]

def podStatus : List (String × List String × Shape) :=
  ["Phase", "Message", "Reason", "HostIP", "PodIP", "QOSClass", "NominatedNodeName"].map (named text) ++
    [named hidden "StartTime"]

def podFields : List (String × List String × Shape) :=
  [named (record podSpec) "Spec", named (record podStatus) "Status"]

def pod : Shape := record (headers ++ podFields ++ promoted)

theorem wireNames :
    (wireName "Kind" = "kind" ∧ wireName "APIVersion" = "apiVersion") ∧
    (wireName "Name" = "name" ∧ wireName "GenerateName" = "generateName" ∧
      wireName "Namespace" = "namespace" ∧ wireName "UID" = "uid" ∧
      wireName "ResourceVersion" = "resourceVersion" ∧ wireName "Generation" = "generation" ∧
      wireName "CreationTimestamp" = "creationTimestamp" ∧ wireName "Labels" = "labels" ∧
      wireName "Annotations" = "annotations" ∧ wireName "FieldPath" = "fieldPath") ∧
    (wireName "Component" = "component" ∧ wireName "Host" = "host" ∧ wireName "Count" = "count" ∧
      wireName "LastObservedTime" = "lastObservedTime") ∧
    (wireName "InvolvedObject" = "involvedObject" ∧ wireName "Reason" = "reason" ∧
      wireName "Message" = "message" ∧ wireName "Source" = "source" ∧
      wireName "FirstTimestamp" = "firstTimestamp" ∧ wireName "LastTimestamp" = "lastTimestamp" ∧
      wireName "EventTime" = "eventTime" ∧ wireName "Type" = "type" ∧ wireName "Action" = "action" ∧
      wireName "ReportingInstance" = "reportingInstance" ∧ wireName "Series" = "series" ∧
      wireName "Related" = "related") ∧
    (wireName "NodeName" = "nodeName" ∧ wireName "ServiceAccountName" = "serviceAccountName" ∧
      wireName "Hostname" = "hostname" ∧ wireName "Subdomain" = "subdomain" ∧
      wireName "SchedulerName" = "schedulerName" ∧ wireName "PriorityClassName" = "priorityClassName" ∧
      wireName "RestartPolicy" = "restartPolicy" ∧ wireName "DNSPolicy" = "dnsPolicy" ∧
      wireName "NodeSelector" = "nodeSelector" ∧ wireName "RuntimeClassName" = "runtimeClassName") ∧
    (wireName "Phase" = "phase" ∧ wireName "HostIP" = "hostIP" ∧ wireName "PodIP" = "podIP" ∧
      wireName "QOSClass" = "qosClass" ∧ wireName "NominatedNodeName" = "nominatedNodeName" ∧
      wireName "StartTime" = "startTime" ∧ wireName "Spec" = "spec" ∧ wireName "Status" = "status") := by
  decide +kernel

end Shape

/-! ## Views -/

namespace View

/-- The text at the end of the segments. -/
def textAt? : View → List String → Option String
  | text s, [] => some s
  | record fields, name :: rest => (fields.lookup name).bind (textAt? · rest)
  | _, _ => none

theorem walk_ok_iff (v : View) (index : ℕ) (path : List String) (s : String) :
    v.walk index path = .ok (.text s) ↔ v.textAt? path = some s := by
  induction path generalizing v index with
  | nil => cases v <;> simp [walk, textAt?]
  | cons name rest ih =>
    cases v with
    | text t => simp [walk, textAt?]
    | other kind => simp [walk, textAt?]
    | record fields =>
      cases hf : fields.lookup name with
      | none => simp [walk, textAt?, hf]
      | some field => simpa [walk, textAt?, hf] using ih field (index + 1)

theorem resolve_ok_iff (v : View) (path : String) (s : String) :
    v.resolve path = .ok s ↔ v.textAt? (segments path) = some s := by
  rw [← walk_ok_iff v 0, resolve]
  cases v.walk 0 (segments path) with
  | error e => simp [bind, Except.bind]
  | ok found => cases found <;> simp [bind, Except.bind]

theorem segments_append {name : String} (h : '.' ∉ name.toList) (path : String) :
    segments (name ++ "." ++ path) = name :: segments path := by
  have hpath : (name ++ "." ++ path).toList = name.toList ++ '.' :: path.toList := by simp
  rw [segments, segments, hpath, List.splitOn_append_cons_self_of_not_mem h, List.map_cons,
    String.ofList_toList]

/-- The fields of a record that it has. -/
def present (fields : List (String × Option View)) : List (String × View) :=
  fields.filterMap fun f => f.2.map (f.1, ·)

/-- Fields that are all there. -/
def whole (fields : List (String × View)) : List (String × Option View) :=
  fields.map fun f => (f.1, some f.2)

theorem present_whole (fields : List (String × View)) : present (whole fields) = fields := by
  simp [present, whole, List.filterMap_map]

theorem present_append (fields fields' : List (String × Option View)) :
    present (fields ++ fields') = present fields ++ present fields' := List.filterMap_append

theorem lookup_present {fields : List (String × Option View)} (hn : (fields.map (·.1)).Nodup)
    (name : String) : (present fields).lookup name = (fields.lookup name).join := by
  induction fields with
  | nil => rfl
  | cons f fields ih =>
    obtain ⟨hf, hn⟩ := List.nodup_cons.1 hn
    have hrest := ih hn
    obtain ⟨name', v⟩ := f
    by_cases he : name = name'
    · subst he
      have hnone : fields.lookup name = none := by
        rw [List.lookup_eq_none_iff]
        rintro ⟨name', w⟩ hg
        rw [bne_iff_ne]
        rintro rfl
        exact hf (List.mem_map.2 ⟨_, hg, rfl⟩)
      cases v with
      | none => simpa [present, hnone] using hrest
      | some v => simp [present]
    · rw [StringMap.lookup_cons_of_ne he, ← hrest]
      cases v with
      | none => rfl
      | some v => exact StringMap.lookup_cons_of_ne he v (present fields)

end View

/-! ## Agreement -/

namespace Shape

variable {j : Json} {o : Option Json}

/-- A field that may be there gives on every path what the shape finds. -/
def Agrees (shape : Shape) (o : Option Json) (v : Option View) : Prop :=
  ∀ path, v.bind (·.textAt? path) = shape.read? o path

/-- A field has the name that its shape has, and gives what this finds at its place in the record. -/
def Given (j : Json) (f : String × List String × Shape) (v : String × Option View) : Prop :=
  f.1 = v.1 ∧ Agrees f.2.2 (j.find? f.2.1) v.2

theorem agrees_record {fields : List (String × List String × Shape)} {vs : List (String × Option View)}
    (hn : (fields.map (·.1)).Nodup) (h : List.Forall₂ (Given (o.getD (.obj []))) fields vs) :
    Agrees (record fields) o (some (.record (View.present vs))) := by
  have hnames : vs.map (·.1) = fields.map (·.1) := by
    clear hn
    induction h with
    | nil => rfl
    | cons hg _ ih => rw [List.map_cons, List.map_cons, hg.1, ih]
  intro path
  cases path with
  | nil => rfl
  | cons name rest =>
    rw [Option.bind_some, View.textAt?, View.lookup_present (hnames ▸ hn), read?]
    clear hn hnames
    induction h with
    | nil => rfl
    | @cons f v fields vs hg _ ih =>
      obtain ⟨name', place, shape⟩ := f
      obtain ⟨name'', v⟩ := v
      obtain ⟨rfl, ha⟩ := hg
      by_cases he : name = name'
      · subst he
        simpa using ha rest
      · rw [StringMap.lookup_cons_of_ne he, StringMap.lookup_cons_of_ne he]
        exact ih

theorem agrees_recordIfAny_none (fields : List (String × List String × Shape)) {o : Option Json}
    (h : o.bind Json.obj? = none) : Agrees (recordIfAny fields) o none := by
  intro path
  cases path with
  | nil => rfl
  | cons name rest => simp [read?, h]

theorem agrees_recordIfAny {fields : List (String × List String × Shape)} {members : List (String × Json)}
    {v : View} (h : Agrees (record fields) (some (.obj members)) (some v)) :
    Agrees (recordIfAny fields) (some (.obj members)) (some v) := by
  intro path
  rw [h path]
  cases path <;> rfl

theorem agrees_hidden (o : Option Json) (kind : String) : Agrees hidden o (some (.other kind)) := by
  intro path
  cases path <;> rfl

/-! ## Promoted and hidden fields -/

theorem read?_hidden (o : Option Json) (path : List String) : read? o hidden path = none := by
  cases path <;> rfl

/-- Whether the segments lead to a number or an instant. -/
def hides : Shape → List String → Bool
  | hidden, [] => true
  | record fields, name :: rest => (fields.lookup name).any fun f => hides f.2 rest
  | _, _ => false

theorem read?_of_hides {shape : Shape} {path : List String} (h : shape.hides path) (o : Option Json) :
    read? o shape path = none := by
  induction path generalizing shape o with
  | nil => cases shape <;> first | rfl | simp [hides] at h
  | cons name rest ih =>
    cases shape with
    | record fields =>
      rw [read?]
      cases hf : fields.lookup name with
      | none => rfl
      | some f =>
        simp only [hides, hf, Option.any_some] at h
        exact ih h _
    | _ => simp [hides] at h

theorem read?_series (o : Option Json) (path : List String) :
    read? o (recordIfAny eventSeries) path = none := by
  cases path with
  | nil => rfl
  | cons name rest =>
    have hall : ∀ f ∈ eventSeries, f.2.2 = hidden := by simp [eventSeries, named]
    rw [read?]
    cases o.bind Json.obj? with
    | none => rfl
    | some members =>
      rw [Option.bind_some]
      cases hf : eventSeries.lookup name with
      | none => rfl
      | some f =>
        rw [Option.bind_some, show f.2 = hidden from hall _ (StringMap.mem_of_lookup hf), read?_hidden]

section

variable {fields : List (String × List String × Shape)} {name : String}

theorem exists_lookup (hn : name ∈ fields.map (·.1)) : ∃ f, fields.lookup name = some f := by
  cases hf : fields.lookup name with
  | some f => exact ⟨f, rfl⟩
  | none =>
    obtain ⟨f, hm, rfl⟩ := List.mem_map.1 hn
    simpa using List.lookup_eq_none_iff.1 hf f hm

theorem read?_typeMeta (hn : name ∈ typeMeta.map (·.1)) (hf : (headers ++ fields).lookup name = none)
    (j : Json) (rest : List String) :
    read? (some j) (record (headers ++ fields ++ promoted)) (name :: rest) =
      read? (some j) (record (headers ++ fields ++ promoted)) ("TypeMeta" :: name :: rest) := by
  have hheader : (headers ++ fields ++ promoted).lookup "TypeMeta" = some ([], record typeMeta) := rfl
  obtain ⟨f, hname⟩ := exists_lookup hn
  rw [read?, read?, hheader, List.lookup_append, hf, promoted, List.lookup_append, hname]
  simp [read?, hname, Json.find?]

theorem read?_objectMeta (hn : name ∈ objectMeta.map (·.1))
    (hf : (headers ++ fields ++ typeMeta).lookup name = none) (j : Json) (rest : List String) :
    read? (some j) (record (headers ++ fields ++ promoted)) (name :: rest) =
      read? (some j) (record (headers ++ fields ++ promoted)) ("ObjectMeta" :: name :: rest) := by
  have hheader : (headers ++ fields ++ promoted).lookup "ObjectMeta" =
      some (["metadata"], record objectMeta) := rfl
  obtain ⟨f, hname⟩ := exists_lookup hn
  have hplace : ∀ f ∈ objectMeta, f.2.1 ≠ [] := by simp [objectMeta, named]
  obtain ⟨wire, place, hp⟩ := List.exists_cons_of_ne_nil (hplace _ (StringMap.mem_of_lookup hname))
  have hinside : (inside "metadata" objectMeta).lookup name = some ("metadata" :: f.1, f.2) := by
    have hmap := StringMap.lookup_map
      (fun f : List String × Shape => ("metadata" :: f.1, f.2)) objectMeta name
    rw [hname] at hmap
    exact hmap
  rw [read?, read?, hheader, promoted, ← List.append_assoc, List.lookup_append, hf, hinside]
  simp only [Option.none_or, Option.bind_some, Option.getD_some, Json.find?_singleton, read?, hname]
  rw [Json.find?]
  cases j.get? "metadata" with
  | some o => rfl
  | none =>
    rw [show f.1 = wire :: place from hp]
    rfl

end

end Shape
end EventTally
