import EventTally.Proofs.Entries
import EventTally.Proofs.Instants
import EventTally.Proofs.Printing
import EventTally.Proofs.Readings

/-! Records that were written as JSON. Each field is read back from what is written for it, and a record
from its fields. Numbers that were read are in the ranges of their fields, so what is written for a record that
was read is always read back. -/

namespace EventTally

/-! ## Values of fields -/

/-- The numbers of 64 bits with a sign. -/
def IsInt64 (n : ℤ) : Prop := -0x8000000000000000 ≤ n ∧ n ≤ 0x7FFFFFFFFFFFFFFF

def IsInt32 (n : ℤ) : Prop := -0x80000000 ≤ n ∧ n ≤ 0x7FFFFFFF

theorem IsInt32.isInt64 {n : ℤ} (h : IsInt32 n) : IsInt64 n := by
  obtain ⟨hlow, hhigh⟩ := h
  constructor <;> omega

namespace Json

theorem between?_int {low high n : ℤ} (h : low ≤ n ∧ n ≤ high) : between? low high (int n) = some n := by
  simp [between?, int?, h]

theorem int64?_int {n : ℤ} (h : IsInt64 n) : int64? (int n) = some n := between?_int h

theorem int32?_int {n : ℤ} (h : IsInt32 n) : int32? (int n) = some n := between?_int h

theorem optional_elim {α : Type} {read : Json → Option α} {write : α → Json} {o : Option α}
    (h : ∀ a ∈ o, write a ≠ null ∧ read (write a) = some a) : optional read (o.elim null write) = some o := by
  cases o with
  | none => rfl
  | some a =>
    obtain ⟨hne, ha⟩ := h a rfl
    rw [Option.elim_some, optional, ha, Option.map_some]
    exact hne

theorem exact_elim {α : Type} {write : α → Json} {o : Option α} (h : ∀ a ∈ o, (write a).Exact) :
    (o.elim null write).Exact := by
  cases o with
  | none => exact .null
  | some a => exact h a rfl

theorem timestamp?_ofTimestamp (t : Option Timestamp) : optional timestamp? (ofTimestamp t) = some t := by
  cases t with
  | none => rfl
  | some t =>
    rw [ofTimestamp, optional, timestamp?, str?, Option.bind_some, Timestamp.read?_write, Option.map_some]
    exact nofun

theorem str?_elim (s : Option String) : optional str? (s.elim null str) = some s := by
  cases s <;> rfl

theorem stringEntries?_map (entries : List (String × String)) :
    stringEntries? (entries.map fun (k, v) => (k, str v)) = some entries := by
  induction entries with
  | nil => rfl
  | cons e entries ih => rw [List.map_cons, stringEntries?, ih, Option.map_some]

theorem stringMap?_ofStringMap (m : StringMap String) : stringMap? (ofStringMap m) = some m := by
  rw [stringMap?, ofStringMap, obj?, Option.bind_some, stringEntries?_map, Option.map_some,
    StringMap.ofList_entries]

theorem exact_ofTimestamp (t : Option Timestamp) : (ofTimestamp t).Exact := by
  cases t with
  | none => exact .null
  | some t => exact .str _

theorem exact_ofStringMap (m : StringMap String) : (ofStringMap m).Exact := by
  apply Exact.obj
  intro e he
  obtain ⟨entry, -, rfl⟩ := List.mem_map.1 he
  exact .str _

theorem exact_int {n : ℤ} (h : IsInt64 n) : (int n).Exact := by
  obtain ⟨hlow, hhigh⟩ := h
  exact .int hlow (by omega)

end Json

/-! ## Records -/

theorem ObjectMeta.ofJson?_toJson {m : ObjectMeta} (h : IsInt64 m.generation) :
    ofJson? m.toJson = some m := by
  change (Json.int64? (.int m.generation)).bind (fun generation =>
    (Json.optional Json.timestamp? (Json.ofTimestamp m.creationTimestamp)).bind fun created =>
    (Json.stringMap? (Json.ofStringMap m.labels)).bind fun labels =>
    (Json.stringMap? (Json.ofStringMap m.annotations)).bind fun annotations =>
    some { m with generation, creationTimestamp := created, labels, annotations }) = some m
  rw [Json.int64?_int h, Json.timestamp?_ofTimestamp, Json.stringMap?_ofStringMap,
    Json.stringMap?_ofStringMap]
  rfl

theorem ObjectMeta.exact_toJson {m : ObjectMeta} (h : IsInt64 m.generation) : m.toJson.Exact := by
  apply Json.Exact.obj
  simp only [List.forall_mem_cons]
  exact ⟨.str _, .str _, .str _, .str _, .str _, Json.exact_int h, Json.exact_ofTimestamp _,
    Json.exact_ofStringMap _, Json.exact_ofStringMap _, nofun⟩

theorem PodSpec.ofJson?_toJson (s : PodSpec) : ofJson? s.toJson = some s := by
  change (Json.stringMap? (Json.ofStringMap s.nodeSelector)).bind (fun nodeSelector =>
    (Json.optional Json.str? (s.runtimeClassName.elim .null .str)).bind fun runtimeClassName =>
    some { s with nodeSelector, runtimeClassName }) = some s
  rw [Json.stringMap?_ofStringMap, Json.str?_elim]
  rfl

theorem PodSpec.exact_toJson (s : PodSpec) : s.toJson.Exact := by
  apply Json.Exact.obj
  simp only [List.forall_mem_cons]
  exact ⟨.str _, .str _, .str _, .str _, .str _, .str _, .str _, .str _, Json.exact_ofStringMap _,
    Json.exact_elim fun c _ => .str c, nofun⟩

theorem PodStatus.ofJson?_toJson (s : PodStatus) : ofJson? s.toJson = some s := by
  change (Json.optional Json.timestamp? (Json.ofTimestamp s.startTime)).bind (fun startTime =>
    some { s with startTime }) = some s
  rw [Json.timestamp?_ofTimestamp]
  rfl

theorem PodStatus.exact_toJson (s : PodStatus) : s.toJson.Exact := by
  apply Json.Exact.obj
  simp only [List.forall_mem_cons]
  exact ⟨.str _, .str _, .str _, .str _, .str _, .str _, .str _, Json.exact_ofTimestamp _, nofun⟩

theorem Pod.ofDocument?_toJson {p : Pod} (h : IsInt64 p.metadata.generation) :
    ofDocument? p.toJson = some p := by
  change (ObjectMeta.ofJson? p.metadata.toJson).bind (fun metadata =>
    (PodSpec.ofJson? p.spec.toJson).bind fun spec =>
    (PodStatus.ofJson? p.status.toJson).bind fun status =>
    some { p with metadata, spec, status }) = some p
  rw [ObjectMeta.ofJson?_toJson h, PodSpec.ofJson?_toJson, PodStatus.ofJson?_toJson]
  rfl

theorem Pod.exact_toJson {p : Pod} (h : IsInt64 p.metadata.generation) : p.toJson.Exact := by
  apply Json.Exact.obj
  simp only [TypeMeta.toMembers, List.cons_append, List.nil_append, List.forall_mem_cons]
  exact ⟨.str _, .str _, ObjectMeta.exact_toJson h, PodSpec.exact_toJson _, PodStatus.exact_toJson _,
    nofun⟩

theorem ObjectReference.ofJson?_toJson (r : ObjectReference) : ofJson? r.toJson = some r := rfl

theorem ObjectReference.exact_toJson (r : ObjectReference) : r.toJson.Exact := by
  apply Json.Exact.obj
  simp only [List.forall_mem_cons]
  exact ⟨.str _, .str _, .str _, .str _, .str _, .str _, .str _, nofun⟩

theorem EventSource.ofJson?_toJson (s : EventSource) : ofJson? s.toJson = some s := rfl

theorem EventSource.exact_toJson (s : EventSource) : s.toJson.Exact := by
  apply Json.Exact.obj
  simp only [List.forall_mem_cons]
  exact ⟨.str _, .str _, nofun⟩

theorem EventSeries.ofJson?_toJson {s : EventSeries} (h : IsInt32 s.count) : ofJson? s.toJson = some s := by
  change (Json.int32? (.int s.count)).bind (fun count =>
    (Json.optional Json.timestamp? (Json.ofTimestamp s.lastObservedTime)).bind fun lastObservedTime =>
    some { count, lastObservedTime }) = some s
  rw [Json.int32?_int h, Json.timestamp?_ofTimestamp]
  rfl

theorem EventSeries.exact_toJson {s : EventSeries} (h : IsInt32 s.count) : s.toJson.Exact := by
  apply Json.Exact.obj
  simp only [List.forall_mem_cons]
  exact ⟨Json.exact_int h.isInt64, Json.exact_ofTimestamp _, nofun⟩

/-- The numbers of the event are in the ranges of their fields. -/
structure Event.InRange (e : Event) : Prop where
  generation : IsInt64 e.metadata.generation
  count : IsInt32 e.count
  series : ∀ s ∈ e.series, IsInt32 s.count

theorem Event.headed?_toJson (e : Event) (room : ℕ) : e.toJson.headed? names room = e.toJson.obj? := by
  simp [toJson, names, TypeMeta.toMembers, TypeMeta.names, Json.headed?, Json.knownMembers?, Json.noRepeats,
    Json.storable, Json.obj?]

theorem Event.ofJson?_toJson {e : Event} (h : e.InRange) (room : ℕ) : ofJson? room e.toJson = some e := by
  have hseries : Json.optional EventSeries.ofJson? (e.series.elim .null EventSeries.toJson) = some e.series :=
    Json.optional_elim fun s hs => ⟨nofun, EventSeries.ofJson?_toJson (h.series s hs)⟩
  have hrelated : Json.optional ObjectReference.ofJson? (e.related.elim .null ObjectReference.toJson) =
      some e.related := Json.optional_elim fun r _ => ⟨nofun, r.ofJson?_toJson⟩
  rw [ofJson?, headed?_toJson]
  change (ObjectMeta.ofJson? e.metadata.toJson).bind (fun metadata =>
    (Json.optional Json.timestamp? (Json.ofTimestamp e.firstTimestamp)).bind fun firstTimestamp =>
    (Json.optional Json.timestamp? (Json.ofTimestamp e.lastTimestamp)).bind fun lastTimestamp =>
    (Json.int32? (.int e.count)).bind fun count =>
    (Json.optional Json.timestamp? (Json.ofTimestamp e.eventTime)).bind fun eventTime =>
    (Json.optional EventSeries.ofJson? (e.series.elim .null EventSeries.toJson)).bind fun series =>
    (Json.optional ObjectReference.ofJson? (e.related.elim .null ObjectReference.toJson)).bind fun related =>
    some { e with metadata, firstTimestamp, lastTimestamp, count, eventTime, series, related }) = some e
  rw [ObjectMeta.ofJson?_toJson h.generation, Json.timestamp?_ofTimestamp, Json.timestamp?_ofTimestamp,
    Json.timestamp?_ofTimestamp, Json.int32?_int h.count, hseries, hrelated]
  rfl

theorem Event.exact_toJson {e : Event} (h : e.InRange) : e.toJson.Exact := by
  apply Json.Exact.obj
  simp only [TypeMeta.toMembers, List.cons_append, List.nil_append, List.forall_mem_cons]
  exact ⟨.str _, .str _, ObjectMeta.exact_toJson h.generation, ObjectReference.exact_toJson _, .str _, .str _,
    EventSource.exact_toJson _, Json.exact_ofTimestamp _, Json.exact_ofTimestamp _,
    Json.exact_int h.count.isInt64, .str _, Json.exact_ofTimestamp _,
    Json.exact_elim fun s hs => EventSeries.exact_toJson (h.series s hs), .str _,
    Json.exact_elim fun r _ => r.exact_toJson, .str _, .str _, nofun⟩

/-- A pod is read back from the bytes of its text. -/
theorem Pod.read_render {p : Pod} (h : IsInt64 p.metadata.generation) :
    (Json.ofBytes? (Utf8.encode p.toJson.render)).bind ofDocument? = some p := by
  rw [(Pod.exact_toJson h).ofBytes?_render, Option.bind_some, Pod.ofDocument?_toJson h]

/-! ## Numbers that were read -/

theorem ObjectMeta.isInt64_of_read {j : Json} {m : ObjectMeta} (h : ofJson? j = some m) :
    IsInt64 m.generation := by
  simp only [ofJson?, Option.bind_eq_bind, Option.bind_eq_some_iff] at h
  obtain ⟨fs, -, name, -, generateName, -, namespace_, -, uid, -, version, -, generation, hgeneration, created,
    -, labels, -, annotations, -, h⟩ := h
  cases h
  exact Json.field_of_read hgeneration ⟨by decide, by decide⟩ fun _ _ => Json.between_of_read

theorem EventSeries.isInt32_of_read {j : Json} {s : EventSeries} (h : ofJson? j = some s) :
    IsInt32 s.count := by
  simp only [ofJson?, Option.bind_eq_bind, Option.bind_eq_some_iff] at h
  obtain ⟨fs, -, count, hcount, observed, -, h⟩ := h
  cases h
  exact Json.field_of_read hcount ⟨by decide, by decide⟩ fun _ _ => Json.between_of_read

theorem Event.inRange_of_read {room : ℕ} {j : Json} {e : Event} (h : ofJson? room j = some e) : e.InRange := by
  obtain ⟨fs, -, hfrom⟩ := exists_readFrom h
  refine ⟨?_, ?_, ?_⟩
  · exact Json.field_of_read (P := fun m => IsInt64 m.generation) hfrom.metadata ⟨by decide, by decide⟩
      fun _ _ => ObjectMeta.isInt64_of_read
  · exact Json.field_of_read hfrom.count ⟨by decide, by decide⟩ fun _ _ => Json.between_of_read
  · refine Json.field_of_read (P := fun series => ∀ s ∈ series, IsInt32 s.count) hfrom.series (by simp) ?_
    exact fun _ _ ho => Json.optional_of_read ho fun _ _ => EventSeries.isInt32_of_read

theorem Pod.isInt64_of_read {j : Json} {p : Pod} (h : ofDocument? j = some p) :
    IsInt64 p.metadata.generation := by
  obtain ⟨fs, -, hfrom⟩ := exists_readFrom h
  exact Json.field_of_read (P := fun m => IsInt64 m.generation) hfrom.metadata ⟨by decide, by decide⟩
    fun _ _ => ObjectMeta.isInt64_of_read

/-! ## Texts of records -/

namespace Json

variable {α : Type} (read : Json → Option α) (write : α → Json)

/-- The record in the bytes of a text. -/
def decode? (bytes : List UInt8) : Option α := (ofBytes? bytes).bind read

/-- The bytes of the text that is written for a record. -/
def encode (a : α) : List UInt8 := Utf8.encode (write a).render

/-- The text that is written for the record in a text. -/
def recode? (bytes : List UInt8) : Option (List UInt8) := (decode? read bytes).map (encode write)

variable {read write}

theorem recode?_of_decode? {bytes bytes' : List UInt8} (h : recode? read write bytes = some bytes')
    (hread : ∀ j a, read j = some a → decode? read (encode write a) = some a) :
    recode? read write bytes' = some bytes' := by
  obtain ⟨a, ha, rfl⟩ := Option.map_eq_some_iff.1 h
  obtain ⟨j, -, ha⟩ := Option.bind_eq_some_iff.1 ha
  rw [recode?, hread j a ha, Option.map_some]

end Json

theorem Event.decode?_encode {j : Json} {e : Event} (h : ofDocument? j = some e) :
    Json.decode? ofDocument? (Json.encode toJson e) = some e := by
  have hrange := inRange_of_read h
  rw [Json.decode?, Json.encode, (exact_toJson hrange).ofBytes?_render, Option.bind_some, ofDocument?,
    ofJson?_toJson hrange]

theorem Pod.decode?_encode {j : Json} {p : Pod} (h : ofDocument? j = some p) :
    Json.decode? ofDocument? (Json.encode toJson p) = some p := read_render (isInt64_of_read h)

/-- Every record that some document stands for is read back from the text that is written for it. So writing
the record in a text once more changes nothing. -/
theorem decode?_encode_of_read :
    (∀ j e, Event.ofDocument? j = some e →
      Json.decode? Event.ofDocument? (Json.encode Event.toJson e) = some e) ∧
    (∀ j p, Pod.ofDocument? j = some p → Json.decode? Pod.ofDocument? (Json.encode Pod.toJson p) = some p) ∧
    (∀ bytes bytes', Json.recode? Event.ofDocument? Event.toJson bytes = some bytes' →
      Json.recode? Event.ofDocument? Event.toJson bytes' = some bytes') ∧
    ∀ bytes bytes', Json.recode? Pod.ofDocument? Pod.toJson bytes = some bytes' →
      Json.recode? Pod.ofDocument? Pod.toJson bytes' = some bytes' :=
  ⟨fun _ _ => Event.decode?_encode, fun _ _ => Pod.decode?_encode,
    fun _ _ h => Json.recode?_of_decode? h fun _ _ => Event.decode?_encode,
    fun _ _ h => Json.recode?_of_decode? h fun _ _ => Pod.decode?_encode⟩

/-- An event in a leap second of another time zone, with a year of five digits and texts that are escaped. -/
def Event.unusual : Json :=
  .obj [("lastTimestamp", .str "+10000-12-31T23:59:60.25+01:30"), ("count", .int (-2147483648)),
    ("message", .str "line\nwith \"quotes\""), ("series", .obj [("lastObservedTime", .null)]),
    ("metadata", .obj [("labels", .obj [("b", .str "1"), ("a", .str "é")])])]

theorem Event.unusual_exact : unusual.Exact := by
  have hlabels : (Json.obj [("b", .str "1"), ("a", .str "é")]).Exact := by
    apply Json.Exact.obj
    simp only [List.forall_mem_cons]
    exact ⟨.str _, .str _, nofun⟩
  apply Json.Exact.obj
  simp only [List.forall_mem_cons]
  refine ⟨.str _, Json.exact_int ⟨by decide, by decide⟩, .str _, .obj ?_, .obj ?_, nofun⟩
  · simp only [List.forall_mem_cons]
    exact ⟨.null, nofun⟩
  · simp only [List.forall_mem_cons]
    exact ⟨hlabels, nofun⟩

theorem Event.unusual_read_back : ∃ e, ofDocument? unusual = some e ∧
    e.lastTimestamp.map Timestamp.write = some "+10000-12-31T22:29:60.250Z" ∧
    Json.decode? ofDocument? (Json.encode toJson e) = some e ∧
    ∃ bytes, Json.recode? ofDocument? toJson (Utf8.encode unusual.render) = some bytes ∧
      Json.recode? ofDocument? toJson bytes = some bytes := by
  have htime : ((ofDocument? unusual).bind (·.lastTimestamp)).map Timestamp.write =
      some "+10000-12-31T22:29:60.250Z" := by decide +kernel
  obtain ⟨hread, -, hagain, -⟩ := decode?_encode_of_read
  cases he : ofDocument? unusual with
  | none => simp [he] at htime
  | some e =>
    rw [he, Option.bind_some] at htime
    have hrecode : Json.recode? ofDocument? toJson (Utf8.encode unusual.render) =
        some (Json.encode toJson e) := by
      rw [Json.recode?, Json.decode?, unusual_exact.ofBytes?_render, Option.bind_some, he, Option.map_some]
    exact ⟨e, rfl, htime, hread _ e he, _, hrecode, hagain _ _ hrecode⟩

end EventTally
