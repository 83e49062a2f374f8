import EventTally.Record.Pod
import Mathlib

/-! What was read of a document. A field of a record is what its reader gives on the member of its name, or the
default where there is none, so what holds of both holds of the field. -/

namespace EventTally

/-! ## Fields -/

namespace Json

theorem between_of_read {low high n : ℤ} {j : Json} (h : between? low high j = some n) : low ≤ n ∧ n ≤ high := by
  obtain ⟨m, -, hm⟩ := Option.bind_eq_some_iff.1 h
  simp only [Bool.and_eq_true, decide_eq_true_eq, Option.ite_none_right_eq_some, Option.some.injEq] at hm
  obtain ⟨hbounds, rfl⟩ := hm
  exact hbounds

/-- What holds of the default and of all that can be read holds of a field. -/
theorem field_of_read {α : Type} {P : α → Prop} {fs : List (String × Json)} {name : String} {absent a : α}
    {read : Json → Option α} (h : field fs name absent read = some a) (habsent : P absent)
    (hread : ∀ j a, read j = some a → P a) : P a := by
  unfold field at h
  split at h
  · exact hread _ a h
  · cases h
    exact habsent

theorem optional_of_read {α : Type} {P : α → Prop} {read : Json → Option α} {j : Json} {o : Option α}
    (h : optional read j = some o) (hread : ∀ j a, read j = some a → P a) : ∀ a ∈ o, P a := by
  cases j with
  | null =>
    cases h
    simp
  | _ =>
    obtain ⟨a, ha, rfl⟩ := Option.map_eq_some_iff.1 h
    simpa using hread _ a ha

end Json

/-! ## Records -/

open Json (text field)

/-- The members that the fields of an event were read from. -/
structure Event.ReadFrom (e : Event) (fs : List (String × Json)) : Prop where
  typeMeta : TypeMeta.ofFields? fs = some e.typeMeta
  metadata : field fs "metadata" {} ObjectMeta.ofJson? = some e.metadata
  involvedObject : field fs "involvedObject" {} ObjectReference.ofJson? = some e.involvedObject
  reason : text fs "reason" = some e.reason
  message : text fs "message" = some e.message
  source : field fs "source" {} EventSource.ofJson? = some e.source
  firstTimestamp : field fs "firstTimestamp" none (Json.optional Json.timestamp?) = some e.firstTimestamp
  lastTimestamp : field fs "lastTimestamp" none (Json.optional Json.timestamp?) = some e.lastTimestamp
  count : field fs "count" 0 Json.int32? = some e.count
  type : text fs "type" = some e.type
  eventTime : field fs "eventTime" none (Json.optional Json.timestamp?) = some e.eventTime
  series : field fs "series" none (Json.optional EventSeries.ofJson?) = some e.series
  action : text fs "action" = some e.action
  related : field fs "related" none (Json.optional ObjectReference.ofJson?) = some e.related
  reportingController : text fs "reportingComponent" = some e.reportingController
  reportingInstance : text fs "reportingInstance" = some e.reportingInstance

theorem Event.exists_readFrom {room : ℕ} {j : Json} {e : Event} (h : ofJson? room j = some e) :
    ∃ fs, j.headed? names room = some fs ∧ e.ReadFrom fs := by
  -- one field after the other, since rewriting all of them at once is slow
  unfold ofJson? at h
  obtain ⟨fs, hfs, h⟩ := Option.bind_eq_some_iff.1 h
  obtain ⟨header, htype, h⟩ := Option.bind_eq_some_iff.1 h
  obtain ⟨metadata, hmetadata, h⟩ := Option.bind_eq_some_iff.1 h
  obtain ⟨object, hobject, h⟩ := Option.bind_eq_some_iff.1 h
  obtain ⟨reason, hreason, h⟩ := Option.bind_eq_some_iff.1 h
  obtain ⟨message, hmessage, h⟩ := Option.bind_eq_some_iff.1 h
  obtain ⟨source, hsource, h⟩ := Option.bind_eq_some_iff.1 h
  obtain ⟨first, hfirst, h⟩ := Option.bind_eq_some_iff.1 h
  obtain ⟨last, hlast, h⟩ := Option.bind_eq_some_iff.1 h
  obtain ⟨count, hcount, h⟩ := Option.bind_eq_some_iff.1 h
  obtain ⟨type, htyped, h⟩ := Option.bind_eq_some_iff.1 h
  obtain ⟨time, htime, h⟩ := Option.bind_eq_some_iff.1 h
  obtain ⟨series, hseries, h⟩ := Option.bind_eq_some_iff.1 h
  obtain ⟨action, haction, h⟩ := Option.bind_eq_some_iff.1 h
  obtain ⟨related, hrelated, h⟩ := Option.bind_eq_some_iff.1 h
  obtain ⟨controller, hcontroller, h⟩ := Option.bind_eq_some_iff.1 h
  obtain ⟨instance_, hinstance, h⟩ := Option.bind_eq_some_iff.1 h
  cases h
  exact ⟨fs, hfs, htype, hmetadata, hobject, hreason, hmessage, hsource, hfirst, hlast, hcount, htyped, htime,
    hseries, haction, hrelated, hcontroller, hinstance⟩

/-- The members that the fields of a pod were read from. -/
structure Pod.ReadFrom (p : Pod) (fs : List (String × Json)) : Prop where
  typeMeta : TypeMeta.ofFields? fs = some p.typeMeta
  metadata : field fs "metadata" {} ObjectMeta.ofJson? = some p.metadata
  spec : field fs "spec" {} PodSpec.ofJson? = some p.spec
  status : field fs "status" {} PodStatus.ofJson? = some p.status

theorem Pod.exists_readFrom {j : Json} {p : Pod} (h : ofDocument? j = some p) :
    ∃ fs, j.headed? names (Json.depthLimit - 1) = some fs ∧ p.ReadFrom fs := by
  simp only [ofDocument?, Option.bind_eq_bind, Option.bind_eq_some_iff] at h
  obtain ⟨fs, hfs, header, htype, metadata, hmetadata, spec, hspec, status, hstatus, h⟩ := h
  cases h
  exact ⟨fs, hfs, htype, hmetadata, hspec, hstatus⟩

end EventTally
