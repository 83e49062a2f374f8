import EventTally.Proofs.Naming
import EventTally.Proofs.Nesting

/-! Layouts of documents: where records stand in them, what members each record knows, and when the value of
a member is its default. A layout says which edits of a document leave its records as they are, and which
documents repeat a member that a record knows. -/

namespace EventTally

/-- A member that a record knows. -/
structure Member (Λ : Type) where
  name : String
  isDefault : Json → Prop
  layout : Λ

/-- What is known of the values in a value. A `leaf` is a value in which no record stands. -/
inductive Layout where
  | leaf
  | list (item : Layout)
  | record (members : List (Member Layout))

namespace Member

variable {α : Type}

/-- A member as it is read. -/
def of (name : String) (absent : α) (read : Json → Option α) (layout : Layout) : Member Layout :=
  ⟨name, fun j => read j = some absent, layout⟩

theorem name_of (name : String) (absent : α) (read : Json → Option α) (layout : Layout) :
    (of name absent read layout).name = name := rfl

def text (name : String) : Member Layout := of name "" Json.str? .leaf

def instant (name : String) : Member Layout := of name none (Json.optional Json.timestamp?) .leaf

end Member

namespace Layout

/-- The layout of the member of a name. -/
def member : Layout → String → Layout
  | record members, name => ((members.find? (·.name = name)).map Member.layout).getD leaf
  | _, _ => leaf

/-- The layout of the item at an index. A record may be given as an array. -/
def item : Layout → ℕ → Layout
  | list item, _ => item
  | record members, i => (members[i]?.map Member.layout).getD leaf
  | leaf, _ => leaf

def names : Layout → List String
  | record members => members.map Member.name
  | _ => []

end Layout

/-! ## Layouts of records -/

open Layout (leaf list record)
open Member (of text instant)

def TypeMeta.members : List (Member Layout) := [text "kind", text "apiVersion"]

def ObjectMeta.layout : Layout :=
  record [text "name", text "generateName", text "namespace", text "uid", text "resourceVersion",
    of "generation" 0 Json.int64? leaf, instant "creationTimestamp",
    of "labels" .empty Json.stringMap? leaf, of "annotations" .empty Json.stringMap? leaf]

def ObjectReference.layout : Layout :=
  record [text "kind", text "namespace", text "name", text "uid", text "apiVersion", text "resourceVersion",
    text "fieldPath"]

def EventSource.layout : Layout := record [text "component", text "host"]

def EventSeries.layout : Layout :=
  record [of "count" 0 Json.int32? leaf, instant "lastObservedTime"]

/-- The members of the header stand among the event's own. -/
def Event.layout : Layout :=
  record (TypeMeta.members ++ [
    of "metadata" {} ObjectMeta.ofJson? ObjectMeta.layout,
    of "involvedObject" {} ObjectReference.ofJson? ObjectReference.layout,
    text "reason", text "message",
    of "source" {} EventSource.ofJson? EventSource.layout,
    instant "firstTimestamp", instant "lastTimestamp",
    of "count" 0 Json.int32? leaf, text "type", instant "eventTime",
    of "series" none (Json.optional EventSeries.ofJson?) EventSeries.layout,
    text "action",
    of "related" none (Json.optional ObjectReference.ofJson?) ObjectReference.layout,
    text "reportingComponent", text "reportingInstance"])

def ListMeta.layout : Layout := record [text "resourceVersion"]

def EventList.readItems? (j : Json) : Option (List Event) :=
  j.arr?.bind fun items => items.mapM (Event.ofJson? (Json.depthLimit - 3))

def EventList.layout : Layout :=
  record [of "metadata" {} ListMeta.ofJson? ListMeta.layout, of "items" [] readItems? (list Event.layout)]

def PodSpec.layout : Layout :=
  record [text "nodeName", text "serviceAccountName", text "hostname", text "subdomain", text "schedulerName",
    text "priorityClassName", text "restartPolicy", text "dnsPolicy",
    of "nodeSelector" .empty Json.stringMap? leaf,
    of "runtimeClassName" none (Json.optional Json.str?) leaf]

def PodStatus.layout : Layout :=
  record [text "phase", text "message", text "reason", text "hostIP", text "podIP", text "qosClass",
    text "nominatedNodeName", instant "startTime"]

def Pod.layout : Layout :=
  record (TypeMeta.members ++ [
    of "metadata" {} ObjectMeta.ofJson? ObjectMeta.layout,
    of "spec" {} PodSpec.ofJson? PodSpec.layout,
    of "status" {} PodStatus.ofJson? PodStatus.layout])

/-! ## Edits and repeated members -/

open Layout

/-- One edit of a value that nests at most `room` containers. Records do not care for the order of members,
for members that they do not know, or whether a default is written out. -/
inductive Edit : ℕ → Layout → Json → Json → Prop
  | reorder {room : ℕ} {l : Layout} {members members' : List (String × Json)}
      (distinct : (members.map (·.1)).Nodup) (perm : members.Perm members') :
      Edit room l (.obj members) (.obj members')
  | add {room : ℕ} {known : List (Member Layout)} {before after : List (String × Json)} {name : String} {v : Json}
      (unknown : name ∉ (record known).names) (readable : v.isReadable) (shallow : v.depth < room) :
      Edit room (record known) (.obj (before ++ after)) (.obj (before ++ (name, v) :: after))
  | drop {room : ℕ} {known : List (Member Layout)} {before after : List (String × Json)} {m : Member Layout}
      {v : Json} (mem : m ∈ known) (default : m.isDefault v) :
      Edit room (record known) (.obj (before ++ (m.name, v) :: after)) (.obj (before ++ after))
  | member {room : ℕ} {l : Layout} {before after : List (String × Json)} {name : String} {v v' : Json}
      (inside : Edit (room - 1) (l.member name) v v') :
      Edit room l (.obj (before ++ (name, v) :: after)) (.obj (before ++ (name, v') :: after))
  | item {room : ℕ} {l : Layout} {before after : List Json} {v v' : Json}
      (inside : Edit (room - 1) (l.item before.length) v v') :
      Edit room l (.arr (before ++ v :: after)) (.arr (before ++ v' :: after))

/-- Whether a record in a value has a member that it knows more than once. -/
inductive Repeats : Layout → Json → Prop
  | here {l : Layout} {members : List (String × Json)} {name : String} (known : name ∈ l.names)
      (twice : 1 < (members.map (·.1)).count name) : Repeats l (.obj members)
  | member {l : Layout} {members : List (String × Json)} {name : String} {v : Json}
      (mem : (name, v) ∈ members) (inside : Repeats (l.member name) v) : Repeats l (.obj members)
  | item {l : Layout} {before after : List Json} {v : Json} (inside : Repeats (l.item before.length) v) :
      Repeats l (.arr (before ++ v :: after))

/-! ## Members by their names -/

namespace Json

variable {members : List (String × Json)} {names : List String} {name : String}

theorem noRepeats_iff (names : List String) : noRepeats names ↔ names.Nodup := by
  induction names with
  | nil => simp [noRepeats]
  | cons name names ih => simp [noRepeats, ih]

theorem isSome_knownMembers?_iff : (knownMembers? names members).isSome ↔
    ∀ name ∈ names, (members.map (·.1)).count name ≤ 1 := by
  have hfilter : (members.filter fun m => names.contains m.1).map (·.1) =
      (members.map (·.1)).filter names.contains := by
    rw [List.filter_map]
    rfl
  have hnodup : (knownMembers? names members).isSome ↔ ((members.map (·.1)).filter names.contains).Nodup := by
    rw [← noRepeats_iff, ← hfilter, knownMembers?]
    split <;> simp_all
  rw [hnodup, List.nodup_iff_count_le_one]
  constructor
  · intro h name hn
    have hcount := h name
    rwa [List.count_filter (by simpa using hn)] at hcount
  · intro h name
    by_cases hn : name ∈ names
    · rw [List.count_filter (by simpa using hn)]
      exact h name hn
    · rw [List.count_eq_zero.2 (by simp [hn])]
      exact Nat.zero_le 1

end Json

/-! ## Layouts without records -/

theorem Repeats.not_leaf {j : Json} : ¬ Repeats leaf j := by
  intro h
  generalize hl : leaf = l at h
  induction h with
  | here known =>
    subst hl
    simp [names] at known
  | member _ _ ih =>
    subst hl
    exact ih rfl
  | item _ ih =>
    subst hl
    exact ih rfl

/-- Edits of a value without records change the order of members only, so it can be set aside as before. -/
theorem Edit.storable {room : ℕ} {j j' : Json} (h : Edit room leaf j j') {r : ℕ} (hj : j.storable r) :
    j'.storable r := by
  generalize hl : leaf = l at h
  induction h generalizing r with
  | add | drop => cases hl
  | reorder _ perm =>
    rw [Json.storable_obj_iff] at hj ⊢
    exact ⟨hj.1, fun m hm => hj.2 m (perm.mem_iff.2 hm)⟩
  | member _ ih =>
    subst hl
    rw [Json.storable_obj_iff, List.forall_mem_append, List.forall_mem_cons] at hj ⊢
    exact ⟨hj.1, hj.2.1, ih hj.2.2.1 rfl, hj.2.2.2⟩
  | item _ ih =>
    subst hl
    rw [Json.storable_arr_iff, List.forall_mem_append, List.forall_mem_cons] at hj ⊢
    exact ⟨hj.1, hj.2.1, ih hj.2.2.1 rfl, hj.2.2.2⟩

/-! ## Edits of records -/

section

variable {known : List (Member Layout)} {m : Member Layout}

namespace Layout

theorem member_of_mem (hd : (record known).names.Nodup) (hm : m ∈ known) :
    (record known).member m.name = m.layout := by
  have hfind : known.find? (·.name = m.name) = some m := by
    obtain ⟨before, after, rfl⟩ := List.append_of_mem hm
    rw [names, List.map_append, List.map_cons, List.nodup_middle, List.nodup_cons] at hd
    refine List.find?_eq_some_iff_append.2 ⟨by simp, before, after, rfl, fun b hb => ?_⟩
    have hne : b.name ≠ m.name := fun he => hd.1 (List.mem_append_left _ (he ▸ List.mem_map_of_mem hb))
    simpa using hne
  rw [member, hfind]
  rfl

theorem find?_unknown {name : String} (h : name ∉ (record known).names) :
    known.find? (·.name = name) = none := by
  rw [List.find?_eq_none]
  intro m hm
  rw [decide_eq_true_eq]
  rintro rfl
  exact h (List.mem_map_of_mem hm)

theorem member_unknown {name : String} (h : name ∉ (record known).names) :
    (record known).member name = leaf := by
  rw [member, find?_unknown h]
  rfl

theorem names_getElem? {i : ℕ} (h : known[i]? = some m) : (record known).names[i]? = some m.name := by
  rw [names, List.getElem?_map, h, Option.map_some]

end Layout

/-- What an edit of a record does to the value of a member that the record knows. -/
inductive Member.Edited (room : ℕ) (m : Member Layout) : Option Json → Option Json → Prop
  | same (o : Option Json) : Edited room m o o
  | inside {v v' : Json} (edit : Edit room m.layout v v') : Edited room m (some v) (some v')
  | dropped {v : Json} (default : m.isDefault v) : Edited room m (some v) none

variable {room : ℕ} {j' : Json} {members : List (String × Json)}

theorem Edit.edited_obj (hd : (record known).names.Nodup) (h : Edit room (record known) (.obj members) j')
    (hc : ∀ name ∈ (record known).names, (members.map (·.1)).count name ≤ 1) :
    ∃ members', j' = .obj members' ∧
      (∀ name ∈ (record known).names, (members'.map (·.1)).count name ≤ 1) ∧
      ∀ m ∈ known, m.Edited (room - 1) (members.lookup m.name) (members'.lookup m.name) := by
  cases h with
  | reorder distinct perm =>
    refine ⟨_, rfl, fun name hn => ?_, fun m _ => ?_⟩
    · rw [← (perm.map (·.1)).count_eq]
      exact hc name hn
    · rw [StringMap.lookup_perm distinct perm]
      exact .same _
  | @add _ _ before after name v unknown =>
    have hne : ∀ name' ∈ (record known).names, name' ≠ name := fun name' hn he => unknown (he ▸ hn)
    refine ⟨_, rfl, fun name' hn => ?_, fun m hm => ?_⟩
    · rw [List.map_append, List.map_cons, List.count_append, List.count_cons_of_ne (hne name' hn).symm,
        ← List.count_append, ← List.map_append]
      exact hc name' hn
    · rw [StringMap.lookup_append_cons_of_ne (hne _ (List.mem_map_of_mem hm))]
      exact .same _
  | @drop _ _ before after m v mem default =>
    refine ⟨_, rfl, fun name hn => ?_, fun m' hm' => ?_⟩
    · have hsub : (before ++ after).Sublist (before ++ (m.name, v) :: after) :=
        (List.Sublist.refl before).append (List.sublist_cons_self _ _)
      exact ((hsub.map (·.1)).count_le name).trans (hc name hn)
    · by_cases he : m'.name = m.name
      · obtain rfl := List.inj_on_of_nodup_map hd hm' mem he
        have hcount := hc m'.name (List.mem_map_of_mem hm')
        rw [StringMap.lookup_of_count hcount, StringMap.lookup_eq_none (StringMap.not_mem_of_count hcount)]
        exact .dropped default
      · rw [StringMap.lookup_append_cons_of_ne he]
        exact .same _
  | @member _ _ before after name v v' inside =>
    have hnames : (before ++ (name, v') :: after).map (·.1) = (before ++ (name, v) :: after).map (·.1) := by
      simp
    refine ⟨_, rfl, ?_, fun m hm => ?_⟩
    · rw [hnames]
      exact hc
    · by_cases he : m.name = name
      · subst he
        have hcount := hc m.name (List.mem_map_of_mem hm)
        rw [StringMap.lookup_of_count hcount, StringMap.lookup_of_count (hnames ▸ hcount)]
        exact .inside (Layout.member_of_mem hd hm ▸ inside)
      · rw [StringMap.lookup_append_cons_of_ne he, StringMap.lookup_append_cons_of_ne he]
        exact .same _

theorem Edit.edited_arr {items : List Json} (hd : (record known).names.Nodup)
    (h : Edit room (record known) (.arr items) j') : ∃ items', j' = .arr items' ∧
      items'.length = items.length ∧ ∀ m ∈ known, m.Edited (room - 1)
        (((record known).names.zip items).lookup m.name) (((record known).names.zip items').lookup m.name) := by
  cases h with
  | @item _ _ before after v v' inside =>
    refine ⟨_, rfl, by simp, fun m hm => ?_⟩
    obtain ⟨i, hi⟩ := List.mem_iff_getElem?.1 hm
    rw [StringMap.lookup_zip hd (names_getElem? hi), StringMap.lookup_zip hd (names_getElem? hi)]
    rcases Nat.lt_trichotomy i before.length with hlt | rfl | hlt
    · rw [List.getElem?_append_left hlt, List.getElem?_append_left hlt]
      exact .same _
    · rw [List.getElem?_append_right le_rfl, List.getElem?_append_right le_rfl, Nat.sub_self,
        List.getElem?_cons_zero, List.getElem?_cons_zero]
      rw [Layout.item, hi] at inside
      exact .inside inside
    · obtain ⟨k, rfl⟩ := Nat.exists_eq_add_of_lt hlt
      rw [List.getElem?_append_right (by omega), List.getElem?_append_right (by omega)]
      have hk : before.length + k + 1 - before.length = k + 1 := by omega
      rw [hk, List.getElem?_cons_succ, List.getElem?_cons_succ]
      exact .same _

theorem Edit.known? {j : Json} {fs : List (String × Json)} (hd : (record known).names.Nodup)
    (h : Edit room (record known) j j') (hfs : j.known? (record known).names = some fs) :
    ∃ fs', j'.known? (record known).names = some fs' ∧
      ∀ m ∈ known, m.Edited (room - 1) (fs.lookup m.name) (fs'.lookup m.name) := by
  cases j with
  | obj members =>
    have hc := Json.isSome_knownMembers?_iff.1 (Option.isSome_of_eq_some hfs)
    obtain ⟨members', rfl, hc', hedited⟩ := h.edited_obj hd hc
    obtain ⟨fs', hfs'⟩ := Option.isSome_iff_exists.1 (Json.isSome_knownMembers?_iff.2 hc')
    refine ⟨fs', hfs', fun m hm => ?_⟩
    rw [Shape.lookup_known hfs (List.mem_map_of_mem hm), Shape.lookup_known hfs' (List.mem_map_of_mem hm)]
    exact hedited m hm
  | arr items =>
    simp only [Json.known?, Option.ite_none_right_eq_some, Option.some.injEq] at hfs
    obtain ⟨hlen, rfl⟩ := hfs
    obtain ⟨items', rfl, hlen', hedited⟩ := h.edited_arr hd
    exact ⟨_, by rw [Json.known?, if_pos (hlen' ▸ hlen)], hedited⟩
  | _ => cases h

theorem Repeats.known? {j : Json} {fs : List (String × Json)} (hd : (record known).names.Nodup)
    (h : Repeats (record known) j) (hfs : j.known? (record known).names = some fs) :
    ∃ m ∈ known, ∃ v, fs.lookup m.name = some v ∧ Repeats m.layout v := by
  cases h with
  | @here _ members name known twice =>
    have hc := Json.isSome_knownMembers?_iff.1 (Option.isSome_of_eq_some hfs) name known
    omega
  | @member _ members name v mem inside =>
    by_cases hn : name ∈ (record known).names
    · obtain ⟨m, hm, rfl⟩ := List.mem_map.1 hn
      rw [Layout.member_of_mem hd hm] at inside
      have hc := Json.isSome_knownMembers?_iff.1 (Option.isSome_of_eq_some hfs) m.name hn
      refine ⟨m, hm, v, ?_, inside⟩
      rw [Shape.lookup_known hfs hn]
      exact StringMap.lookup_of_mem hc mem
    · rw [Layout.member_unknown hn] at inside
      exact absurd inside Repeats.not_leaf
  | @item _ before after v inside =>
    simp only [Json.known?, Option.ite_none_right_eq_some, Option.some.injEq] at hfs
    obtain ⟨-, rfl⟩ := hfs
    cases hi : known[before.length]? with
    | none =>
      rw [Layout.item, hi] at inside
      exact absurd inside Repeats.not_leaf
    | some m =>
      rw [Layout.item, hi] at inside
      refine ⟨m, List.mem_of_getElem? hi, v, ?_, inside⟩
      rw [StringMap.lookup_zip hd (names_getElem? hi), List.getElem?_append_right le_rfl, Nat.sub_self,
        List.getElem?_cons_zero]

end

end EventTally
