import Mathlib
import EventTally.Record.Change

/-! How deep a document nests. A reader that sets members aside has room for so many containers inside each
other; with room enough it reads the same from a document wherever this stands, so that a list, a watch and
a single answer agree on what an event is. -/

namespace EventTally

namespace Json

/-! ## Values inside values -/

/-- What holds for a value whenever it holds for the values in it holds for all values. -/
theorem nested_induction {P : Json → Prop} (null : P null) (bool : ∀ b, P (bool b)) (int : ∀ n, P (int n))
    (real : ∀ text, P (real text)) (str : ∀ s, P (str s)) (unreadable : P unreadable)
    (arr : ∀ items, (∀ j ∈ items, P j) → P (arr items))
    (obj : ∀ members, (∀ m ∈ members, P m.2) → P (obj members)) (j : Json) : P j := by
  refine @Json.rec P (fun items => ∀ j ∈ items, P j) (fun members => ∀ m ∈ members, P m.2) (fun m => P m.2)
    null bool int real str arr obj unreadable ?_ ?_ ?_ ?_ ?_ j
  · simp
  · intro j items hj hitems
    exact List.forall_mem_cons.2 ⟨hj, hitems⟩
  · simp
  · intro m members hm hmembers
    exact List.forall_mem_cons.2 ⟨hm, hmembers⟩
  · intro name j hj
    exact hj

mutual

/-- Whether all parts of a value can be read. -/
def isReadable : Json → Bool
  | null | bool _ | int _ | real _ | str _ => true
  | arr items => areReadable items
  | obj members => membersReadable members
  | unreadable => false

def areReadable : List Json → Bool
  | [] => true
  | j :: rest => isReadable j && areReadable rest

def membersReadable : List (String × Json) → Bool
  | [] => true
  | (_, j) :: rest => isReadable j && membersReadable rest

end

mutual

/-- How many containers stand inside each other. -/
def depth : Json → ℕ
  | arr items => depthOfItems items + 1
  | obj members => depthOfMembers members + 1
  | _ => 0

def depthOfItems : List Json → ℕ
  | [] => 0
  | j :: rest => max (depth j) (depthOfItems rest)

def depthOfMembers : List (String × Json) → ℕ
  | [] => 0
  | (_, j) :: rest => max (depth j) (depthOfMembers rest)

end

theorem storableItems_iff {room : ℕ} {items : List Json}
    (h : ∀ j ∈ items, (j.storable room ↔ j.isReadable ∧ j.depth ≤ room)) :
    storableItems room items ↔ areReadable items ∧ depthOfItems items ≤ room := by
  induction items with
  | nil => simp [storableItems, areReadable, depthOfItems]
  | cons j items ih =>
    obtain ⟨hj, hitems⟩ := List.forall_mem_cons.1 h
    rw [storableItems, areReadable, depthOfItems, Bool.and_eq_true, Bool.and_eq_true, hj, ih hitems,
      Nat.max_le]
    tauto

theorem storableMembers_iff {room : ℕ} {members : List (String × Json)}
    (h : ∀ m ∈ members, (m.2.storable room ↔ m.2.isReadable ∧ m.2.depth ≤ room)) :
    storableMembers room members ↔ membersReadable members ∧ depthOfMembers members ≤ room := by
  induction members with
  | nil => simp [storableMembers, membersReadable, depthOfMembers]
  | cons m members ih =>
    obtain ⟨hm, hmembers⟩ := List.forall_mem_cons.1 h
    rw [storableMembers, membersReadable, depthOfMembers, Bool.and_eq_true, Bool.and_eq_true, hm,
      ih hmembers, Nat.max_le]
    tauto

theorem storable_iff (room : ℕ) (j : Json) : j.storable room ↔ j.isReadable ∧ j.depth ≤ room := by
  induction j using nested_induction generalizing room with
  | unreadable => simp [storable, isReadable]
  | arr items ih =>
    cases room with
    | zero => simp [storable, depth]
    | succ room =>
      rw [storable, isReadable, depth, storableItems_iff fun j hj => ih j hj room]
      simp
  | obj members ih =>
    cases room with
    | zero => simp [storable, depth]
    | succ room =>
      rw [storable, isReadable, depth, storableMembers_iff fun m hm => ih m hm room]
      simp
  | _ => simp [storable, isReadable, depth]

theorem storableMembers_iff_forall {room : ℕ} {members : List (String × Json)} :
    storableMembers room members ↔ ∀ m ∈ members, m.2.storable room := by
  induction members with
  | nil => simp [storableMembers]
  | cons m members ih => simp [storableMembers, ih]

theorem storableItems_iff_forall {room : ℕ} {items : List Json} :
    storableItems room items ↔ ∀ j ∈ items, j.storable room := by
  induction items with
  | nil => simp [storableItems]
  | cons j items ih => simp [storableItems, ih]

theorem storable_obj_iff {room : ℕ} {members : List (String × Json)} :
    (obj members).storable room ↔ 0 < room ∧ ∀ m ∈ members, m.2.storable (room - 1) := by
  cases room <;> simp [storable, storableMembers_iff_forall]

theorem storable_arr_iff {room : ℕ} {items : List Json} :
    (arr items).storable room ↔ 0 < room ∧ ∀ j ∈ items, j.storable (room - 1) := by
  cases room <;> simp [storable, storableItems_iff_forall]

end Json

/-! ## Lists and lines -/

/-- The document of a list with one item. It may have other members. -/
def EventList.document (others : List (String × Json)) (header : ListMeta) (d : Json) : Json :=
  .obj (others ++ [("metadata", header.toJson), ("items", .arr [d])])

/-- The document of a change in a watch. -/
def Change.document (word : String) (d : Json) : Json := .obj [("type", .str word), ("object", d)]

theorem ListMeta.ofJson?_toJson (header : ListMeta) : ListMeta.ofJson? header.toJson = some header := rfl

/-- The words of changes that carry an event. -/
def Change.words : List (String × (Event → Change)) :=
  [("ADDED", .added), ("MODIFIED", .modified), ("DELETED", .deleted)]

end EventTally
