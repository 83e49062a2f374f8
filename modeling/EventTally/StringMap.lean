/-! Maps from strings, listed by their keys in code point order. The order is part of the type, so
two maps with the same entries are equal. -/

namespace EventTally

structure StringMap (α : Type) where
  entries : List (String × α)
  sorted : entries.Pairwise (·.1 < ·.1)

namespace StringMap

variable {α β : Type}

def empty : StringMap α := ⟨[], .nil⟩

instance : Inhabited (StringMap α) := ⟨empty⟩

instance [DecidableEq α] : DecidableEq (StringMap α)
  | ⟨a, _⟩, ⟨b, _⟩ =>
    if h : a = b then isTrue (by subst h; rfl) else isFalse fun e => h (congrArg entries e)

/-- Puts an entry at its place; an entry of the same key gives way. -/
def place (k : String) (v : α) : List (String × α) → List (String × α)
  | [] => [(k, v)]
  | (k', v') :: rest =>
    if k < k' then (k, v) :: (k', v') :: rest
    else if k = k' then (k, v) :: rest
    else (k', v') :: place k v rest

theorem mem_place {k : String} {v : α} {l : List (String × α)} {e : String × α}
    (h : e ∈ place k v l) : e = (k, v) ∨ e ∈ l := by
  induction l with
  | nil => simpa [place] using h
  | cons head rest ih => grind [place]

theorem place_sorted {k : String} {v : α} {l : List (String × α)}
    (h : l.Pairwise (·.1 < ·.1)) : (place k v l).Pairwise (·.1 < ·.1) := by
  induction l with
  | nil => simp [place]
  | cons head rest ih =>
    obtain ⟨below, tail⟩ := List.pairwise_cons.1 h
    unfold place
    split
    · rename_i lt
      refine List.pairwise_cons.2 ⟨fun e he => ?_, h⟩
      rcases List.mem_cons.1 he with rfl | he
      · exact lt
      · exact String.lt_trans lt (below e he)
    · split
      · rename_i eq
        exact List.pairwise_cons.2 ⟨fun e he => by simpa [eq] using below e he, tail⟩
      · refine List.pairwise_cons.2 ⟨fun e he => ?_, ih tail⟩
        rcases mem_place he with rfl | he
        · grind
        · exact below e he

def insert (m : StringMap α) (k : String) (v : α) : StringMap α :=
  ⟨place k v m.entries, place_sorted m.sorted⟩

/-- Later entries of a key replace earlier ones. -/
def ofList (l : List (String × α)) : StringMap α :=
  l.foldl (fun m e => m.insert e.1 e.2) empty

def get? (m : StringMap α) (k : String) : Option α := m.entries.lookup k

def contains (m : StringMap α) (k : String) : Bool := (m.get? k).isSome

def keys (m : StringMap α) : List String := m.entries.map (·.1)

def isEmpty (m : StringMap α) : Bool := m.entries.isEmpty

end StringMap
end EventTally
