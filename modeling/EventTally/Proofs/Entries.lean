import EventTally.StringMap
import Mathlib

/-! Maps that are made of lists of entries. Each key has its last value in the list, a list that is sorted by
its keys is the map's own list, and where no key is repeated the order of a list does not matter. -/

namespace EventTally.StringMap

variable {α : Type} {l : List (String × α)}

theorem lookup_cons_of_ne {k k' : String} (h : k' ≠ k) (v : α) (l : List (String × α)) :
    ((k, v) :: l).lookup k' = l.lookup k' := by
  rw [List.lookup_cons, beq_eq_false_iff_ne.2 h]

theorem lookup_map {β : Type} (f : α → β) (l : List (String × α)) (k : String) :
    (l.map fun e => (e.1, f e.2)).lookup k = (l.lookup k).map f := by
  induction l with
  | nil => rfl
  | cons e l ih =>
    obtain ⟨key, v⟩ := e
    by_cases h : k = key
    · subst h
      simp
    · rw [List.map_cons, lookup_cons_of_ne h, lookup_cons_of_ne h, ih]

theorem ofList_append (l : List (String × α)) (last : String × α) :
    ofList (l ++ [last]) = (ofList l).insert last.1 last.2 := List.foldl_concat _ _ _ _

theorem mem_ofList {e : String × α} (h : e ∈ (ofList l).entries) : e ∈ l := by
  induction l using List.reverseRecOn with
  | nil => exact h
  | append_singleton l last ih =>
    rw [ofList_append] at h
    rcases mem_place h with rfl | h
    · simp
    · exact List.mem_append_left _ (ih h)

/-- A key above all others goes to the end. -/
theorem place_last {k : String} {v : α} (h : ∀ e ∈ l, e.1 < k) : place k v l = l ++ [(k, v)] := by
  induction l with
  | nil => rfl
  | cons e l ih =>
    obtain ⟨he, hl⟩ := List.forall_mem_cons.1 h
    rw [place, if_neg (String.lt_asymm he), if_neg (fun hk => String.lt_irrefl _ (hk ▸ he)), ih hl]
    rfl

theorem entries_ofList (h : l.Pairwise (·.1 < ·.1)) : (ofList l).entries = l := by
  induction l using List.reverseRecOn with
  | nil => rfl
  | append_singleton l last ih =>
    obtain ⟨hl, -, hlast⟩ := List.pairwise_append.1 h
    have hlt : ∀ e ∈ l, e.1 < last.1 := fun e he => hlast e he last (by simp)
    rw [ofList_append]
    show place last.1 last.2 (ofList l).entries = l ++ [last]
    rw [ih hl]
    exact place_last hlt

/-- A map is made again from its own entries. -/
theorem ofList_entries (m : StringMap α) : ofList m.entries = m := by
  obtain ⟨entries, sorted⟩ := m
  have hentries := entries_ofList sorted
  dsimp only
  generalize ofList entries = m at hentries
  obtain ⟨entries', sorted'⟩ := m
  cases hentries
  rfl

theorem lookup_place (k k' : String) (v : α) (l : List (String × α)) :
    (place k v l).lookup k' = if k' = k then some v else l.lookup k' := by
  induction l with
  | nil =>
    by_cases h : k' = k
    · simp [place, h]
    · rw [place, lookup_cons_of_ne h, if_neg h]
  | cons e l ih =>
    obtain ⟨key, w⟩ := e
    unfold place
    split
    · by_cases h : k' = k
      · simp [h]
      · rw [lookup_cons_of_ne h, if_neg h]
    · split
      · rename_i hk
        subst hk
        by_cases h : k' = k
        · simp [h]
        · rw [lookup_cons_of_ne h, if_neg h, lookup_cons_of_ne h]
      · rename_i hk
        by_cases h : k' = key
        · subst h
          simp [Ne.symm hk]
        · rw [lookup_cons_of_ne h, lookup_cons_of_ne h, ih]

/-- The last value of a key counts. -/
theorem get?_ofList (l : List (String × α)) (k : String) : (ofList l).get? k = l.reverse.lookup k := by
  induction l using List.reverseRecOn with
  | nil => rfl
  | append_singleton l last ih =>
    obtain ⟨key, v⟩ := last
    rw [ofList_append, get?, insert, lookup_place, List.reverse_append]
    by_cases h : k = key
    · simp [h]
    · rw [if_neg h, List.reverse_singleton, List.singleton_append, lookup_cons_of_ne h, ← ih]
      rfl

/-! ## Keys that are not repeated -/

section

variable {k : String} {v : α} {before after : List (String × α)}

theorem lookup_eq_none_iff : l.lookup k = none ↔ k ∉ l.map (·.1) := by
  simp only [List.lookup_eq_none_iff, bne_iff_ne, List.mem_map, not_exists, not_and, ne_comm]

theorem lookup_eq_none (h : k ∉ l.map (·.1)) : l.lookup k = none := lookup_eq_none_iff.2 h

theorem lookup_append_cons_of_ne {k' : String} (h : k' ≠ k) :
    (before ++ (k, v) :: after).lookup k' = (before ++ after).lookup k' := by
  rw [List.lookup_append, List.lookup_append, lookup_cons_of_ne h]

theorem not_mem_of_count (h : ((before ++ (k, v) :: after).map (·.1)).count k ≤ 1) :
    k ∉ (before ++ after).map (·.1) := by
  rw [List.map_append, List.map_cons, List.count_append, List.count_cons_self] at h
  rw [List.map_append, ← List.count_eq_zero, List.count_append]
  omega

theorem lookup_of_count (h : ((before ++ (k, v) :: after).map (·.1)).count k ≤ 1) :
    (before ++ (k, v) :: after).lookup k = some v := by
  have hbefore : k ∉ before.map (·.1) := by
    have hnone := not_mem_of_count h
    rw [List.map_append, List.mem_append] at hnone
    exact fun hk => hnone (.inl hk)
  rw [List.lookup_append, lookup_eq_none hbefore, Option.none_or, List.lookup_cons_self]

theorem lookup_of_mem (h : (l.map (·.1)).count k ≤ 1) (he : (k, v) ∈ l) : l.lookup k = some v := by
  obtain ⟨before, after, rfl⟩ := List.append_of_mem he
  exact lookup_of_count h

theorem mem_of_lookup (h : l.lookup k = some v) : (k, v) ∈ l := by
  obtain ⟨before, after, rfl, -⟩ := List.lookup_eq_some_iff.1 h
  simp

theorem lookup_eq_some_iff (hd : (l.map (·.1)).Nodup) : l.lookup k = some v ↔ (k, v) ∈ l :=
  ⟨mem_of_lookup, lookup_of_mem (List.nodup_iff_count_le_one.1 hd k)⟩

theorem lookup_perm {l' : List (String × α)} (hd : (l.map (·.1)).Nodup) (hp : l.Perm l') (k : String) :
    l'.lookup k = l.lookup k := by
  have hkeys := hp.map (·.1)
  by_cases hk : k ∈ l.map (·.1)
  · obtain ⟨e, he, rfl⟩ := List.mem_map.1 hk
    have hcount := List.nodup_iff_count_le_one.1 hd e.1
    rw [lookup_of_mem hcount he, lookup_of_mem (hkeys.count_eq e.1 ▸ hcount) (hp.mem_iff.1 he)]
  · rw [lookup_eq_none hk, lookup_eq_none fun hk' => hk (hkeys.mem_iff.2 hk')]

end

theorem lookup_zip {keys : List String} {vs : List α} (hd : keys.Nodup) {i : ℕ} {k : String}
    (hi : keys[i]? = some k) : (keys.zip vs).lookup k = vs[i]? := by
  induction keys generalizing vs i with
  | nil => simp at hi
  | cons first keys ih =>
    obtain ⟨hfirst, hd⟩ := List.nodup_cons.1 hd
    cases vs with
    | nil => simp
    | cons v vs =>
      cases i with
      | zero =>
        cases hi
        simp
      | succ i =>
        rw [List.getElem?_cons_succ] at hi
        have hne : k ≠ first := fun he => hfirst (he ▸ List.mem_of_getElem? hi)
        rw [List.zip_cons_cons, lookup_cons_of_ne hne, ih hd hi, List.getElem?_cons_succ]

theorem nodup_keys (m : StringMap α) : (m.entries.map (·.1)).Nodup := by
  refine List.pairwise_map.2 (m.sorted.imp ?_)
  intro e e' hlt he
  exact String.lt_irrefl _ (he ▸ hlt)

theorem mem_entries_iff {m : StringMap α} {e : String × α} : e ∈ m.entries ↔ m.get? e.1 = some e.2 :=
  (lookup_eq_some_iff m.nodup_keys).symm

theorem ext_get? {m m' : StringMap α} (h : ∀ k, m.get? k = m'.get? k) : m = m' := by
  have hperm : m.entries.Perm m'.entries := by
    rw [List.perm_ext_iff_of_nodup (.of_map _ m.nodup_keys) (.of_map _ m'.nodup_keys)]
    intro e
    rw [mem_entries_iff, mem_entries_iff, h]
  have hentries : m.entries = m'.entries := by
    refine hperm.eq_of_pairwise (fun a b _ _ hab hba => ?_) m.sorted m'.sorted
    exact absurd (String.lt_trans hab hba) (String.lt_irrefl _)
  cases m
  cases m'
  cases hentries
  rfl

theorem ofList_perm {l' : List (String × α)} (hd : (l.map (·.1)).Nodup) (hp : l.Perm l') :
    ofList l' = ofList l := by
  refine ext_get? fun k => ?_
  have hd' : (l.reverse.map (·.1)).Nodup := by rwa [List.map_reverse, List.nodup_reverse]
  rw [get?_ofList, get?_ofList]
  exact lookup_perm hd' ((l.reverse_perm.trans hp).trans l'.reverse_perm.symm) k

end EventTally.StringMap
