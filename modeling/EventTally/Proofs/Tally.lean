import EventTally.Metric.Exposition
import Mathlib

/-! The samples of one counter. A sample counts the increments whose values have its key, and keeps the
values of the first of them. Values without a common key have a sample each, which counts them. -/

namespace EventTally

/-! ## Samples -/

/-- The samples of one counter that was incremented with these values in turn. -/
def samplesOf (vs : List (List String)) : List Sample :=
  vs.foldl (fun ss v => bump (sampleKey v) v ss) []

theorem samplesOf_append (vs : List (List String)) (v : List String) :
    samplesOf (vs ++ [v]) = bump (sampleKey v) v (samplesOf vs) := by
  simp [samplesOf, List.foldl_append]

theorem oneMore_of_lt {n : ℕ} (h : n < countLimit) : oneMore n = n + 1 := if_pos h

theorem mem_bump {key : UInt64} {values : List String} {ss : List Sample}
    (hn : (ss.map Sample.key).Nodup) {s : Sample} :
    s ∈ bump key values ss ↔
      (s ∈ ss ∧ s.key ≠ key) ∨
      (∃ t ∈ ss, t.key = key ∧ s = { t with count := oneMore t.count }) ∨
      (key ∉ ss.map Sample.key ∧ s = ⟨key, values, 1⟩) := by
  induction ss with
  | nil => simp [bump]
  | cons t ss ih =>
    obtain ⟨ht, hn⟩ := List.nodup_cons.1 hn
    by_cases hk : t.key = key
    · have hout : ∀ u ∈ ss, u.key ≠ key := fun u hu h => ht (hk ▸ h ▸ List.mem_map_of_mem hu)
      rw [bump, if_pos hk]
      simp only [List.mem_cons, List.map_cons, exists_eq_or_imp]
      constructor
      · rintro (rfl | hs)
        · exact .inr (.inl (.inl ⟨hk, rfl⟩))
        · exact .inl ⟨.inr hs, hout s hs⟩
      · rintro (⟨rfl | hs, hne⟩ | (⟨-, rfl⟩ | ⟨u, hu, huk, -⟩) | ⟨hnot, -⟩)
        · exact absurd hk hne
        · exact .inr hs
        · exact .inl rfl
        · exact absurd huk (hout u hu)
        · exact absurd (.inl hk.symm) hnot
    · rw [bump, if_neg hk]
      simp only [List.mem_cons, List.map_cons, exists_eq_or_imp, ih hn, not_or]
      constructor
      · rintro (rfl | ⟨hs, hne⟩ | hs | ⟨hnot, rfl⟩)
        · exact .inl ⟨.inl rfl, hk⟩
        · exact .inl ⟨.inr hs, hne⟩
        · exact .inr (.inl (.inr hs))
        · exact .inr (.inr ⟨⟨Ne.symm hk, hnot⟩, rfl⟩)
      · rintro (⟨rfl | hs, hne⟩ | (⟨hk', -⟩ | hs) | ⟨⟨-, hnot⟩, rfl⟩)
        · exact .inl rfl
        · exact .inr (.inl ⟨hs, hne⟩)
        · exact absurd hk' hk
        · exact .inr (.inr (.inl hs))
        · exact .inr (.inr (.inr ⟨hnot, rfl⟩))

theorem mem_keys_bump {key k : UInt64} {values : List String} {ss : List Sample} :
    k ∈ (bump key values ss).map Sample.key ↔ k = key ∨ k ∈ ss.map Sample.key := by
  induction ss with
  | nil => simp [bump]
  | cons t ss ih =>
    rw [bump]
    split
    · rename_i hk
      simp [hk]
    · simp only [List.map_cons, List.mem_cons, ih]
      tauto

theorem nodup_bump {key : UInt64} {values : List String} {ss : List Sample}
    (hn : (ss.map Sample.key).Nodup) : ((bump key values ss).map Sample.key).Nodup := by
  induction ss with
  | nil => simp [bump]
  | cons t ss ih =>
    obtain ⟨ht, hn'⟩ := List.nodup_cons.1 hn
    rw [bump]
    split
    · exact hn
    · rename_i hk
      refine List.nodup_cons.2 ⟨fun hm => ?_, ih hn'⟩
      exact (mem_keys_bump.1 hm).elim hk ht

/-- What samples tell about the values that they were incremented with. -/
structure Tells (vs : List (List String)) (ss : List Sample) : Prop where
  nodup : (ss.map Sample.key).Nodup
  key : ∀ s ∈ ss, sampleKey s.values = s.key
  values : ∀ s ∈ ss, s.values ∈ vs
  count : ∀ s ∈ ss, s.count = vs.countP fun v => sampleKey v = s.key
  all : ∀ v ∈ vs, sampleKey v ∈ ss.map Sample.key

theorem Tells.count_lt {vs : List (List String)} {ss : List Sample} (h : Tells vs ss)
    (hlen : vs.length < countLimit) : ∀ s ∈ ss, s.count < countLimit := by
  intro s hs
  rw [h.count s hs]
  exact lt_of_le_of_lt List.countP_le_length hlen

theorem Tells.bump {vs : List (List String)} {ss : List Sample} (h : Tells vs ss)
    (hlen : vs.length < countLimit) (v : List String) :
    Tells (vs ++ [v]) (bump (sampleKey v) v ss) := by
  have hle := h.count_lt hlen
  refine ⟨nodup_bump h.nodup, fun s hs => ?_, fun s hs => ?_, fun s hs => ?_, fun w hw => ?_⟩
  · rcases (mem_bump h.nodup).1 hs with ⟨hs, -⟩ | ⟨t, ht, -, rfl⟩ | ⟨-, rfl⟩
    · exact h.key s hs
    · exact h.key t ht
    · rfl
  · rcases (mem_bump h.nodup).1 hs with ⟨hs, -⟩ | ⟨t, ht, -, rfl⟩ | ⟨-, rfl⟩
    · exact List.mem_append_left _ (h.values s hs)
    · exact List.mem_append_left _ (h.values t ht)
    · simp
  · rcases (mem_bump h.nodup).1 hs with ⟨hs, hne⟩ | ⟨t, ht, htk, rfl⟩ | ⟨hnot, rfl⟩
    · rw [h.count s hs, List.countP_append]
      simp [Ne.symm hne]
    · rw [List.countP_append, ← h.count t ht, oneMore_of_lt (hle t ht)]
      simp [htk]
    · have hzero : vs.countP (fun w => sampleKey w = sampleKey v) = 0 := by
        refine List.countP_eq_zero.2 fun w hw heq => hnot ?_
        rw [← of_decide_eq_true heq]
        exact h.all w hw
      rw [List.countP_append, hzero]
      simp
  · rw [mem_keys_bump]
    rcases List.mem_append.1 hw with hw | hw
    · exact .inr (h.all w hw)
    · exact .inl (by rw [List.mem_singleton.1 hw])

theorem tells_samplesOf {vs : List (List String)} (hlen : vs.length ≤ countLimit) :
    Tells vs (samplesOf vs) := by
  induction vs using List.reverseRecOn with
  | nil => exact ⟨by simp [samplesOf], by simp [samplesOf], by simp [samplesOf], by simp [samplesOf],
      by simp⟩
  | append_singleton vs v ih =>
    rw [List.length_append, List.length_singleton] at hlen
    rw [samplesOf_append]
    exact (ih (by omega)).bump (by omega) v

/-! ## Sums -/

theorem sum_bump {key : UInt64} {values : List String} {ss : List Sample}
    (h : ∀ s ∈ ss, s.count < countLimit) :
    ((bump key values ss).map Sample.count).sum = (ss.map Sample.count).sum + 1 := by
  induction ss with
  | nil => rfl
  | cons s ss ih =>
    obtain ⟨hs, hss⟩ := List.forall_mem_cons.1 h
    rw [bump]
    split
    · simp only [List.map_cons, List.sum_cons, oneMore_of_lt hs]
      omega
    · simp only [List.map_cons, List.sum_cons, ih hss]
      omega

/-- The samples of a counter add up to the number of its increments, whatever their keys are. -/
theorem sum_samplesOf {vs : List (List String)} (hlen : vs.length ≤ countLimit) :
    ((samplesOf vs).map Sample.count).sum = vs.length := by
  induction vs using List.reverseRecOn with
  | nil => rfl
  | append_singleton vs v ih =>
    rw [List.length_append, List.length_singleton] at hlen
    have hle := (tells_samplesOf (by omega : vs.length ≤ countLimit)).count_lt (by omega)
    rw [samplesOf_append, sum_bump hle, ih (by omega), List.length_append, List.length_singleton]

/-! ## Values that are told apart -/

/-- No two values have one key. -/
def Apart (vs : List (List String)) : Prop :=
  ∀ v ∈ vs, ∀ w ∈ vs, sampleKey v = sampleKey w → v = w

/-- A sample for each value, which counts it. -/
def exactSample (vs : List (List String)) (v : List String) : Sample := ⟨sampleKey v, v, vs.count v⟩

theorem mem_samplesOf {vs : List (List String)} (hlen : vs.length ≤ countLimit) (ha : Apart vs)
    {s : Sample} : s ∈ samplesOf vs ↔ s.values ∈ vs ∧ s = exactSample vs s.values := by
  have h := tells_samplesOf hlen
  have hform : ∀ s ∈ samplesOf vs, s = exactSample vs s.values := fun s hs => by
    have hc : s.count = vs.count s.values := by
      rw [h.count s hs, List.count]
      refine List.countP_congr fun w hw => ?_
      simp only [decide_eq_true_eq, beq_iff_eq]
      refine ⟨fun hk => ha w hw _ (h.values s hs) (hk.trans (h.key s hs).symm), fun hw => ?_⟩
      rw [hw, h.key s hs]
    rw [exactSample, ← hc, h.key s hs]
  refine ⟨fun hs => ⟨h.values s hs, hform s hs⟩, fun ⟨hv, hs⟩ => ?_⟩
  obtain ⟨t, ht, hk⟩ := List.mem_map.1 (h.all _ hv)
  have htv : t.values = s.values := ha _ (h.values t ht) _ hv ((h.key t ht).trans hk)
  rw [hs, ← htv, ← hform t ht]
  exact ht

theorem samplesOf_perm {vs ws : List (List String)} (hlen : vs.length ≤ countLimit) (ha : Apart vs)
    (hp : vs.Perm ws) : (samplesOf vs).Perm (samplesOf ws) := by
  have hlen' : ws.length ≤ countLimit := hp.length_eq ▸ hlen
  have ha' : Apart ws := fun v hv w hw => ha v (hp.mem_iff.2 hv) w (hp.mem_iff.2 hw)
  refine (List.perm_ext_iff_of_nodup (tells_samplesOf hlen).nodup.of_map
    (tells_samplesOf hlen').nodup.of_map).2 fun s => ?_
  rw [mem_samplesOf hlen ha, mem_samplesOf hlen' ha', hp.mem_iff, exactSample, exactSample,
    hp.count_eq]

end EventTally
