import EventTally.Proofs.Entries
import EventTally.Proofs.Exposition
import EventTally.Proofs.Tally

/-! Registries that count calls. Each counter has the samples of the label values of the calls that it
takes, so the text shows every call with its number exactly if labels are told apart by their keys. -/

namespace EventTally

open List (Perm)

/-! ## Labels -/

namespace StringMap

variable {α : Type}

def values (m : StringMap α) : List α := m.entries.map (·.2)

theorem eq_of_values {m m' : StringMap α} (hk : m.keys = m'.keys) (hv : m.values = m'.values) :
    m = m' := by
  obtain ⟨es, hs⟩ := m
  obtain ⟨es', hs'⟩ := m'
  obtain rfl : es = es' := (List.zip_of_prod hk hv).trans (List.zip_of_prod rfl rfl).symm
  rfl

theorem pairwise_keys (m : StringMap α) : m.keys.Pairwise (· < ·) := List.pairwise_map.2 m.sorted

theorem mapM_get?_keys (m : StringMap α) : m.keys.mapM m.get? = some m.values := by
  have h : ∀ es : List (String × α), (∀ e ∈ es, m.get? e.1 = some e.2) →
      (es.map (·.1)).mapM m.get? = some (es.map (·.2)) := by
    intro es hes
    induction es with
    | nil => rfl
    | cons e es ih =>
      obtain ⟨he, hes⟩ := List.forall_mem_cons.1 hes
      simp [he, ih hes]
  exact h m.entries fun _ he => mem_entries_iff.1 he

theorem mem_keys_of_mapM {m : StringMap α} {names : List String} {vs : List α}
    (h : names.mapM m.get? = some vs) : ∀ n ∈ names, n ∈ m.keys := by
  induction names generalizing vs with
  | nil => simp
  | cons n names ih =>
    rw [List.mapM_cons] at h
    obtain ⟨v, hv, h⟩ := Option.bind_eq_some_iff.1 h
    obtain ⟨vs', hvs, -⟩ := Option.bind_eq_some_iff.1 h
    exact List.forall_mem_cons.2 ⟨List.mem_map_of_mem (mem_of_lookup hv), ih hvs⟩

end StringMap

theorem nodup_of_sorted {names : List String} (h : names.Pairwise (· < ·)) : names.Nodup := by
  refine h.imp ?_
  rintro a b hlt rfl
  exact String.lt_irrefl a hlt

theorem Counter.values?_eq {c : Counter} (hs : c.labelNames.Pairwise (· < ·))
    (labels : StringMap String) :
    c.values? labels = if labels.keys = c.labelNames then some labels.values else none := by
  have hlen : labels.keys.length = labels.entries.length := List.length_map _
  rw [values?]
  by_cases hk : labels.keys = c.labelNames
  · rw [if_pos hk, ← hk, if_pos hlen.symm, labels.mapM_get?_keys]
  · rw [if_neg hk]
    split
    · rename_i hl
      refine Option.eq_none_iff_forall_ne_some.2 fun vs hvs => hk ?_
      have hsub := (nodup_of_sorted hs).subperm (StringMap.mem_keys_of_mapM hvs)
      refine Perm.eq_of_pairwise (fun a b _ _ hab hba => ?_) labels.pairwise_keys hs
        (hsub.perm_of_length_le (by omega)).symm
      exact absurd (String.lt_trans hab hba) (String.lt_irrefl _)
    · rfl

/-! ## Calls -/

/-- The call is one for the counter, with its labels. -/
def Counter.Takes (c : Counter) (m : Match) : Prop := c.name = m.name ∧ m.labels.keys = c.labelNames

instance (c : Counter) : DecidablePred c.Takes := fun _ => inferInstanceAs (Decidable (_ ∧ _))

/-- The label values of the calls that a counter takes. -/
def Counter.valuesOf (c : Counter) (calls : List Match) : List (List String) :=
  (calls.filter c.Takes).map (·.labels.values)

/-- The counter behind these calls. -/
def Counter.counting (c : Counter) (calls : List Match) : Counter :=
  { c with samples := samplesOf (c.valuesOf calls) }

theorem Counter.valuesOf_append (c : Counter) (calls calls' : List Match) :
    c.valuesOf (calls ++ calls') = c.valuesOf calls ++ c.valuesOf calls' := by
  simp [valuesOf]

theorem Counter.counting_append {c : Counter} (hs : c.labelNames.Pairwise (· < ·)) (calls : List Match)
    (m : Match) : c.counting (calls ++ [m]) =
      if c.name = m.name then (c.counting calls).increment m.labels else c.counting calls := by
  have hv : (c.counting calls).values? m.labels =
      if m.labels.keys = c.labelNames then some m.labels.values else none := values?_eq hs m.labels
  rw [counting, valuesOf_append, increment, hv]
  by_cases hn : c.name = m.name <;> by_cases hk : m.labels.keys = c.labelNames
  · have ht : c.valuesOf [m] = [m.labels.values] := by simp [valuesOf, Takes, hn, hk]
    rw [ht, samplesOf_append, if_pos hn, if_pos hk]
    rfl
  all_goals
    have ht : c.valuesOf [m] = [] := by simp [valuesOf, Takes, hn, hk]
    rw [ht, List.append_nil]
    simp [hn, hk, counting]

namespace Registry

def counting (r : Registry) (calls : List Match) : Registry := calls.foldl count r

def Takes (r : Registry) (m : Match) : Prop := ∃ c ∈ r.counters, c.Takes m

instance (r : Registry) : DecidablePred r.Takes :=
  fun _ => inferInstanceAs (Decidable (∃ c ∈ r.counters, _))

/-- What holds of the counters of a new registry. -/
structure IsNew (r : Registry) : Prop where
  wellNamed : ∀ c ∈ r.counters, c.WellNamed
  sorted : ∀ c ∈ r.counters, c.labelNames.Pairwise (· < ·)
  unused : ∀ c ∈ r.counters, c.samples = []
  distinct : (r.counters.map Counter.name).Nodup

theorem counters_counting {r : Registry} (h : r.IsNew) (calls : List Match) :
    (r.counting calls).counters = r.counters.map (·.counting calls) := by
  induction calls using List.reverseRecOn with
  | nil =>
    have hsame : ∀ c ∈ r.counters, c.counting [] = c := fun c hc => by
      have hu := h.unused c hc
      obtain ⟨name, labelNames, samples⟩ := c
      rw [show samples = [] from hu]
      rfl
    rw [List.map_congr_left hsame, List.map_id']
    rfl
  | append_singleton calls m ih =>
    rw [counting, List.foldl_append, List.foldl_cons, List.foldl_nil, count, increment, ← counting, ih,
      List.map_map]
    refine List.map_congr_left fun c hc => ?_
    rw [Counter.counting_append (h.sorted c hc)]
    rfl

/-! ## Registration -/

end Registry

theorem Counter.new_ok {metric : String} {names : List String} {c : Counter}
    (h : Counter.new metric names = .ok c) :
    c = ⟨metric, names, []⟩ ∧ c.WellNamed := by
  unfold Counter.new at h
  split at h
  · cases h
  · rename_i hname
    split at h
    · cases h
    · rename_i hlabels
      cases h
      refine ⟨rfl, by simpa using hname, fun n hn => ?_⟩
      simpa using List.find?_eq_none.1 hlabels n hn

namespace Registry

theorem registerFrom_ok {ids : List UInt64} {rules : List Rule} {cs : List Counter}
    (h : registerFrom ids rules = .ok cs) :
    cs = rules.map (fun rule => ⟨rule.name, rule.labels.keys, []⟩) ∧ (∀ c ∈ cs, c.WellNamed) ∧
      (∀ c ∈ cs, fnv (Utf8.encode c.name) ∉ ids) ∧ (cs.map Counter.name).Nodup := by
  induction rules generalizing ids cs with
  | nil =>
    cases h
    simp
  | cons rule rules ih =>
    rw [registerFrom] at h
    cases hn : Counter.new rule.name rule.labels.keys with
    | error e => simp [hn, bind, Except.bind] at h
    | ok c =>
      obtain ⟨rfl, hc⟩ := Counter.new_ok hn
      simp only [hn, bind, Except.bind] at h
      split at h
      · cases h
      · rename_i hid
        split at h
        · cases h
        · rename_i cs' hcs
          cases h
          obtain ⟨rfl, hwell, hids, hnames⟩ := ih hcs
          refine ⟨rfl, List.forall_mem_cons.2 ⟨hc, hwell⟩,
            List.forall_mem_cons.2 ⟨by simpa using hid, fun c hm h => ?_⟩,
            List.nodup_cons.2 ⟨fun hm => ?_, hnames⟩⟩
          · exact hids c hm (List.mem_cons_of_mem _ h)
          · obtain ⟨c, hm, hname⟩ := List.mem_map.1 hm
            exact hids c hm (by simp [hname])

theorem registerFrom_of_register {rules : List Rule} {r : Registry} (h : register rules = .ok r) :
    registerFrom [] rules = .ok r.counters := by
  rw [register] at h
  cases hcs : registerFrom [] rules with
  | error e =>
    rw [hcs] at h
    cases h
  | ok cs =>
    rw [hcs] at h
    cases h
    rfl

theorem counters_register {rules : List Rule} {r : Registry} (h : register rules = .ok r) :
    r.counters = rules.map fun rule => ⟨rule.name, rule.labels.keys, []⟩ :=
  (registerFrom_ok (registerFrom_of_register h)).1

theorem isNew_register {rules : List Rule} {r : Registry} (h : register rules = .ok r) : r.IsNew := by
  obtain ⟨hcs, hwell, -, hnames⟩ := registerFrom_ok (registerFrom_of_register h)
  have hrule : ∀ c ∈ r.counters, ∃ rule ∈ rules, ⟨rule.name, rule.labels.keys, []⟩ = c := fun c hc =>
    List.mem_map.1 (hcs ▸ hc)
  refine ⟨hwell, fun c hc => ?_, fun c hc => ?_, hnames⟩
  · obtain ⟨rule, -, rfl⟩ := hrule c hc
    exact rule.labels.pairwise_keys
  · obtain ⟨rule, -, rfl⟩ := hrule c hc
    rfl

/-! ## What the text shows -/

/-- The text shows each call that is taken, once and with its number, and nothing else. -/
def IsExact (r : Registry) (calls : List Match) : Prop :=
  (sampleLines (r.counting calls).render).Perm
    ((calls.filter r.Takes).dedup.map fun m => m.line (calls.count m))

/-- Calls of one metric that differ in their labels differ in their keys. -/
def TellsApart (r : Registry) (calls : List Match) : Prop :=
  ∀ m ∈ calls, ∀ m' ∈ calls, r.Takes m → r.Takes m' → m.name = m'.name →
    sampleKey m.labels.values = sampleKey m'.labels.values → m = m'

end Registry

theorem Counter.Takes.ext {c : Counter} {m m' : Match} (h : c.Takes m) (h' : c.Takes m')
    (hv : m.labels.values = m'.labels.values) : m = m' := by
  obtain ⟨name, labels⟩ := m
  obtain ⟨name', labels'⟩ := m'
  obtain rfl : name = name' := h.1.symm.trans h'.1
  obtain rfl : labels = labels' := StringMap.eq_of_values (h.2.trans h'.2.symm) hv
  rfl

theorem Counter.Takes.shown {c : Counter} {m : Match} (h : c.Takes m) {s : Sample}
    (hv : m.labels.values = s.values) : s.shown c = m.line s.count := by
  obtain ⟨hn, hk⟩ := h
  have hz : m.labels.entries = m.labels.keys.zip s.values := hv ▸ List.zip_of_prod rfl rfl
  have hl : s.labels c.labelNames = labelText m.labels.entries := by
    rw [← hk, labelText, Sample.labels, ← hz, StringMap.keys, List.isEmpty_map]
  rw [Sample.shown, Match.line, hn, hl]

theorem Counter.mem_valuesOf {c : Counter} {calls : List Match} {vs : List String} :
    vs ∈ c.valuesOf calls ↔ ∃ m ∈ calls, c.Takes m ∧ m.labels.values = vs := by
  simp [valuesOf, and_assoc]

theorem Counter.Takes.count_valuesOf {c : Counter} {m : Match} (h : c.Takes m) (calls : List Match) :
    (c.valuesOf calls).count m.labels.values = calls.count m := by
  rw [Counter.valuesOf, List.count, List.countP_map, List.countP_filter, List.count]
  refine List.countP_congr fun m' _ => ?_
  simp only [Function.comp_apply, Bool.and_eq_true, beq_iff_eq, decide_eq_true_eq]
  exact ⟨fun ⟨hv, h'⟩ => h'.ext h hv, by rintro rfl; exact ⟨rfl, h⟩⟩

theorem Counter.length_valuesOf_le (c : Counter) (calls : List Match) :
    (c.valuesOf calls).length ≤ calls.length := by
  rw [valuesOf, List.length_map]
  exact List.length_filter_le _ _

/-- The sample of a call that was counted. -/
def Match.sample (m : Match) (n : ℕ) : Sample := ⟨sampleKey m.labels.values, m.labels.values, n⟩

theorem Counter.samples_perm {c : Counter} {calls : List Match} (hlen : calls.length ≤ countLimit)
    (ha : Apart (c.valuesOf calls)) : (samplesOf (c.valuesOf calls)).Perm
      ((calls.filter c.Takes).dedup.map fun m => m.sample (calls.count m)) := by
  have hlen' : (c.valuesOf calls).length ≤ countLimit := (c.length_valuesOf_le calls).trans hlen
  refine (List.perm_ext_iff_of_nodup (tells_samplesOf hlen').nodup.of_map ?_).2 fun s => ?_
  · refine (List.nodup_dedup _).map_on fun m hm m' hm' he => ?_
    simp only [List.mem_dedup, List.mem_filter, decide_eq_true_eq] at hm hm'
    exact hm.2.ext hm'.2 (congrArg Sample.values he)
  · simp only [mem_samplesOf hlen' ha, mem_valuesOf, List.mem_map, List.mem_dedup, List.mem_filter,
      decide_eq_true_eq]
    constructor
    · rintro ⟨⟨m, hm, ht, hv⟩, hs⟩
      refine ⟨m, ⟨hm, ht⟩, ?_⟩
      rw [hs, exactSample, Match.sample, ← hv, ht.count_valuesOf]
    · rintro ⟨m, ⟨hm, ht⟩, rfl⟩
      exact ⟨⟨m, hm, ht, rfl⟩, by rw [exactSample, Match.sample, ← ht.count_valuesOf]⟩

namespace Registry

variable {r : Registry} {calls : List Match}

theorem IsNew.wellNamed_of_takes (h : r.IsNew) {c : Counter} (hc : c ∈ r.counters) {m : Match}
    (ht : c.Takes m) : m.WellNamed := by
  obtain ⟨hn, hk⟩ := ht
  have hw := h.wellNamed c hc
  exact ⟨hn ▸ hw.metric, hk ▸ hw.label⟩

theorem IsNew.eq_of_name (h : r.IsNew) {c d : Counter} (hc : c ∈ r.counters) (hd : d ∈ r.counters)
    (hn : c.name = d.name) : c = d := List.inj_on_of_nodup_map h.distinct hc hd hn

theorem IsNew.sampleLines_counting (h : r.IsNew) (calls : List Match) :
    (sampleLines (r.counting calls).render).Perm
      (r.counters.flatMap fun c => (samplesOf (c.valuesOf calls)).map (Sample.shown c)) := by
  have hw : ∀ c ∈ (r.counting calls).counters, c.WellNamed := by
    rw [counters_counting h]
    intro d hd
    obtain ⟨c, hc, rfl⟩ := List.mem_map.1 hd
    exact ⟨(h.wellNamed c hc).metric, (h.wellNamed c hc).label⟩
  refine (sampleLines_render hw).trans ?_
  rw [counters_counting h, List.flatMap_map]
  exact .refl _

theorem IsNew.dedup_perm (h : r.IsNew) (calls : List Match) :
    (calls.filter r.Takes).dedup.Perm
      (r.counters.flatMap fun c => (calls.filter c.Takes).dedup) := by
  refine (List.perm_ext_iff_of_nodup (List.nodup_dedup _) ?_).2 fun m => ?_
  · refine List.nodup_flatMap.2 ⟨fun c _ => List.nodup_dedup _, ?_⟩
    refine (List.pairwise_map.1 h.distinct).imp fun {c d} hne m hm hm' => hne ?_
    simp only [List.mem_dedup, List.mem_filter, decide_eq_true_eq] at hm hm'
    exact hm.2.1.trans hm'.2.1.symm
  · simp only [List.mem_dedup, List.mem_filter, List.mem_flatMap, decide_eq_true_eq]
    exact ⟨fun ⟨hm, c, hc, ht⟩ => ⟨c, hc, hm, ht⟩, fun ⟨c, hc, hm, ht⟩ => ⟨hm, c, hc, ht⟩⟩

theorem TellsApart.apart (ht : r.TellsApart calls) {c : Counter} (hc : c ∈ r.counters) :
    Apart (c.valuesOf calls) := by
  intro v hv w hw hk
  obtain ⟨m, hm, hmt, rfl⟩ := Counter.mem_valuesOf.1 hv
  obtain ⟨m', hm', hmt', rfl⟩ := Counter.mem_valuesOf.1 hw
  rw [ht m hm m' hm' ⟨c, hc, hmt⟩ ⟨c, hc, hmt'⟩ (hmt.1.symm.trans hmt'.1) hk]

theorem IsNew.isExact (h : r.IsNew) (hlen : calls.length < countLimit) (ht : r.TellsApart calls) :
    r.IsExact calls := by
  have hlines : ∀ c ∈ r.counters, ((samplesOf (c.valuesOf calls)).map (Sample.shown c)).Perm
      ((calls.filter c.Takes).dedup.map fun m => m.line (calls.count m)) := by
    intro c hc
    refine ((Counter.samples_perm hlen.le (ht.apart hc)).map _).trans ?_
    rw [List.map_map]
    refine .of_eq (List.map_congr_left fun m hm => ?_)
    simp only [List.mem_dedup, List.mem_filter, decide_eq_true_eq] at hm
    exact hm.2.shown rfl
  have hall := (h.dedup_perm calls).map fun m => m.line (calls.count m)
  rw [List.map_flatMap] at hall
  exact (h.sampleLines_counting calls).trans ((Perm.flatMap_left _ hlines).trans hall.symm)

/-- A call that is shown has a sample of its own values. -/
theorem IsNew.exists_sample (h : r.IsNew) (hlen : calls.length < countLimit) (he : r.IsExact calls)
    {c : Counter} (hc : c ∈ r.counters) {m : Match} (hm : m ∈ calls) (ht : c.Takes m) :
    ∃ s ∈ samplesOf (c.valuesOf calls), s.values = m.labels.values := by
  have hl : m.line (calls.count m) ∈ (calls.filter r.Takes).dedup.map fun m =>
      m.line (calls.count m) :=
    List.mem_map.2 ⟨m, by simpa [hm] using ⟨c, hc, ht⟩, rfl⟩
  rw [← he.mem_iff, (h.sampleLines_counting calls).mem_iff, List.mem_flatMap] at hl
  obtain ⟨d, hd, hl⟩ := hl
  obtain ⟨s, hs, hl⟩ := List.mem_map.1 hl
  have htells := tells_samplesOf ((d.length_valuesOf_le calls).trans hlen.le)
  obtain ⟨m', hm', ht', hv⟩ := Counter.mem_valuesOf.1 (htells.values s hs)
  rw [ht'.shown hv] at hl
  obtain ⟨rfl, -⟩ := Match.line_injective (h.wellNamed_of_takes hd ht') (h.wellNamed_of_takes hc ht) hl
  rw [h.eq_of_name hc hd (ht.1.trans ht'.1.symm)]
  exact ⟨s, hs, hv.symm⟩

theorem IsNew.tellsApart (h : r.IsNew) (hlen : calls.length < countLimit) (he : r.IsExact calls) :
    r.TellsApart calls := by
  rintro m hm m' hm' ⟨c, hc, ht⟩ ⟨d, hd, ht'⟩ hn hk
  obtain rfl := h.eq_of_name hc hd (ht.1.trans (hn.trans ht'.1.symm))
  have htells := tells_samplesOf ((c.length_valuesOf_le calls).trans hlen.le)
  obtain ⟨s, hs, hsv⟩ := h.exists_sample hlen he hc hm ht
  obtain ⟨t, hts, htv⟩ := h.exists_sample hlen he hd hm' ht'
  rw [← hsv, ← htv, htells.key s hs, htells.key t hts] at hk
  have hst := List.inj_on_of_nodup_map htells.nodup hs hts hk
  exact ht.ext ht' (hsv ▸ htv ▸ hst ▸ rfl)

/-! ## The order of calls -/

theorem TellsApart.samples_perm (ht : r.TellsApart calls) (hlen : calls.length < countLimit)
    {calls' : List Match} (hp : calls.Perm calls') {c : Counter} (hc : c ∈ r.counters) :
    (c.counting calls).samples.Perm (c.counting calls').samples :=
  samplesOf_perm ((c.length_valuesOf_le calls).trans hlen.le) (ht.apart hc) ((hp.filter _).map _)

theorem TellsApart.text_eq (ht : r.TellsApart calls) (hlen : calls.length < countLimit)
    {calls' : List Match} (hp : calls.Perm calls') {c : Counter} (hc : c ∈ r.counters) :
    (c.counting calls).text = (c.counting calls').text := by
  have htells := tells_samplesOf ((c.length_valuesOf_le calls).trans hlen.le)
  have hsort := mergeSort_samples (ht.samples_perm hlen hp hc) fun s hs t hts hv =>
    List.inj_on_of_nodup_map htells.nodup hs hts (by rw [← htells.key s hs, ← htells.key t hts, hv])
  rw [Counter.text, Counter.text, hsort]
  rfl

theorem IsNew.render_counting (h : r.IsNew) (calls : List Match) : (r.counting calls).render =
    String.join (((r.counters.filter fun c => !(c.counting calls).samples.isEmpty).mergeSort
      fun c d => c.name ≤ d.name).map fun c => (c.counting calls).text) := by
  have hsort : ∀ cs : List Counter,
      (cs.map (·.counting calls)).mergeSort (fun c d => decide (c.name ≤ d.name)) =
        (cs.mergeSort fun c d => c.name ≤ d.name).map (·.counting calls) := by
    refine fun cs => (List.map_mergeSort ?_).symm
    intros
    rfl
  rw [render, counters_counting h, List.filter_map, hsort, List.map_map]
  rfl

theorem IsNew.render_perm (h : r.IsNew) (hlen : calls.length < countLimit) (ht : r.TellsApart calls)
    {calls' : List Match} (hp : calls.Perm calls') :
    (r.counting calls').render = (r.counting calls).render := by
  have hf : (r.counters.filter fun c => !(c.counting calls').samples.isEmpty) =
      r.counters.filter fun c => !(c.counting calls).samples.isEmpty := by
    refine List.filter_congr fun c hc => ?_
    rw [(ht.samples_perm hlen hp hc).isEmpty_eq]
  rw [h.render_counting, h.render_counting, hf]
  refine congrArg String.join (List.map_congr_left fun c hc => ?_)
  exact (ht.text_eq hlen hp (List.mem_filter.1 (List.mem_mergeSort.1 hc)).1).symm

/-- A call that no counter takes changes nothing. -/
theorem IsNew.counting_insert (h : r.IsNew) {m : Match} (hm : ¬ r.Takes m) (before after : List Match) :
    r.counting (before ++ m :: after) = r.counting (before ++ after) := by
  have hsame : (r.counting (before ++ m :: after)).counters =
      (r.counting (before ++ after)).counters := by
    rw [counters_counting h, counters_counting h]
    refine List.map_congr_left fun c hc => ?_
    have ht : ¬ c.Takes m := fun ht => hm ⟨c, hc, ht⟩
    simp [Counter.counting, Counter.valuesOf, ht]
  rw [← mk.injEq] at hsame
  exact hsame

/-- The text is exact if and only if calls of one metric that differ in their labels also differ in
the hash of their label values, written one after the other; then it does not depend on the order of
the calls. -/
theorem exact_iff {rules : List Rule} (hr : register rules = .ok r) (hlen : calls.length < countLimit) :
    (r.IsExact calls ↔ r.TellsApart calls) ∧
      (r.TellsApart calls → ∀ calls', calls.Perm calls' →
        (r.counting calls').render = (r.counting calls).render) ∧
      (∀ m m' n n', r.Takes m → r.Takes m' → m.line n = m'.line n' → m = m' ∧ n = n') ∧
      (∀ m before after, ¬ r.Takes m →
        r.counting (before ++ m :: after) = r.counting (before ++ after)) ∧
      ∀ m, r.Takes m ↔ ∃ rule ∈ rules, rule.name = m.name ∧ m.labels.keys = rule.labels.keys := by
  have h := isNew_register hr
  refine ⟨⟨h.tellsApart hlen, h.isExact hlen⟩, fun ht calls' => h.render_perm hlen ht, ?_,
    fun m before after hm => h.counting_insert hm before after, fun m => ?_⟩
  · rintro m m' n n' ⟨c, hc, ht⟩ ⟨d, hd, ht'⟩
    exact Match.line_injective (h.wellNamed_of_takes hc ht) (h.wellNamed_of_takes hd ht')
  · simp [Takes, Counter.Takes, counters_register hr]

def podsDefinition : Definition where
  name := "pods_total"
  labels := .ofList [("name", "involvedObject.name"), ("namespace", "involvedObject.namespace")]

def podsRegistry : Registry := ⟨[⟨"pods_total", ["name", "namespace"], []⟩]⟩

def podCall (name ns : String) : Match := ⟨"pods_total", .ofList [("name", name), ("namespace", ns)]⟩

theorem register_podsDefinition :
    ∃ rules, Rule.compile [podsDefinition] = .ok rules ∧ register rules = .ok podsRegistry :=
  ⟨_, rfl, rfl⟩

theorem podCalls_exact :
    ∃ rules, Rule.compile [podsDefinition] = .ok rules ∧ register rules = .ok podsRegistry ∧
      podsRegistry.IsExact [podCall "a" "b", podCall "b" "a", podCall "a" "b"] := by
  obtain ⟨rules, hc, hr⟩ := register_podsDefinition
  refine ⟨rules, hc, hr, (exact_iff hr (by decide)).1.2 ?_⟩
  unfold TellsApart
  decide +kernel

/-- Two pods whose names and namespaces make up the same text are counted as the first of them. -/
theorem podCalls_merged :
    ∃ rules r, Rule.compile [podsDefinition] = .ok rules ∧ register rules = .ok r ∧
      r.Takes (podCall "a" "bc") ∧ r.Takes (podCall "ab" "c") ∧
      ((r.counting [podCall "a" "bc", podCall "ab" "c"]).counters.map fun c =>
        c.samples.map fun s => (s.values, s.count)) = [[(["a", "bc"], 2)]] ∧
      ¬ r.IsExact [podCall "a" "bc", podCall "ab" "c"] := by
  obtain ⟨rules, hc, hr⟩ := register_podsDefinition
  refine ⟨rules, podsRegistry, hc, hr, by decide +kernel, by decide +kernel, by decide +kernel,
    fun he => ?_⟩
  have hsame := (isNew_register hr).tellsApart (by decide) he (podCall "a" "bc") (by simp)
    (podCall "ab" "c") (by simp) (by decide +kernel) (by decide +kernel) rfl (by decide +kernel)
  exact absurd hsame (by decide +kernel)

end Registry
end EventTally
