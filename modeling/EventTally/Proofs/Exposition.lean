import EventTally.Metric.Exposition
import Mathlib

/-! The text of counters, line by line. Names hold no separators, and an escaped value ends at its
quote and holds no line feed, so each line tells the labels and the count that it shows. -/

namespace EventTally

open List (Perm)

/-! ## The line of a count -/

def labelText (es : List (String × String)) : String :=
  if es.isEmpty then ""
  else "\x7b" ++ String.intercalate "," (es.map fun (n, v) => n ++ "=" ++ quoteLabel v) ++ "\x7d"

/-- The line that shows this count for these labels. -/
def Match.line (m : Match) (n : ℕ) : String :=
  m.name ++ labelText m.labels.entries ++ " " ++ toString n

/-- The names can stand in the text of counters. -/
structure Match.WellNamed (m : Match) : Prop where
  metric : isMetricName m.name
  label : ∀ k ∈ m.labels.keys, isLabelName k

/-- The lines of a text that are neither blank nor a comment. -/
def sampleLines (text : String) : List String :=
  ((text.toList.splitOn '\n').filter fun l => l.head?.any (· ≠ '#')).map String.ofList

/-! ## Characters -/

def isNameChar (c : Char) : Bool := isLabelStart c || c = ':' || c.isDigit

theorem isMetricName_iff {s : String} (h : isMetricName s) :
    s.toList ≠ [] ∧ (∀ c ∈ s.toList, isNameChar c) ∧ s.toList.head? ≠ some '#' := by
  unfold isMetricName at h
  split at h
  · cases h
  · rename_i c rest hs
    rw [hs]
    simp only [Bool.and_eq_true, Bool.or_eq_true, decide_eq_true_eq, List.all_eq_true] at h
    refine ⟨by simp, fun d hd => ?_, fun hc => ?_⟩
    · rcases List.mem_cons.1 hd with rfl | hd
      · rcases h.1 with h | h <;> simp [isNameChar, h]
      · simpa [isNameChar] using h.2 d hd
    · obtain rfl : c = '#' := by simpa using hc
      exact absurd h.1 (by decide)

theorem isNameChar_of_isLabelName {s : String} (h : isLabelName s) : ∀ c ∈ s.toList, isNameChar c := by
  unfold isLabelName at h
  split at h
  · cases h
  · rename_i c rest hs
    rw [hs]
    simp only [Bool.and_eq_true, Bool.or_eq_true, List.all_eq_true] at h
    intro d hd
    rcases List.mem_cons.1 hd with rfl | hd
    · simp [isNameChar, h.1]
    · rcases h.2 d hd with h | h <;> simp [isNameChar, h]

theorem newline_not_mem_name {cs : List Char} (h : ∀ c ∈ cs, isNameChar c) : '\n' ∉ cs :=
  fun hm => absurd (h _ hm) (by decide)

theorem newline_not_mem_escapeLabel (cs : List Char) : '\n' ∉ escapeLabel cs := by
  fun_induction escapeLabel cs <;> simp_all [eq_comm]

/-- Reads an escaped value up to its quote: the value and what is behind the quote. -/
def unquote : List Char → List Char × List Char
  | [] => ([], [])
  | '"' :: cs => ([], cs)
  | '\\' :: 'n' :: cs => ((unquote cs).map ('\n' :: ·) id)
  | '\\' :: c :: cs => ((unquote cs).map (c :: ·) id)
  | c :: cs => ((unquote cs).map (c :: ·) id)

theorem unquote_escapeLabel (cs xs : List Char) :
    unquote (escapeLabel cs ++ '"' :: xs) = (cs, xs) := by
  fun_induction escapeLabel cs <;> simp_all [unquote]

theorem quoteLabel_append {v w : String} {xs ys : List Char}
    (h : (quoteLabel v).toList ++ xs = (quoteLabel w).toList ++ ys) : v = w ∧ xs = ys := by
  simp only [quoteLabel, String.toList_ofList, List.append_assoc,
    List.cons_append, List.nil_append, List.cons.injEq, true_and] at h
  have hu := congrArg unquote h
  rw [unquote_escapeLabel, unquote_escapeLabel, Prod.mk.injEq, String.toList_inj] at hu
  exact hu

/-! ## Lines tell what they show -/

/-- What is in front of the first separator. -/
theorem name_append {as bs xs ys : List Char} {c d : Char} (ha : ∀ a ∈ as, isNameChar a)
    (hb : ∀ b ∈ bs, isNameChar b) (hc : isNameChar c = false) (hd : isNameChar d = false)
    (h : as ++ c :: xs = bs ++ d :: ys) : as = bs ∧ c :: xs = d :: ys := by
  have ht := congrArg (List.takeWhile isNameChar) h
  rw [List.takeWhile_append_of_pos ha, List.takeWhile_append_of_pos hb,
    List.takeWhile_cons_of_neg (by simp [hc]), List.takeWhile_cons_of_neg (by simp [hd]),
    List.append_nil, List.append_nil] at ht
  exact ⟨ht, List.append_cancel_left (ht ▸ h)⟩

def entryText (e : String × String) : List Char := e.1.toList ++ '=' :: (quoteLabel e.2).toList

theorem entryText_append {e f : String × String} {xs ys : List Char} (he : isLabelName e.1)
    (hf : isLabelName f.1) (h : entryText e ++ xs = entryText f ++ ys) : e = f ∧ xs = ys := by
  simp only [entryText, List.append_assoc, List.cons_append] at h
  obtain ⟨hn, h⟩ := name_append (isNameChar_of_isLabelName he) (isNameChar_of_isLabelName hf)
    (by decide) (by decide) h
  obtain ⟨hv, hx⟩ := quoteLabel_append (List.cons.inj h).2
  exact ⟨Prod.ext (String.toList_inj.1 hn) hv, hx⟩

/-- The entries behind the first one, up to the bracket. -/
theorem entries_append {es fs : List (String × String)} {xs ys : List Char}
    (he : ∀ e ∈ es, isLabelName e.1) (hf : ∀ f ∈ fs, isLabelName f.1)
    (h : (es.flatMap fun e => ',' :: entryText e) ++ '\x7d' :: xs =
      (fs.flatMap fun f => ',' :: entryText f) ++ '\x7d' :: ys) : es = fs ∧ xs = ys := by
  induction es generalizing fs with
  | nil =>
    rcases fs with _ | ⟨f, fs⟩
    · simpa using h
    · simp at h
  | cons e es ih =>
    rcases fs with _ | ⟨f, fs⟩
    · simp at h
    · simp only [List.flatMap_cons, List.cons_append, List.append_assoc, List.cons.injEq, true_and] at h
      obtain ⟨he, hes⟩ := List.forall_mem_cons.1 he
      obtain ⟨hf, hfs⟩ := List.forall_mem_cons.1 hf
      obtain ⟨rfl, hrest⟩ := entryText_append he hf h
      obtain ⟨rfl, hx⟩ := ih hes hfs hrest
      exact ⟨rfl, hx⟩

theorem intercalate_comma (l : List Char) (ls : List (List Char)) :
    [','].intercalate (l :: ls) = l ++ ls.flatMap (',' :: ·) := by
  induction ls generalizing l with
  | nil => simp
  | cons m ls ih => simp [List.intercalate_cons_cons, ih]

theorem newline_not_mem_intercalate {ls : List (List Char)} (h : ∀ l ∈ ls, '\n' ∉ l) :
    '\n' ∉ [','].intercalate ls := by
  rcases ls with _ | ⟨l, ls⟩
  · simp
  · obtain ⟨hl, hls⟩ := List.forall_mem_cons.1 h
    simpa [intercalate_comma, hl] using hls

theorem toList_labelText_cons (e : String × String) (es : List (String × String)) :
    (labelText (e :: es)).toList =
      '\x7b' :: (entryText e ++ ((es.flatMap fun e => ',' :: entryText e) ++ ['\x7d'])) := by
  simp [labelText, intercalate_comma, entryText, List.flatMap_map, Function.comp_def]

theorem labelText_append {es fs : List (String × String)} {xs ys : List Char}
    (he : ∀ e ∈ es, isLabelName e.1) (hf : ∀ f ∈ fs, isLabelName f.1)
    (h : (labelText es).toList ++ ' ' :: xs = (labelText fs).toList ++ ' ' :: ys) :
    es = fs ∧ xs = ys := by
  have hnil : (labelText []).toList = [] := rfl
  rcases es with _ | ⟨e, es⟩ <;> rcases fs with _ | ⟨f, fs⟩
  · simpa [hnil] using h
  · simp [hnil, toList_labelText_cons] at h
  · simp [hnil, toList_labelText_cons] at h
  · simp only [toList_labelText_cons, List.cons_append, List.append_assoc, List.nil_append,
      List.cons.injEq, true_and] at h
    obtain ⟨he, hes⟩ := List.forall_mem_cons.1 he
    obtain ⟨hf, hfs⟩ := List.forall_mem_cons.1 hf
    obtain ⟨rfl, hrest⟩ := entryText_append he hf h
    obtain ⟨rfl, hx⟩ := entries_append hes hfs hrest
    exact ⟨rfl, (List.cons.inj hx).2⟩

theorem labelText_head (es : List (String × String)) (xs : List Char) :
    ∃ c ys, isNameChar c = false ∧ (labelText es).toList ++ ' ' :: xs = c :: ys := by
  rcases es with _ | ⟨e, es⟩
  · exact ⟨' ', xs, by decide, rfl⟩
  · exact ⟨'\x7b', _, by decide, by rw [toList_labelText_cons, List.cons_append]⟩

theorem Match.toList_line (m : Match) (n : ℕ) : (m.line n).toList =
    m.name.toList ++ ((labelText m.labels.entries).toList ++ ' ' :: Nat.toDigits 10 n) := by
  simp [Match.line, toString, Nat.repr]

theorem Match.WellNamed.entry {m : Match} (h : m.WellNamed) :
    ∀ e ∈ m.labels.entries, isLabelName e.1 := fun _ he => h.label _ (List.mem_map_of_mem he)

theorem Match.line_injective {m m' : Match} {n n' : ℕ} (hm : m.WellNamed) (hm' : m'.WellNamed)
    (h : m.line n = m'.line n') : m = m' ∧ n = n' := by
  have ht := congrArg String.toList h
  rw [Match.toList_line, Match.toList_line] at ht
  obtain ⟨c, xs, hc, hcx⟩ := labelText_head m.labels.entries (Nat.toDigits 10 n)
  obtain ⟨d, ys, hd, hdy⟩ := labelText_head m'.labels.entries (Nat.toDigits 10 n')
  rw [hcx, hdy] at ht
  obtain ⟨hname, htail⟩ := name_append (isMetricName_iff hm.metric).2.1 (isMetricName_iff hm'.metric).2.1
    hc hd ht
  rw [← hcx, ← hdy] at htail
  obtain ⟨hlabels, hn⟩ := labelText_append hm.entry hm'.entry htail
  obtain ⟨name, ⟨entries, sorted⟩⟩ := m
  obtain ⟨name', ⟨entries', sorted'⟩⟩ := m'
  obtain rfl : name = name' := String.toList_inj.1 hname
  obtain rfl : entries = entries' := hlabels
  refine ⟨rfl, ?_⟩
  rw [← @Nat.ofDigitChars_ten_toDigits n, hn, Nat.ofDigitChars_ten_toDigits]

/-! ## The lines of a text -/

theorem splitOn_lines {ls : List (List Char)} (h : ∀ l ∈ ls, '\n' ∉ l) :
    (ls.flatMap (· ++ ['\n'])).splitOn '\n' = ls ++ [[]] := by
  induction ls with
  | nil => simp
  | cons l ls ih =>
    obtain ⟨hl, hls⟩ := List.forall_mem_cons.1 h
    rw [List.flatMap_cons, List.append_assoc, List.singleton_append,
      List.splitOn_append_cons_self_of_not_mem hl, ih hls, List.cons_append]

/-- The names of a counter can stand in a text. -/
structure Counter.WellNamed (c : Counter) : Prop where
  metric : isMetricName c.name
  label : ∀ n ∈ c.labelNames, isLabelName n

/-- The line of a sample. -/
def Sample.shown (c : Counter) (s : Sample) : String :=
  c.name ++ s.labels c.labelNames ++ " " ++ toString s.count

/-- All lines of a counter, its comments first. -/
def Counter.lines (c : Counter) : List String :=
  ("# HELP " ++ c.name ++ " Kubernetes Eventexporter Metric " ++ c.name) ::
    ("# TYPE " ++ c.name ++ " counter") ::
    (c.samples.mergeSort fun s t => valuesLE s.values t.values).map (Sample.shown c)

theorem Counter.toList_text (c : Counter) :
    c.text.toList = (c.lines.map String.toList).flatMap (· ++ ['\n']) := by
  simp [Counter.text, Counter.lines, Sample.line, Sample.shown, List.flatMap_map, Function.comp_def]

theorem Sample.newline_not_mem_labels {names : List String} (h : ∀ n ∈ names, isLabelName n)
    (s : Sample) : '\n' ∉ (s.labels names).toList := by
  have hentry : ∀ e ∈ names.zip s.values, '\n' ∉ (e.1 ++ "=" ++ quoteLabel e.2).toList := by
    intro e he
    have hn := newline_not_mem_name (isNameChar_of_isLabelName (h _ (List.of_mem_zip he).1))
    simp [quoteLabel, hn, newline_not_mem_escapeLabel]
  have hall : '\n' ∉ [','].intercalate (((names.zip s.values).map fun (n, v) =>
      n ++ "=" ++ quoteLabel v).map String.toList) := by
    refine newline_not_mem_intercalate fun l hl => ?_
    obtain ⟨t, ht, rfl⟩ := List.mem_map.1 hl
    obtain ⟨e, he, rfl⟩ := List.mem_map.1 ht
    exact hentry e he
  unfold Sample.labels
  split
  · simp
  · simpa using hall

theorem Counter.WellNamed.newline_not_mem {c : Counter} (h : c.WellNamed) :
    ∀ l ∈ c.lines, '\n' ∉ l.toList := by
  have hname := newline_not_mem_name (isMetricName_iff h.metric).2.1
  have hdigits : ∀ n, '\n' ∉ Nat.toDigits 10 n := fun n hm =>
    absurd (Nat.isDigit_of_mem_toDigits (by decide) (by decide) hm) (by decide)
  intro l hl
  rcases List.mem_cons.1 hl with rfl | hl
  · simp [hname]
  rcases List.mem_cons.1 hl with rfl | hl
  · simp [hname]
  · obtain ⟨s, -, rfl⟩ := List.mem_map.1 hl
    simp [Sample.shown, toString, Nat.repr, hname, hdigits, s.newline_not_mem_labels h.label]

theorem Counter.WellNamed.filter_lines {c : Counter} (h : c.WellNamed) :
    ((c.lines.map String.toList).filter fun l => l.head?.any (· ≠ '#')) =
      ((c.samples.mergeSort fun s t => valuesLE s.values t.values).map (Sample.shown c)).map
        String.toList := by
  obtain ⟨hne, -, hhead⟩ := isMetricName_iff h.metric
  obtain ⟨d, ds, hd⟩ := List.exists_cons_of_ne_nil hne
  have hd' : d ≠ '#' := by simpa [hd] using hhead
  rw [Counter.lines, List.map_cons, List.map_cons, List.filter_cons_of_neg (by simp),
    List.filter_cons_of_neg (by simp), List.filter_eq_self]
  intro l hl
  obtain ⟨_, hm, rfl⟩ := List.mem_map.1 hl
  obtain ⟨s, -, rfl⟩ := List.mem_map.1 hm
  simp [Sample.shown, hd, hd']

theorem sampleLines_join {cs : List Counter} (h : ∀ c ∈ cs, c.WellNamed) :
    sampleLines (String.join (cs.map Counter.text)) =
      cs.flatMap fun c => (c.samples.mergeSort fun s t => valuesLE s.values t.values).map
        (Sample.shown c) := by
  have hlines : (String.join (cs.map Counter.text)).toList =
      (cs.flatMap fun c => c.lines.map String.toList).flatMap (· ++ ['\n']) := by
    simp [Counter.toList_text, List.flatMap_map, List.flatMap_assoc]
  rw [sampleLines, hlines, splitOn_lines, List.filter_append, List.filter_flatMap]
  · rw [List.flatMap_congr fun c hc => (h c hc).filter_lines]
    simp [List.map_flatMap, Function.comp_def]
  · intro l hl
    obtain ⟨c, hc, hm⟩ := List.mem_flatMap.1 hl
    obtain ⟨t, ht, rfl⟩ := List.mem_map.1 hm
    exact (h c hc).newline_not_mem t ht

/-- The text of a registry shows its samples, in some order. -/
theorem sampleLines_render {r : Registry} (h : ∀ c ∈ r.counters, c.WellNamed) :
    (sampleLines r.render).Perm (r.counters.flatMap fun c => c.samples.map (Sample.shown c)) := by
  have hdrop : ∀ cs : List Counter, ((cs.filter (!·.samples.isEmpty)).flatMap fun c =>
      c.samples.map (Sample.shown c)) = cs.flatMap fun c => c.samples.map (Sample.shown c) := by
    intro cs
    induction cs with
    | nil => rfl
    | cons c cs ih =>
      rw [List.filter_cons]
      split <;> simp_all
  have hperm := List.mergeSort_perm (r.counters.filter (!·.samples.isEmpty)) fun c d => c.name ≤ d.name
  rw [Registry.render, sampleLines_join fun c hc => h c (List.mem_filter.1 (hperm.mem_iff.1 hc)).1,
    ← hdrop]
  exact hperm.flatMap fun c _ => (List.mergeSort_perm _ _).map _

/-! ## The order of samples -/

theorem valuesLE_iff {v w : List String} : valuesLE v w ↔ v ≤ w := by
  rw [← not_lt]
  induction v generalizing w with
  | nil => simp [valuesLE]
  | cons a v ih =>
    rcases w with _ | ⟨b, w⟩
    · simp [valuesLE]
    · rw [List.cons_lt_cons_iff, valuesLE]
      rcases lt_trichotomy a b with h | rfl | h
      · simp [h, h.ne', h.not_gt]
      · simp [ih]
      · simp [h, h.ne', h.not_gt]

/-- Samples of distinct values have but one order. -/
theorem mergeSort_samples {ss ts : List Sample} (hp : ss.Perm ts)
    (hd : ∀ s ∈ ss, ∀ t ∈ ss, s.values = t.values → s = t) :
    (ss.mergeSort fun s t => valuesLE s.values t.values) =
      ts.mergeSort fun s t => valuesLE s.values t.values := by
  have hsorted : ∀ us : List Sample, (us.mergeSort fun s t => valuesLE s.values t.values).Pairwise
      fun s t => valuesLE s.values t.values := fun us => by
    refine List.pairwise_mergeSort (fun s t u hst htu => ?_) (fun s t => ?_) us
    · exact valuesLE_iff.2 ((valuesLE_iff.1 hst).trans (valuesLE_iff.1 htu))
    · simpa [valuesLE_iff] using le_total s.values t.values
  refine Perm.eq_of_pairwise (fun s t hs ht hst hts => ?_) (hsorted ss) (hsorted ts)
    ((List.mergeSort_perm ss _).trans (hp.trans (List.mergeSort_perm ts _).symm))
  exact hd s (List.mem_mergeSort.1 hs) t (hp.mem_iff.2 (List.mem_mergeSort.1 ht))
    ((valuesLE_iff.1 hst).antisymm (valuesLE_iff.1 hts))

end EventTally
