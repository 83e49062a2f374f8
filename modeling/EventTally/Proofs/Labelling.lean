import EventTally.Rule.Label
import Mathlib

/-! Label specs and the sources that they name. Every spec names one source, which is written as that spec
again. The sources that are named are those whose spec does not read as something else: the start of a path
on the related object comes before a group in brackets, and this before a path on the event. -/

namespace EventTally.LabelSource

/-! ## Specs by their form -/

/-- Starts as a path on the related object does. -/
def NamesRelated (spec : String) : Prop := "Object.".toList <+: spec.toList

/-- Ends in brackets with one digit between them. -/
def NamesGroup (spec : String) : Prop :=
  ∃ key digit, digit.isDigit ∧ spec.toList = key ++ ['[', digit, ']']

/-- The sources that some spec names. -/
def IsNamed : LabelSource → Prop
  | direct path => ¬ NamesRelated path ∧ ¬ NamesGroup path
  | related _ => True
  | submatch key index => index ≤ 9 ∧ ¬ NamesRelated key

/-- A group in brackets behind a key does not make this a path on the related object. -/
theorem namesRelated_append_iff {key : String} {rest : List Char} :
    "Object.".toList <+: key.toList ++ '[' :: rest ↔ NamesRelated key := by
  constructor
  · rintro ⟨path, hpath⟩
    rcases List.append_eq_append_iff.1 hpath with ⟨more, hkey, -⟩ | ⟨more, hstart, hrest⟩
    · exact ⟨more, hkey.symm⟩
    · cases more with
      | nil => exact ⟨[], hstart.trans (List.append_nil _) ▸ List.append_nil _⟩
      | cons c more =>
        -- else the bracket would stand in the start itself
        have hc : c = '[' := by
          cases hrest
          rfl
        have hmem : '[' ∈ "Object.".toList := by
          rw [hstart, hc]
          simp
        exact absurd hmem (by decide)
  · exact fun h => h.trans (List.prefix_append _ _)

theorem digitChar_of_isDigit {c : Char} (h : c.isDigit) :
    c.toNat - 48 ≤ 9 ∧ Nat.digitChar (c.toNat - 48) = c := by
  have hc : 48 ≤ c.toNat ∧ c.toNat ≤ 57 := Char.isDigit_iff_toNat.1 h
  refine ⟨by omega, ?_⟩
  rw [← Char.toNat_inj, Nat.toNat_digitChar_of_lt_ten (by omega)]
  omega

theorem toList_render_submatch (key : String) {index : ℕ} (h : index ≤ 9) :
    (submatch key index).render.toList = key.toList ++ ['[', index.digitChar, ']'] := by
  simp [render, Nat.toDigits_of_lt_base (show index < 10 by omega)]

/-! ## The three readings -/

section

variable {spec : String}

theorem isPrefixOf_iff : relatedStart.isPrefixOf spec.toList ↔ NamesRelated spec :=
  List.isPrefixOf_iff_prefix

theorem classify_of_namesRelated (h : NamesRelated spec) :
    classify spec = related (String.ofList (spec.toList.drop relatedStart.length)) := by
  rw [classify, classifyChars, if_pos (isPrefixOf_iff.2 h)]

theorem classify_of_group {key : List Char} {digit : Char} (hr : ¬ NamesRelated spec)
    (hd : digit.isDigit) (h : spec.toList = key ++ ['[', digit, ']']) :
    classify spec = submatch (String.ofList key) (digit.toNat - 48) := by
  have hreverse : spec.toList.reverse = ']' :: digit :: '[' :: key.reverse := by simp [h]
  rw [classify, classifyChars, if_neg (mt isPrefixOf_iff.1 hr), hreverse]
  simp [hd]

theorem classify_of_plain (hr : ¬ NamesRelated spec) (hg : ¬ NamesGroup spec) :
    classify spec = direct spec := by
  rw [classify, classifyChars, if_neg (mt isPrefixOf_iff.1 hr), String.ofList_toList]
  split
  · rename_i digit key hreverse
    refine if_neg fun hd => hg ⟨key.reverse, digit, hd, ?_⟩
    rw [← List.reverse_reverse spec.toList, hreverse]
    simp
  · rfl

end

/-! ## Specs and sources -/

/-- Every spec is that of a source with one of the three forms. -/
theorem exists_isNamed (spec : String) : ∃ source : LabelSource, source.IsNamed ∧ source.render = spec := by
  by_cases hr : NamesRelated spec
  · obtain ⟨path, hpath⟩ := hr
    refine ⟨related (String.ofList path), trivial, ?_⟩
    rw [render, ← String.ofList_append, ← String.ofList_toList (s := spec), ← hpath]
    rfl
  · by_cases hg : NamesGroup spec
    · obtain ⟨key, digit, hd, hspec⟩ := hg
      obtain ⟨hindex, hdigit⟩ := digitChar_of_isDigit hd
      refine ⟨submatch (String.ofList key) (digit.toNat - 48), ⟨hindex, fun hkey => hr ?_⟩, ?_⟩
      · rw [NamesRelated, hspec, ← String.toList_ofList (l := key)]
        exact namesRelated_append_iff.2 hkey
      · refine String.toList_injective ?_
        rw [toList_render_submatch _ hindex, hdigit, String.toList_ofList, hspec]
    · exact ⟨direct spec, ⟨hr, hg⟩, rfl⟩

theorem classify_render {source : LabelSource} (h : source.IsNamed) : classify source.render = source := by
  cases source with
  | direct path => exact classify_of_plain h.1 h.2
  | related path =>
    have hspec : (related path).render.toList = relatedStart ++ path.toList := by simp [render]
    have hr : NamesRelated (related path).render := by
      rw [NamesRelated, hspec]
      exact List.prefix_append _ _
    rw [classify_of_namesRelated hr, hspec, List.drop_left, String.ofList_toList]
  | submatch key index =>
    obtain ⟨hindex, hkey⟩ := h
    have hspec := toList_render_submatch key hindex
    have hr : ¬ NamesRelated (submatch key index).render := by
      rw [NamesRelated, hspec]
      exact fun hr => hkey (namesRelated_append_iff.1 hr)
    have hd : index.digitChar.isDigit := by
      rw [Nat.isDigit_digitChar]
      exact decide_eq_true (by omega)
    rw [classify_of_group hr hd hspec, String.ofList_toList,
      Nat.toNat_digitChar_sub_48_of_lt_ten (by omega)]

/-- Specs and the sources that they name correspond to each other: a spec is written again as it was, and
just the sources of three forms are read again as they were. So each spec has one reading. -/
theorem classify_lossless :
    (∀ spec, (classify spec).render = spec) ∧
    (∀ source, classify source.render = source ↔ source.IsNamed) ∧
    ∀ spec, ∃! source : LabelSource, source.IsNamed ∧ source.render = spec := by
  have hclassify : ∀ spec, (classify spec).IsNamed ∧ (classify spec).render = spec := by
    intro spec
    obtain ⟨source, hsource, rfl⟩ := exists_isNamed spec
    rw [classify_render hsource]
    exact ⟨hsource, rfl⟩
  refine ⟨fun spec => (hclassify spec).2, fun source => ⟨fun h => ?_, classify_render⟩, fun spec => ?_⟩
  · exact h ▸ (hclassify source.render).1
  · refine ⟨classify spec, hclassify spec, ?_⟩
    rintro source ⟨hsource, rfl⟩
    exact (classify_render hsource).symm

/-- Keys may have brackets of their own, and may be empty. -/
example : classify "a[1][2]" = submatch "a[1]" 2 ∧ classify "[0]" = submatch "" 0 ∧
    classify "a[12]" = direct "a[12]" ∧ classify "Object.a[1]" = related "a[1]" := by decide +kernel

end EventTally.LabelSource
