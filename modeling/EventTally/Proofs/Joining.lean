import EventTally.Proofs.Percent
import EventTally.Url.Reader

/-! Joining a relative path to an address. What is decoded from the joined path is never longer than
what was given, and as long only if nothing was dropped, followed or decoded on the way. So a path
that is still whole behind the join had no part with a meaning of its own. -/

namespace EventTally

open Utf8 (bytesOf)

namespace Url

/-! ## The weight of segments -/

/-- How many bytes segments decode to, with a slash each. -/
def weight (segments : List String) : ℕ :=
  (segments.map fun s => (Percent.decode (Utf8.encode s)).length + 1).sum

theorem weight_cons (s : String) (segments : List String) :
    weight (s :: segments) = (Percent.decode (Utf8.encode s)).length + 1 + weight segments := rfl

theorem weight_append (segments segments' : List String) :
    weight (segments ++ segments') = weight segments + weight segments' := by
  simp [weight]

theorem decode_write_append (xs : List UInt8) (segments : List String) :
    Percent.decode (xs ++ Utf8.encode (UrlPath.segments segments).write) =
      Percent.decode xs ++ segments.flatMap fun s => 47 :: Percent.decode (Utf8.encode s) := by
  induction segments generalizing xs with
  | nil => simp [UrlPath.write, Utf8.encode_eq, bytesOf]
  | cons s segments ih =>
    have hw : Utf8.encode (UrlPath.segments (s :: segments)).write =
        47 :: (Utf8.encode s ++ Utf8.encode (UrlPath.segments segments).write) := by
      rw [UrlPath.write, List.map_cons, String.join_cons, Utf8.encode_append, Utf8.encode_append]
      rfl
    rw [hw, Percent.decode_append (by decide) (by decide), ih, List.flatMap_cons, List.cons_append]

theorem length_decode_write (segments : List String) :
    (Percent.decode (Utf8.encode (UrlPath.segments segments).write)).length = weight segments := by
  have h := decode_write_append [] segments
  rw [List.nil_append] at h
  rw [h, weight]
  simp [List.length_flatMap, Percent.decode]

theorem weight_above_le (place : List String) : weight (above place) ≤ weight place := by
  rw [above]
  split
  · exact le_rfl
  · exact ((List.dropLast_sublist place).map _).sum_le_sum fun _ _ => Nat.zero_le _

/-! ## Dots -/

/-- A segment that leads to another place. -/
def isStep (segment : String) : Bool := isDot segment || isDoubleDot segment

theorem length_decode_pos_of_isStep {s : String} (h : isStep s) :
    0 < (Percent.decode (Utf8.encode s)).length := by
  refine List.length_pos_of_ne_nil (Percent.decode_ne_nil fun he => ?_)
  rw [Utf8.encode_injective (he.trans (by rfl : [] = Utf8.encode ""))] at h
  exact absurd h (by decide)

theorem mem_sections_lower (cs : List Char) :
    cs ∈ ((cs.map Char.toLower).map fun d => [d, d.toUpper]).sections := by
  rw [List.mem_sections, List.map_map, List.forall₂_map_right_iff]
  refine List.forall₂_same.2 fun c _ => ?_
  by_cases hc : c.isUpper
  · simp [Char.toUpper_eq_of_not_isLower (Char.not_isLower_of_isUpper hc)]
  · simp [Char.toLower_eq_of_not_isUpper hc]

def steps : List String := [".", "%2e"] ++ ["..", ".%2e", "%2e.", "%2e%2e"]

theorem lower_mem_steps {s : String} (h : isStep s) : lower s ∈ steps := by
  simp only [isStep, isDot, isDoubleDot, Bool.or_eq_true, List.contains_iff_mem] at h
  exact List.mem_append.2 h

/-- Steps are dots, though they may be written as escapes. -/
theorem decode_of_isStep {s : String} (h : isStep s) :
    Percent.decode (Utf8.encode s) = Utf8.encode "." ∨
      Percent.decode (Utf8.encode s) = Utf8.encode ".." := by
  have hall : steps.all fun t => (t.toList.map fun d => [d, d.toUpper]).sections.all fun cs =>
      Percent.decode (bytesOf cs) = Utf8.encode "." ∨ Percent.decode (bytesOf cs) = Utf8.encode ".." := by
    decide +kernel
  have hs := List.all_eq_true.1 (List.all_eq_true.1 hall _ (lower_mem_steps h)) s.toList (by
    rw [lower, String.toList_ofList]
    exact mem_sections_lower _)
  rw [Utf8.encode_eq s]
  exact of_decide_eq_true hs

theorem push_of_still {file : Bool} {s : String} (h : file → isDrive s = false) (place : List String) :
    push file place s = place ++ [s] := by
  rw [push, if_neg]
  cases file with
  | false => simp
  | true => simp [h rfl]

/-- Segments that neither lead elsewhere nor name a drive are appended. -/
theorem follow_of_still {file : Bool} {segments : List String} (h : ∀ s ∈ segments, isStep s = false)
    (hd : file → ∀ s ∈ segments, isDrive s = false) (place : List String) :
    follow file place segments = place ++ segments := by
  have hpush : ∀ s ∈ segments, ∀ place, push file place s = place ++ [s] := fun s hs =>
    push_of_still fun hf => hd hf s hs
  fun_induction follow file place segments <;> simp_all [isStep]

theorem follow_of_plain {segments : List String} (h : ∀ s ∈ segments, isStep s = false)
    (place : List String) : follow false place segments = place ++ segments :=
  follow_of_still h (fun hf => absurd hf Bool.false_ne_true) place

/-- Each step to another place loses at least its own dots. -/
theorem weight_follow_le (place segments : List String) :
    weight (follow false place segments) + segments.countP isStep ≤ weight place + weight segments := by
  have hempty : weight [""] = 1 := by decide +kernel
  have hup : ∀ {s}, isDoubleDot s → isStep s := fun h => by simp [isStep, h]
  have hstay : ∀ {s}, isDot s → isStep s := fun h => by simp [isStep, h]
  have hplain : ∀ {s}, ¬ isDoubleDot s → ¬ isDot s → isStep s = false := fun h h' => by
    simp [isStep, h, h']
  fun_induction follow false place segments with
  | case1 place => simp [weight]
  | case2 place last h =>
    have hpos := length_decode_pos_of_isStep (hup h)
    have habove := weight_above_le place
    rw [weight_append, hempty, weight_cons, List.countP_cons, if_pos (hup h), List.countP_nil]
    omega
  | case3 place last h' h =>
    have hpos := length_decode_pos_of_isStep (hstay h)
    rw [weight_append, hempty, weight_cons, List.countP_cons, if_pos (hstay h), List.countP_nil]
    omega
  | case4 place last h h' =>
    simp [push, weight_append, hplain h h']
  | case5 place s rest hne h ih =>
    have hpos := length_decode_pos_of_isStep (hup h)
    have habove := weight_above_le place
    rw [weight_cons, List.countP_cons, if_pos (hup h)]
    omega
  | case6 place s rest hne h' h ih =>
    have hpos := length_decode_pos_of_isStep (hstay h)
    rw [weight_cons, List.countP_cons, if_pos (hstay h)]
    omega
  | case7 place s rest hne h h' ih =>
    have hpush : weight (push false place s) = weight place + weight [s] := weight_append place [s]
    have hs : weight [s] + weight rest = weight (s :: rest) := (weight_append [s] rest).symm
    rw [List.countP_cons, if_neg (Bool.eq_false_iff.1 (hplain h h'))]
    omega

/-! ## Pieces -/

theorem sum_splitOnP (cs : List Char) :
    ((cs.splitOnP (isSeparator true)).map fun p => (bytesOf p).length + 1).sum =
      (bytesOf cs).length + 1 := by
  induction cs with
  | nil => rfl
  | cons c cs ih =>
    rw [List.splitOnP_cons_eq_if_modifyHead, Utf8.bytesOf_cons, List.length_append]
    split
    · rename_i hc
      have hone : (String.utf8EncodeChar c).length = 1 := by
        rcases (by simpa [isSeparator] using hc : c = '/' ∨ c = '\\') with rfl | rfl <;> rfl
      rw [List.map_cons, List.sum_cons, ih, hone]
      simp [bytesOf]
      omega
    · obtain ⟨q, qs, hq⟩ := List.exists_cons_of_ne_nil (List.splitOnP_ne_nil (isSeparator true) cs)
      rw [hq, List.map_cons, List.sum_cons] at ih
      rw [hq, List.modifyHead_cons, List.map_cons, List.sum_cons, Utf8.bytesOf_cons, List.length_append]
      omega

theorem length_splitOnP (special : Bool) (cs : List Char) :
    (cs.splitOnP (isSeparator special)).length = cs.countP (isSeparator special) + 1 := by
  induction cs with
  | nil => rfl
  | cons c cs ih =>
    rw [List.splitOnP_cons_eq_if_modifyHead, List.countP_cons]
    split <;> simp_all

theorem weight_segmentsOf_le (cs : List Char) :
    weight (segmentsOf true cs) + ((cs.splitOnP (isSeparator true)).countP fun p =>
      Percent.decode (bytesOf p) ≠ bytesOf p) ≤ (bytesOf cs).length + 1 := by
  rw [← sum_splitOnP, segmentsOf]
  induction cs.splitOnP (isSeparator true) with
  | nil => rfl
  | cons p ps ih =>
    have hle := Percent.length_decode_le (bytesOf p)
    rw [List.map_cons, weight_cons, Percent.encode, Utf8.encode_ofList,
      Percent.decode_encode Percent.sparing_pathSet, List.map_cons, List.sum_cons, List.countP_cons]
    split
    · rename_i hne
      have hlt : ¬ (bytesOf p).length ≤ (Percent.decode (bytesOf p)).length := fun hge =>
        of_decide_eq_true hne (Percent.eq_of_length_decode hge)
      omega
    · omega

/-! ## What is read of a path -/

/-- A character that is not read, or that ends the path. -/
def isLost (c : Char) : Bool := c = '#' || c = '?' || isIgnored c

/-- Without the blanks and controls around it. -/
def trim (cs : List Char) : List Char := ((cs.dropWhile isOuter).reverse.dropWhile isOuter).reverse

theorem clean_eq (text : String) : clean text = (trim text.toList).filter (!isIgnored ·) := rfl

theorem trim_sublist (cs : List Char) : (trim cs).Sublist cs := by
  rw [← List.reverse_sublist, trim, List.reverse_reverse]
  exact (List.dropWhile_sublist _).trans (List.reverse_sublist.2 (List.dropWhile_sublist _))

theorem dropWhile_of_head {cs : List Char} (h : cs.head?.all (!isOuter ·)) :
    cs.dropWhile isOuter = cs := by
  rcases cs with _ | ⟨c, cs⟩
  · rfl
  · exact List.dropWhile_cons_of_neg (by simpa using h)

theorem trim_of_plain {cs : List Char} (hfirst : cs.head?.all (!isOuter ·))
    (hlast : cs.getLast?.all (!isOuter ·)) : trim cs = cs := by
  rw [trim, dropWhile_of_head hfirst, dropWhile_of_head (by rwa [List.head?_reverse]),
    List.reverse_reverse]

theorem last_trim (cs : List Char) : (trim cs).getLast?.all (!isOuter ·) := by
  rw [trim, List.getLast?_reverse]
  have h := List.head?_dropWhile_not isOuter (cs.dropWhile isOuter).reverse
  split at h
  · rename_i c hc
    rw [hc]
    simp [h]
  · rename_i hn
    rw [hn]
    rfl

theorem clean_sublist (text : String) : (clean text).Sublist (trim text.toList) := List.filter_sublist

theorem body_sublist (cs : List Char) : (Parts.of cs).body.Sublist cs :=
  (List.takeWhile_sublist _).trans (List.takeWhile_sublist _)

theorem cutAt_of_not_mem {c : Char} {cs : List Char} (h : c ∉ cs) : cutAt c cs = (cs, none) := by
  have hall : ∀ d ∈ cs, decide (d ≠ c) = true := fun d hd => by
    refine decide_eq_true fun he => h ?_
    rwa [← he]
  rw [cutAt, List.takeWhile_eq_self_iff.2 hall, if_neg (by simpa using h)]

theorem cutAt_append {c : Char} {cs : List Char} (h : c ∉ cs) (ds : List Char) :
    cutAt c (cs ++ c :: ds) = (cs, some ds) := by
  have hall : ∀ d ∈ cs, decide (d ≠ c) = true := fun d hd => by
    refine decide_eq_true fun he => h ?_
    rwa [← he]
  rw [cutAt, List.takeWhile_append_of_pos hall, List.dropWhile_append_of_pos hall]
  simp

theorem parts_of_plain {text : String} (h : ∀ c ∈ text.toList, isLost c = false)
    (hfirst : text.toList.head?.all (!isOuter ·)) (hlast : text.toList.getLast?.all (!isOuter ·)) :
    Parts.of (clean text) = ⟨text.toList, none, none⟩ := by
  have hread : clean text = text.toList := by
    rw [clean_eq, trim_of_plain hfirst hlast, List.filter_eq_self]
    intro c hc
    have hl := h c hc
    simp only [isLost, Bool.or_eq_false_iff] at hl
    rw [hl.2, Bool.not_false]
  have hmark : ∀ d, isLost d → d ∉ text.toList := fun d hd hm => by simp [h d hm] at hd
  have hhash := cutAt_of_not_mem (hmark '#' (by decide))
  have hquery := cutAt_of_not_mem (hmark '?' (by decide))
  simp only [Parts.of, hread, hhash, hquery]

theorem plain_of_body {text : String} (h : text.toList.Sublist (Parts.of (clean text)).body) :
    (∀ c ∈ text.toList, isLost c = false) ∧ text.toList.getLast?.all (!isOuter ·) := by
  have hclean := h.trans (body_sublist _)
  refine ⟨fun c hc => ?_, ?_⟩
  · have hq := List.mem_takeWhile_imp (h.subset hc)
    have hf := List.mem_takeWhile_imp ((List.takeWhile_sublist _).subset (h.subset hc))
    have hi := (List.mem_filter.1 (hclean.subset hc)).2
    simp_all [isLost]
  · rw [(hclean.trans (clean_sublist text)).antisymm (trim_sublist _)]
    exact last_trim _

/-! ## Paths that are read -/

/-- No slash stands inside a segment. -/
def Slashless (segments : List String) : Prop := ∀ s ∈ segments, '/' ∉ s.toList

theorem not_mem_splitOnP {p : Char → Bool} (cs : List Char) :
    ∀ piece ∈ cs.splitOnP p, ∀ c ∈ piece, p c = false := by
  induction cs with
  | nil => simp
  | cons c cs ih =>
    rw [List.splitOnP_cons_eq_if_modifyHead]
    split
    · exact List.forall_mem_cons.2 ⟨by simp, ih⟩
    · rename_i hc
      obtain ⟨q, qs, hq⟩ := List.exists_cons_of_ne_nil (List.splitOnP_ne_nil p cs)
      rw [hq] at ih ⊢
      obtain ⟨hhead, htail⟩ := List.forall_mem_cons.1 ih
      rw [List.modifyHead_cons]
      exact List.forall_mem_cons.2 ⟨List.forall_mem_cons.2 ⟨by simpa using hc, hhead⟩, htail⟩

theorem slashless_segmentsOf (special : Bool) (cs : List Char) : Slashless (segmentsOf special cs) := by
  intro s hs
  obtain ⟨piece, hp, rfl⟩ := List.mem_map.1 hs
  refine Percent.slash_not_mem_encode fun hm => ?_
  have hsep := not_mem_splitOnP cs piece hp '/' hm
  cases special <;> cases hsep

theorem slashless_push {file : Bool} {place : List String} {s : String} (hp : Slashless place)
    (hs : '/' ∉ s.toList) : Slashless (push file place s) := by
  unfold push
  split
  · intro t ht
    rw [List.mem_singleton.1 ht, String.toList_ofList, List.mem_append, List.mem_singleton]
    exact fun hm => hm.elim (fun hm => hs (List.mem_of_mem_take hm)) (absurd · (by decide))
  · exact List.forall_mem_append.2 ⟨hp, List.forall_mem_singleton.2 hs⟩

theorem slashless_above {place : List String} (h : Slashless place) : Slashless (above place) := by
  unfold above
  split
  · exact h
  · exact fun s hs => h s (List.mem_of_mem_dropLast hs)

theorem slashless_follow {file : Bool} {place segments : List String} (hp : Slashless place)
    (hs : Slashless segments) : Slashless (follow file place segments) := by
  have hempty : Slashless [""] := List.forall_mem_singleton.2 (by decide)
  fun_induction follow file place segments with
  | case1 place => exact hp
  | case2 place last => exact List.forall_mem_append.2 ⟨slashless_above hp, hempty⟩
  | case3 place last => exact List.forall_mem_append.2 ⟨hp, hempty⟩
  | case4 place last => exact slashless_push hp (List.forall_mem_cons.1 hs).1
  | case5 place s rest _ _ ih => exact ih (slashless_above hp) (List.forall_mem_cons.1 hs).2
  | case6 place s rest _ _ _ ih => exact ih hp (List.forall_mem_cons.1 hs).2
  | case7 place s rest _ _ _ ih =>
    exact ih (slashless_push hp (List.forall_mem_cons.1 hs).1) (List.forall_mem_cons.1 hs).2

theorem slashless_rootPath (scheme : String) (cs : List Char) : Slashless (rootPath scheme cs) :=
  slashless_follow (List.forall_mem_nil _) (slashless_segmentsOf _ _)

theorem slashless_dropEmpty {segments : List String} (h : Slashless segments) :
    Slashless (dropEmpty segments) := by
  fun_induction dropEmpty segments with
  | case1 s rest ih => exact ih (List.forall_mem_cons.1 h).2
  | case2 => exact h

theorem withAuthority_path {scheme : String} {cs : List Char} {p : Parts} {u : Url}
    (h : withAuthority scheme cs p = .ok u) :
    ∃ segments, u.path = .segments segments ∧ Slashless segments := by
  unfold withAuthority at h
  simp only [bind, Except.bind] at h
  split at h
  · cases h
  · cases h
    refine ⟨_, rfl, ?_⟩
    split
    · exact List.forall_mem_nil _
    · exact slashless_rootPath _ _

theorem ofFile_path {cs : List Char} {p : Parts} {u : Url} (h : ofFile cs p = .ok u) :
    ∃ segments, u.path = .segments segments ∧ Slashless segments := by
  unfold ofFile at h
  simp only [bind, Except.bind] at h
  repeat' split at h
  all_goals
    cases h
    try exact ⟨_, rfl, slashless_dropEmpty (slashless_rootPath _ _)⟩

theorem exists_segments {text : String} {u : Url} (h : read text = .ok u)
    (hw : u.scheme = "http" ∨ u.scheme = "https") : ∃ segments, u.path = .segments segments := by
  unfold read at h
  split at h
  · rename_i scheme rest _
    unfold ofScheme at h
    simp only at h
    split_ifs at h with hf hs
    · exact (ofFile_path h).imp fun _ hp => hp.1
    · exact (withAuthority_path h).imp fun _ hp => hp.1
    · split at h
      · exact (withAuthority_path h).imp fun _ hp => hp.1
      · cases h
        exact ⟨_, rfl⟩
      · cases h
        rcases hw with rfl | rfl <;> exact absurd rfl hs
  · cases h

/-! ## The joined path -/

/-- A path is followed from the directory of the base. -/
theorem join_directory {base : Url} {place : List String} (h : base.path = .segments (place ++ [""]))
    (path : String) : base.join path = .ok (build base.scheme base.authority
      (.segments (follow (base.scheme = "file") place
        (segmentsOf (isSpecial base.scheme) (Parts.of (clean path)).body))) (Parts.of (clean path))) := by
  have habove : above (place ++ [""]) = place := by
    rw [above, List.getLast?_concat]
    exact List.dropLast_concat
  rw [join, h]
  simp only [habove, List.dropLast_concat, ite_self]

end Url
end EventTally
