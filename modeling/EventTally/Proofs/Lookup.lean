import EventTally.Api.Client
import EventTally.Proofs.Answering
import EventTally.Proofs.Joining

/-! What the lookup of a pod asks for. Names are put into the path as they are, so a lookup asks for
the pod that it names if and only if the names are plain: `Client.asks_iff`. -/

namespace EventTally

open Utf8 (bytesOf)

/-! ## The pod of an event -/

namespace Rule

/-- The pod that an event is about. -/
def Named (event : Event) (pod : PodName) : Prop :=
  event.involvedObject.kind = "Pod" ∧
    pod = ⟨event.involvedObject.namespace_, event.involvedObject.name⟩

theorem only_relatedPod (event : Event) : (relatedPod event).Only (Named event) := by
  unfold relatedPod
  split
  · rename_i hk
    exact .bind ⟨⟨hk, rfl⟩, fun _ => trivial⟩ fun _ => trivial
  · trivial

theorem only_labelValue (event : Event) (s : Submatches) (source : LabelSource) :
    (labelValue event s source).Only (Named event) := by
  cases source with
  | direct path => trivial
  | submatch key index => trivial
  | related path =>
    refine .bind (only_relatedPod event) fun found => ?_
    cases found <;> trivial

theorem only_labelValues (event : Event) (s : Submatches) (labels : List (String × LabelSource)) :
    (labelValues event s labels).Only (Named event) := by
  induction labels with
  | nil => trivial
  | cons label labels ih =>
    refine .bind (only_labelValue event s label.2) fun value => ?_
    cases value with
    | error e => trivial
    | ok value => exact .bind ih fun _ => trivial

theorem only_evaluate (event : Event) (r : Rule) : (r.evaluate event).Only (Named event) := by
  unfold evaluate
  split
  · trivial
  · exact .bind (only_labelValues event _ _) fun _ => trivial

theorem only_evaluateAll (event : Event) (rules : List Rule) :
    (evaluateAll event rules).Only (Named event) := by
  induction rules with
  | nil => trivial
  | cons r rules ih => exact .bind (only_evaluate event r) fun found => .bind ih fun _ => trivial

end Rule

/-! ## Plain names -/

/-- A text that is read as one segment, which decodes to it. -/
structure Url.IsPlain (s : String) : Prop where
  char : ∀ c ∈ s.toList, Url.isSeparator true c = false ∧ Url.isLost c = false
  step : s ≠ "." ∧ s ≠ ".."
  decoded : Percent.decode (Utf8.encode s) = Utf8.encode s

structure PodName.IsPlain (pod : PodName) : Prop where
  namespace_ : Url.IsPlain pod.namespace_
  name : Url.IsPlain pod.name
  /-- No blanks at the end of the path. -/
  last : pod.name.toList.getLast?.all (!Url.isOuter ·)

/-- The address asks for this pod, below the base: each name is one segment that decodes to it. -/
def Url.Asks (base u : Url) (pod : PodName) : Prop :=
  ∃ s t : String, '/' ∉ s.toList ∧ '/' ∉ t.toList ∧
    Percent.decode (Utf8.encode s) = Utf8.encode pod.namespace_ ∧
    Percent.decode (Utf8.encode t) = Utf8.encode pod.name ∧
    u.path.write = base.path.write ++ ("api/v1/namespaces/" ++ s ++ "/pods/" ++ t) ∧ u.query = none

/-! ## The path of a pod -/

namespace Client

theorem podPath_eq (pod : PodName) :
    podPath pod = "api/v1/namespaces/" ++ pod.namespace_ ++ "/pods/" ++ pod.name := rfl

theorem toList_podPath (pod : PodName) : (podPath pod).toList =
    "api".toList ++ '/' :: ("v1".toList ++ '/' :: ("namespaces".toList ++ '/' ::
      (pod.namespace_.toList ++ '/' :: ("pods".toList ++ '/' :: pod.name.toList)))) := by
  simp [podPath_eq]

theorem splitOnP_podPath (pod : PodName) : (podPath pod).toList.splitOnP (Url.isSeparator true) =
    ["api".toList, "v1".toList, "namespaces".toList] ++
      pod.namespace_.toList.splitOnP (Url.isSeparator true) ++
      "pods".toList :: pod.name.toList.splitOnP (Url.isSeparator true) := by
  have hslash : Url.isSeparator true '/' := rfl
  rw [toList_podPath, List.splitOnP_append_cons _ _ hslash, List.splitOnP_append_cons _ _ hslash,
    List.splitOnP_append_cons _ _ hslash, List.splitOnP_append_cons _ _ hslash,
    List.splitOnP_append_cons _ _ hslash]
  rfl

theorem encode_podPath (pod : PodName) : Utf8.encode (podPath pod) =
    Utf8.encode "api/v1/namespaces" ++ 47 :: (Utf8.encode pod.namespace_ ++
      47 :: (Utf8.encode "pods" ++ 47 :: Utf8.encode pod.name)) := by
  have h1 : Utf8.encode "api/v1/namespaces/" = Utf8.encode "api/v1/namespaces" ++ [47] := by
    decide +kernel
  have h2 : Utf8.encode "/pods/" = 47 :: Utf8.encode "pods" ++ [47] := by decide +kernel
  rw [podPath_eq, Utf8.encode_append, Utf8.encode_append, Utf8.encode_append, h1, h2]
  simp

/-- Each name in a path is decoded by itself. -/
theorem decode_podPath {s t : String} {pod : PodName}
    (hs : Percent.decode (Utf8.encode s) = Utf8.encode pod.namespace_)
    (ht : Percent.decode (Utf8.encode t) = Utf8.encode pod.name) :
    Percent.decode (Utf8.encode (podPath ⟨s, t⟩)) = Utf8.encode (podPath pod) := by
  have h1 : Percent.decode (Utf8.encode "api/v1/namespaces") = Utf8.encode "api/v1/namespaces" := by
    decide +kernel
  have h2 : Percent.decode (Utf8.encode "pods") = Utf8.encode "pods" := by decide +kernel
  rw [encode_podPath, encode_podPath, Percent.decode_append (by decide) (by decide),
    Percent.decode_append (by decide) (by decide), Percent.decode_append (by decide) (by decide),
    h1, h2, hs, ht]

end Client

namespace Url

/-- A web address whose path ends with a slash, behind this place. -/
structure IsDirectory (base : Url) (place : List String) : Prop where
  path : base.path = .segments (place ++ [""])
  web : base.scheme = "http" ∨ base.scheme = "https"

variable {base u : Url} {place : List String} {pod : PodName}

theorem join_eq (hb : base.IsDirectory place) (path : String) :
    base.join path = .ok (build base.scheme base.authority
      (.segments (follow false place (segmentsOf true (Parts.of (clean path)).body)))
      (Parts.of (clean path))) := by
  have hfile : base.scheme ≠ "file" := by rcases hb.web with h | h <;> rw [h] <;> decide
  have hspecial : isSpecial base.scheme = true := by rcases hb.web with h | h <;> rw [h] <;> decide
  rw [join_directory hb.path, hspecial, decide_eq_false hfile]

theorem write_directory (hb : base.IsDirectory place) :
    base.path.write = (UrlPath.segments place).write ++ "/" := by
  rw [hb.path]
  simp [UrlPath.write, String.join_append]

theorem write_append (segments segments' : List String) :
    (UrlPath.segments (segments ++ segments')).write =
      (UrlPath.segments segments).write ++ (UrlPath.segments segments').write := by
  simp [UrlPath.write, String.join_append]

/-! ## Plain names are asked for -/

theorem getLast?_podPath (pod : PodName) :
    (Client.podPath pod).toList.getLast? = pod.name.toList.getLast?.or (some '/') := by
  rw [Client.toList_podPath]
  simp [List.getLast?_append, List.getLast?_cons]

theorem parts_podPath (h : pod.IsPlain) :
    Parts.of (clean (Client.podPath pod)) = ⟨(Client.podPath pod).toList, none, none⟩ := by
  refine parts_of_plain (fun c hc => ?_) ?_ ?_
  · have h1 : "api/v1/namespaces/".toList.all (!isLost ·) := by decide +kernel
    have h2 : "/pods/".toList.all (!isLost ·) := by decide +kernel
    rw [Client.podPath_eq, String.toList_append, String.toList_append, String.toList_append,
      List.mem_append, List.mem_append, List.mem_append] at hc
    rcases hc with ((hc | hc) | hc) | hc
    · simpa using List.all_eq_true.1 h1 c hc
    · exact (h.namespace_.char c hc).2
    · simpa using List.all_eq_true.1 h2 c hc
    · exact (h.name.char c hc).2
  · simp [Client.toList_podPath, isOuter]
  · rw [getLast?_podPath]
    have hl := h.last
    cases hn : pod.name.toList.getLast? with
    | none => rfl
    | some c => rwa [hn] at hl

theorem IsPlain.splitOnP {s : String} (h : IsPlain s) :
    s.toList.splitOnP (isSeparator true) = [s.toList] :=
  List.splitOnP_eq_singleton fun c hc => (h.char c hc).1

theorem IsPlain.decode_encode {s : String} (h : IsPlain s) :
    Percent.decode (Utf8.encode (Percent.encode Percent.pathSet s.toList)) = Utf8.encode s := by
  rw [Percent.encode, Utf8.encode_ofList, Percent.decode_encode Percent.sparing_pathSet,
    ← Utf8.encode_eq, h.decoded]

theorem IsPlain.not_isStep {s : String} (h : IsPlain s) :
    isStep (Percent.encode Percent.pathSet s.toList) = false := by
  refine Bool.eq_false_iff.2 fun hs => ?_
  rcases decode_of_isStep hs with he | he
  · exact h.step.1 (Utf8.encode_injective (h.decode_encode.symm.trans he))
  · exact h.step.2 (Utf8.encode_injective (h.decode_encode.symm.trans he))

theorem IsPlain.slash_not_mem {s : String} (h : IsPlain s) :
    '/' ∉ (Percent.encode Percent.pathSet s.toList).toList :=
  Percent.slash_not_mem_encode fun hm => absurd (h.char _ hm).1 (by decide)

theorem segmentsOf_podPath (h : pod.IsPlain) :
    segmentsOf true (Client.podPath pod).toList =
      ["api", "v1", "namespaces", Percent.encode Percent.pathSet pod.namespace_.toList, "pods",
        Percent.encode Percent.pathSet pod.name.toList] := by
  rw [segmentsOf, Client.splitOnP_podPath, h.namespace_.splitOnP, h.name.splitOnP]
  rfl

/-- The address of a plain pod is its path below the base, with each name encoded. -/
theorem write_of_plain (h : pod.IsPlain) (hb : base.IsDirectory place)
    (hu : base.join (Client.podPath pod) = .ok u) :
    u.path.write = base.path.write ++ Client.podPath ⟨Percent.encode Percent.pathSet pod.namespace_.toList,
      Percent.encode Percent.pathSet pod.name.toList⟩ ∧ u.query = none := by
  rw [join_eq hb, parts_podPath h] at hu
  cases hu
  refine ⟨?_, rfl⟩
  have hfixed : ["api", "v1", "namespaces", "pods"].all (!isStep ·) := by decide +kernel
  have hplain : ∀ s ∈ segmentsOf true (Client.podPath pod).toList, isStep s = false := by
    rw [segmentsOf_podPath h]
    simpa [h.namespace_.not_isStep, h.name.not_isStep] using hfixed
  rw [follow_of_plain hplain, build, write_append, write_directory hb, segmentsOf_podPath h]
  simp only [UrlPath.write, List.map_cons, List.map_nil, String.join_cons, String.join_nil, Client.podPath_eq]
  rw [← String.toList_inj]
  simp

theorem asks_of_plain (h : pod.IsPlain) (hb : base.IsDirectory place)
    (hu : base.join (Client.podPath pod) = .ok u) : Asks base u pod := by
  obtain ⟨hw, hq⟩ := write_of_plain h hb hu
  exact ⟨_, _, h.namespace_.slash_not_mem, h.name.slash_not_mem, h.namespace_.decode_encode,
    h.name.decode_encode, hw, hq⟩

/-! ## What is asked for is plain -/

theorem weight_of_asks (hb : base.IsDirectory place) {segments : List String}
    (hu : u.path = .segments segments) (ha : Asks base u pod) :
    weight segments = weight place + 1 + (Utf8.encode (Client.podPath pod)).length := by
  obtain ⟨s, t, -, -, hs, ht, hw, -⟩ := ha
  have he : Utf8.encode (UrlPath.segments segments).write =
      Utf8.encode (UrlPath.segments place).write ++ 47 :: Utf8.encode (Client.podPath ⟨s, t⟩) := by
    rw [← hu, hw, write_directory hb, Utf8.encode_append, Utf8.encode_append, List.append_assoc]
    rfl
  rw [← length_decode_write, ← length_decode_write, he, Percent.decode_append (by decide) (by decide),
    Client.decode_podPath hs ht, List.length_append, List.length_cons]
  omega

/-- Of a path that is asked for, everything is read, nothing is followed and nothing is decoded. -/
theorem whole_of_asks (hb : base.IsDirectory place)
    (hu : base.join (Client.podPath pod) = .ok u) (ha : Asks base u pod) :
    (Parts.of (clean (Client.podPath pod))).body = (Client.podPath pod).toList ∧
      (∀ s ∈ segmentsOf true (Client.podPath pod).toList, isStep s = false) ∧
      ∀ p ∈ (Client.podPath pod).toList.splitOnP (isSeparator true),
        Percent.decode (bytesOf p) = bytesOf p := by
  rw [join_eq hb] at hu
  cases hu
  have hweight := weight_of_asks hb rfl ha
  have hfollow := weight_follow_le place (segmentsOf true (Parts.of (clean (Client.podPath pod))).body)
  have hpieces := weight_segmentsOf_le (Parts.of (clean (Client.podPath pod))).body
  have hsub : (bytesOf (Parts.of (clean (Client.podPath pod))).body).Sublist
      (bytesOf (Client.podPath pod).toList) :=
    ((body_sublist _).trans ((clean_sublist _).trans (trim_sublist _))).flatMap _
  have hle := hsub.length_le
  rw [Utf8.encode_eq] at hweight
  have hbody := Utf8.bytesOf_injective (hsub.eq_of_length (by omega))
  rw [hbody] at hweight hfollow hpieces
  refine ⟨hbody, fun s hs => ?_, fun p hm => ?_⟩
  · have hzero : (segmentsOf true (Client.podPath pod).toList).countP isStep = 0 := by omega
    exact Bool.eq_false_iff.2 (List.countP_eq_zero.1 hzero s hs)
  · have hzero : ((Client.podPath pod).toList.splitOnP (isSeparator true)).countP (fun p =>
        Percent.decode (bytesOf p) ≠ bytesOf p) = 0 := by omega
    simpa using List.countP_eq_zero.1 hzero p hm

theorem length_le_count_slash (segments : List String) :
    segments.length ≤ (UrlPath.segments segments).write.toList.count '/' := by
  induction segments with
  | nil => simp
  | cons s segments ih =>
    simp only [UrlPath.write, List.map_cons, String.join_cons, String.toList_append, List.count_append,
      List.length_cons] at ih ⊢
    have hone : "/".toList.count '/' = 1 := by decide
    omega

theorem count_slash_podPath {s t : String} (hs : '/' ∉ s.toList) (ht : '/' ∉ t.toList) :
    (Client.podPath ⟨s, t⟩).toList.count '/' = 5 := by
  rw [Client.toList_podPath]
  simp [List.count_append, List.count_eq_zero.2 hs, List.count_eq_zero.2 ht]

/-- There are no more segments than the base and the fixed parts of the path leave room for. -/
theorem no_separator_of_asks (hb : base.IsDirectory place)
    (hu : base.join (Client.podPath pod) = .ok u) (ha : Asks base u pod) :
    (∀ c ∈ pod.namespace_.toList, isSeparator true c = false) ∧
      ∀ c ∈ pod.name.toList, isSeparator true c = false := by
  obtain ⟨hbody, hsteps, -⟩ := whole_of_asks hb hu ha
  obtain ⟨s, t, hs, ht, -, -, hpath, -⟩ := ha
  rw [join_eq hb, hbody, follow_of_plain hsteps] at hu
  cases hu
  rw [build, write_append, write_directory hb, String.append_assoc] at hpath
  have hcount := length_le_count_slash (segmentsOf true (Client.podPath pod).toList)
  have hrest : (UrlPath.segments (segmentsOf true (Client.podPath pod).toList)).write =
      "/" ++ Client.podPath ⟨s, t⟩ := String.append_right_inj _ |>.1 hpath
  have hone : "/".toList.count '/' = 1 := by decide
  rw [hrest, String.toList_append, List.count_append, count_slash_podPath hs ht, segmentsOf,
    List.length_map, Client.splitOnP_podPath] at hcount
  simp only [List.length_append, List.length_cons, List.length_nil, length_splitOnP] at hcount
  have hns : pod.namespace_.toList.countP (isSeparator true) = 0 := by omega
  have hn : pod.name.toList.countP (isSeparator true) = 0 := by omega
  exact ⟨fun c hc => Bool.eq_false_iff.2 (List.countP_eq_zero.1 hns c hc),
    fun c hc => Bool.eq_false_iff.2 (List.countP_eq_zero.1 hn c hc)⟩

/-- A piece that is neither split nor changed on the way. -/
theorem isPlain_of_piece {s : String} (hsep : ∀ c ∈ s.toList, isSeparator true c = false)
    (hlost : ∀ c ∈ s.toList, isLost c = false)
    (hstep : isStep (Percent.encode Percent.pathSet s.toList) = false)
    (hdecoded : Percent.decode (bytesOf s.toList) = bytesOf s.toList) : IsPlain s := by
  refine ⟨fun c hc => ⟨hsep c hc, hlost c hc⟩, ⟨?_, ?_⟩, ?_⟩
  · rintro rfl
    exact absurd hstep (by decide +kernel)
  · rintro rfl
    exact absurd hstep (by decide +kernel)
  · rw [Utf8.encode_eq, hdecoded]

theorem plain_of_asks (hb : base.IsDirectory place)
    (hu : base.join (Client.podPath pod) = .ok u) (ha : Asks base u pod) : pod.IsPlain := by
  obtain ⟨hbody, hsteps, hdecoded⟩ := whole_of_asks hb hu ha
  obtain ⟨hchar, hlast⟩ := plain_of_body (by rw [hbody])
  obtain ⟨hns, hn⟩ := no_separator_of_asks hb hu ha
  rw [segmentsOf, Client.splitOnP_podPath, List.splitOnP_eq_singleton hns,
    List.splitOnP_eq_singleton hn] at hsteps
  rw [Client.splitOnP_podPath, List.splitOnP_eq_singleton hns, List.splitOnP_eq_singleton hn] at hdecoded
  rw [Client.toList_podPath] at hchar
  refine ⟨isPlain_of_piece hns (fun c hc => hchar c (by simp [hc])) (hsteps _ (by simp))
    (hdecoded _ (by simp)), isPlain_of_piece hn (fun c hc => hchar c (by simp [hc])) (hsteps _ (by simp))
    (hdecoded _ (by simp)), ?_⟩
  rw [getLast?_podPath] at hlast
  cases hl : pod.name.toList.getLast? with
  | none => rfl
  | some c => rwa [hl] at hlast

/-! ## Different pods -/

theorem splitOn_podPath {s t : String} (hs : '/' ∉ s.toList) (ht : '/' ∉ t.toList) :
    (Client.podPath ⟨s, t⟩).toList.splitOn '/' =
      ["api".toList, "v1".toList, "namespaces".toList, s.toList, "pods".toList, t.toList] := by
  rw [Client.toList_podPath, List.splitOn_append_cons_self_of_not_mem (by decide),
    List.splitOn_append_cons_self_of_not_mem (by decide),
    List.splitOn_append_cons_self_of_not_mem (by decide),
    List.splitOn_append_cons_self_of_not_mem hs, List.splitOn_append_cons_self_of_not_mem (by decide),
    List.splitOn_eq_singleton ht]

theorem podPath_injective {pod pod' : PodName}
    (h : '/' ∉ pod.namespace_.toList ∧ '/' ∉ pod.name.toList)
    (h' : '/' ∉ pod'.namespace_.toList ∧ '/' ∉ pod'.name.toList)
    (he : Client.podPath pod = Client.podPath pod') : pod = pod' := by
  have hpieces := splitOn_podPath h.1 h.2
  rw [show (⟨pod.namespace_, pod.name⟩ : PodName) = pod from rfl, he, splitOn_podPath h'.1 h'.2] at hpieces
  simp only [List.cons.injEq, String.toList_inj, true_and, and_true] at hpieces
  obtain ⟨namespace_, name⟩ := pod
  obtain ⟨namespace', name'⟩ := pod'
  obtain ⟨rfl, rfl⟩ := hpieces
  rfl

theorem Asks.eq_of_target {u' : Url} {pod' : PodName} (h : Asks base u pod)
    (h' : Asks base u' pod') (he : u.target = u'.target) : pod = pod' := by
  obtain ⟨s, t, hs, ht, hns, hn, hw, hq⟩ := h
  obtain ⟨s', t', hs', ht', hns', hn', hw', hq'⟩ := h'
  have hpath : Client.podPath ⟨s, t⟩ = Client.podPath ⟨s', t'⟩ := by
    simp only [Url.target, hw, hw', hq, hq', Option.elim_none, String.append_empty] at he
    exact String.append_right_inj _ |>.1 he
  cases podPath_injective ⟨hs, ht⟩ ⟨hs', ht'⟩ hpath
  obtain ⟨namespace_, name⟩ := pod
  obtain ⟨namespace', name'⟩ := pod'
  obtain rfl : namespace_ = namespace' := Utf8.encode_injective (hns.symm.trans hns')
  obtain rfl : name = name' := Utf8.encode_injective (hn.symm.trans hn')
  rfl

theorem asDirectory_path {server : Url} {segments : List String} (h : server.path = .segments segments) :
    ∃ place, server.asDirectory.path = .segments (place ++ [""]) := by
  have hp : server.asDirectory.path = (UrlPath.segments segments).asDirectory := by
    rw [asDirectory, h]
  rw [hp, UrlPath.asDirectory]
  split
  · rename_i hl
    obtain ⟨place, rfl⟩ := List.getLast?_eq_some_iff.1 hl
    exact ⟨place, rfl⟩
  · exact ⟨segments, rfl⟩

end Url

namespace Client

theorem questions_fetchPod {c : Client} {pod : PodName} {r : Request} (h : c.podRequest pod = .ok r)
    (answer : Request → Reached) : (c.fetchPod pod).questions answer = [r] := by
  rw [fetchPod, getPod, h]
  rfl

theorem only_fetchPod {c : Client} {pod : PodName} {r : Request} (h : c.podRequest pod = .ok r) :
    (c.fetchPod pod).Only fun r => c.podRequest pod = .ok r := by
  unfold fetchPod getPod
  refine .bind (.bind ?_ fun _ => trivial) fun _ => trivial
  simp only [h]
  exact ⟨rfl, fun _ => trivial⟩

/-- The lookups of an event ask for the pod that it is about, each with one request to the server. That
request asks below the base path for this pod if and only if its names are plain, and then no other
pod has the same target. -/
theorem asks_iff {text : String} {server : Url} (hread : Url.read text = .ok server)
    (hweb : server.scheme = "http" ∨ server.scheme = "https") {c : Client}
    (hbase : c.base = server.asDirectory) :
    (∀ rules event, (c.evaluate rules event).Only fun r =>
      ∃ pod, Rule.Named event pod ∧ c.podRequest pod = .ok r) ∧
      (∀ pod, ∃ r, c.podRequest pod = .ok r ∧
        (∀ answer, (c.fetchPod pod).questions answer = [r]) ∧ r.token = c.token ∧
        r.url.scheme = server.scheme ∧ r.url.authority = server.authority ∧
        (c.base.Asks r.url pod ↔ pod.IsPlain)) ∧
      ∀ pod pod' r r', pod.IsPlain → pod'.IsPlain → c.podRequest pod = .ok r →
        c.podRequest pod' = .ok r' → r.url.target = r'.url.target → pod = pod' := by
  obtain ⟨segments, hsegments⟩ := Url.exists_segments hread hweb
  obtain ⟨place, hplace⟩ := Url.asDirectory_path hsegments
  have hscheme : c.base.scheme = server.scheme := by rw [hbase]; rfl
  have hauthority : c.base.authority = server.authority := by rw [hbase]; rfl
  have hb : c.base.IsDirectory place := ⟨by rw [hbase, hplace], by rw [hscheme]; exact hweb⟩
  have hrequest : ∀ pod, ∃ u, c.base.join (podPath pod) = .ok u ∧
      c.podRequest pod = .ok ⟨u, c.token⟩ ∧ u.scheme = c.base.scheme ∧
      u.authority = c.base.authority := fun pod => by
    have hj := Url.join_eq hb (podPath pod)
    refine ⟨_, hj, ?_, rfl, rfl⟩
    rw [podRequest, request, url, hj]
    rfl
  have hiff : ∀ pod u, c.base.join (podPath pod) = .ok u → (c.base.Asks u pod ↔ pod.IsPlain) :=
    fun pod u hj => ⟨Url.plain_of_asks hb hj, fun hp => Url.asks_of_plain hp hb hj⟩
  refine ⟨fun rules event => ?_, fun pod => ?_, fun pod pod' r r' hp hp' hr hr' ht => ?_⟩
  · refine (Rule.only_evaluateAll event rules).through fun pod hn => ?_
    obtain ⟨u, -, hr, -⟩ := hrequest pod
    exact (only_fetchPod hr).imp fun r hr => ⟨pod, hn, hr⟩
  · obtain ⟨u, hj, hr, hs, ha⟩ := hrequest pod
    exact ⟨_, hr, questions_fetchPod hr, rfl, hs.trans hscheme, ha.trans hauthority, hiff pod u hj⟩
  · obtain ⟨u, hj, hu, -⟩ := hrequest pod
    obtain ⟨u', hj', hu', -⟩ := hrequest pod'
    rw [hu] at hr
    rw [hu'] at hr'
    cases hr
    cases hr'
    exact ((hiff pod u hj).2 hp).eq_of_target ((hiff pod' u' hj').2 hp') ht

def localServer : Url :=
  { scheme := "https", authority := some { host := .ipv6 [0, 0, 0, 0, 0, 0, 0, 1], port := some 6443 },
    path := .segments ["k8s"] }

theorem read_localServer : Url.read "https://[::1]:6443/k8s" = .ok localServer := by decide +kernel

def localClient : Client := { base := localServer.asDirectory }

theorem web_isPlain : PodName.IsPlain ⟨"shop", "web 1"⟩ := by
  have hchar : ∀ s ∈ ["shop", "web 1"], ∀ c ∈ s.toList,
      Url.isSeparator true c = false ∧ Url.isLost c = false := by
    simp [Url.isSeparator, Url.isLost, Url.isIgnored]
  exact ⟨⟨hchar _ (by simp), by decide, by decide +kernel⟩,
    ⟨hchar _ (by simp), by decide, by decide +kernel⟩, by decide +kernel⟩

theorem localClient_asks :
    ∃ r, localClient.podRequest ⟨"shop", "web 1"⟩ = .ok r ∧
      localClient.base.Asks r.url ⟨"shop", "web 1"⟩ := by
  obtain ⟨-, hrequest, -⟩ := asks_iff read_localServer (.inr rfl) (rfl : localClient.base = _)
  obtain ⟨r, hr, -, -, -, -, hiff⟩ := hrequest ⟨"shop", "web 1"⟩
  exact ⟨r, hr, hiff.2 web_isPlain⟩

def secret : Url :=
  { localServer with path := .segments ["k8s", "api", "v1", "namespaces", "shop", "secrets", "token"] }

/-- Names that are not plain ask for a secret, for a path that is not below the base, or for a pod of
another name. -/
theorem localClient_strays :
    (∃ r, localClient.podRequest ⟨"shop", "../secrets/token"⟩ = .ok r ∧
      r.url.target = "/k8s/api/v1/namespaces/shop/secrets/token" ∧
      ¬ localClient.base.Asks r.url ⟨"shop", "../secrets/token"⟩) ∧
      (localClient.podRequest ⟨"shop", "../../../../../../logs"⟩).map (·.url.target) = .ok "/logs" ∧
      (localClient.podRequest ⟨"shop", "web#1"⟩).map (·.url.target) =
        (localClient.podRequest ⟨"shop", "web"⟩).map (·.url.target) := by
  have hj : localClient.base.join (podPath ⟨"shop", "../secrets/token"⟩) = .ok secret := by
    decide +kernel
  refine ⟨⟨⟨secret, none⟩, ?_, by decide +kernel, fun ha => ?_⟩, by decide +kernel, by decide +kernel⟩
  · rw [podRequest, request, url, hj]
    rfl
  · have hb : localClient.base.IsDirectory ["k8s"] := ⟨rfl, .inr rfl⟩
    have hplain := Url.plain_of_asks hb hj ha
    exact absurd (hplain.name.char '/' (by decide)).1 (by decide)

end Client
end EventTally
