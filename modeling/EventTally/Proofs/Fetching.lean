import EventTally.Proofs.Delivery
import EventTally.Proofs.Encoding
import EventTally.Proofs.Lookup

/-! Looking pods up over the network. A server that has the pods of a directory, each at its own path,
stands for the directory: rules give the same through the client, and the server sees their lookups. -/

namespace EventTally

/-! ## Names -/

/-- A label of a DNS name: small letters, digits and dashes, no dash at either end. -/
def isDnsLabel (cs : List Char) : Bool :=
  !cs.isEmpty && cs.all (fun c => c.isLower || c.isDigit || c == '-') && cs.head? != some '-' &&
    cs.getLast? != some '-'

/-- A DNS name as RFC 1123 has it, of any length: labels with dots between them. -/
def isDnsName (s : String) : Bool := (s.toList.splitOn '.').all isDnsLabel

def PodName.isDns (pod : PodName) : Bool := isDnsName pod.namespace_ && isDnsName pod.name

def isDnsChar (c : Char) : Bool := c.isLower || c.isDigit || c == '-' || c == '.'

theorem mem_intercalate {x c : Char} {ls : List (List Char)} (h : c ∈ [x].intercalate ls) :
    c = x ∨ ∃ l ∈ ls, c ∈ l := by
  induction ls with
  | nil => simp [List.intercalate] at h
  | cons l ls ih =>
    cases ls with
    | nil =>
      simp [List.intercalate] at h
      exact .inr ⟨l, by simp, h⟩
    | cons l' ls =>
      have hsplit : [x].intercalate (l :: l' :: ls) = l ++ x :: [x].intercalate (l' :: ls) := by
        simp [List.intercalate]
      rw [hsplit, List.mem_append, List.mem_cons] at h
      rcases h with h | h | h
      · exact .inr ⟨l, by simp, h⟩
      · exact .inl h
      · rcases ih h with h | ⟨l'', hl, hc⟩
        · exact .inl h
        · exact .inr ⟨l'', List.mem_cons_of_mem _ hl, hc⟩

theorem isDnsChar_of_mem {s : String} (h : isDnsName s) {c : Char} (hc : c ∈ s.toList) : isDnsChar c := by
  have hjoin : ['.'].intercalate (s.toList.splitOn '.') = s.toList := List.intercalate_splitOn '.'
  rw [← hjoin] at hc
  rcases mem_intercalate hc with rfl | ⟨label, hl, hm⟩
  · rfl
  · have hlabel := List.all_eq_true.1 h label hl
    simp only [isDnsLabel, Bool.and_eq_true, List.all_eq_true] at hlabel
    have hchar := hlabel.1.1.2 c hm
    rw [isDnsChar, hchar, Bool.true_or]

/-- Characters of names mean nothing else in an address. -/
theorem plain_of_isDnsChar {c : Char} (h : isDnsChar c) : c.toNat < 0x80 ∧ c ≠ '%' ∧
    Percent.isKept Percent.pathSet c ∧ Url.isSeparator true c = false ∧ Url.isLost c = false ∧
    Url.isOuter c = false := by
  have hascii : c.toNat < 0x80 := by
    simp only [isDnsChar, Char.isLower, Char.isDigit, Bool.or_eq_true, Bool.and_eq_true,
      decide_eq_true_eq, beq_iff_eq, UInt32.le_iff_toNat_le] at h
    rcases h with ((⟨-, hle⟩ | ⟨-, hle⟩) | rfl) | rfl
    · exact Nat.lt_of_le_of_lt hle (by decide)
    · exact Nat.lt_of_le_of_lt hle (by decide)
    · decide
    · decide
  have hplain : ∀ c : Char, c.toNat < 0x80 → isDnsChar c → c ≠ '%' ∧
      Percent.isKept Percent.pathSet c ∧ Url.isSeparator true c = false ∧ Url.isLost c = false ∧
      Url.isOuter c = false := Utf8.forall_ascii (by decide +kernel)
  exact ⟨hascii, hplain c hascii h⟩

theorem encode_of_isDnsName {s : String} (h : isDnsName s) :
    Percent.encode Percent.pathSet s.toList = s := by
  have hkept : ∀ c ∈ s.toList, Percent.encodeChar Percent.pathSet c = [c] := fun c hc =>
    Percent.encodeChar_kept (plain_of_isDnsChar (isDnsChar_of_mem h hc)).2.2.1
  have hflat : s.toList.flatMap (Percent.encodeChar Percent.pathSet) = s.toList := by
    rw [List.flatMap_congr hkept, List.flatMap_singleton']
  rw [Percent.encode, hflat, String.ofList_toList]

theorem isPlain_of_isDnsName {s : String} (h : isDnsName s) : Url.IsPlain s := by
  have hchar := fun c hc => plain_of_isDnsChar (isDnsChar_of_mem (c := c) h hc)
  refine ⟨fun c hc => ⟨(hchar c hc).2.2.2.1, (hchar c hc).2.2.2.2.1⟩, ⟨?_, ?_⟩, ?_⟩
  · rintro rfl
    exact absurd h (by decide +kernel)
  · rintro rfl
    exact absurd h (by decide +kernel)
  · have hraw : ∀ b ∈ Utf8.encode s, b ≠ 37 := by
      intro b hb
      rw [Utf8.encode_eq, Utf8.bytesOf, List.mem_flatMap] at hb
      obtain ⟨c, hc, hb⟩ := hb
      obtain ⟨hascii, hpercent, -⟩ := hchar c hc
      rw [Utf8.utf8EncodeChar_ascii hascii, List.mem_singleton] at hb
      rintro rfl
      have hsign : ∀ c : Char, c.toNat < 0x80 → 37 = UInt8.ofNat c.toNat → c = '%' :=
        Utf8.forall_ascii (by decide +kernel)
      exact hpercent (hsign c hascii hb)
    have hdecode := Percent.decode_raw hraw []
    rwa [List.append_nil, Percent.decode, List.append_nil] at hdecode

theorem PodName.isPlain_of_isDns {pod : PodName} (h : pod.isDns) : pod.IsPlain := by
  simp only [isDns, Bool.and_eq_true] at h
  refine ⟨isPlain_of_isDnsName h.1, isPlain_of_isDnsName h.2, ?_⟩
  cases hl : pod.name.toList.getLast? with
  | none => rfl
  | some c =>
    have hc := plain_of_isDnsChar (isDnsChar_of_mem h.2 (List.mem_of_getLast? hl))
    simp [hc]

/-! ## The server of a directory -/

/-- The directory of some pods, in which any other pod is missing. -/
def Directory.ofList (pods : List (PodName × Pod)) : Directory := fun pod =>
  (pods.lookup pod).elim (.error (.notFound pod)) .ok

namespace Client

/-- The answer of a server that has the pods, each at its path below the base: the text of the pod that is
asked for, or a refusal with any complaint. -/
structure Serves (base : Url) (pods : List (PodName × Pod)) (r : Request) (answer : Reached) : Prop where
  found : ∀ pod p, pods.lookup pod = some p → r.url.target = base.path.write ++ podPath pod →
    ∃ response, answer = .ok response ∧ response.status = 200 ∧
      response.body? = some (Utf8.encode p.toJson.render)
  missing : (∀ e ∈ pods, r.url.target ≠ base.path.write ++ podPath e.1) →
    ∃ response, answer = .ok response ∧ response.status = 404

theorem podPath_injective_of_isDns {pod pod' : PodName} (h : pod.isDns) (h' : pod'.isDns)
    (he : podPath pod = podPath pod') : pod = pod' := by
  have hslash : ∀ s, isDnsName s → '/' ∉ s.toList := by
    intro s hs hm
    exact absurd (isDnsChar_of_mem hs hm) (by decide)
  simp only [PodName.isDns, Bool.and_eq_true] at h h'
  exact Url.podPath_injective ⟨hslash _ h.1, hslash _ h.2⟩ ⟨hslash _ h'.1, hslash _ h'.2⟩ he

section

variable {c : Client} {place : List String} {pods : List (PodName × Pod)} {pod : PodName}

/-- The request for a pod with a DNS name, which asks for its path as it is. -/
theorem exists_podRequest (hb : c.base.IsDirectory place) (h : pod.isDns) :
    ∃ r, c.podRequest pod = .ok r ∧ r.url.target = c.base.path.write ++ podPath pod := by
  obtain ⟨u, hj⟩ : ∃ u, c.base.join (podPath pod) = .ok u := ⟨_, Url.join_eq hb _⟩
  obtain ⟨hpath, hquery⟩ := Url.write_of_plain (PodName.isPlain_of_isDns h) hb hj
  refine ⟨⟨u, c.token⟩, ?_, ?_⟩
  · rw [podRequest, request, url, hj]
    rfl
  · simp only [PodName.isDns, Bool.and_eq_true] at h
    rw [Url.target, hpath, hquery, encode_of_isDnsName h.1, encode_of_isDnsName h.2]
    simp

theorem runState_fetchPod {r : Request} (h : c.podRequest pod = .ok r) {σ : Type}
    (answer : Request → σ → Reached × σ) (s : σ) : (c.fetchPod pod).runState answer s =
      (((answer r s).1.bind (Response.decode Pod.ofDocument?)).mapError (lookupError pod), (answer r s).2) := by
  rw [fetchPod, getPod, h]
  rfl

/-- What the server answers is what the directory gives. -/
theorem known_of_serves (hnames : ∀ e ∈ pods, e.1.isDns)
    (hfits : ∀ e ∈ pods, IsInt64 e.2.metadata.generation) (h : pod.isDns) {r : Request}
    (ht : r.url.target = c.base.path.write ++ podPath pod) {answer : Reached}
    (ha : Serves c.base pods r answer) :
    (answer.bind (Response.decode Pod.ofDocument?)).mapError (lookupError pod) =
      Directory.ofList pods pod := by
  cases hl : pods.lookup pod with
  | none =>
    have hmissing : ∀ e ∈ pods, r.url.target ≠ c.base.path.write ++ podPath e.1 := by
      intro e he heq
      rw [ht, String.append_right_inj] at heq
      have hname := podPath_injective_of_isDns h (hnames e he) heq
      have hne := List.lookup_eq_none_iff.1 hl e he
      simp [hname] at hne
    obtain ⟨response, rfl, hstatus⟩ := ha.missing hmissing
    have hrefused : response.isSuccess = false := by simp [Response.isSuccess, hstatus]
    have hdecode : (Except.ok response : Reached).bind (Response.decode Pod.ofDocument?) =
        .error (.refused 404 response.complaint) := by
      rw [← hstatus]
      exact decode_refused hrefused _
    rw [hdecode, Directory.ofList, hl]
    rfl
  | some p =>
    obtain ⟨response, rfl, hstatus, hbody⟩ := ha.found pod p hl ht
    have hsuccess : response.isSuccess := by simp [Response.isSuccess, hstatus]
    have hp : IsInt64 p.metadata.generation := by
      obtain ⟨before, after, hpods, -⟩ := List.lookup_eq_some_iff.1 hl
      exact hfits (pod, p) (by simp [hpods])
    have hdecode : (Except.ok response : Reached).bind (Response.decode Pod.ofDocument?) = .ok p := by
      change response.decode Pod.ofDocument? = _
      rw [decode_success hsuccess, hbody, Option.bind_some, Pod.read_render hp]
    rw [hdecode, Directory.ofList, hl]
    rfl

end

/-- A server that has the pods. -/
def serve (base : Url) (pods : List (PodName × Pod)) (complaint : Bytes) (r : Request) : Reached :=
  match pods.find? fun e => r.url.target = base.path.write ++ podPath e.1 with
  | some e => .ok { status := 200, chunks := [Utf8.encode e.2.toJson.render] }
  | none => .ok { status := 404, chunks := [complaint] }

theorem serves_serve {pods : List (PodName × Pod)} (hnames : ∀ e ∈ pods, e.1.isDns) (base : Url)
    (complaint : Bytes) (r : Request) : Serves base pods r (serve base pods complaint r) := by
  constructor
  · intro pod p hl ht
    obtain ⟨before, after, rfl, hbefore⟩ := List.lookup_eq_some_iff.1 hl
    have hfind : (before ++ (pod, p) :: after).find? (fun e =>
        r.url.target = base.path.write ++ podPath e.1) = some (pod, p) := by
      rw [List.find?_eq_some_iff_append]
      refine ⟨by simp [ht], before, after, rfl, ?_⟩
      intro e he
      have hne := hbefore e he
      rw [Bool.not_eq_true', decide_eq_false_iff_not, ht, String.append_right_inj]
      intro heq
      have hname := podPath_injective_of_isDns (hnames (pod, p) (by simp)) (hnames e (by simp [he])) heq
      simp [← hname] at hne
    rw [serve, hfind]
    exact ⟨_, rfl, rfl, by simp [Response.body?]⟩
  · intro hmissing
    have hfind : pods.find? (fun e => r.url.target = base.path.write ++ podPath e.1) = none := by
      rw [List.find?_eq_none]
      intro e he
      simpa using hmissing e he
    rw [serve, hfind]
    exact ⟨_, rfl, rfl⟩

/-- A call of the client gives what the dialogue gives on the directory, whatever state the server is in,
and the server sees the lookups of the dialogue, each as the request for the path of its pod. -/
def Mirrors (c : Client) (known : Directory) {σ α : Type} (answer : Request → σ → Reached × σ)
    (call : ApiCall α) (d : Lookup α) : Prop :=
  ∀ s, ∃ s' requests, call.runState (Dialogue.recorded answer) (s, []) = (d.run known, s', requests) ∧
    List.Forall₂ (fun pod r => c.podRequest pod = .ok r ∧
      r.url.target = c.base.path.write ++ podPath pod) (d.questions known) requests

theorem mirrors_of_only {c : Client} {place : List String} {pods : List (PodName × Pod)} {event : Event}
    (hb : c.base.IsDirectory place) (hnames : ∀ e ∈ pods, e.1.isDns)
    (hfits : ∀ e ∈ pods, IsInt64 e.2.metadata.generation)
    (hevent : PodName.isDns ⟨event.involvedObject.namespace_, event.involvedObject.name⟩) {σ α : Type}
    {answer : Request → σ → Reached × σ} (hserver : ∀ r s, Serves c.base pods r (answer r s).1)
    {d : Lookup α} (hd : d.Only (Rule.Named event)) :
    c.Mirrors (Directory.ofList pods) answer (d.through c.fetchPod) d := by
  intro s
  have hfetch : ∀ pod, Rule.Named event pod → ∀ s log, ∃ s' r,
      (c.podRequest pod = .ok r ∧ r.url.target = c.base.path.write ++ podPath pod) ∧
      (c.fetchPod pod).runState (Dialogue.recorded answer) (s, log) =
        (Directory.ofList pods pod, s', log ++ [r]) := by
    rintro pod ⟨-, rfl⟩ s log
    obtain ⟨r, hr, ht⟩ := exists_podRequest hb hevent
    refine ⟨(answer r s).2, r, ⟨hr, ht⟩, ?_⟩
    rw [runState_fetchPod hr, Dialogue.recorded, known_of_serves hnames hfits hevent ht (hserver r s)]
  obtain ⟨s', requests, hasked, hrun⟩ := Dialogue.runState_through hd hfetch s []
  exact ⟨s', requests, hrun, hasked⟩

/-- Where a server has the pods of a directory, rules find on an event through the client what they find on
the directory, all together and each on its own, and the server sees the same lookups in the same order. -/
theorem evaluate_mirrors {text : String} {server : Url} (hread : Url.read text = .ok server)
    (hweb : server.scheme = "http" ∨ server.scheme = "https") {c : Client}
    (hbase : c.base = server.asDirectory) {pods : List (PodName × Pod)} (hnames : ∀ e ∈ pods, e.1.isDns)
    (hfits : ∀ e ∈ pods, IsInt64 e.2.metadata.generation) {event : Event}
    (hevent : PodName.isDns ⟨event.involvedObject.namespace_, event.involvedObject.name⟩) {σ : Type}
    {answer : Request → σ → Reached × σ} (hserver : ∀ r s, Serves c.base pods r (answer r s).1) :
    (∀ rules, c.Mirrors (Directory.ofList pods) answer (c.evaluate rules event)
      (Rule.evaluateAll event rules)) ∧
    ∀ r : Rule, c.Mirrors (Directory.ofList pods) answer ((r.evaluate event).through c.fetchPod)
      (r.evaluate event) := by
  obtain ⟨segments, hsegments⟩ := Url.exists_segments hread hweb
  obtain ⟨place, hplace⟩ := Url.asDirectory_path hsegments
  have hb : c.base.IsDirectory place := by
    refine ⟨by rw [hbase, hplace], ?_⟩
    rw [hbase]
    exact hweb
  constructor
  · intro rules
    exact mirrors_of_only hb hnames hfits hevent hserver (Rule.only_evaluateAll event rules)
  · intro r
    exact mirrors_of_only hb hnames hfits hevent hserver (Rule.only_evaluate event r)

/-- A pod on a node. -/
def onePod : List (PodName × Pod) := [(⟨"shop", "web-1"⟩, { spec := { nodeName := "a" } })]

/-- A server that has the pod and complains with the number of the request. -/
def oneServer (r : Request) (n : ℕ) : Reached × ℕ :=
  (serve localClient.base onePod (Utf8.encode (toString n)) r, n + 1)

def webEvent : Event := { involvedObject := { kind := "Pod", namespace_ := "shop", name := "web-1" } }

def onNode : Rule := ⟨"nodes_total", [], .ofList [("node", .related "Spec.NodeName")]⟩

theorem oneServer_mirrors : (∀ e ∈ onePod, e.1.isDns ∧ IsInt64 e.2.metadata.generation) ∧
    ∃ n requests, (localClient.evaluate [onNode] webEvent).runState (Dialogue.recorded oneServer) (0, []) =
      ([⟨"nodes_total", .ofList [("node", "a")]⟩], n, requests) ∧ requests.length = 1 := by
  have hnames : ∀ e ∈ onePod, e.1.isDns := by decide +kernel
  have hfits : ∀ e ∈ onePod, IsInt64 e.2.metadata.generation := by
    intro e he
    rw [onePod, List.mem_singleton] at he
    subst he
    exact ⟨by decide, by decide⟩
  have hmatches : (Rule.evaluateAll webEvent [onNode]).run (Directory.ofList onePod) =
      [⟨"nodes_total", .ofList [("node", "a")]⟩] := by decide +kernel
  have hlookups : ((Rule.evaluateAll webEvent [onNode]).questions (Directory.ofList onePod)).length = 1 := by
    decide +kernel
  have hevent : PodName.isDns ⟨webEvent.involvedObject.namespace_, webEvent.involvedObject.name⟩ := by
    decide +kernel
  have hserver : ∀ r n, Serves localClient.base onePod r (oneServer r n).1 := by
    intro r n
    exact serves_serve hnames localClient.base (Utf8.encode (toString n)) r
  obtain ⟨hall, -⟩ :=
    evaluate_mirrors read_localServer (.inr rfl) (rfl : localClient.base = _) hnames hfits hevent hserver
  obtain ⟨n, requests, hrun, hrequests⟩ := hall [onNode] 0
  refine ⟨fun e he => ⟨hnames e he, hfits e he⟩, n, requests, ?_, ?_⟩
  · rw [hrun, hmatches]
  · rw [← hrequests.length_eq, hlookups]

end Client
end EventTally
