import EventTally.Proofs.Characters
import EventTally.Proofs.Fetching
import EventTally.Proofs.Selection

/-! Which servers can be asked for events. A path can be joined to an address whose own path is a list of
segments; then the requests for events lie below it. Any address that can be read is accepted, also one
that nothing can be joined to: then the feed asks for its first list for ever. -/

namespace EventTally

/-! ## Forms -/

namespace Percent

/-- The name and the value of a piece of a form. A value that is not there is the empty text. -/
def readPair? (piece : List Char) : Option (String × String) :=
  let (name, value) := Url.cutAt '=' piece
  do return (← decodeForm? (String.ofList name), ← decodeForm? (String.ofList (value.getD [])))

/-- The names and the values of a form, whose empty pieces do not count. -/
def readForm? (form : String) : Option (List (String × String)) :=
  ((form.toList.splitOn '&').filter (· ≠ [])).mapM readPair?

def pairText (pair : String × String) : String := encodeForm pair.1 ++ "=" ++ encodeForm pair.2

theorem decodeForm?_encodeForm (s : String) : decodeForm? (encodeForm s) = some s := by
  rw [decodeForm?, decode_encodeForm, Utf8.decode?_encode]

/-- What divides a form is written as an escape. -/
theorem mark_not_mem_encodeForm {c : Char} (hc : c = '&' ∨ c = '=') (s : String) :
    c ∉ (encodeForm s).toList := by
  have hbyte : ∀ b, '&' ∉ encodeFormByte b ∧ '=' ∉ encodeFormByte b := forall_byte (by decide +kernel)
  rw [encodeForm, String.toList_ofList, List.mem_flatMap]
  rintro ⟨b, -, hm⟩
  rcases hc with rfl | rfl
  · exact (hbyte b).1 hm
  · exact (hbyte b).2 hm

theorem readPair?_pairText (pair : String × String) : readPair? (pairText pair).toList = some pair := by
  have hcut : Url.cutAt '=' (pairText pair).toList =
      ((encodeForm pair.1).toList, some (encodeForm pair.2).toList) := by
    have htext : (pairText pair).toList =
        (encodeForm pair.1).toList ++ '=' :: (encodeForm pair.2).toList := by
      simp [pairText]
    rw [htext, Url.cutAt_append (mark_not_mem_encodeForm (.inr rfl) _)]
  simp only [readPair?, hcut, Option.getD_some, String.ofList_toList, decodeForm?_encodeForm]
  rfl

/-- The pairs that a form was written from are read back. -/
theorem readForm?_write (pairs : List (String × String)) :
    readForm? ("&".intercalate (pairs.map pairText)) = some pairs := by
  have hpairs : (pairs.map fun p => (pairText p).toList).mapM readPair? = some pairs := by
    rw [List.mapM_map]
    simp only [Function.comp_def, readPair?_pairText]
    exact List.mapM_pure.trans (congrArg some (List.map_id _))
  rcases eq_or_ne pairs [] with rfl | hne
  · rfl
  · have hmark : ∀ l ∈ pairs.map fun p => (pairText p).toList, '&' ∉ l := by
      intro l hl
      obtain ⟨p, -, rfl⟩ := List.mem_map.1 hl
      simp [pairText, mark_not_mem_encodeForm]
    have hfilled : ∀ l ∈ pairs.map fun p => (pairText p).toList, decide (l ≠ []) = true := by
      intro l hl
      obtain ⟨p, -, rfl⟩ := List.mem_map.1 hl
      simp [pairText]
    rw [readForm?, String.toList_intercalate, List.map_map]
    change ((['&'].intercalate (pairs.map fun p => (pairText p).toList)).splitOn '&' |>.filter
      (· ≠ [])).mapM readPair? = _
    rw [List.splitOn_intercalate '&' hmark (by simpa using hne), List.filter_eq_self.2 hfilled, hpairs]

end Percent

/-! ## Addresses that are read -/

namespace Url

/-- The scheme is one whose addresses have hosts, or a slash follows its colon. -/
def IsHierarchical (text : String) : Prop :=
  ∃ scheme rest, scheme? (clean text) = some (scheme, rest) ∧ (isSpecial scheme ∨ rest.head? = some '/')

theorem head?_body (cs : List Char) : (Parts.of cs).body.head? = some '/' ↔ cs.head? = some '/' := by
  rcases cs with _ | ⟨c, cs⟩
  · exact Iff.rfl
  · simp only [Parts.of, cutAt, List.head?_takeWhile, List.head?_cons, Option.filter_eq_some_iff]
    grind

/-- The path of an address is a list of segments if and only if the address is hierarchical. -/
theorem path_of_read {text : String} {u : Url} (h : read text = .ok u) :
    (IsHierarchical text ∧ ∃ segments, u.path = .segments segments ∧ Slashless segments) ∨
      (¬ IsHierarchical text ∧ ∃ t, u.path = .text t) := by
  unfold read at h
  split at h
  · rename_i scheme rest hscheme
    have hiff : IsHierarchical text ↔ isSpecial scheme ∨ rest.head? = some '/' := by
      simp [IsHierarchical, hscheme]
    rw [hiff, ← head?_body]
    unfold ofScheme at h
    simp only at h
    split_ifs at h with hf hs
    · exact .inl ⟨.inl (hf ▸ by decide), ofFile_path h⟩
    · exact .inl ⟨.inl hs, withAuthority_path h⟩
    · split at h
      · rename_i hbody
        exact .inl ⟨.inr (by rw [hbody]; rfl), withAuthority_path h⟩
      · rename_i hbody
        cases h
        exact .inl ⟨.inr (by rw [hbody]; rfl), _, rfl, slashless_rootPath _ _⟩
      · rename_i hslash
        cases h
        refine .inr ⟨fun hn => ?_, _, rfl⟩
        obtain ⟨rest', hbody⟩ := List.head?_eq_some_iff.1 (hn.resolve_left hs)
        exact hslash rest' hbody
  · cases h

/-- A path with a slash behind it, if there is none. -/
def slashed (path : String) : String := if path.toList.getLast? = some '/' then path else path ++ "/"

theorem getLast?_write {segments : List String} (h : Slashless segments) :
    (UrlPath.segments segments).write.toList.getLast? = some '/' ↔ segments.getLast? = some "" := by
  rcases List.eq_nil_or_concat segments with rfl | ⟨init, last, rfl⟩
  · simp [UrlPath.write]
  · have hlast : '/' ∉ last.toList := h last (by simp)
    have hone : (UrlPath.segments [last]).write = "/" ++ last := by simp [UrlPath.write]
    rw [List.concat_eq_append, write_append, hone, List.getLast?_concat, String.toList_append,
      String.toList_append, Option.some.injEq]
    cases hl : last.toList.getLast? with
    | none =>
      obtain rfl : last = "" := String.toList_eq_nil_iff.1 (List.getLast?_eq_none_iff.1 hl)
      simp
    | some c =>
      have hne : c ≠ '/' := by
        rintro rfl
        exact hlast (List.mem_of_getLast? hl)
      have hfull : last ≠ "" := by
        rintro rfl
        cases hl
      have hbehind : ('/' :: last.toList).getLast? = some c := by
        rw [List.getLast?_cons, hl]
        rfl
      simp [List.getLast?_append, hbehind, hne, hfull]

/-- The path of a directory is the place that is written with a slash. -/
theorem exists_directory {segments : List String} (h : Slashless segments) :
    ∃ place, (UrlPath.segments segments).asDirectory = .segments (place ++ [""]) ∧
      (UrlPath.segments place).write ++ "/" = slashed (UrlPath.segments segments).write := by
  by_cases hl : segments.getLast? = some ""
  · obtain ⟨place, rfl⟩ := List.getLast?_eq_some_iff.1 hl
    refine ⟨place, if_pos hl, ?_⟩
    rw [slashed, if_pos ((getLast?_write h).2 hl), write_append]
    rfl
  · refine ⟨segments, if_neg hl, ?_⟩
    rw [slashed, if_neg fun hs => hl ((getLast?_write h).1 hs)]

end Url

/-! ## The path of events -/

namespace Client

variable {namespace_ : Option String}

def eventsSegments : Option String → List String
  | some namespace_ => ["api", "v1", "namespaces", namespace_, "events"]
  | none => ["api", "v1", "events"]

theorem eventsPath_eq (n : String) : eventsPath (some n) = "api/v1/namespaces/" ++ n ++ "/events" := rfl

theorem toList_eventsPath (n : String) : (eventsPath (some n)).toList =
    "api".toList ++ '/' :: ("v1".toList ++ '/' :: ("namespaces".toList ++ '/' ::
      (n.toList ++ '/' :: "events".toList))) := by
  simp [eventsPath_eq]

theorem write_eventsSegments (namespace_ : Option String) :
    (UrlPath.segments (eventsSegments namespace_)).write = "/" ++ eventsPath namespace_ := by
  cases namespace_ with
  | none => decide +kernel
  | some n =>
    rw [← String.toList_inj]
    simp [eventsSegments, eventsPath_eq, UrlPath.write]

/-- Names of namespaces bring no characters that mean something in an address. -/
theorem char_eventsPath (h : ∀ n ∈ namespace_, isDnsName n) :
    ∀ c ∈ (eventsPath namespace_).toList, c = '/' ∨ isDnsChar c := by
  have hfixed : ∀ s ∈ ["api/v1/events", "api/v1/namespaces/", "/events"], ∀ c ∈ s.toList,
      c = '/' ∨ isDnsChar c := by
    have hall : ["api/v1/events", "api/v1/namespaces/", "/events"].all fun s =>
        s.toList.all fun c => c = '/' || isDnsChar c := by decide +kernel
    simpa only [List.all_eq_true, Bool.or_eq_true, decide_eq_true_eq] using hall
  cases namespace_ with
  | none => exact hfixed _ List.mem_cons_self
  | some n =>
    intro c hc
    rw [eventsPath_eq, String.toList_append, String.toList_append, List.mem_append, List.mem_append] at hc
    rcases hc with (hc | hc) | hc
    · exact hfixed _ (by simp) c hc
    · exact .inr (isDnsChar_of_mem (h n rfl) hc)
    · exact hfixed _ (by simp) c hc

theorem parts_eventsPath (h : ∀ n ∈ namespace_, isDnsName n) :
    Url.Parts.of (Url.clean (eventsPath namespace_)) = ⟨(eventsPath namespace_).toList, none, none⟩ := by
  have hchar : ∀ c ∈ (eventsPath namespace_).toList, Url.isLost c = false ∧ Url.isOuter c = false := by
    intro c hc
    rcases char_eventsPath h c hc with rfl | hd
    · decide
    · obtain ⟨-, -, -, -, hlost, houter⟩ := plain_of_isDnsChar hd
      exact ⟨hlost, houter⟩
  refine Url.parts_of_plain (fun c hc => (hchar c hc).1) ?_ ?_
  · rw [Option.all_eq_true]
    exact fun c hc => by rw [(hchar c (List.mem_of_mem_head? hc)).2]; rfl
  · rw [Option.all_eq_true]
    exact fun c hc => by rw [(hchar c (List.mem_of_getLast? hc)).2]; rfl

theorem segmentsOf_eventsPath (h : ∀ n ∈ namespace_, isDnsName n) (special : Bool) :
    Url.segmentsOf special (eventsPath namespace_).toList = eventsSegments namespace_ := by
  cases namespace_ with
  | none => cases special <;> decide +kernel
  | some n =>
    have hslash : Url.isSeparator special '/' := rfl
    have hname : n.toList.splitOnP (Url.isSeparator special) = [n.toList] := by
      refine List.splitOnP_eq_singleton fun c hc => ?_
      have hsep := (plain_of_isDnsChar (isDnsChar_of_mem (h n rfl) hc)).2.2.2.1
      simp only [Url.isSeparator, Bool.or_eq_false_iff, Bool.true_and] at hsep
      simp [Url.isSeparator, hsep.1, hsep.2]
    have hsplit : (eventsPath (some n)).toList.splitOnP (Url.isSeparator special) =
        ["api".toList, "v1".toList, "namespaces".toList, n.toList, "events".toList] := by
      rw [toList_eventsPath, List.splitOnP_append_cons _ _ hslash, List.splitOnP_append_cons _ _ hslash,
        List.splitOnP_append_cons _ _ hslash, List.splitOnP_append_cons _ _ hslash, hname]
      cases special <;> rfl
    rw [Url.segmentsOf, hsplit, List.map_cons, List.map_cons, List.map_cons, List.map_cons,
      encode_of_isDnsName (h n rfl)]
    rfl

/-- The segments are taken as they are, also in a place that may hold a drive. -/
theorem still_eventsSegments (h : ∀ n ∈ namespace_, isDnsName n) :
    ∀ s ∈ eventsSegments namespace_, Url.isStep s = false ∧ Url.isDrive s = false := by
  have hfixed : ∀ s ∈ ["api", "v1", "namespaces", "events"],
      Url.isStep s = false ∧ Url.isDrive s = false := by decide +kernel
  cases namespace_ with
  | none => decide +kernel
  | some n =>
    have hstep : Url.isStep n = false := by
      have hplain := (isPlain_of_isDnsName (h n rfl)).not_isStep
      rwa [encode_of_isDnsName (h n rfl)] at hplain
    have hdrive : Url.isDrive n = false := by
      have hmark : ∀ c ∈ n.toList, c ≠ ':' ∧ c ≠ '|' := fun c hc => by
        have hd := isDnsChar_of_mem (h n rfl) hc
        constructor <;> (rintro rfl; exact absurd hd (by decide))
      unfold Url.isDrive
      split
      · rename_i c mark hn
        have hm := hmark mark (by simp [hn])
        simp [hm]
      · rfl
    simp only [eventsSegments, List.forall_mem_cons] at hfixed ⊢
    obtain ⟨hapi, hv1, hnamespaces, hevents⟩ := hfixed
    exact ⟨hapi, hv1, hnamespaces, ⟨hstep, hdrive⟩, hevents⟩

/-! ## Requests for events -/

/-- The address asks the server for events, below the path of the server. -/
structure AsksEvents (server : Url) (namespace_ : Option String) (u : Url) : Prop where
  scheme : u.scheme = server.scheme
  authority : u.authority = server.authority
  path : u.path.write = Url.slashed server.path.write ++ eventsPath namespace_
  fragment : u.fragment = none

/-- There is a request for each list, without a query, and one for each watch, whose query is a form that
holds the version. -/
def ReachesEvents (c : Client) (server : Url) : Prop :=
  ∀ namespace_ : Option String, (∀ n ∈ namespace_, isDnsName n) → ∀ version, ∃ l w,
    c.listRequest namespace_ = .ok l ∧ c.watchRequest namespace_ version = .ok w ∧
      AsksEvents server namespace_ l.url ∧ l.url.query = none ∧
      AsksEvents server namespace_ w.url ∧
      w.url.query.bind Percent.readForm? =
        some [("watch", "true"), ("resourceVersion", version), ("allowWatchBookmarks", "true")]

section

variable {c : Client} {server : Url}

theorem base_of_ofAccess {a : ClusterAccess} (h : ofAccess a = .ok c) : c.base = a.server.asDirectory := by
  unfold ofAccess at h
  split_ifs at h
  cases h
  rfl

theorem exists_request {place : List String} (h : c.base.path = .segments (place ++ [""]))
    (namespace_ : Option String) (cursor : Cursor) : ∃ r, cursor.request c namespace_ = .ok r := by
  have hlist : ∃ r, c.listRequest namespace_ = .ok r := by
    rw [listRequest, request, url, Url.join_directory h]
    exact ⟨_, rfl⟩
  obtain ⟨r, hr⟩ := hlist
  cases cursor with
  | list => exact ⟨r, hr⟩
  | watch version =>
    change ∃ w, (c.listRequest namespace_).map _ = .ok w
    rw [hr]
    exact ⟨_, rfl⟩

theorem request_of_text {t : String} (h : c.base.path = .text t) (namespace_ : Option String)
    (cursor : Cursor) :
    cursor.request c namespace_ = .error (.invalidServer c.base.write .baseIsText) := by
  have hlist : c.listRequest namespace_ = .error (.invalidServer c.base.write .baseIsText) := by
    rw [listRequest, request, url, Url.join, h]
    rfl
  cases cursor with
  | list => exact hlist
  | watch version =>
    change (c.listRequest namespace_).map _ = _
    rw [hlist]
    rfl

theorem reachesEvents_of_segments {segments : List String} (hbase : c.base = server.asDirectory)
    (hp : server.path = .segments segments) (hs : Url.Slashless segments) : c.ReachesEvents server := by
  obtain ⟨place, hplace, hwrite⟩ := Url.exists_directory hs
  have hdirectory : c.base.path = .segments (place ++ [""]) := by rw [hbase, Url.asDirectory, hp, hplace]
  intro namespace_ hn version
  obtain ⟨u, hu, hasks, hquery⟩ : ∃ u, c.base.join (eventsPath namespace_) = .ok u ∧
      AsksEvents server namespace_ u ∧ u.query = none := by
    refine ⟨_, Url.join_directory hdirectory _, ⟨by rw [hbase]; rfl, by rw [hbase]; rfl, ?_, ?_⟩, ?_⟩
    · have hstill := still_eventsSegments hn
      rw [parts_eventsPath hn, segmentsOf_eventsPath hn, Url.build,
        Url.follow_of_still (fun s hs => (hstill s hs).1) (fun _ s hs => (hstill s hs).2),
        Url.write_append, write_eventsSegments, ← String.append_assoc, hwrite, hp]
    · rw [parts_eventsPath hn]
      rfl
    · rw [parts_eventsPath hn]
      rfl
  have hlist : c.listRequest namespace_ = .ok ⟨u, c.token⟩ := by
    rw [listRequest, request, url, hu]
    rfl
  have hwatch : c.watchRequest namespace_ version = .ok ⟨u.addPairs (watchQuery version), c.token⟩ := by
    change (c.listRequest namespace_).map _ = _
    rw [hlist]
    rfl
  refine ⟨_, _, hlist, hwatch, hasks, hquery, ⟨hasks.scheme, hasks.authority, hasks.path, hasks.fragment⟩, ?_⟩
  have hwritten : (u.addPairs (watchQuery version)).query =
      some ("&".intercalate ((watchQuery version).map Percent.pairText)) := by
    rw [Url.addPairs, hquery]
    rfl
  rw [hwritten, Option.bind_some, Percent.readForm?_write, watchQuery]

/-! ## Requests that are not sent -/

theorem token_error {source : TokenSource} {files : Files} {e : ClusterError}
    (h : source.token.outcome files = .error e) : e.isFatal = false := by
  cases source with
  | fixed token => cases h
  | file path =>
    rw [TokenSource.token, ClusterLookup.outcome_bind] at h
    cases ht : (ClusterLookup.text path).outcome files with
    | error e' =>
      rw [ht] at h
      cases h
      obtain ⟨fault, -, rfl⟩ := mapError_eq_error.1 ht
      rfl
    | ok text =>
      rw [ht] at h
      cases h

theorem tokens_error {source? : Option TokenSource} {files : Files} {e : ClusterError}
    (h : (source?.mapM TokenSource.token).outcome files = .error e) : e.isFatal = false := by
  cases source? with
  | none => cases h
  | some source =>
    change (source.token >>= fun token => pure (some token)).outcome files = _ at h
    rw [ClusterLookup.outcome_bind] at h
    cases ht : source.token.outcome files with
    | error e' =>
      rw [ht] at h
      cases h
      exact token_error ht
    | ok token =>
      rw [ht] at h
      cases h

/-- What keeps a request from being sent is not fatal. -/
theorem message_error {r : Request} {files : Files} {e : ClusterError}
    (h : r.message.outcome files = .error e) : e.isFatal = false := by
  rw [Request.message, ClusterLookup.outcome_bind] at h
  cases ht : (r.token.mapM TokenSource.token).outcome files with
  | error e' =>
    rw [ht] at h
    cases h
    exact tokens_error ht
  | ok token =>
    simp only [ht, bind, Except.bind] at h
    split at h <;> cases h
    rfl

/-- No message is sent to an address that is not one of the web. -/
theorem message_of_unreachable {r : Request} (hr : r.url.isReachable = false) (files : Files) :
    ∃ e, r.message.outcome files = .error e := by
  rw [Request.message, ClusterLookup.outcome_bind]
  cases (r.token.mapM TokenSource.token).outcome files with
  | error e => exact ⟨e, rfl⟩
  | ok token =>
    simp only [hr, Bool.false_and, Bool.false_eq_true, if_false]
    exact ⟨_, rfl⟩

/-- The message that is sent for a list of the events. -/
def listMessage (c : Client) (namespace_ : Option String) (files : Files) : Except ClusterError Message :=
  (c.listRequest namespace_).bind fun r => r.message.outcome files

/-- No list is sent to a server that nothing can be joined to, or that is not one of the web. -/
theorem listMessage_unsent
    (h : (∃ t, c.base.path = .text t) ∨ ¬ (c.base.scheme = "http" ∨ c.base.scheme = "https"))
    (namespace_ : Option String) (files : Files) :
    ∃ e, c.listMessage namespace_ files = .error e ∧ e.isFatal = false := by
  cases hp : c.base.path with
  | text t =>
    refine ⟨.invalidServer c.base.write .baseIsText, ?_, rfl⟩
    change (Cursor.list.request c namespace_).bind _ = _
    rw [request_of_text hp]
    rfl
  | segments l =>
    have hscheme := h.resolve_left (by simp [hp])
    obtain ⟨r, hr, hsame⟩ : ∃ r, c.listRequest namespace_ = .ok r ∧ r.url.scheme = c.base.scheme := by
      rw [listRequest, request, url, Url.join, hp]
      exact ⟨_, rfl, rfl⟩
    have hfar : r.url.isReachable = false := by
      rw [Url.isReachable, hsame]
      simp_all
    obtain ⟨e, he⟩ := message_of_unreachable hfar files
    rw [listMessage, hr]
    exact ⟨e, he, message_error he⟩

/-- What comes back of a list, where the network gives an answer to each message that is sent. -/
def attempt (c : Client) (namespace_ : Option String) (files : Files) (network : Message → Reached) :
    Reached := (c.listMessage namespace_ files).bind network

end

end Client

/-- Errors that are not fatal leave the feed where it starts. -/
theorem Feed.run_of_errors {answers : List Reached}
    (h : ∀ a ∈ answers, ∃ e, a = .error e ∧ e.isFatal = false) : (run answers).cursor = .ok .list := by
  have hstep : ∀ f : Feed, f.cursor = .ok .list → (answers.foldl step f).cursor = .ok .list := by
    induction answers with
    | nil => exact fun f hf => hf
    | cons a answers ih =>
      obtain ⟨⟨e, rfl, he⟩, hanswers⟩ := List.forall_mem_cons.1 h
      intro f hf
      refine ih hanswers _ ?_
      rw [step_ok hf]
      change ((Cursor.list).again e).next = _
      rw [Cursor.again_next, he]
      rfl
  exact hstep {} rfl

namespace Client

/-- Any address that can be read is accepted, but the events of its server have addresses if and only if it
is hierarchical. Else no request can be made, and the feed asks for its first list for ever without
sending anything; as it does for a hierarchical address that is not one of the web. -/
theorem reachesEvents_iff {text : String} {a : ClusterAccess} (hread : Url.read text = .ok a.server)
    {c : Client} (hc : ofAccess a = .ok c) :
    (c.ReachesEvents a.server ↔ Url.IsHierarchical text) ∧
    (Url.IsHierarchical text → ∀ namespace_ cursor, ∃ r, Cursor.request c namespace_ cursor = .ok r) ∧
    (¬ Url.IsHierarchical text → ∀ namespace_ cursor,
      Cursor.request c namespace_ cursor = .error (.invalidServer c.base.write .baseIsText)) ∧
    (¬ (Url.IsHierarchical text ∧ (a.server.scheme = "http" ∨ a.server.scheme = "https")) →
      ∀ namespace_, (∀ files, ∃ e, c.listMessage namespace_ files = .error e) ∧
        ∀ attempts : List (Files × (Message → Reached)),
          (Feed.run (attempts.map fun x => c.attempt namespace_ x.1 x.2)).cursor = .ok .list) := by
  have hbase := base_of_ofAccess hc
  have hscheme : c.base.scheme = a.server.scheme := by rw [hbase]; rfl
  have hunsent : (∃ t, c.base.path = .text t) ∨ ¬ (c.base.scheme = "http" ∨ c.base.scheme = "https") →
      ∀ namespace_, (∀ files, ∃ e, c.listMessage namespace_ files = .error e) ∧
        ∀ attempts : List (Files × (Message → Reached)),
          (Feed.run (attempts.map fun x => c.attempt namespace_ x.1 x.2)).cursor = .ok .list := by
    intro h namespace_
    refine ⟨fun files => ?_, fun attempts => Feed.run_of_errors fun reached hm => ?_⟩
    · obtain ⟨e, he, -⟩ := listMessage_unsent h namespace_ files
      exact ⟨e, he⟩
    · obtain ⟨x, -, rfl⟩ := List.mem_map.1 hm
      obtain ⟨e, he, hfatal⟩ := listMessage_unsent h namespace_ x.1
      exact ⟨e, by rw [attempt, he]; rfl, hfatal⟩
  rcases Url.path_of_read hread with ⟨hh, segments, hp, hs⟩ | ⟨hh, t, hp⟩
  · obtain ⟨place, hplace⟩ := Url.asDirectory_path hp
    rw [← hbase] at hplace
    refine ⟨iff_of_true (reachesEvents_of_segments hbase hp hs) hh, fun _ => exists_request hplace,
      fun hn => absurd hh hn, fun hweb => hunsent (.inr fun hw => hweb ⟨hh, ?_⟩)⟩
    rwa [← hscheme]
  · obtain ⟨t', htext⟩ : ∃ t', c.base.path = .text t' := by
      rw [hbase, Url.asDirectory, hp, UrlPath.asDirectory]
      split_ifs <;> exact ⟨_, rfl⟩
    refine ⟨iff_of_false (fun hr => ?_) hh, fun h => absurd h hh, fun _ => request_of_text htext,
      fun _ => hunsent (.inl ⟨t', htext⟩)⟩
    obtain ⟨l, -, hl, -⟩ := hr none (by simp) ""
    have herror := request_of_text htext none .list
    change c.listRequest none = _ at herror
    rw [hl] at herror
    cases herror

/-- A server behind a prefix. -/
theorem localServer_reached :
    ∃ c, ofAccess { server := localServer } = .ok c ∧ c.ReachesEvents localServer := by
  have hh : Url.IsHierarchical "https://[::1]:6443/k8s" :=
    ⟨"https", "//[::1]:6443/k8s".toList, by decide +kernel, .inl (by decide)⟩
  exact ⟨_, rfl, (reachesEvents_iff read_localServer (a := { server := localServer }) rfl).1.2 hh⟩

/-- A host with its port, but without a scheme, is read as an address of another kind. -/
theorem hostWithPort_unreached :
    ∃ server c, readServer "localhost:6443" = .ok server ∧ ofAccess { server } = .ok c ∧
      c.listRequest none = .error (.invalidServer "localhost:6443/" .baseIsText) ∧
      (ClusterError.invalidServer "localhost:6443/" .baseIsText).isFatal = false ∧
      ¬ c.ReachesEvents server := by
  have hread : readServer "localhost:6443" =
      .ok { scheme := "localhost", authority := none, path := .text "6443" } := by decide +kernel
  have hlist : listRequest { base := { scheme := "localhost", authority := none, path := .text "6443/" } }
      none = .error (.invalidServer "localhost:6443/" .baseIsText) := by decide +kernel
  refine ⟨_, { base := { scheme := "localhost", authority := none, path := .text "6443/" } }, hread,
    by decide +kernel, hlist, rfl, fun hr => ?_⟩
  obtain ⟨l, -, hl, -⟩ := hr none (by simp) ""
  rw [hlist] at hl
  cases hl

end Client
end EventTally
