import EventTally.Proofs.Faithful
import EventTally.Proofs.Lookup

/-! What the feed asks for next. It asks for a list at its start, behind a list that failed, and behind a
watch whose version the server no longer has. Else it asks for a watch from the last version that was
brought since the latest list. The request itself tells which of the two it is, and from where. -/

namespace EventTally

/-! ## Requests tell what they ask for -/

namespace Client

/-- The query of a watch up to its version. -/
def watchFront (u : Url) : String :=
  ((u.query.filter (· ≠ "")).elim "" (· ++ "&")) ++ "watch=true&resourceVersion="

theorem query_watch (u : Url) (version : String) :
    (u.addPairs (watchQuery version)).query =
      some (watchFront u ++ (Percent.encodeForm version ++ "&allowWatchBookmarks=true")) := by
  have hwatch : Percent.encodeForm "watch" ++ "=" ++ Percent.encodeForm "true" = "watch=true" := by
    decide +kernel
  have hversion : Percent.encodeForm "resourceVersion" ++ "=" = "resourceVersion=" := by decide +kernel
  have hmarks : Percent.encodeForm "allowWatchBookmarks" ++ "=" ++ Percent.encodeForm "true" =
      "allowWatchBookmarks=true" := by decide +kernel
  unfold Url.addPairs watchQuery watchFront
  simp only [List.map_cons, List.map_nil, hwatch, hversion, hmarks]
  cases u.query.filter (· ≠ "") with
  | none => simp [← String.toList_inj]
  | some q => simp [← String.toList_inj]

theorem length_query_lt (u : Url) : (u.query.getD "").length < (watchFront u).length := by
  have hfront : "watch=true&resourceVersion=".length = 27 := rfl
  unfold watchFront
  cases u.query with
  | none => simp [hfront]
  | some q =>
    by_cases hq : q = ""
    · simp [hq, hfront]
    · simp only [ne_eq, decide_not, Option.filter_some, hq, decide_false, Bool.not_false, if_true,
        Option.elim_some, Option.getD_some, String.length_append, hfront]
      omega

/-- A watch has a longer query than the list of the same events. -/
theorem addPairs_watchQuery_ne (u : Url) (version : String) : u.addPairs (watchQuery version) ≠ u := by
  intro h
  have hq := query_watch u version
  have hlt := length_query_lt u
  rw [h] at hq
  rw [hq, Option.getD_some, String.length_append] at hlt
  omega

theorem addPairs_watchQuery_inj {u : Url} {version version' : String}
    (h : u.addPairs (watchQuery version) = u.addPairs (watchQuery version')) : version = version' := by
  have hq := congrArg Url.query h
  rw [query_watch, query_watch, Option.some.injEq] at hq
  apply Percent.encodeForm_injective
  exact String.append_left_inj _ |>.1 (String.append_right_inj _ |>.1 hq)

variable {c : Client} {namespace_ : Option String} {r : Request}

theorem watchRequest_ok {version : String} (h : c.watchRequest namespace_ version = .ok r) :
    ∃ l, c.listRequest namespace_ = .ok l ∧
      r = { l with url := l.url.addPairs (watchQuery version) } := by
  unfold watchRequest at h
  change (c.listRequest namespace_).map _ = _ at h
  cases hl : c.listRequest namespace_ with
  | error e => rw [hl] at h; cases h
  | ok l =>
    rw [hl] at h
    cases h
    exact ⟨l, rfl, rfl⟩

/-- No request is one for a list and one for a watch. -/
theorem listRequest_ne {version : String} (h : c.watchRequest namespace_ version = .ok r) :
    c.listRequest namespace_ ≠ .ok r := by
  intro hl
  obtain ⟨l, hl', hr⟩ := watchRequest_ok h
  rw [hl, Except.ok.injEq] at hl'
  subst hl'
  exact addPairs_watchQuery_ne r.url version (congrArg Request.url hr).symm

/-- A request for a watch is one from a single version. -/
theorem watchRequest_inj {version version' : String} (h : c.watchRequest namespace_ version = .ok r)
    (h' : c.watchRequest namespace_ version' = .ok r) : version = version' := by
  obtain ⟨l, hl, hr⟩ := watchRequest_ok h
  obtain ⟨l', hl', hr'⟩ := watchRequest_ok h'
  rw [hl, Except.ok.injEq] at hl'
  subst hl'
  exact addPairs_watchQuery_inj (congrArg Request.url (hr.symm.trans hr'))

end Client

/-! ## One answer -/

/-- The list of events that an answer brings. -/
def listed? : Reached → Option EventList
  | .ok r =>
    if r.isSuccess then (r.body?.bind Json.ofBytes?).bind EventList.ofDocument? else none
  | .error _ => none

/-- What counts of the lines of a watch: those up to the first failure. -/
def processed : Reached → List Change
  | .ok r => if r.isSuccess then beforeFailure (reports r.chunks.flatten) else []
  | .error _ => []

/-- The server no longer has the version: it says so with its status, or in the line of a failure. -/
def expires : Reached → Bool
  | .ok r => r.status = goneStatus || (reportedFailure? r).any (·.code = goneStatus)
  | .error (.refused status _) => status = goneStatus
  | .error _ => false

/-- Behind this exchange the events are to be listed. -/
def Relists : Cursor × Reached → Prop
  | (.list, a) => listed? a = none ∧ denial? .list a = none
  | (.watch _, a) => expires a

/-- The last version that is not empty among the changes of these answers, or else the version of the
list. -/
def resumedVersion (l : EventList) (answers : List Reached) : String :=
  (((answers.flatMap processed).map Change.version).filter (· ≠ "")).getLastD l.metadata.resourceVersion

theorem lastVersion_eq (version : String) (cs : List Change) :
    lastVersion version cs = ((cs.map Change.version).filter (· ≠ "")).getLastD version := by
  induction cs generalizing version with
  | nil => rfl
  | cons c cs ih =>
    rw [lastVersion_cons, ih, List.map_cons]
    by_cases hc : c.version = ""
    · rw [if_pos hc, List.filter_cons_of_neg (by simp [hc])]
    · rw [if_neg hc, List.filter_cons_of_pos (by simp [hc]), List.getLastD_cons]

theorem lastVersion_append (version : String) (cs ds : List Change) :
    lastVersion version (cs ++ ds) = lastVersion (lastVersion version cs) ds := by
  simp [lastVersion, List.foldl_append]

theorem resumedVersion_eq (l : EventList) (answers : List Reached) :
    resumedVersion l answers = lastVersion l.metadata.resourceVersion (answers.flatMap processed) :=
  (lastVersion_eq _ _).symm

theorem resumedVersion_concat (l : EventList) (answers : List Reached) (a : Reached) :
    resumedVersion l (answers ++ [a]) = lastVersion (resumedVersion l answers) (processed a) := by
  rw [resumedVersion_eq, resumedVersion_eq, List.flatMap_append, lastVersion_append,
    List.flatMap_singleton]

namespace Cursor

theorem step_list_next {a : Reached} (h : denial? .list a = none) :
    (list.step a).next = .ok ((listed? a).elim list fun l => watch l.metadata.resourceVersion) := by
  cases a with
  | error e =>
    have he : e.isFatal = false := by simpa [denial?] using h
    change (again list e).next = _
    rw [again_next, he]
    rfl
  | ok r =>
    rw [step_list_ok, listed?]
    by_cases hs : r.isSuccess
    · rw [if_pos hs, if_pos hs]
      cases (r.body?.bind Json.ofBytes?).bind EventList.ofDocument? <;> rfl
    · have hd : isDenied r.status = false := by simpa [denial?] using h
      rw [if_neg hs, if_neg hs, again_next, isFatal_iff, hd]
      rfl

theorem step_watch_next {version : String} {a : Reached} (h : denial? (.watch version) a = none) :
    ((watch version).step a).next =
      .ok (if expires a then list else watch (lastVersion version (processed a))) := by
  cases a with
  | error e =>
    have he : e.isFatal = false := by simpa [denial?] using h
    cases e with
    | refused status message =>
      rw [step]
      simp only [Except.bind, expires]
      by_cases hg : status = goneStatus
      · simp [hg]
      · simp only [hg, decide_false, if_false, again_next, he]
        rfl
    | _ => rfl
  | ok r =>
    have hd : isDenied r.status = false := by
      cases hd : isDenied r.status with
      | false => rfl
      | true => simp [denial?, hd] at h
    by_cases hs : r.isSuccess
    · have hg : r.status ≠ goneStatus := by
        intro hg
        simp [Response.isSuccess, hg, goneStatus] at hs
      rw [(step_watch_success version hs).2]
      simp only [expires, processed, if_pos hs, hg, decide_false, Bool.false_or]
      cases hr : reportedFailure? r with
      | none => rfl
      | some s =>
        have hsd : isDenied s.code = false := by simpa [denial?, hd, hr] using h
        by_cases hgone : s.code = goneStatus
        · simp [hgone]
        · simp [hgone, hsd]
    · rw [step_watch_refused version (Bool.eq_false_iff.2 hs)]
      simp only [expires, processed, if_neg hs, reportedFailure?, Option.any_none, Bool.or_false]
      by_cases hg : r.status = goneStatus
      · simp [hg]
      · simp only [hg, decide_false, if_false, again_next, isFatal_iff, hd]
        rfl

theorem denial?_of_next {cursor next : Cursor} {a : Reached} (h : (cursor.step a).next = .ok next) :
    denial? cursor a = none := by
  refine Option.eq_none_iff_forall_ne_some.2 fun e he => ?_
  rw [← step_next, h] at he
  cases he

/-- The next request is one for a list exactly behind an exchange that calls for it. -/
theorem step_next_list {cursor next : Cursor} {a : Reached} (h : (cursor.step a).next = .ok next) :
    next = list ↔ Relists (cursor, a) := by
  have hd := denial?_of_next h
  cases cursor with
  | list =>
    rw [step_list_next hd, Except.ok.injEq] at h
    rw [← h]
    cases hl : listed? a <;> simp [Relists, hl, hd]
  | watch version =>
    rw [step_watch_next hd, Except.ok.injEq] at h
    rw [← h]
    cases he : expires a <;> simp [Relists, he]

end Cursor

/-! ## All answers -/

namespace Feed

open Client (localClient localServer)

theorem exchanges_concat (f : Feed) (answers : List Reached) (a : Reached) :
    f.exchanges (answers ++ [a]) =
      f.exchanges answers ++ ((answers.foldl step f).cursor.toOption.map (·, a)).toList := by
  induction answers generalizing f with
  | nil =>
    cases h : f.cursor with
    | error e => simp [exchanges, h, Except.toOption]
    | ok cursor => simp [exchanges, h, Except.toOption]
  | cons b rest ih =>
    cases h : f.cursor with
    | error e =>
      rw [List.cons_append, exchanges_ended h, exchanges_ended h, foldl_step_ended h, h]
      rfl
    | ok cursor =>
      rw [List.cons_append, exchanges_ok h, exchanges_ok h, ih]
      rfl

theorem history_concat {answers : List Reached} {cursor : Cursor}
    (h : (run answers).cursor = .ok cursor) (a : Reached) :
    history (answers ++ [a]) = history answers ++ [(cursor, a)] := by
  have hc := exchanges_concat {} answers a
  change _ = _ ++ ((run answers).cursor.toOption.map _).toList at hc
  rw [h] at hc
  exact hc

/-- A feed that goes on went on before its last answer. -/
theorem run_concat {answers : List Reached} {a : Reached} {next : Cursor}
    (h : (run (answers ++ [a])).cursor = .ok next) :
    ∃ cursor, (run answers).cursor = .ok cursor ∧ (cursor.step a).next = .ok next := by
  have hrun : run (answers ++ [a]) = (run answers).step a := by simp [run, List.foldl_append]
  rw [hrun] at h
  cases hc : (run answers).cursor with
  | error e =>
    rw [step, hc] at h
    simp only [hc] at h
    cases h
  | ok cursor =>
    rw [step_ok hc] at h
    exact ⟨cursor, rfl, h⟩

theorem run_cursor_list {answers : List Reached} {cursor : Cursor}
    (h : (run answers).cursor = .ok cursor) : cursor = .list ↔
      history answers = [] ∨ ∃ before x, history answers = before ++ [x] ∧ Relists x := by
  induction answers using List.reverseRecOn with
  | nil =>
    obtain rfl : Cursor.list = cursor := by simpa [run] using h
    exact iff_of_true rfl (.inl rfl)
  | append_singleton answers a =>
    obtain ⟨last, hlast, hnext⟩ := run_concat h
    rw [Cursor.step_next_list hnext, history_concat hlast]
    simp

/-- A watch that is asked for goes on from what came since the latest list. -/
theorem run_cursor_watch {answers : List Reached} {version : String}
    (h : (run answers).cursor = .ok (.watch version)) :
    ∃ before a l after, history answers = before ++ (.list, a) :: after ∧ listed? a = some l ∧
      (∀ x ∈ after, x.1 ≠ .list) ∧ version = resumedVersion l (after.map Prod.snd) := by
  induction answers using List.reverseRecOn generalizing version with
  | nil => simp [run] at h
  | append_singleton answers a ih =>
    obtain ⟨last, hlast, hnext⟩ := run_concat h
    have hd := Cursor.denial?_of_next hnext
    rw [history_concat hlast]
    cases last with
    | list =>
      rw [Cursor.step_list_next hd, Except.ok.injEq] at hnext
      cases hl : listed? a with
      | none => simp [hl] at hnext
      | some l =>
        obtain rfl : l.metadata.resourceVersion = version := by simpa [hl] using hnext
        exact ⟨history answers, a, l, [], rfl, hl, by simp, rfl⟩
    | watch earlier =>
      obtain ⟨before, b, l, after, hh, hl, hw, rfl⟩ := ih hlast
      rw [Cursor.step_watch_next hd, Except.ok.injEq] at hnext
      cases he : expires a with
      | true => simp [he] at hnext
      | false =>
        simp only [he, Bool.false_eq_true, if_false, Cursor.watch.injEq] at hnext
        let last : Cursor × Reached := (.watch (resumedVersion l (after.map Prod.snd)), a)
        refine ⟨before, b, l, after ++ [last], by rw [hh]; simp [last], hl, ?_, ?_⟩
        · intro x hx
          rcases List.mem_append.1 hx with hx | hx
          · exact hw x hx
          · rw [List.mem_singleton.1 hx]
            simp [last]
        · rw [← hnext, List.map_append, List.map_singleton, resumedVersion_concat]

/-- The request that the feed makes next, unless it has ended. -/
def request? (f : Feed) (c : Client) (namespace_ : Option String) :
    Option (Except ClusterError Request) :=
  f.cursor.toOption.map (·.request c namespace_)

theorem request?_ok {f : Feed} {c : Client} {namespace_ : Option String} {r : Request}
    (h : f.request? c namespace_ = some (.ok r)) :
    ∃ cursor, f.cursor = .ok cursor ∧ cursor.request c namespace_ = .ok r := by
  unfold request? at h
  cases hc : f.cursor with
  | error e =>
    rw [hc] at h
    cases h
  | ok cursor =>
    rw [hc] at h
    exact ⟨cursor, rfl, Option.some.inj h⟩

/-- Every request is one for a list exactly when it is the first, or behind a list that failed, or behind
a watch whose version the server no longer has. Every other request is one for a watch, and for no other
than the one from the last version that was brought since the latest list. -/
theorem asks_next {c : Client} {namespace_ : Option String} {answers : List Reached} {r : Request}
    (h : (run answers).request? c namespace_ = some (.ok r)) :
    (c.listRequest namespace_ = .ok r ↔
        history answers = [] ∨ ∃ before x, history answers = before ++ [x] ∧ Relists x) ∧
      (c.listRequest namespace_ ≠ .ok r →
        ∃ before a l after, history answers = before ++ (.list, a) :: after ∧ listed? a = some l ∧
          (∀ x ∈ after, x.1 ≠ .list) ∧
          ∀ version, c.watchRequest namespace_ version = .ok r ↔
            version = resumedVersion l (after.map Prod.snd)) := by
  obtain ⟨cursor, hc, hr⟩ := request?_ok h
  have hiff := run_cursor_list hc
  cases cursor with
  | list => exact ⟨iff_of_true hr (hiff.1 rfl), fun hne => absurd hr hne⟩
  | watch version =>
    refine ⟨iff_of_false (Client.listRequest_ne hr) fun hl => ?_, fun _ => ?_⟩
    · cases hiff.2 hl
    · obtain ⟨before, a, l, after, hh, hl, hw, rfl⟩ := run_cursor_watch hc
      refine ⟨before, a, l, after, hh, hl, hw, fun version => ⟨fun hv => ?_, ?_⟩⟩
      · exact Client.watchRequest_inj hv hr
      · rintro rfl
        exact hr

/-- No answer to the first list, then a list, a watch that breaks off in its second line, and no answer to
the next watch. -/
def brokenAnswers : List Reached := [.error .noAnswer, .ok shortList, .ok brokenWatch, .error .noAnswer]

theorem brokenAnswers_resumed :
    ∃ r, localClient.watchRequest none "8" = .ok r ∧
      (run brokenAnswers).request? localClient none = some (.ok r) ∧
      ∃ before a l after, history brokenAnswers = before ++ (.list, a) :: after ∧ listed? a = some l ∧
        "8" = resumedVersion l (after.map Prod.snd) := by
  have hcursor : (run brokenAnswers).cursor = .ok (.watch "8") := by decide +kernel
  have hjoin : localClient.base.join (Client.eventsPath none) =
      .ok { localServer with path := .segments ["k8s", "api", "v1", "events"] } := by decide +kernel
  obtain ⟨r, hr⟩ : ∃ r, localClient.watchRequest none "8" = .ok r := by
    rw [Client.watchRequest, Client.request, Client.url, hjoin]
    exact ⟨_, rfl⟩
  have hrequest : (run brokenAnswers).request? localClient none = some (.ok r) := by
    rw [request?, hcursor, ← hr]
    rfl
  obtain ⟨before, a, l, after, hh, hl, -, hversion⟩ := (asks_next hrequest).2 (Client.listRequest_ne hr)
  exact ⟨r, hr, hrequest, before, a, l, after, hh, hl, (hversion "8").1 hr⟩

end Feed
end EventTally
