import EventTally.Proofs.Watching

/-! What the feed delivers and when it ends, told from the answers alone: from the bytes of a list, from
the lines of a watch up to the first failure, and from the first answer or line that denies access. -/

namespace EventTally

/-- The statuses of missing rights. -/
def isDenied (status : ℕ) : Bool := status = 401 || status = 403

/-- The changes that an answer brings. -/
def delivered : Cursor → Reached → List Change
  | _, .error _ => []
  | .list, .ok r =>
    if r.isSuccess then
      ((r.body?.bind Json.ofBytes?).bind EventList.ofDocument?).elim [] (·.items.map .added)
    else []
  | .watch _, .ok r =>
    if r.isSuccess then (beforeFailure (reports r.chunks.flatten)).filter Change.isEvent else []

/-- The failure that the lines of a watch report first. -/
def reportedFailure? (r : Response) : Option ApiStatus :=
  if r.isSuccess then (reports r.chunks.flatten).findSome? Change.failure? else none

/-- The error that denies access, if the answer holds one. -/
def denial? : Cursor → Reached → Option ClusterError
  | _, .error e => if e.isFatal then some e else none
  | cursor, .ok r =>
    if isDenied r.status then some (.refused r.status r.complaint)
    else
      match cursor with
      | .list => none
      | .watch _ => ((reportedFailure? r).filter (isDenied ·.code)).map fun s => .refused s.code s.message

/-- Answers that differ at most in how their bytes came. -/
inductive SameBytes : Reached → Reached → Prop
  | error (e : ClusterError) : SameBytes (.error e) (.error e)
  | ok {r r' : Response} (status : r.status = r'.status) (complete : r.isComplete = r'.isComplete)
      (bytes : r.chunks.flatten = r'.chunks.flatten) : SameBytes (.ok r) (.ok r')

namespace Feed

/-- The requests that the feed makes while answers last, each with its answer. -/
def exchanges (f : Feed) : List Reached → List (Cursor × Reached)
  | [] => []
  | a :: rest =>
    match f.cursor with
    | .ok cursor => (cursor, a) :: exchanges (f.step a) rest
    | .error _ => []

end Feed

/-! ## One answer -/

theorem isFatal_iff (status : ℕ) (message : String) :
    (ClusterError.refused status message).isFatal = isDenied status := rfl

theorem not_success_of_denied {r : Response} (h : isDenied r.status) : r.isSuccess = false := by
  simp only [isDenied, Bool.or_eq_true, decide_eq_true_eq] at h
  rcases h with h | h <;> simp [Response.isSuccess, h]

theorem check_success {r : Response} (h : r.isSuccess) : r.check = .ok r := by
  rw [Response.check, if_pos h]

theorem check_refused {r : Response} (h : r.isSuccess = false) :
    r.check = .error (.refused r.status r.complaint) := by
  rw [Response.check, if_neg (by simp [h])]

theorem decode_success {α : Type} {r : Response} (h : r.isSuccess) (read : Json → Option α) :
    r.decode read = match (r.body?.bind Json.ofBytes?).bind read with
      | some a => .ok a
      | none => if r.isComplete then .error .undecodable else .error .noAnswer := by
  rw [Response.decode, check_success h]
  cases hc : r.isComplete with
  | false => simp [Response.body?, hc, bind, Except.bind]
  | true =>
    simp only [Response.body?, hc, bind, Except.bind, if_true, Option.bind_some]
    cases (Json.ofBytes? r.chunks.flatten).bind read <;> rfl

theorem decode_refused {α : Type} {r : Response} (h : r.isSuccess = false)
    (read : Json → Option α) : r.decode read = .error (.refused r.status r.complaint) := by
  rw [Response.decode, check_refused h]
  rfl

namespace Cursor

@[simp] theorem again_changes (cursor : Cursor) (e : ClusterError) : (cursor.again e).changes = [] := by
  unfold again
  split <;> rfl

theorem again_next (cursor : Cursor) (e : ClusterError) :
    (cursor.again e).next = if e.isFatal then .error e else .ok cursor := by
  unfold again
  split <;> rfl

/-- A list is followed by a watch from its version, or by another list. -/
theorem step_list_ok (r : Response) :
    list.step (.ok r) =
      if r.isSuccess then
        match (r.body?.bind Json.ofBytes?).bind EventList.ofDocument? with
        | some l => { changes := l.items.map .added, next := .ok (.watch l.metadata.resourceVersion) }
        | none => { next := .ok .list, waits := true }
      else again .list (.refused r.status r.complaint) := by
  by_cases h : r.isSuccess
  · rw [if_pos h, step]
    simp only [Except.bind, decode_success h]
    cases (r.body?.bind Json.ofBytes?).bind EventList.ofDocument? with
    | some l => rfl
    | none => cases r.isComplete <;> rfl
  · rw [if_neg h, step]
    simp only [Except.bind, decode_refused (Bool.eq_false_iff.2 h)]

/-- A watch that was refused. -/
theorem step_watch_refused (version : String) {r : Response} (h : r.isSuccess = false) :
    (watch version).step (.ok r) =
      if r.status = goneStatus then { next := .ok .list }
      else again (.watch version) (.refused r.status r.complaint) := by
  rw [step]
  simp only [Except.bind, check_refused h]

theorem step_watch_eq (version : String) {r : Response} (h : r.isSuccess) :
    (watch version).step (.ok r) = afterWatch (Watch.ofResponse version r) r.isComplete := by
  rw [step]
  simp only [Except.bind, check_success h]

/-- A watch that was answered, told from the lines of its bytes. -/
theorem step_watch_success (version : String) {r : Response} (h : r.isSuccess) :
    ((watch version).step (.ok r)).changes =
        (beforeFailure (reports r.chunks.flatten)).filter Change.isEvent ∧
      ((watch version).step (.ok r)).next =
        match reportedFailure? r with
        | none => .ok (.watch (lastVersion version (beforeFailure (reports r.chunks.flatten))))
        | some s =>
          if s.code = goneStatus then .ok .list
          else if isDenied s.code then .error (.refused s.code s.message)
          else .ok (.watch (lastVersion version (beforeFailure (reports r.chunks.flatten)))) := by
  obtain ⟨t, ht⟩ := Watch.ofResponse_eq version r
  obtain ⟨h1, h2, h3⟩ :=
    Watch.foldl_line (w := ({ version } : Watch)) rfl (Line.lines r.chunks.flatten)
  rw [step_watch_eq version h, ht, reportedFailure?, if_pos h]
  unfold afterWatch Watch.result
  simp only [Watch.holding, h1, h2, h3, reports]
  refine ⟨rfl, ?_⟩
  cases ((Line.lines r.chunks.flatten).filterMap Change.ofLine?).findSome? Change.failure? with
  | none => cases r.isComplete <;> rfl
  | some s =>
    simp only [Option.map_some, Option.getD_some, Watch.ending]
    by_cases hg : s.code = goneStatus
    · simp only [if_pos hg]
    · simp only [if_neg hg]
      exact again_next _ _

theorem step_changes (cursor : Cursor) (a : Reached) : (cursor.step a).changes = delivered cursor a := by
  cases a with
  | error e =>
    cases cursor with
    | list => exact again_changes _ _
    | watch version =>
      cases e with
      | refused status message =>
        rw [step]
        simp only [Except.bind, delivered]
        split <;> simp
      | _ => exact again_changes _ _
  | ok r =>
    cases cursor with
    | list =>
      rw [step_list_ok, delivered]
      by_cases h : r.isSuccess
      · rw [if_pos h, if_pos h]
        cases (r.body?.bind Json.ofBytes?).bind EventList.ofDocument? <;> rfl
      · rw [if_neg h, if_neg h, again_changes]
    | watch version =>
      rw [delivered]
      by_cases h : r.isSuccess
      · rw [if_pos h, (step_watch_success version h).1]
      · rw [if_neg h, step_watch_refused version (Bool.eq_false_iff.2 h)]
        split <;> simp

theorem again_next_error (cursor : Cursor) (e e' : ClusterError) :
    (cursor.again e).next = .error e' ↔ (if e.isFatal then some e else none) = some e' := by
  rw [again_next]
  split <;> simp

theorem gone_not_denied : isDenied goneStatus = false := rfl

theorem step_error_next (cursor : Cursor) (e e' : ClusterError) :
    (cursor.step (.error e)).next = .error e' ↔ denial? cursor (.error e) = some e' := by
  have hd : denial? cursor (.error e) = if e.isFatal then some e else none := by cases cursor <;> rfl
  rw [hd]
  cases cursor with
  | list => exact again_next_error _ _ _
  | watch version =>
    cases e with
    | refused status message =>
      rw [step]
      simp only [Except.bind]
      by_cases hg : status = goneStatus
      · simp [hg, isFatal_iff, gone_not_denied]
      · rw [if_neg hg]
        exact again_next_error _ _ _
    | _ => exact again_next_error _ _ _

/-- The feed ends with exactly the error that denies access. -/
theorem step_next (cursor : Cursor) (a : Reached) (e : ClusterError) :
    (cursor.step a).next = .error e ↔ denial? cursor a = some e := by
  cases a with
  | error e' => exact step_error_next cursor e' e
  | ok r =>
    by_cases h : r.isSuccess
    · have hd : isDenied r.status = false := by
        by_contra hd
        exact absurd (not_success_of_denied (Bool.eq_true_of_not_eq_false hd)) (by simp [h])
      cases cursor with
      | list =>
        rw [step_list_ok, if_pos h]
        cases (r.body?.bind Json.ofBytes?).bind EventList.ofDocument? <;> simp [denial?, hd]
      | watch version =>
        rw [(step_watch_success version h).2]
        cases hr : reportedFailure? r with
        | none => simp [denial?, hd, hr]
        | some s =>
          by_cases hg : s.code = goneStatus
          · simp [denial?, hd, hr, hg, gone_not_denied]
          · cases hs : isDenied s.code <;> simp [denial?, hd, hr, hg, hs]
    · have hr : denial? cursor (.ok r) =
          if isDenied r.status then some (.refused r.status r.complaint) else none := by
        cases cursor <;> simp [denial?, reportedFailure?, h]
      rw [hr]
      cases cursor with
      | list =>
        rw [step_list_ok, if_neg h]
        exact again_next_error _ _ _
      | watch version =>
        rw [step_watch_refused version (Bool.eq_false_iff.2 h)]
        by_cases hg : r.status = goneStatus
        · simp [hg, gone_not_denied]
        · rw [if_neg hg]
          exact again_next_error _ _ _

end Cursor

/-! ## All answers -/

theorem afterWatch_holding (w : Watch) (t : Bytes) (isComplete : Bool) :
    Cursor.afterWatch (w.holding t) isComplete = Cursor.afterWatch w isComplete := rfl

/-- How the bytes came makes no difference to what follows. -/
theorem step_sameBytes {a a' : Reached} (h : SameBytes a a') (cursor : Cursor) :
    cursor.step a = cursor.step a' := by
  cases h with
  | error e => rfl
  | @ok r r' status complete bytes =>
    have hs : r.isSuccess = r'.isSuccess := by simp only [Response.isSuccess, status]
    have hb : r.body? = r'.body? := by simp only [Response.body?, complete, bytes]
    have hc : r.complaint = r'.complaint := by simp only [Response.complaint, hb]
    cases cursor with
    | list => rw [Cursor.step_list_ok, Cursor.step_list_ok, hs, hb, status, hc]
    | watch version =>
      cases h : r.isSuccess with
      | false =>
        rw [Cursor.step_watch_refused version h, Cursor.step_watch_refused version (hs ▸ h), status, hc]
      | true =>
        obtain ⟨t, ht⟩ := Watch.ofResponse_eq version r
        obtain ⟨t', ht'⟩ := Watch.ofResponse_eq version r'
        rw [Cursor.step_watch_eq version h, Cursor.step_watch_eq version (hs ▸ h), ht, ht',
          afterWatch_holding, afterWatch_holding, bytes, complete]

namespace Feed

theorem step_ok {f : Feed} {cursor : Cursor} (h : f.cursor = .ok cursor) (a : Reached) :
    f.step a = { cursor := (cursor.step a).next, changes := f.changes ++ delivered cursor a } := by
  rw [step, h, ← Cursor.step_changes]

theorem foldl_step_ended {f : Feed} {e : ClusterError} (h : f.cursor = .error e)
    (answers : List Reached) : answers.foldl step f = f := by
  induction answers with
  | nil => rfl
  | cons a rest ih =>
    have hs : f.step a = f := by rw [step, h]
    rw [List.foldl_cons, hs, ih]

theorem exchanges_ok {f : Feed} {cursor : Cursor} (h : f.cursor = .ok cursor) (a : Reached)
    (rest : List Reached) : f.exchanges (a :: rest) = (cursor, a) :: (f.step a).exchanges rest := by
  rw [exchanges, h]

theorem exchanges_ended {f : Feed} {e : ClusterError} (h : f.cursor = .error e)
    (answers : List Reached) : f.exchanges answers = [] := by
  cases answers with
  | nil => rfl
  | cons a rest => rw [exchanges, h]

theorem foldl_step_changes (f : Feed) (answers : List Reached) :
    (answers.foldl step f).changes =
      f.changes ++ (f.exchanges answers).flatMap fun x => delivered x.1 x.2 := by
  induction answers generalizing f with
  | nil => simp [exchanges]
  | cons a rest ih =>
    cases h : f.cursor with
    | error e => rw [foldl_step_ended h, exchanges_ended h, List.flatMap_nil, List.append_nil]
    | ok cursor =>
      rw [List.foldl_cons, ih, exchanges_ok h, step_ok h, List.flatMap_cons, List.append_assoc]

theorem foldl_step_error {f : Feed} {cursor : Cursor} (h : f.cursor = .ok cursor)
    (answers : List Reached) (e : ClusterError) :
    (answers.foldl step f).cursor = .error e ↔
      (f.exchanges answers).findSome? (fun x => denial? x.1 x.2) = some e := by
  induction answers generalizing f cursor with
  | nil => simp [exchanges, h]
  | cons a rest ih =>
    rw [List.foldl_cons, exchanges_ok h, List.findSome?_cons]
    have hn : (f.step a).cursor = (cursor.step a).next := by rw [step_ok h]
    cases hs : (cursor.step a).next with
    | ok next =>
      have hd : denial? cursor a = none := Option.eq_none_iff_forall_ne_some.2 fun e' he' => by
        rw [← Cursor.step_next, hs] at he'
        cases he'
      rw [hd]
      exact ih (hn.trans hs)
    | error e' =>
      rw [(Cursor.step_next cursor a e').1 hs, foldl_step_ended (hn.trans hs), hn, hs]
      simp

theorem foldl_step_sameBytes {answers answers' : List Reached}
    (h : List.Forall₂ SameBytes answers answers') (f : Feed) :
    answers'.foldl step f = answers.foldl step f := by
  induction h generalizing f with
  | nil => rfl
  | @cons a a' rest rest' ha _ ih =>
    have hs : f.step a' = f.step a := by
      cases hf : f.cursor with
      | error e => simp only [step, hf]
      | ok cursor => simp only [step, hf, step_sameBytes ha cursor]
    rw [List.foldl_cons, List.foldl_cons, hs, ih]

/-- Nothing is asked for behind a denial. -/
theorem exchanges_denial {f : Feed} {answers : List Reached} {before after : List (Cursor × Reached)}
    {x : Cursor × Reached} (h : f.exchanges answers = before ++ x :: after)
    (hx : (denial? x.1 x.2).isSome) : after = [] := by
  induction answers generalizing f before with
  | nil => simp [exchanges] at h
  | cons a rest ih =>
    cases hf : f.cursor with
    | error e => rw [exchanges_ended hf] at h; simp at h
    | ok cursor =>
      rw [exchanges_ok hf] at h
      cases before with
      | cons y before =>
        simp only [List.cons_append, List.cons.injEq] at h
        exact ih h.2
      | nil =>
        simp only [List.nil_append, List.cons.injEq] at h
        obtain ⟨rfl, rfl⟩ := h
        obtain ⟨e, he⟩ := Option.isSome_iff_exists.1 hx
        have hn := (Cursor.step_next _ _ _).2 he
        exact exchanges_ended (e := e) (by rw [step_ok hf]; exact hn) rest

/-- Every answer up to the end of the feed is the answer to a request. -/
theorem exchanges_answers (f : Feed) (answers : List Reached) :
    (f.exchanges answers).map Prod.snd <+: answers ∧
      ∀ cursor, (answers.foldl step f).cursor = .ok cursor →
        (f.exchanges answers).map Prod.snd = answers := by
  induction answers generalizing f with
  | nil => simp [exchanges]
  | cons a rest ih =>
    cases h : f.cursor with
    | error e =>
      rw [exchanges_ended h, foldl_step_ended h, h]
      exact ⟨List.nil_prefix, fun cursor hc => by cases hc⟩
    | ok cursor =>
      obtain ⟨h1, h2⟩ := ih (f.step a)
      rw [exchanges_ok h, List.foldl_cons, List.map_cons]
      refine ⟨List.prefix_cons_inj a |>.2 h1, fun cursor' hc => ?_⟩
      rw [h2 cursor' hc]

/-- The requests of a feed from its start. -/
def history (answers : List Reached) : List (Cursor × Reached) := exchanges {} answers

/-- The feed delivers what its answers bring, in their order, and ends with the first denial. It asks
for nothing behind that, for all else goes on, and pays no regard to chunks: what a watch reports is
told from the pieces between the newlines of its bytes. -/
theorem run_delivers (answers : List Reached) :
    (run answers).changes = ((history answers).flatMap fun x => delivered x.1 x.2) ∧
      (∀ e, (run answers).cursor = .error e ↔
        (history answers).findSome? (fun x => denial? x.1 x.2) = some e) ∧
      (∀ before x after, history answers = before ++ x :: after →
        (denial? x.1 x.2).isSome → after = []) ∧
      (history answers).map Prod.snd <+: answers ∧
      (∀ cursor, (run answers).cursor = .ok cursor → (history answers).map Prod.snd = answers) ∧
      (∀ answers', List.Forall₂ SameBytes answers answers' → run answers' = run answers) ∧
      ∀ bytes, reports bytes = (Line.contents bytes).filterMap Change.ofLine? := by
  obtain ⟨hfront, hall⟩ := exchanges_answers {} answers
  refine ⟨?_, foldl_step_error rfl answers, fun before x after => exchanges_denial, hfront, hall, ?_,
    reports_eq⟩
  · rw [run, foldl_step_changes]
    rfl
  · intro answers' h
    exact foldl_step_sameBytes h {}

/-! A list of one event that comes at the second attempt, a watch of two changes with a line that is no change
between them and a tail, a denial, and an answer that nothing asks for. -/

def shopEvent (pod version : String) : Event where
  metadata := { resourceVersion := version }
  involvedObject := { kind := "Pod", namespace_ := "shop", name := pod }
  lastTimestamp := Timestamp.read? "2024-05-17T14:00:00+02:00"

def shopDocument (pod version : String) : String :=
  "\x7b\"metadata\":\x7b\"resourceVersion\":\"" ++ version ++ "\"\x7d,\"involvedObject\":" ++
    "\x7b\"kind\":\"Pod\",\"namespace\":\"shop\",\"name\":\"" ++ pod ++
    "\"\x7d,\"lastTimestamp\":\"2024-05-17T14:00:00+02:00\"\x7d"

def shopLine (type pod version : String) : Bytes :=
  Utf8.encode ("\x7b\"type\":\"" ++ type ++ "\",\"object\":" ++ shopDocument pod version ++ "\x7d\r\n")

def shopList : Response where
  status := 200
  chunks := [Utf8.encode ("\x7b\"metadata\":\x7b\"resourceVersion\":\"7\"\x7d,\"items\":[" ++
    shopDocument "web-1" "7" ++ "]\x7d")]

def shopWatch : Bytes :=
  shopLine "ADDED" "web-2" "8" ++ Utf8.encode "none\n" ++ shopLine "DELETED" "web-1" "9" ++ Utf8.encode "tail"

/-- The watch comes in these chunks. -/
def shopAnswers (chunks : List Bytes) : List Reached :=
  [.error .noAnswer, .ok shopList, .ok { status := 200, chunks },
    .ok { status := 403, chunks := [Utf8.encode "no"] }, .ok shopList]

theorem shopAnswers_delivered :
    let f := run (shopAnswers [shopWatch.take 50, [], shopWatch.drop 50])
    f.changes = [.added (shopEvent "web-1" "7"), .added (shopEvent "web-2" "8"),
      .deleted (shopEvent "web-1" "9")] ∧
    f.cursor = .error (.refused 403 "no") ∧ f = run (shopAnswers [shopWatch]) := by
  obtain ⟨hchanges, hdenied, -, -, -, hsame, -⟩ :=
    run_delivers (shopAnswers [shopWatch.take 50, [], shopWatch.drop 50])
  refine ⟨hchanges.trans (by decide +kernel), (hdenied _).2 (by decide +kernel), (hsame _ ?_).symm⟩
  have hbytes : [shopWatch.take 50, [], shopWatch.drop 50].flatten = [shopWatch].flatten := by simp
  exact .cons (.error _) <| .cons (.ok rfl rfl rfl) <| .cons (.ok rfl rfl hbytes) <| .cons (.ok rfl rfl rfl) <|
    .cons (.ok rfl rfl rfl) .nil

end Feed
end EventTally
