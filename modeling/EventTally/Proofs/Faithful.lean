import EventTally.Proofs.Delivery

/-! A feed that watches a faithful server. The server keeps a history of changes and answers a watch
with those behind the version asked for, but may send blank lines and bookmarks between them, may stop
at any byte, and may not answer at all. The feed then delivers the changes behind its list in order,
each once: `Feed.delivers_prefix`. -/

namespace EventTally

open Line (newline write content? dropReturn)

/-- A change as the server keeps it, with the line that it is sent as. -/
structure Entry where
  change : Change
  line : Bytes
  isEvent : change.isEvent
  versioned : change.version ≠ ""
  oneLine : newline ∉ line
  readable : Change.ofLine? (dropReturn line) = some change

def Entry.version (e : Entry) : String := e.change.version

/-- The entries behind the one of that version. -/
def behind (version : String) : List Entry → List Entry
  | [] => []
  | e :: rest => if e.version = version then rest else behind version rest

/-- All changes in their order, and the version before the first of them. -/
structure History where
  start : String
  entries : List Entry
  distinct : (start :: entries.map Entry.version).Nodup

namespace History

def versions (h : History) : List String := h.start :: h.entries.map Entry.version

def after (h : History) (version : String) : List Entry :=
  if version = h.start then h.entries else behind version h.entries

/-- Lines that send entries from the front of a list, from a version on, and leave the rest of the
list. A bookmark carries the version of the last change sent; a failure is the last line. -/
inductive Sends : String → List Entry → List Bytes → List Entry → Prop
  | stop (v : String) (es : List Entry) : Sends v es [] es
  | blank {v : String} {es rest : List Entry} {l : Bytes} {ls : List Bytes} (oneLine : newline ∉ l)
      (blank : dropReturn l = []) (more : Sends v es ls rest) : Sends v es (l :: ls) rest
  | bookmark {es rest : List Entry} {l : Bytes} {ls : List Bytes} (m : ObjectMeta)
      (oneLine : newline ∉ l) (readable : Change.ofLine? (dropReturn l) = some (.bookmark m))
      (more : Sends m.resourceVersion es ls rest) : Sends m.resourceVersion es (l :: ls) rest
  | entry {v : String} {es rest : List Entry} {ls : List Bytes} (e : Entry)
      (more : Sends e.version es ls rest) : Sends v (e :: es) (e.line :: ls) rest
  | failure {v : String} {es : List Entry} {l : Bytes} (status : ApiStatus) (oneLine : newline ∉ l)
      (readable : Change.ofLine? (dropReturn l) = some (.failure status))
      (notGone : status.code ≠ goneStatus) (notDenied : isDenied status.code = false) :
      Sends v es [l] es

/-- What a faithful server gives to a watch from a version. -/
inductive Answers (h : History) (v : String) : Reached → Prop
  | unanswered (e : ClusterError) (noAnswer : ∀ status message, e ≠ .refused status message) :
      Answers h v (.error e)
  | refused (r : Response) (notSuccess : r.isSuccess = false) (notGone : r.status ≠ goneStatus)
      (notDenied : isDenied r.status = false) : Answers h v (.ok r)
  | stream (r : Response) (success : r.isSuccess) {ls : List Bytes} {rest : List Entry}
      (sends : Sends v (h.after v) ls rest) (n : ℕ) (cut : r.chunks.flatten = (write ls).take n) :
      Answers h v (.ok r)

/-- Every watch that the feed makes from here on is answered faithfully. -/
def Serves (h : History) : Feed → List Reached → Prop
  | _, [] => True
  | f, a :: rest => (∀ v, f.cursor = .ok (.watch v) → h.Answers v a) ∧ h.Serves (f.step a) rest

/-! ## Places in the history -/

theorem behind_append {version : String} {before : List Entry} (e : Entry) (rest : List Entry)
    (hb : version ∉ before.map Entry.version) (he : e.version = version) :
    behind version (before ++ e :: rest) = rest := by
  induction before with
  | nil => simp [behind, he]
  | cons b before ih =>
    simp only [List.map_cons, List.mem_cons, not_or] at hb
    rw [List.cons_append, behind, if_neg (Ne.symm hb.1), ih hb.2]

theorem exists_behind {version : String} {es : List Entry} (h : version ∈ es.map Entry.version) :
    ∃ before, es = before ++ behind version es := by
  induction es with
  | nil => simp at h
  | cons e es ih =>
    rw [behind]
    split
    · exact ⟨[e], rfl⟩
    · rename_i hne
      obtain ⟨before, hb⟩ := ih (by simpa [Ne.symm hne] using h)
      exact ⟨e :: before, by rw [List.cons_append, ← hb]⟩

theorem exists_after {h : History} {v : String} (hv : v ∈ h.versions) :
    ∃ before, h.entries = before ++ h.after v := by
  rw [after]
  split
  · exact ⟨[], rfl⟩
  · rename_i hne
    exact exists_behind ((List.mem_cons.1 hv).resolve_left hne)

theorem after_entry {h : History} {before rest : List Entry} {e : Entry}
    (he : h.entries = before ++ e :: rest) : e.version ∈ h.versions ∧ h.after e.version = rest := by
  have hd := h.distinct
  rw [he, List.map_append, List.map_cons, List.nodup_cons, List.nodup_append] at hd
  obtain ⟨hs, -, -, hdis⟩ := hd
  have hne : e.version ≠ h.start := fun heq => hs (by simp [heq])
  refine ⟨?_, ?_⟩
  · simp [versions, he]
  · rw [after, if_neg hne, he]
    exact behind_append e rest (fun hm => hdis _ hm _ (by simp) rfl) rfl

/-- The version of the last change sent leads on to the changes that are left. -/
theorem after_sent {h : History} {v : String} {sent rest : List Entry} (hv : v ∈ h.versions)
    (hs : h.after v = sent ++ rest) :
    lastVersion v (sent.map Entry.change) ∈ h.versions ∧
      h.after (lastVersion v (sent.map Entry.change)) = rest := by
  rcases List.eq_nil_or_concat' sent with rfl | ⟨front, e, rfl⟩
  · exact ⟨hv, by simpa [lastVersion] using hs⟩
  · obtain ⟨before, hb⟩ := exists_after hv
    have hl : lastVersion v ((front ++ [e]).map Entry.change) = e.version := by
      simp [lastVersion, List.foldl_append, e.versioned, Entry.version]
    rw [hl]
    have he : h.entries = (before ++ front) ++ e :: rest := by
      rw [hb, hs]
      simp
    exact after_entry he

/-! ## One watch -/

theorem ofLine?_nil : Change.ofLine? [] = none := by decide +kernel

theorem content?_of_readable {l : Bytes} {c : Change} (h : Change.ofLine? (dropReturn l) = some c) :
    content? l = some (dropReturn l) := by
  rw [content?, if_neg]
  intro he
  rw [List.isEmpty_iff.1 he, ofLine?_nil] at h
  cases h

theorem Sends.oneLine {v : String} {es rest : List Entry} {ls : List Bytes}
    (h : Sends v es ls rest) : ∀ l ∈ ls, newline ∉ l := by
  induction h with
  | stop => simp
  | blank oneLine _ _ ih | bookmark _ oneLine _ _ ih => simpa using ⟨oneLine, ih⟩
  | entry e _ ih => simpa using ⟨e.oneLine, ih⟩
  | failure _ oneLine => simpa using oneLine

/-- A stream that is cut short is a stream of fewer lines. -/
theorem Sends.take {v : String} {es rest : List Entry} {ls : List Bytes} (h : Sends v es ls rest)
    (k : ℕ) : ∃ rest', Sends v es (ls.take k) rest' := by
  induction h generalizing k with
  | stop v es => exact ⟨es, by simpa using Sends.stop v es⟩
  | blank oneLine hb _ ih =>
    cases k with
    | zero => exact ⟨_, .stop _ _⟩
    | succ k =>
      obtain ⟨rest', hr⟩ := ih k
      exact ⟨rest', .blank oneLine hb hr⟩
  | bookmark m oneLine readable _ ih =>
    cases k with
    | zero => exact ⟨_, .stop _ _⟩
    | succ k =>
      obtain ⟨rest', hr⟩ := ih k
      exact ⟨rest', .bookmark m oneLine readable hr⟩
  | entry e _ ih =>
    cases k with
    | zero => exact ⟨_, .stop _ _⟩
    | succ k =>
      obtain ⟨rest', hr⟩ := ih k
      exact ⟨rest', .entry e hr⟩
  | failure status oneLine readable notGone notDenied =>
    cases k with
    | zero => exact ⟨_, .stop _ _⟩
    | succ k => exact ⟨_, by simpa using Sends.failure status oneLine readable notGone notDenied⟩

/-- What the lines report. -/
def read (ls : List Bytes) : List Change := (ls.filterMap content?).filterMap Change.ofLine?

theorem read_blank {l : Bytes} (h : dropReturn l = []) (ls : List Bytes) :
    read (l :: ls) = read ls := by
  rw [read, List.filterMap_cons_none (by simp [content?, h]), read]

theorem read_readable {l : Bytes} {c : Change} (h : Change.ofLine? (dropReturn l) = some c)
    (ls : List Bytes) : read (l :: ls) = c :: read ls := by
  rw [read, List.filterMap_cons_some (content?_of_readable h), List.filterMap_cons_some h, read]

/-- The lines of a faithful stream bring the entries sent, lead to the version of the last of them,
and report no failure that would stop the feed or set it back. -/
theorem Sends.read {v : String} {es rest : List Entry} {ls : List Bytes} (h : Sends v es ls rest) :
    ∃ sent, es = sent ++ rest ∧
      (beforeFailure (History.read ls)).filter Change.isEvent = sent.map Entry.change ∧
      lastVersion v (beforeFailure (History.read ls)) = lastVersion v (sent.map Entry.change) ∧
      ∀ s, (History.read ls).findSome? Change.failure? = some s →
        s.code ≠ goneStatus ∧ isDenied s.code = false := by
  induction h with
  | stop v es => exact ⟨[], rfl, rfl, rfl, by simp [History.read]⟩
  | blank _ hb _ ih => rwa [read_blank hb]
  | bookmark m _ readable _ ih =>
    obtain ⟨sent, hes, hc, hv, hf⟩ := ih
    rw [read_readable readable, beforeFailure_cons rfl]
    refine ⟨sent, hes, by simpa [Change.isEvent] using hc, ?_, ?_⟩
    · rw [lastVersion_cons, Change.version, ite_self, hv]
    · rwa [List.findSome?_cons]
  | @entry v es rest ls e _ ih =>
    obtain ⟨sent, rfl, hc, hv, hf⟩ := ih
    have hn : e.change.failure? = none := by
      have := e.isEvent
      cases hchange : e.change <;> simp_all [Change.isEvent, Change.failure?]
    rw [read_readable e.readable, beforeFailure_cons hn]
    refine ⟨e :: sent, rfl, ?_, ?_, ?_⟩
    · rw [List.filter_cons, if_pos e.isEvent, hc, List.map_cons]
    · rw [List.map_cons, lastVersion_cons, lastVersion_cons, if_neg e.versioned]
      exact hv
    · rwa [List.findSome?_cons, hn]
  | failure status _ readable notGone notDenied =>
    rw [read_readable readable, beforeFailure_failure]
    exact ⟨[], rfl, rfl, rfl, fun s hs => by
      obtain rfl : status = s := by simpa [List.findSome?_cons, Change.failure?] using hs
      exact ⟨notGone, notDenied⟩⟩

/-- A watch from a place in the history brings the next changes of it, and the feed goes on from the
place behind them. -/
theorem Answers.step {h : History} {v : String} {a : Reached} (ha : h.Answers v a) :
    ∃ sent rest, h.after v = sent ++ rest ∧ delivered (.watch v) a = sent.map Entry.change ∧
      ((Cursor.watch v).step a).next = .ok (.watch (lastVersion v (sent.map Entry.change))) := by
  cases ha with
  | unanswered e noAnswer =>
    refine ⟨[], h.after v, rfl, rfl, ?_⟩
    cases e with
    | refused status message => exact absurd rfl (noAnswer status message)
    | _ => rfl
  | refused r notSuccess notGone notDenied =>
    refine ⟨[], h.after v, rfl, by simp [delivered, notSuccess], ?_⟩
    rw [Cursor.step_watch_refused v notSuccess, if_neg notGone, Cursor.again_next, isFatal_iff,
      notDenied]
    rfl
  | @stream r success ls rest sends n cut =>
    obtain ⟨k, hk, -⟩ := Line.lines_take_write sends.oneLine n
    obtain ⟨rest', hsends⟩ := sends.take k
    obtain ⟨sent, hes, hc, hver, hf⟩ := hsends.read
    have hr : reports r.chunks.flatten = History.read (ls.take k) := by
      rw [reports, cut, hk, History.read]
    refine ⟨sent, rest', hes, by rw [delivered, if_pos success, hr, hc], ?_⟩
    rw [(Cursor.step_watch_success v success).2, reportedFailure?, if_pos success, hr, hver]
    cases hs : (History.read (ls.take k)).findSome? Change.failure? with
    | none => rfl
    | some s =>
      obtain ⟨hg, hd⟩ := hf s hs
      simp [hg, hd]

end History

/-! ## All watches -/

namespace Feed

/-- The feed has delivered entries from the front of a list and will ask for the others. -/
def Follows (h : History) (es : List Entry) (changes : List Change) (f : Feed) : Prop :=
  ∃ v sent, f.cursor = .ok (.watch v) ∧ v ∈ h.versions ∧ es = sent ++ h.after v ∧
    f.changes = changes ++ sent.map Entry.change

variable {h : History} {es : List Entry} {changes : List Change} {f : Feed}

theorem Follows.step (hf : f.Follows h es changes) {a : Reached}
    (ha : ∀ v, f.cursor = .ok (.watch v) → h.Answers v a) : (f.step a).Follows h es changes := by
  obtain ⟨v, sent, hcur, hv, hes, hch⟩ := hf
  obtain ⟨more, rest, hafter, hd, hn⟩ := (ha v hcur).step
  obtain ⟨hv', hrest⟩ := History.after_sent hv hafter
  refine ⟨_, sent ++ more, ?_, hv', ?_, ?_⟩
  · rw [step_ok hcur, hn]
  · rw [hrest, hes, hafter, List.append_assoc]
  · rw [step_ok hcur, hd, hch, List.map_append, List.append_assoc]

theorem Follows.foldl (hf : f.Follows h es changes) {answers : List Reached}
    (ha : h.Serves f answers) : (answers.foldl Feed.step f).Follows h es changes := by
  induction answers generalizing f with
  | nil => exact hf
  | cons a rest ih => exact ih (hf.step ha.1) ha.2

/-- After a list the feed asks for what is behind it. -/
theorem Follows.ofList {r : Response} {l : EventList} (hf : f.cursor = .ok .list)
    (hl : r.decode EventList.ofDocument? = .ok l) (hv : l.metadata.resourceVersion ∈ h.versions) :
    (f.step (.ok r)).Follows h (h.after l.metadata.resourceVersion)
      (f.changes ++ l.items.map .added) := by
  have hs : Cursor.list.step (.ok r) =
      { changes := l.items.map .added, next := .ok (.watch l.metadata.resourceVersion) } := by
    simp only [Cursor.step, Except.bind, hl]
  refine ⟨l.metadata.resourceVersion, [], ?_, hv, rfl, ?_⟩
  · rw [step_ok hf, hs]
  · rw [step_ok hf, ← Cursor.step_changes, hs]
    simp

/-- A stream that is not cut brings all that it sends. -/
theorem delivered_whole {v : String} {ls : List Bytes} {r : Response} (success : r.isSuccess)
    (sends : History.Sends v es ls []) (whole : r.chunks.flatten = write ls) :
    delivered (.watch v) (.ok r) = es.map Entry.change := by
  obtain ⟨sent, hes, hc, -⟩ := sends.read
  have hl : Line.lines (write ls) = ls.filterMap content? := by
    simpa using Line.lines_write sends.oneLine (t := []) (by simp)
  rw [List.append_nil] at hes
  rw [delivered, if_pos success, reports, whole, hl, hes]
  exact hc

/-- The changes that the feed delivers behind a list are the next ones in the history, each once, and
it goes on from the place behind them; a watch that is answered in full brings all that are left. -/
theorem delivers_prefix {earlier answers : List Reached} {r : Response} {l : EventList}
    (hc : (run earlier).cursor = .ok .list) (hl : r.decode EventList.ofDocument? = .ok l)
    (hv : l.metadata.resourceVersion ∈ h.versions) (ha : h.Serves (run (earlier ++ [.ok r])) answers) :
    ∃ v sent, (run (earlier ++ .ok r :: answers)).cursor = .ok (.watch v) ∧
      h.after l.metadata.resourceVersion = sent ++ h.after v ∧
      (run (earlier ++ .ok r :: answers)).changes =
        (run earlier).changes ++ l.items.map .added ++ sent.map Entry.change ∧
      ∀ r' ls, r'.isSuccess → History.Sends v (h.after v) ls [] → r'.chunks.flatten = write ls →
        (run (earlier ++ .ok r :: (answers ++ [.ok r']))).changes =
          (run earlier).changes ++ l.items.map .added ++
            (h.after l.metadata.resourceVersion).map Entry.change := by
  have hrun : run (earlier ++ [.ok r]) = (run earlier).step (.ok r) := by
    simp [run, List.foldl_append]
  have hall : run (earlier ++ .ok r :: answers) = answers.foldl step ((run earlier).step (.ok r)) := by
    simp [run, List.foldl_append]
  rw [hrun] at ha
  obtain ⟨v, sent, hcur, -, hes, hch⟩ := (Follows.ofList hc hl hv).foldl ha
  rw [← hall] at hcur hch
  refine ⟨v, sent, hcur, hes, hch, fun r' ls success sends whole => ?_⟩
  have hlast : run (earlier ++ .ok r :: (answers ++ [.ok r'])) =
      (run (earlier ++ .ok r :: answers)).step (.ok r') := by
    simp [run, List.foldl_append]
  rw [hlast, step_ok hcur, delivered_whole success sends whole, hch, hes, List.map_append,
    List.append_assoc]

/-! A history of two changes. The first watch breaks off inside the line of the second one, the next
request is not answered, and the one after that is answered in full. -/

def shortLine (type version : String) : Bytes :=
  Utf8.encode
    ("[\"" ++ type ++ "\",\x7b\"metadata\":\x7b\"resourceVersion\":\"" ++ version ++ "\"\x7d\x7d]")

def shortEvent (version : String) : Event := { metadata := { resourceVersion := version } }

def addition : Entry where
  change := .added (shortEvent "8")
  line := shortLine "ADDED" "8"
  isEvent := rfl
  versioned := by decide
  oneLine := by decide +kernel
  readable := by decide +kernel

def deletion : Entry where
  change := .deleted (shortEvent "9")
  line := shortLine "DELETED" "9"
  isEvent := rfl
  versioned := by decide
  oneLine := by decide +kernel
  readable := by decide +kernel

def shortHistory : History := ⟨"7", [addition, deletion], by decide⟩

def shortList : Response :=
  { status := 200, chunks := [Utf8.encode "\x7b\"metadata\":\x7b\"resourceVersion\":\"7\"\x7d\x7d"] }

def brokenWatch : Response :=
  { status := 200, chunks := [(write [addition.line, [13], deletion.line]).take 70],
    isComplete := false }

def wholeWatch : Response :=
  { status := 200, chunks := [write [[], deletion.line, shortLine "BOOKMARK" "9"]] }

theorem shortHistory_serves :
    shortHistory.Serves (run [.ok shortList]) [.ok brokenWatch, .error .noAnswer, .ok wholeWatch] := by
  have h1 : (run [.ok shortList]).cursor = .ok (.watch "7") := by decide +kernel
  have h3 : (run [.ok shortList, .ok brokenWatch, .error .noAnswer]).cursor = .ok (.watch "8") := by
    decide +kernel
  refine ⟨fun v hv => ?_, fun v _ => .unanswered _ (by simp), fun v hv => ?_, trivial⟩
  · obtain rfl : "7" = v := by simpa [h1] using hv
    exact .stream brokenWatch rfl
      (.entry addition (.blank (l := [13]) (by decide) rfl (.entry deletion (.stop _ _)))) 70 rfl
  · obtain rfl : "8" = v := by simpa using h3.symm.trans hv
    exact .stream wholeWatch rfl (.blank (l := []) (by decide) rfl (.entry deletion
      (.bookmark (l := shortLine "BOOKMARK" "9") { resourceVersion := "9" } (by decide +kernel)
        (by decide +kernel) (.stop _ _)))) 200 (by decide +kernel)

theorem shortHistory_delivered :
    ∃ v sent, (run [.ok shortList, .ok brokenWatch, .error .noAnswer, .ok wholeWatch]).cursor =
        .ok (.watch v) ∧
      shortHistory.after "7" = sent ++ shortHistory.after v ∧
      (run [.ok shortList, .ok brokenWatch, .error .noAnswer, .ok wholeWatch]).changes =
        sent.map Entry.change := by
  obtain ⟨v, sent, hcursor, hafter, hchanges, -⟩ := delivers_prefix
    (l := { metadata := { resourceVersion := "7" } }) (rfl : (run []).cursor = .ok .list)
    (by decide +kernel) (by decide) shortHistory_serves
  exact ⟨v, sent, hcursor, hafter, hchanges⟩

end Feed
end EventTally
