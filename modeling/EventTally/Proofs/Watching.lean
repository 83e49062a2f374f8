import EventTally.Proofs.Lines
import EventTally.Watch.Feed

/-! A watch is what its lines make of it: taking a response in chunk by chunk is a fold of `line` over
the lines of all its bytes, and that fold is told from the changes that the lines report, up to the
first failure. -/

namespace EventTally

/-- The change that a line reports, if it can be read. -/
def Change.ofLine? (text : Bytes) : Option Change := (Json.ofBytes? text).bind Change.ofDocument?

def Change.isEvent : Change → Bool
  | .added _ | .modified _ | .deleted _ => true
  | _ => false

def Change.failure? : Change → Option ApiStatus
  | .failure status => some status
  | _ => none

/-- The version that a change brings; an empty one counts for nothing. -/
def Change.version : Change → String
  | .added e | .modified e | .deleted e => e.metadata.resourceVersion
  | .bookmark m => m.resourceVersion
  | .failure _ => ""

/-- What the lines of a stream report. -/
def reports (bytes : Bytes) : List Change := (Line.lines bytes).filterMap Change.ofLine?

/-- They are told from the pieces between the newlines. -/
theorem reports_eq (bytes : Bytes) :
    reports bytes = (Line.contents bytes).filterMap Change.ofLine? := by
  rw [reports, Line.lines_eq_contents]

/-- What counts of the reports: those before the first failure. -/
def beforeFailure (cs : List Change) : List Change := cs.takeWhile (·.failure?.isNone)

/-- The last version among the changes that is not empty. -/
def lastVersion (version : String) (cs : List Change) : String :=
  cs.foldl (fun v c => if c.version = "" then v else c.version) version

theorem lastVersion_cons (version : String) (c : Change) (cs : List Change) :
    lastVersion version (c :: cs) = lastVersion (if c.version = "" then version else c.version) cs := rfl

theorem beforeFailure_cons {c : Change} (h : c.failure? = none) (cs : List Change) :
    beforeFailure (c :: cs) = c :: beforeFailure cs := by
  simp [beforeFailure, h]

theorem beforeFailure_failure (status : ApiStatus) (cs : List Change) :
    beforeFailure (.failure status :: cs) = [] := by
  simp [beforeFailure, Change.failure?]

namespace Watch

open Line (newline write content?)

/-- How a failure that is reported ends the watch. -/
def ending (status : ApiStatus) : WatchEnd :=
  if status.code = goneStatus then .expired else .failed (.refused status.code status.message)

theorem saw_eq (w : Watch) (version : String) :
    w.saw version = { w with version := if version = "" then w.version else version } := by
  unfold saw
  split <;> rfl

theorem accept_eq (w : Watch) (c : Change) :
    w.accept c = { w with
      version := if c.version = "" then w.version else c.version
      changes := if c.isEvent then w.changes ++ [c] else w.changes
      ended := (c.failure?.map ending).or w.ended } := by
  cases c with
  | failure status => rfl
  | bookmark m => exact saw_eq w _
  | added e => exact saw_eq _ _
  | modified e => exact saw_eq _ _
  | deleted e => exact saw_eq _ _

theorem line_unreadable {w : Watch} (h : w.ended = none) {text : Bytes}
    (ht : Change.ofLine? text = none) : w.line text = { w with lines := w.lines + 1 } := by
  unfold Change.ofLine? at ht
  simp [line, h, ht]

theorem line_readable {w : Watch} (h : w.ended = none) {text : Bytes} {c : Change}
    (ht : Change.ofLine? text = some c) :
    w.line text = { w with lines := w.lines + 1 }.accept c := by
  unfold Change.ofLine? at ht
  simp [line, h, ht]

theorem line_ended {w : Watch} (h : w.ended.isSome) (text : Bytes) : w.line text = w := by
  rw [line, if_pos h]

theorem foldl_line_ended {w : Watch} (h : w.ended.isSome) (texts : List Bytes) :
    texts.foldl line w = w := by
  induction texts with
  | nil => rfl
  | cons t texts ih => rw [List.foldl_cons, line_ended h, ih]

/-! ## Chunks -/

/-- The watch with other bytes after its last line. -/
def holding (w : Watch) (t : Bytes) : Watch := { w with buffer := ⟨t⟩ }

theorem line_holding (w : Watch) (t text : Bytes) :
    (w.holding t).line text = (w.line text).holding t := by
  by_cases he : w.ended = none
  · cases ht : Change.ofLine? text with
    | none => rw [line_unreadable he ht, line_unreadable (w := w.holding t) he ht]; rfl
    | some c =>
      rw [line_readable he ht, line_readable (w := w.holding t) he ht, accept_eq, accept_eq]
      rfl
  · have hs := Option.isSome_iff_ne_none.2 he
    rw [line_ended hs, line_ended (w := w.holding t) hs]

theorem foldl_line_holding (texts : List Bytes) (w : Watch) (t : Bytes) :
    texts.foldl line (w.holding t) = (texts.foldl line w).holding t := by
  induction texts generalizing w with
  | nil => rfl
  | cons text texts ih => rw [List.foldl_cons, line_holding, ih, List.foldl_cons]

theorem chunk_holding (w : Watch) {t c : Bytes} {ls : List Bytes} {u : Bytes}
    (hls : ∀ l ∈ ls, newline ∉ l) (hu : newline ∉ u) (he : t ++ c = write ls ++ u) :
    (w.holding t).chunk c = ((ls.filterMap content?).foldl line w).holding u := by
  have hdrain : ((w.holding t).buffer.push c).drain = (ls.filterMap content?, ⟨u⟩) := by
    rw [← LineBuffer.drain_write hls hu, ← he]
    rfl
  rw [chunk, hdrain]
  exact foldl_line_holding _ w u

/-- After any chunks the watch has taken in the lines of all their bytes, and holds the tail. -/
theorem foldl_chunk (chunks : List Bytes) (w : Watch) {t : Bytes} (ht : newline ∉ t) :
    ∃ u, chunks.foldl chunk (w.holding t) =
      ((Line.lines (t ++ chunks.flatten)).foldl line w).holding u := by
  induction chunks generalizing t w with
  | nil => exact ⟨t, by rw [List.flatten_nil, List.append_nil, Line.lines_of_not_mem ht]; rfl⟩
  | cons c chunks ih =>
    obtain ⟨ls, u, hls, hu, he⟩ := Line.exists_write (t ++ c)
    obtain ⟨v, hv⟩ := ih ((ls.filterMap content?).foldl line w) hu
    refine ⟨v, ?_⟩
    rw [List.foldl_cons, chunk_holding w hls hu he, hv, List.flatten_cons, ← List.append_assoc, he,
      List.append_assoc, Line.lines_append ls hls, List.foldl_append]

/-- A response counts by its bytes, in whatever chunks they come. -/
theorem ofResponse_eq (version : String) (r : Response) :
    ∃ t, ofResponse version r =
      ((Line.lines r.chunks.flatten).foldl line { version }).holding t :=
  foldl_chunk r.chunks { version } (t := []) (by simp)

/-! ## Reports -/

/-- What a watch has become when all lines are taken in. -/
theorem foldl_line {w : Watch} (h : w.ended = none) (texts : List Bytes) :
    (texts.foldl line w).changes = w.changes ++
        (beforeFailure (texts.filterMap Change.ofLine?)).filter Change.isEvent ∧
      (texts.foldl line w).version =
        lastVersion w.version (beforeFailure (texts.filterMap Change.ofLine?)) ∧
      (texts.foldl line w).ended =
        ((texts.filterMap Change.ofLine?).findSome? Change.failure?).map ending := by
  induction texts generalizing w with
  | nil => simp [beforeFailure, lastVersion, h]
  | cons t texts ih =>
    cases ht : Change.ofLine? t with
    | none =>
      rw [List.foldl_cons, line_unreadable h ht, List.filterMap_cons_none ht]
      exact ih (w := { w with lines := w.lines + 1 }) h
    | some c =>
      rw [List.foldl_cons, line_readable h ht, List.filterMap_cons_some ht, List.findSome?_cons]
      cases hc : c.failure? with
      | none =>
        have he : ({ w with lines := w.lines + 1 }.accept c).ended = none := by
          simp [accept_eq, hc, h]
        obtain ⟨h1, h2, h3⟩ := ih he
        rw [h1, h2, h3, beforeFailure_cons hc, accept_eq, List.filter_cons, lastVersion_cons]
        refine ⟨?_, rfl, rfl⟩
        cases c.isEvent <;> simp
      | some status =>
        obtain rfl : c = .failure status := by cases c <;> simp_all [Change.failure?]
        rw [foldl_line_ended (by simp [accept]), beforeFailure_failure]
        simp [accept, ending, lastVersion]

end Watch
end EventTally
