import EventTally.Proofs.Entries
import EventTally.Record.Event

/-! Walks along paths. The segments of a path lead from field to field, or the walk stops at one of them,
which is then to blame. A path that goes on behind another one is walked from where that one ends, and a
walk that has stopped stays where it is. So a path gives the text that its whole walk leads to and nothing
else, and of a map it gives the entries whose keys have no dot. -/

namespace EventTally

/-! ## Paths by their segments -/

/-- A path as the list of its segments. There is at least one, and none has a dot. -/
structure FieldPath where
  segments : List String
  ne_nil : segments ≠ []
  noDot : ∀ name ∈ segments, '.' ∉ name.toList

namespace FieldPath

instance : Append FieldPath where
  append p q := {
    segments := p.segments ++ q.segments
    ne_nil := List.append_ne_nil_of_left_ne_nil p.ne_nil _
    noDot := List.forall_mem_append.2 ⟨p.noDot, q.noDot⟩ }

def text (p : FieldPath) : String := ".".intercalate p.segments

def first (p : FieldPath) : String := p.segments.head p.ne_nil

theorem text_append (p q : FieldPath) : (p ++ q).text = p.text ++ "." ++ q.text :=
  String.intercalate_append_of_ne_nil p.ne_nil q.ne_nil

theorem segments_text (p : FieldPath) : View.segments p.text = p.segments := by
  have hdots : ∀ cs ∈ p.segments.map String.toList, '.' ∉ cs := by
    simpa using p.noDot
  have hne : p.segments.map String.toList ≠ [] := by
    simpa using p.ne_nil
  rw [View.segments, text, String.toList_intercalate, show ".".toList = ['.'] from rfl,
    List.splitOn_intercalate '.' hdots hne, List.map_map]
  exact List.map_id'' (fun _ => String.ofList_toList) _

end FieldPath

/-- The error of a path as it is when the path goes on behind another one. -/
def PathError.behind (p : FieldPath) : PathError → PathError
  | missingField name index => missingField name (p.segments.length + index)
  | notARecord name index => notARecord name (p.segments.length + index)
  | notAString path found => notAString (p.text ++ "." ++ path) found

namespace View

theorem segments_join (p q : String) : segments (p ++ "." ++ q) = segments p ++ segments q := by
  have hpath : (p ++ "." ++ q).toList = p.toList ++ '.' :: q.toList := by simp
  rw [segments, hpath, List.splitOn_append_cons_self, List.map_append]
  rfl

theorem segments_eq_singleton_iff {path name : String} :
    segments path = [name] ↔ '.' ∉ path.toList ∧ path = name := by
  constructor
  · intro h
    have hdot : '.' ∉ path.toList := by
      intro hm
      obtain ⟨before, after, hpath⟩ := List.append_of_mem hm
      have hlength := congrArg List.length h
      rw [segments, hpath, List.splitOn_append_cons_self, List.length_map, List.length_append] at hlength
      have hbefore := List.length_pos_iff.2 (List.splitOn_ne_nil '.' before)
      have hafter := List.length_pos_iff.2 (List.splitOn_ne_nil '.' after)
      simp only [List.length_singleton] at hlength
      omega
    refine ⟨hdot, ?_⟩
    rw [segments, List.splitOn_eq_singleton hdot] at h
    simpa using h
  · rintro ⟨hdot, rfl⟩
    simp [segments, List.splitOn_eq_singleton hdot]

/-! ## Where segments lead -/

/-- Each segment names a field of the record that those before it lead to. -/
inductive Leads : View → List String → View → Prop where
  | here (v : View) : Leads v [] v
  | down {fields : List (String × View)} {name : String} {field v : View} {rest : List String} :
    fields.lookup name = some field → Leads field rest v → Leads (record fields) (name :: rest) v

/-- The segment at which a walk stops, with the number of those before it: they lead to a record that
does not have the field, or to what is no record. -/
inductive Stops (r : View) : List String → PathError → Prop where
  | missing (before after : List String) {fields : List (String × View)} {name : String} :
    r.Leads before (record fields) → fields.lookup name = none →
      Stops r (before ++ name :: after) (.missingField name before.length)
  | blocked (before after : List String) {v : View} {name : String} :
    r.Leads before v → (∀ fields, v ≠ record fields) →
      Stops r (before ++ name :: after) (.notARecord name before.length)

variable {r v : View} {p : FieldPath} {e : PathError}

theorem Leads.append {w : View} {before after : List String} (h : r.Leads before v)
    (h' : v.Leads after w) : r.Leads (before ++ after) w := by
  induction h with
  | here v => exact h'
  | down hf _ ih => exact .down hf (ih h')

theorem Stops.append {names : List String} (h : r.Stops names e) (more : List String) :
    r.Stops (names ++ more) e := by
  cases h with
  | missing before after hl hf =>
    rw [List.append_assoc, List.cons_append]
    exact .missing before (after ++ more) hl hf
  | blocked before after hl hv =>
    rw [List.append_assoc, List.cons_append]
    exact .blocked before (after ++ more) hl hv

theorem Stops.behind {names : List String} (h : v.Stops names e) (hp : r.Leads p.segments v) :
    r.Stops (p.segments ++ names) (e.behind p) := by
  cases h with
  | missing before after hl hf =>
    rw [← List.append_assoc, PathError.behind, ← List.length_append]
    exact .missing _ after (hp.append hl) hf
  | blocked before after hl hv =>
    rw [← List.append_assoc, PathError.behind, ← List.length_append]
    exact .blocked _ after (hp.append hl) hv

/-- Segments lead somewhere or the walk stops. -/
theorem leads_or_stops (r : View) (names : List String) :
    (∃ v, r.Leads names v) ∨ ∃ e, r.Stops names e := by
  induction names generalizing r with
  | nil => exact .inl ⟨r, .here r⟩
  | cons name rest ih =>
    cases r with
    | text s => exact .inr ⟨_, .blocked [] rest (.here _) (by simp)⟩
    | other kind => exact .inr ⟨_, .blocked [] rest (.here _) (by simp)⟩
    | record fields =>
      cases hf : fields.lookup name with
      | none => exact .inr ⟨_, .missing [] rest (.here _) hf⟩
      | some field =>
        rcases ih field with ⟨v, hv⟩ | ⟨e, he⟩
        · exact .inl ⟨v, .down hf hv⟩
        · cases he with
          | missing before after hl hm => exact .inr ⟨_, .missing (name :: before) after (.down hf hl) hm⟩
          | blocked before after hl hv => exact .inr ⟨_, .blocked (name :: before) after (.down hf hl) hv⟩

/-! ## Walks -/

/-- A walk goes on from where the segments behind it lead. -/
theorem Leads.walk_append {names : List String} (h : r.Leads names v) (index : ℕ) (more : List String) :
    r.walk index (names ++ more) = v.walk (index + names.length) more := by
  induction h generalizing index with
  | here v => rfl
  | down hf _ ih =>
    rw [List.cons_append, View.walk, hf]
    dsimp only
    rw [ih, List.length_cons, Nat.add_assoc, Nat.add_comm 1]

theorem Leads.walk {names : List String} (h : r.Leads names v) : r.walk 0 names = .ok v := by
  have hwalk := h.walk_append 0 []
  rwa [List.append_nil, View.walk] at hwalk

theorem Stops.walk {names : List String} (h : r.Stops names e) : r.walk 0 names = .error e := by
  cases h with
  | missing before after hl hf => rw [hl.walk_append, Nat.zero_add, View.walk, hf]
  | @blocked before after v name hl hv =>
    rw [hl.walk_append, Nat.zero_add]
    cases v with
    | text s => rfl
    | other kind => rfl
    | record fields => exact absurd rfl (hv fields)

/-- What a path gives that leads here. -/
def read (path : String) : View → Except PathError String
  | text s => .ok s
  | found => .error (.notAString path found.kind)

theorem read_eq_ok_iff {path s : String} : v.read path = .ok s ↔ v = text s := by
  cases v <;> simp [read]

theorem read_eq_error_iff {path : String} :
    v.read path = .error e ↔ (∀ s, v ≠ text s) ∧ e = .notAString path v.kind := by
  cases v <;> simp [read, eq_comm]

theorem resolve_of_leads {path : String} (h : r.Leads (segments path) v) :
    r.resolve path = v.read path := by
  rw [resolve, h.walk]
  cases v <;> rfl

theorem resolve_of_stops {path : String} (h : r.Stops (segments path) e) :
    r.resolve path = .error e := by
  rw [resolve, h.walk]
  rfl

/-! ## Texts and errors -/

/-- A path gives the text that its segments lead to, and nothing else. -/
theorem resolve_ok_iff_leads {path s : String} :
    r.resolve path = .ok s ↔ r.Leads (segments path) (text s) := by
  constructor
  · intro h
    rcases leads_or_stops r (segments path) with ⟨v, hv⟩ | ⟨e, he⟩
    · rw [resolve_of_leads hv, read_eq_ok_iff] at h
      exact h ▸ hv
    · rw [resolve_of_stops he] at h
      cases h
  · exact fun h => resolve_of_leads h

theorem resolve_error_iff {path : String} :
    r.resolve path = .error e ↔ r.Stops (segments path) e ∨
      ∃ v, r.Leads (segments path) v ∧ (∀ s, v ≠ text s) ∧ e = .notAString path v.kind := by
  constructor
  · intro h
    rcases leads_or_stops r (segments path) with ⟨v, hv⟩ | ⟨e', he⟩
    · rw [resolve_of_leads hv, read_eq_error_iff] at h
      exact .inr ⟨v, hv, h⟩
    · rw [resolve_of_stops he] at h
      cases h
      exact .inl he
  · rintro (he | ⟨v, hv, h⟩)
    · exact resolve_of_stops he
    · rw [resolve_of_leads hv, read_eq_error_iff]
      exact h

/-- What stands behind a path is resolved from where this leads. -/
theorem resolve_behind (hp : r.Leads p.segments v) (path : String) :
    r.resolve (p.text ++ "." ++ path) = (v.resolve path).mapError (·.behind p) := by
  have hsegments : segments (p.text ++ "." ++ path) = p.segments ++ segments path := by
    rw [segments_join, p.segments_text]
  rcases leads_or_stops v (segments path) with ⟨w, hw⟩ | ⟨e, he⟩
  · have hw' : r.Leads (segments (p.text ++ "." ++ path)) w := hsegments ▸ hp.append hw
    rw [resolve_of_leads hw', resolve_of_leads hw]
    cases w <;> rfl
  · have he' : r.Stops (segments (p.text ++ "." ++ path)) (e.behind p) := hsegments ▸ he.behind hp
    rw [resolve_of_stops he', resolve_of_stops he]
    rfl

/-! ## Maps -/

theorem leads_ofEntries_iff {m : StringMap String} {names : List String} {s : String} :
    (ofEntries m.entries).Leads names (text s) ↔ ∃ key, names = [key] ∧ m.get? key = some s := by
  have hlookup : ∀ key, (m.entries.map fun e => (e.1, text e.2)).lookup key = (m.get? key).map text :=
    StringMap.lookup_map text m.entries
  constructor
  · intro h
    cases h with
    | @down _ name field _ rest hf hrest =>
      obtain ⟨t, ht, rfl⟩ := Option.map_eq_some_iff.1 ((hlookup name).symm.trans hf)
      cases hrest
      exact ⟨name, rfl, ht⟩
  · rintro ⟨key, rfl, hs⟩
    refine .down ?_ (.here _)
    exact (hlookup key).trans (congrArg (Option.map text) hs)

/-- A map gives the texts of the keys without a dot. -/
theorem resolve_ofEntries_iff {m : StringMap String} {path s : String} :
    (ofEntries m.entries).resolve path = .ok s ↔ '.' ∉ path.toList ∧ m.get? path = some s := by
  rw [resolve_ok_iff_leads, leads_ofEntries_iff]
  constructor
  · rintro ⟨key, hpath, hs⟩
    obtain ⟨hdot, rfl⟩ := segments_eq_singleton_iff.1 hpath
    exact ⟨hdot, hs⟩
  · rintro ⟨hdot, hs⟩
    exact ⟨path, segments_eq_singleton_iff.2 ⟨hdot, rfl⟩, hs⟩

/-- Some path gives the entry of a key, whatever text this holds, if and only if the key has no dot. -/
theorem exists_reads_iff (m : StringMap String) (key : String) :
    (∃ path, ∀ s, (ofEntries (m.insert key s).entries).resolve path = .ok s) ↔ '.' ∉ key.toList := by
  have hinsert : ∀ path s, (m.insert key s).get? path = if path = key then some s else m.get? path :=
    fun path s => StringMap.lookup_place key path s m.entries
  constructor
  · rintro ⟨path, h⟩
    obtain ⟨hdot, hempty⟩ := resolve_ofEntries_iff.1 (h "")
    obtain ⟨-, hother⟩ := resolve_ofEntries_iff.1 (h "a")
    have hkey : path = key := by
      by_contra hne
      rw [hinsert, if_neg hne] at hempty hother
      exact absurd (hempty.symm.trans hother) (by decide)
    exact hkey ▸ hdot
  · intro hdot
    refine ⟨key, fun s => resolve_ofEntries_iff.2 ⟨hdot, ?_⟩⟩
    rw [hinsert, if_pos rfl]

/-! ## Paths that go on -/

/-- A path that goes on behind another one gives what it gives from where this ends, with its errors as many
segments later; behind a value that is no record its first segment is to blame, and behind an error the
error stays. So a path gives the text at the end of its whole walk and nothing else, and of a map, wherever
it is, it gives the entries whose keys have no dot. -/
theorem resolve_composed (r : View) (p q : FieldPath) :
    (∀ fields, r.Leads p.segments (record fields) →
      r.resolve (p ++ q).text = ((record fields).resolve q.text).mapError (·.behind p)) ∧
    (∀ v, r.Leads p.segments v → (∀ fields, v ≠ record fields) →
      r.resolve (p ++ q).text = .error (.notARecord q.first p.segments.length)) ∧
    (∀ e, r.Stops p.segments e → r.resolve p.text = .error e ∧ r.resolve (p ++ q).text = .error e) ∧
    (∀ path s, r.resolve path = .ok s ↔ r.Leads (segments path) (text s)) ∧
    (∀ path e, r.resolve path = .error e ↔ r.Stops (segments path) e ∨
      ∃ v, r.Leads (segments path) v ∧ (∀ s, v ≠ text s) ∧ e = .notAString path v.kind) ∧
    (∀ m : StringMap String, r.Leads p.segments (ofEntries m.entries) → ∀ path s,
      r.resolve (p.text ++ "." ++ path) = .ok s ↔ '.' ∉ path.toList ∧ m.get? path = some s) ∧
    ∀ (m : StringMap String) (key : String),
      (∃ path, ∀ s, (ofEntries (m.insert key s).entries).resolve path = .ok s) ↔ '.' ∉ key.toList := by
  refine ⟨?_, ?_, ?_, fun path s => resolve_ok_iff_leads, fun path e => resolve_error_iff, ?_,
    exists_reads_iff⟩
  · intro fields hp
    rw [FieldPath.text_append, resolve_behind hp]
  · intro v hp hv
    have hq : q.segments = q.first :: q.segments.tail := (List.cons_head_tail q.ne_nil).symm
    have hstops : v.Stops q.segments (.notARecord q.first 0) := by
      rw [hq]
      exact .blocked [] _ (.here v) hv
    rw [← q.segments_text] at hstops
    rw [FieldPath.text_append, resolve_behind hp, resolve_of_stops hstops]
    rfl
  · intro e he
    have hq : r.Stops (segments (p ++ q).text) e := by
      rw [(p ++ q).segments_text]
      exact he.append q.segments
    rw [← p.segments_text] at he
    exact ⟨resolve_of_stops he, resolve_of_stops hq⟩
  · intro m hp path s
    rw [resolve_behind hp, ← resolve_ofEntries_iff]
    cases (ofEntries m.entries).resolve path <;> simp [Except.mapError]

/-- An event with a label whose name has a dot. -/
def taggedEvent : Event :=
  { message := "Created", metadata := { labels := .ofList [("app", "web"), ("app.io", "shop")] } }

theorem taggedEvent_composed :
    taggedEvent.view.Leads ["ObjectMeta", "Labels"] (ofEntries taggedEvent.metadata.labels.entries) ∧
    taggedEvent.view.Leads ["Message"] (text "Created") ∧
    taggedEvent.view.Stops ["Source", "Nase"] (.missingField "Nase" 1) ∧
    taggedEvent.view.resolve "ObjectMeta.Labels.app" = .ok "web" ∧
    taggedEvent.view.resolve "ObjectMeta.Labels.app.io" = .error (.notARecord "io" 3) ∧
    taggedEvent.view.resolve "Message.Length" = .error (.notARecord "Length" 1) ∧
    taggedEvent.view.resolve "Source.Nase.Length" = .error (.missingField "Nase" 1) := by
  have hlabels : taggedEvent.view.Leads ["ObjectMeta", "Labels"]
      (ofEntries taggedEvent.metadata.labels.entries) := .down rfl (.down rfl (.here _))
  have hmessage : taggedEvent.view.Leads ["Message"] (text "Created") := .down rfl (.here _)
  have hsource : taggedEvent.view.Stops ["Source", "Nase"] (.missingField "Nase" 1) :=
    .missing ["Source"] [] (.down rfl (.here _)) rfl
  obtain ⟨hbehind, -, -, -, -, hentries, -⟩ := resolve_composed taggedEvent.view
    ⟨["ObjectMeta", "Labels"], by simp, by decide⟩ ⟨["app", "io"], by simp, by decide⟩
  obtain ⟨-, hblocked, -⟩ := resolve_composed taggedEvent.view
    ⟨["Message"], by simp, by decide⟩ ⟨["Length"], by simp, by decide⟩
  obtain ⟨-, -, hstops, -⟩ := resolve_composed taggedEvent.view
    ⟨["Source", "Nase"], by simp, by decide⟩ ⟨["Length"], by simp, by decide⟩
  refine ⟨hlabels, hmessage, hsource, ?_, ?_, ?_, ?_⟩
  · exact (hentries taggedEvent.metadata.labels hlabels "app" "web").2 (by decide +kernel)
  · exact (hbehind _ hlabels).trans (by decide +kernel)
  · exact hblocked _ hmessage (by simp)
  · exact (hstops _ hsource).2

end View
end EventTally
