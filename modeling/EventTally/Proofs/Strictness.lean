import EventTally.Proofs.Encoding
import EventTally.Proofs.Layout
import EventTally.Rule.Compile

/-! Documents of rules are read strictly and without loss. `Definition.AllWritten` says which definitions are
written in a document; with a member of another name in any of its records none are. -/

namespace EventTally

/-! ## Members of a record -/

namespace Json

variable {α : Type} {names : List String} {j v : Json} {ms : List (String × Json)} {name : String} {absent a : α}
  {read : Json → Option α} {written : Json → α → Prop}

/-- The members of a record. It may be given as the array of their values, in the order of the names. -/
inductive Opens (names : List String) : Json → List (String × Json) → Prop
  | object {ms : List (String × Json)} (known : ∀ m ∈ ms, m.1 ∈ names) (distinct : (ms.map (·.1)).Nodup) :
      Opens names (.obj ms) ms
  | array {ms : List (String × Json)} (first : ms.map (·.1) <+: names) : Opens names (.arr (ms.map (·.2))) ms

theorem Opens.nodup (hd : names.Nodup) (h : Opens names j ms) : (ms.map (·.1)).Nodup := by
  cases h with
  | object _ distinct => exact distinct
  | array first => exact first.sublist.nodup hd

theorem Opens.exists_name {items : List Json} (h : Opens names (.arr items) ms) (i : ℕ) (hv : items[i]? = some v) :
    ∃ name, names[i]? = some name ∧ (name, v) ∈ ms := by
  cases h with
  | array first =>
    rw [List.getElem?_map, Option.map_eq_some_iff] at hv
    obtain ⟨m, hm, rfl⟩ := hv
    obtain ⟨hi, rfl⟩ := List.getElem?_eq_some_iff.1 hm
    have hname := List.prefix_iff_getElem?.1 first i (by simpa using hi)
    rw [List.getElem_map] at hname
    exact ⟨_, hname, List.getElem_mem hi⟩

theorem strict?_obj (names : List String) (ms : List (String × Json)) : (obj ms).strict? names =
    if (∀ m ∈ ms, m.1 ∈ names) ∧ (ms.map (·.1)).Nodup then some ms else none := by
  by_cases hknown : ∀ m ∈ ms, m.1 ∈ names
  · have hall : ms.all fun m => names.contains m.1 := by simpa using hknown
    have hfilter : (ms.filter fun m => names.contains m.1) = ms := List.filter_eq_self.2 (by simpa using hknown)
    simp only [strict?, hall, if_true, knownMembers?, hfilter, noRepeats_iff, and_iff_right hknown]
  · have hall : ¬ ms.all fun m => names.contains m.1 := by simpa using hknown
    rw [strict?, if_neg hall, if_neg fun h => hknown h.1]

theorem zip_names_iff {items : List Json} : items.length ≤ names.length ∧ names.zip items = ms ↔
    ms.map (·.1) <+: names ∧ ms.map (·.2) = items := by
  constructor
  · rintro ⟨hlen, rfl⟩
    have hfirst : (names.zip items).map Prod.fst = names.take items.length := by
      rw [List.zip_eq_zip_take_min, Nat.min_eq_right hlen, List.take_length, List.map_fst_zip (by simp [hlen])]
    exact ⟨hfirst ▸ List.take_prefix _ _, List.map_snd_zip hlen⟩
  · rintro ⟨⟨rest, rfl⟩, rfl⟩
    refine ⟨by simp, ?_⟩
    induction ms with
    | nil => simp
    | cons m ms ih => simpa using ih

theorem strict?_eq_some_iff : j.strict? names = some ms ↔ Opens names j ms := by
  constructor
  · intro h
    cases j with
    | obj members =>
      rw [strict?_obj, Option.ite_none_right_eq_some, Option.some_inj] at h
      obtain ⟨⟨known, distinct⟩, rfl⟩ := h
      exact .object known distinct
    | arr items =>
      rw [strict?, known?, Option.ite_none_right_eq_some, Option.some_inj, zip_names_iff] at h
      · obtain ⟨first, rfl⟩ := h
        exact .array first
      · intro _ h
        cases h
    | _ => cases h
  · intro h
    cases h with
    | object known distinct => rw [strict?_obj, if_pos ⟨known, distinct⟩]
    | array first =>
      obtain ⟨hlen, hzip⟩ := zip_names_iff.2 ⟨first, rfl⟩
      rw [strict?, known?, if_pos hlen, hzip]
      intro _ h
      cases h

/-- What the members give for a name: what is written there, or the default if there is none of that name. -/
inductive Gives (ms : List (String × Json)) (name : String) (absent : α) (written : Json → α → Prop) : α → Prop
  | absent (none : name ∉ ms.map (·.1)) : Gives ms name absent written absent
  | present {v : Json} {a : α} (mem : (name, v) ∈ ms) (value : written v a) : Gives ms name absent written a

theorem Gives.of_mem (hd : (ms.map (·.1)).Nodup) (h : Gives ms name absent written a) (hv : (name, v) ∈ ms) :
    written v a := by
  cases h with
  | absent none => exact absurd (List.mem_map_of_mem hv) none
  | present mem value =>
    cases List.inj_on_of_nodup_map hd hv mem rfl
    exact value

theorem member?_eq_some_iff (hd : (ms.map (·.1)).Nodup) (hread : ∀ v a, read v = some a ↔ written v a) :
    Document.member? ms name absent read = some a ↔ Gives ms name absent written a := by
  unfold Document.member?
  cases hl : ms.lookup name with
  | some v =>
    have hv := StringMap.mem_of_lookup hl
    exact ⟨fun h => .present hv ((hread v a).1 h), fun h => (hread v a).2 (h.of_mem hd hv)⟩
  | none =>
    have hnone := StringMap.lookup_eq_none_iff.1 hl
    constructor
    · intro h
      cases h
      exact .absent hnone
    · rintro (_ | ⟨mem, -⟩)
      · rfl
      · exact absurd (List.mem_map_of_mem mem) hnone

theorem required?_eq_some_iff (hd : (ms.map (·.1)).Nodup) :
    Document.required? ms name read = some a ↔ ∃ v, (name, v) ∈ ms ∧ read v = some a := by
  simp only [Document.required?, Option.bind_eq_some_iff, StringMap.lookup_eq_some_iff hd]

/-! ## Values of members -/

/-- An array of values. -/
def Items (written : Json → α → Prop) (j : Json) (as : List α) : Prop :=
  ∃ items, j = .arr items ∧ List.Forall₂ written items as

inductive TextOrNull : Json → Option String → Prop
  | null : TextOrNull .null none
  | text (s : String) : TextOrNull (.str s) (some s)

/-- An object of texts, in which the last text of a key counts. -/
def Texts (j : Json) (m : StringMap String) : Prop :=
  ∃ entries : List (String × String), j = .obj (entries.map fun e => (e.1, .str e.2)) ∧ StringMap.ofList entries = m

theorem arr?_eq_some_iff {items : List Json} : j.arr? = some items ↔ j = .arr items := by
  cases j <;> simp [arr?]

theorem str?_eq_some_iff {s : String} : j.str? = some s ↔ j = .str s := by
  cases j <;> simp [str?]

theorem obj?_eq_some_iff : j.obj? = some ms ↔ j = .obj ms := by
  cases j <;> simp [obj?]

theorem mapM_eq_some_iff {items : List Json} {as : List α} (hread : ∀ v a, read v = some a ↔ written v a) :
    items.mapM read = some as ↔ List.Forall₂ written items as := by
  induction items generalizing as with
  | nil => cases as <;> simp
  | cons v items ih =>
    rw [List.mapM_cons]
    cases as <;> simp [Option.bind_eq_some_iff, hread, ih]

theorem list?_eq_some_iff {as : List α} (hread : ∀ v a, read v = some a ↔ written v a) :
    Document.list? read j = some as ↔ Items written j as := by
  change j.arr?.bind (·.mapM read) = some as ↔ _
  simp only [Option.bind_eq_some_iff, arr?_eq_some_iff, mapM_eq_some_iff hread, Items]

theorem textOrNull?_eq_some_iff {o : Option String} : Document.textOrNull? j = some o ↔ TextOrNull j o := by
  constructor
  · intro h
    cases j with
    | null =>
      cases h
      exact .null
    | str s =>
      cases h
      exact .text s
    | _ => cases h
  · rintro (_ | s) <;> rfl

theorem textEntries?_eq (ms : List (String × Json)) : textEntries? ms = stringEntries? ms := by
  induction ms with
  | nil => rfl
  | cons m ms ih =>
    obtain ⟨key, v⟩ := m
    cases v with
    | str s =>
      rw [stringEntries?, ← ih]
      change (textEntries? ms).bind (fun rest => some ((key, s) :: rest)) = _
      rw [Option.map_eq_bind]
      rfl
    | _ => rfl

theorem textMap?_eq (j : Json) : textMap? j = stringMap? j :=
  congrArg (fun f => (j.obj?.bind f).map StringMap.ofList) (funext textEntries?_eq)

theorem textMap?_eq_some_iff {m : StringMap String} : textMap? j = some m ↔ Texts j m := by
  rw [textMap?_eq, stringMap?, Option.map_eq_some_iff]
  simp only [Option.bind_eq_some_iff, obj?_eq_some_iff]
  constructor
  · rintro ⟨entries, ⟨ms, rfl, h⟩, rfl⟩
    exact ⟨entries, congrArg obj (Shape.stringEntries?_eq_some h), rfl⟩
  · rintro ⟨entries, rfl, rfl⟩
    exact ⟨entries, ⟨_, rfl, stringEntries?_map entries⟩, rfl⟩

/-- What holds of the members of a record that is read. -/
theorem record_eq_some_iff (names : List String) {ofMembers? : List (String × Json) → Option α}
    {holds : List (String × Json) → Prop} (hd : names.Nodup)
    (h : ∀ ms, (ms.map (·.1)).Nodup → (ofMembers? ms = some a ↔ holds ms)) :
    (j.strict? names).bind ofMembers? = some a ↔ ∃ ms, Opens names j ms ∧ holds ms := by
  rw [Option.bind_eq_some_iff]
  refine exists_congr fun ms => ?_
  rw [strict?_eq_some_iff]
  exact and_congr_right fun ho => h ms (ho.nodup hd)

end Json

/-! ## Definitions -/

open Json (Opens Gives Items TextOrNull Texts)

/-- The documents of a matcher. -/
def Matcher.Written (j : Json) (m : Matcher) : Prop :=
  ∃ ms, Opens ["key", "expr"] j ms ∧ ("key", .str m.key) ∈ ms ∧ Gives ms "expr" none TextOrNull m.expr

def Definition.Written (j : Json) (d : Definition) : Prop :=
  ∃ ms, Opens ["name", "event_matcher", "labels"] j ms ∧ ("name", .str d.name) ∈ ms ∧
    Gives ms "event_matcher" [] (Items Matcher.Written) d.matchers ∧ Gives ms "labels" .empty Texts d.labels

def Definition.AllWritten (j : Json) (ds : List Definition) : Prop :=
  ∃ ms, Opens ["metrics"] j ms ∧ Gives ms "metrics" [] (Items Definition.Written) ds

theorem Matcher.read?_eq_some_iff (j : Json) (m : Matcher) : read? j = some m ↔ Written j m := by
  refine Json.record_eq_some_iff ["key", "expr"] (by decide) fun ms hd => ?_
  obtain ⟨key, expr⟩ := m
  simp [Option.bind_eq_some_iff, Json.required?_eq_some_iff hd, Document.text?, Json.str?_eq_some_iff,
    Json.member?_eq_some_iff hd fun _ _ => Json.textOrNull?_eq_some_iff]

theorem Definition.read?_eq_some_iff (j : Json) (d : Definition) : read? j = some d ↔ Written j d := by
  refine Json.record_eq_some_iff ["name", "event_matcher", "labels"] (by decide) fun ms hd => ?_
  obtain ⟨name, matchers, labels⟩ := d
  simp [Option.bind_eq_some_iff, Json.required?_eq_some_iff hd, Document.text?, Json.str?_eq_some_iff,
    Json.member?_eq_some_iff hd fun _ _ => Json.list?_eq_some_iff Matcher.read?_eq_some_iff,
    Json.member?_eq_some_iff hd fun _ _ => Json.textMap?_eq_some_iff]

theorem Definition.readAll?_eq_some_iff (j : Json) (ds : List Definition) :
    readAll? j = some ds ↔ AllWritten j ds :=
  Json.record_eq_some_iff ["metrics"] (by decide) fun _ hd =>
    Json.member?_eq_some_iff hd fun _ _ => Json.list?_eq_some_iff Definition.read?_eq_some_iff

/-! ## Members of other names -/

open Layout (leaf list record)

/-- A member that must be given. -/
def Member.required (name : String) : Member Layout := ⟨name, fun _ => False, leaf⟩

def Matcher.layout : Layout :=
  record [.required "key", .of "expr" none Document.textOrNull? leaf]

def Definition.layout : Layout :=
  record [.required "name", .of "event_matcher" [] (Document.list? Matcher.read?) (list Matcher.layout),
    .of "labels" .empty textMap? leaf]

/-- The layout of a document of rules. -/
def Definition.documentLayout : Layout :=
  record [.of "metrics" [] (Document.list? read?) (list layout)]

/-- A record in a value gets a member of a name that it does not know. -/
inductive Adds : Layout → Json → Json → Prop
  | here {known : List (Member Layout)} {before after : List (String × Json)} {name : String} {v : Json}
      (unknown : name ∉ (record known).names) :
      Adds (record known) (.obj (before ++ after)) (.obj (before ++ (name, v) :: after))
  | member {l : Layout} {before after : List (String × Json)} {name : String} {v v' : Json}
      (inside : Adds (l.member name) v v') :
      Adds l (.obj (before ++ (name, v) :: after)) (.obj (before ++ (name, v') :: after))
  | item {l : Layout} {before after : List Json} {v v' : Json} (inside : Adds (l.item before.length) v v') :
      Adds l (.arr (before ++ v :: after)) (.arr (before ++ v' :: after))

namespace Adds

variable {α : Type} {l : Layout} {known : List (Member Layout)} {ms : List (String × Json)} {j j' : Json}
  {written : Json → α → Prop}

theorem not_leaf : ¬ Adds leaf j j' := by
  intro h
  generalize hl : leaf = l at h
  induction h with
  | here => cases hl
  | member _ ih | item _ ih =>
    subst hl
    exact ih rfl

/-- In a record that is opened, the member stands in one of those that the record knows. -/
theorem of_opens (hd : (record known).names.Nodup) (h : Adds (record known) j j')
    (ho : Opens (record known).names j' ms) : ∃ m ∈ known, ∃ v v', (m.name, v') ∈ ms ∧ Adds m.layout v v' := by
  cases h with
  | @here _ before after name v unknown =>
    cases ho with
    | object hknown => exact absurd (hknown (name, v) (by simp)) unknown
  | @member _ before after name v v' inside =>
    cases ho with
    | object hknown =>
      obtain ⟨m, hm, rfl⟩ := List.mem_map.1 (hknown (name, v') (by simp))
      rw [Layout.member_of_mem hd hm] at inside
      exact ⟨m, hm, v, v', by simp, inside⟩
  | @item _ before after v v' inside =>
    -- an array has no names of its own: the place of the value says which member it is
    obtain ⟨name, hname, hv⟩ := ho.exists_name (v := v') before.length (by simp)
    rw [Layout.names, List.getElem?_map, Option.map_eq_some_iff] at hname
    obtain ⟨m, hm, rfl⟩ := hname
    rw [Layout.item, hm] at inside
    exact ⟨m, List.mem_of_getElem? hm, v, v', hv, inside⟩

theorem of_items (h : Adds (list l) j j') {as : List α} (hi : Items written j' as) :
    ∃ v v' a, Adds l v v' ∧ written v' a := by
  obtain ⟨items, rfl, hall⟩ := hi
  cases h with
  | @item _ before after v v' inside =>
    obtain ⟨hlen, hget⟩ := List.forall₂_iff_get.1 hall
    have hi : before.length < (before ++ v' :: after).length := by simp
    have hv := hget before.length hi (hlen ▸ hi)
    rw [List.get_eq_getElem, List.getElem_append_right le_rfl] at hv
    exact ⟨v, v', _, inside, by simpa using hv⟩

end Adds

theorem Matcher.not_written {j j' : Json} {m : Matcher} (h : Adds layout j j') : ¬ Written j' m := by
  rintro ⟨ms, ho, -⟩
  obtain ⟨m, hm, v, v', -, inside⟩ := h.of_opens (by decide) ho
  simp only [List.mem_cons, List.not_mem_nil, or_false] at hm
  obtain rfl | rfl := hm <;> exact Adds.not_leaf inside

theorem Definition.not_written {j j' : Json} {d : Definition} (h : Adds layout j j') : ¬ Written j' d := by
  rintro ⟨ms, ho, -, hmatchers, -⟩
  obtain ⟨m, hm, v, v', hv, inside⟩ := h.of_opens (by decide) ho
  simp only [List.mem_cons, List.not_mem_nil, or_false] at hm
  -- only the matchers are records again
  obtain rfl | rfl | rfl := hm
  · exact Adds.not_leaf inside
  · obtain ⟨_, _, _, hadds, hwritten⟩ := Adds.of_items inside (hmatchers.of_mem (ho.nodup (by decide)) hv)
    exact Matcher.not_written hadds hwritten
  · exact Adds.not_leaf inside

theorem Definition.not_allWritten {j j' : Json} {ds : List Definition} (h : Adds documentLayout j j') :
    ¬ AllWritten j' ds := by
  rintro ⟨ms, ho, hds⟩
  obtain ⟨m, hm, v, v', hv, inside⟩ := h.of_opens (by decide) ho
  obtain rfl := List.mem_singleton.1 hm
  obtain ⟨_, _, _, hadds, hwritten⟩ := Adds.of_items inside (hds.of_mem (ho.nodup (by decide)) hv)
  exact Definition.not_written hadds hwritten

/-! ## Documents that are written -/

namespace Json

variable {α : Type}

theorem list?_map {read : Json → Option α} {write : α → Json} (h : ∀ a, read (write a) = some a) (as : List α) :
    Document.list? read (.arr (as.map write)) = some as := by
  have hall : List.Forall₂ (fun v a => read v = some a) (as.map write) as :=
    List.forall₂_map_left_iff.2 (List.forall₂_same.2 fun a _ => h a)
  exact (list?_eq_some_iff fun _ _ => Iff.rfl).2 ⟨_, rfl, hall⟩

theorem exact_list {write : α → Json} (h : ∀ a, (write a).Exact) (as : List α) : (arr (as.map write)).Exact := by
  apply Exact.arr
  intro j hj
  obtain ⟨a, -, rfl⟩ := List.mem_map.1 hj
  exact h a

end Json

theorem Matcher.read?_toJson (m : Matcher) : read? m.toJson = some m := by
  obtain ⟨key, expr⟩ := m
  cases expr <;> rfl

theorem Matcher.exact_toJson (m : Matcher) : m.toJson.Exact := by
  obtain ⟨key, expr⟩ := m
  apply Json.Exact.obj
  cases expr <;> simp [Json.Exact.str]

theorem Definition.read?_toJson (d : Definition) : read? d.toJson = some d := by
  change (Document.list? Matcher.read? (Json.arr (d.matchers.map Matcher.toJson))).bind (fun matchers =>
    (textMap? (Json.ofStringMap d.labels)).bind fun labels => some { d with matchers, labels }) = some d
  rw [Json.list?_map Matcher.read?_toJson, Json.textMap?_eq, Json.stringMap?_ofStringMap]
  rfl

theorem Definition.exact_toJson (d : Definition) : d.toJson.Exact := by
  apply Json.Exact.obj
  simp only [List.forall_mem_cons]
  exact ⟨.str _, Json.exact_list Matcher.exact_toJson _, Json.exact_ofStringMap _, nofun⟩

theorem Definition.decode?_encode (ds : List Definition) :
    Json.decode? readAll? (Json.encode allToJson ds) = some ds := by
  have hexact : (allToJson ds).Exact := .obj (by simpa using Json.exact_list exact_toJson ds)
  rw [Json.decode?, Json.encode, hexact.ofBytes?_render, Option.bind_some]
  exact Json.list?_map read?_toJson ds

/-- A document gives just the definitions that are written in it. It gives none if any of its records gets a
member of another name, and definitions that were read are the same, and compile alike, when they are read from
the text that is written for them. -/
theorem Definition.readAll?_strict :
    (∀ (j : Json) (ds : List Definition), readAll? j = some ds ↔ AllWritten j ds) ∧
    (∀ j j' : Json, Adds documentLayout j j' → readAll? j' = none) ∧
    ∀ (j : Json) (ds : List Definition), readAll? j = some ds →
      Json.decode? readAll? (Json.encode allToJson ds) = some ds ∧
      (Json.decode? readAll? (Json.encode allToJson ds)).map Rule.compile = (readAll? j).map Rule.compile := by
  refine ⟨readAll?_eq_some_iff, fun j j' hadds => ?_, fun j ds hread => ?_⟩
  · rw [Option.eq_none_iff_forall_not_mem]
    exact fun ds hread => not_allWritten hadds ((readAll?_eq_some_iff j' ds).1 hread)
  · rw [decode?_encode, hread]
    exact ⟨rfl, rfl⟩

/-- A metric for pods, with further members. -/
def Definition.podMetric (further : List (String × Json)) : Json :=
  .obj [("metrics", .arr [.obj (("name", .str "pods") :: further ++ [("event_matcher", .arr [.obj
    [("key", .str "Kind"), ("expr", .str "Pod")]])])])]

theorem Definition.readAll?_podMetric :
    readAll? (podMetric []) = some [⟨"pods", [⟨"Kind", some "Pod"⟩], .empty⟩] ∧
    Json.decode? readAll? (Json.encode allToJson [⟨"pods", [⟨"Kind", some "Pod"⟩], .empty⟩]) =
      readAll? (podMetric []) ∧
    readAll? (podMetric [("label", .obj [])]) = none := by
  have hread : readAll? (podMetric []) = some [⟨"pods", [⟨"Kind", some "Pod"⟩], .empty⟩] := rfl
  have hadds : Adds documentLayout (podMetric []) (podMetric [("label", .obj [])]) :=
    @Adds.member _ [] [] _ _ _ (@Adds.item _ [] [] _ _ (@Adds.here _ [_] [_] _ _ (by decide)))
  exact ⟨hread, (readAll?_strict.2.2 _ _ hread).1.trans hread.symm, readAll?_strict.2.1 _ _ hadds⟩

end EventTally
