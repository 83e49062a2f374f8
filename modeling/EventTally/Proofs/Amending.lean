import EventTally.Proofs.Layout

/-! Readers of records look only at the members that they know. An event, a pod or a list of events stays the
same through any edits that its layout allows, and a repeated member is refused wherever a record has it. -/

namespace EventTally

open Layout

/-- A reader of values of a layout passes over edits, and refuses repeated members. -/
structure Respects {α : Type} (room : ℕ) (l : Layout) (read : Json → Option α) : Prop where
  keeps : ∀ {j j' a}, Edit room l j j' → read j = some a → read j' = some a
  refuses : ∀ {j}, Repeats l j → read j = none

/-! ## Values without records -/

theorem Json.stringEntries?_perm {members members' : List (String × Json)} (hp : members.Perm members')
    {entries : List (String × String)} (h : stringEntries? members = some entries) :
    ∃ entries', stringEntries? members' = some entries' ∧ entries.Perm entries' := by
  induction hp generalizing entries with
  | nil => exact ⟨entries, h, .refl _⟩
  | cons m _ ih =>
    obtain ⟨key, v⟩ := m
    cases v <;> simp only [stringEntries?, Option.map_eq_some_iff, reduceCtorEq] at h
    obtain ⟨rest, hrest, rfl⟩ := h
    obtain ⟨rest', hrest', hperm⟩ := ih hrest
    exact ⟨_, by rw [stringEntries?, hrest', Option.map_some], hperm.cons _⟩
  | swap m m' members =>
    obtain ⟨key, v⟩ := m
    obtain ⟨key', v'⟩ := m'
    cases v' <;> simp only [stringEntries?, Option.map_eq_some_iff, reduceCtorEq] at h
    obtain ⟨rest, hrest, rfl⟩ := h
    cases v <;> simp only [stringEntries?, Option.map_eq_some_iff, reduceCtorEq] at hrest
    obtain ⟨rest, hrest, rfl⟩ := hrest
    exact ⟨_, by rw [stringEntries?, stringEntries?, hrest, Option.map_some, Option.map_some], .swap _ _ _⟩
  | trans _ _ ih ih' =>
    obtain ⟨entries₁, h₁, hperm₁⟩ := ih h
    obtain ⟨entries₂, h₂, hperm₂⟩ := ih' h₁
    exact ⟨entries₂, h₂, hperm₁.trans hperm₂⟩

theorem Json.optional_of_ne_null {α : Type} {read : Json → Option α} {j : Json} (h : j ≠ null) :
    optional read j = (read j).map some := by
  cases j <;> first | rfl | exact absurd rfl h

theorem Edit.ne_null {room : ℕ} {l : Layout} {j j' : Json} (h : Edit room l j j') :
    j ≠ .null ∧ j' ≠ .null := by
  cases h <;> exact ⟨nofun, nofun⟩

theorem Repeats.ne_null {l : Layout} {j : Json} (h : Repeats l j) : j ≠ .null := by
  cases h <;> nofun

namespace Respects

variable {α : Type} {room : ℕ} {l : Layout} {read : Json → Option α}

theorem of_plain (harr : ∀ items, read (.arr items) = none) (hobj : ∀ members, read (.obj members) = none) :
    Respects room leaf read where
  keeps h ha := by cases h <;> simp_all
  refuses h := absurd h Repeats.not_leaf

theorem str : Respects room leaf Json.str? := of_plain (fun _ => rfl) fun _ => rfl

theorem between (low high : ℤ) : Respects room leaf (Json.between? low high) :=
  of_plain (fun _ => rfl) fun _ => rfl

theorem optional (h : Respects room l read) : Respects room l (Json.optional read) where
  keeps {j j' a} he ha := by
    rw [Json.optional_of_ne_null he.ne_null.1] at ha
    rw [Json.optional_of_ne_null he.ne_null.2]
    obtain ⟨b, hb, rfl⟩ := Option.map_eq_some_iff.1 ha
    rw [h.keeps he hb, Option.map_some]
  refuses hr := by rw [Json.optional_of_ne_null hr.ne_null, h.refuses hr, Option.map_none]

theorem instant : Respects room leaf (Json.optional Json.timestamp?) :=
  optional (of_plain (fun _ => rfl) fun _ => rfl)

theorem texts : Respects room leaf Json.stringMap? where
  keeps {j j' a} h ha := by
    cases h with
    | @reorder _ _ members members' distinct perm =>
      obtain ⟨entries, hentries, rfl⟩ := Option.map_eq_some_iff.1 ha
      obtain ⟨entries', hentries', hperm⟩ := Json.stringEntries?_perm perm hentries
      rw [Json.stringMap?, Json.obj?, Option.bind_some, hentries', Option.map_some, Option.some_inj]
      rw [Shape.stringEntries?_eq_some hentries, List.map_map] at distinct
      exact StringMap.ofList_perm distinct hperm
    | @member _ _ before after name v v' inside =>
      -- the value of the member is a text, which has nothing in it
      obtain ⟨entries, hentries, rfl⟩ := Option.map_eq_some_iff.1 ha
      have hmem : (name, v) ∈ before ++ (name, v) :: after := by simp
      rw [Shape.stringEntries?_eq_some hentries] at hmem
      obtain ⟨e, -, he⟩ := List.mem_map.1 hmem
      cases he
      cases inside
    | item => cases ha
  refuses h := absurd h Repeats.not_leaf

theorem list (h : Respects (room - 1) l read) :
    Respects room (list l) fun j => j.arr?.bind fun items => items.mapM read where
  keeps {j j' a} he ha := by
    cases he with
    | reorder | member => cases ha
    | @item _ _ before after v v' inside =>
      simp only [Json.arr?, Option.bind_some, List.mapM_append, List.mapM_cons, Option.bind_eq_bind,
        Option.bind_eq_some_iff] at ha ⊢
      obtain ⟨bs, hbs, cs, ⟨c, hc, hcs⟩, ha⟩ := ha
      exact ⟨bs, hbs, cs, ⟨c, h.keeps inside hc, hcs⟩, ha⟩
  refuses {j} hr := by
    cases hr with
    | here | member => rfl
    | @item _ before after v inside =>
      simp only [Json.arr?, Option.bind_some, List.mapM_append, List.mapM_cons, Option.bind_eq_bind,
        h.refuses inside, Option.bind_none, Option.bind_fun_none]

end Respects

/-! ## Records -/

theorem Json.field_eq {α : Type} (fs : List (String × Json)) (name : String) (absent : α)
    (read : Json → Option α) : field fs name absent read = (fs.lookup name).elim (some absent) read := by
  rw [field]
  cases fs.lookup name <;> rfl

theorem Respects.keeps_member {α : Type} {room : ℕ} {l : Layout} {read : Json → Option α} {name : String}
    {absent a : α} {o o' : Option Json} (h : Respects room l read)
    (he : (Member.of name absent read l).Edited room o o') (ha : o.elim (some absent) read = some a) :
    o'.elim (some absent) read = some a := by
  cases he with
  | same => exact ha
  | inside edit => exact h.keeps edit ha
  | dropped default => exact default.symm.trans ha

/-- A reader of the members of a record: one member after the other, each with its default. -/
inductive ReadsMembers (room : ℕ) {α : Type} :
    List (Member Layout) → (List (String × Json) → Option α) → Prop
  | nil (a : α) : ReadsMembers room [] fun _ => some a
  | cons {β : Type} {name : String} {absent : β} {read : Json → Option β} {l : Layout}
      {known : List (Member Layout)} {next : β → List (String × Json) → Option α}
      (respects : Respects room l read) (rest : ∀ b, ReadsMembers room known (next b)) :
      ReadsMembers room (.of name absent read l :: known) fun fs =>
        (Json.field fs name absent read).bind fun b => next b fs

namespace ReadsMembers

variable {α β : Type} {room : ℕ} {known known' : List (Member Layout)}
  {take : List (String × Json) → Option α} {fs fs' : List (String × Json)}

theorem append {next : α → List (String × Json) → Option β} (h : ReadsMembers room known take)
    (hnext : ∀ a, ReadsMembers room known' (next a)) :
    ReadsMembers room (known ++ known') fun fs => (take fs).bind fun a => next a fs := by
  induction h with
  | nil a => exact hnext a
  | cons respects _ ih =>
    simp only [Option.bind_assoc]
    exact .cons respects ih

theorem keeps (h : ReadsMembers room known take)
    (hedited : ∀ m ∈ known, m.Edited room (fs.lookup m.name) (fs'.lookup m.name)) {a : α}
    (ha : take fs = some a) : take fs' = some a := by
  induction h with
  | nil => exact ha
  | cons respects _ ih =>
    obtain ⟨hfirst, hedited⟩ := List.forall_mem_cons.1 hedited
    obtain ⟨b, hb, ha⟩ := Option.bind_eq_some_iff.1 ha
    rw [Json.field_eq] at hb
    refine Option.bind_eq_some_iff.2 ⟨b, ?_, ih b hedited ha⟩
    rw [Json.field_eq]
    exact respects.keeps_member hfirst hb

theorem refuses (h : ReadsMembers room known take) {m : Member Layout} (hm : m ∈ known) {v : Json}
    (hv : fs.lookup m.name = some v) (hr : Repeats m.layout v) : take fs = none := by
  induction h with
  | nil => cases hm
  | cons respects _ ih =>
    refine Option.bind_eq_none_iff.2 fun b hb => ?_
    rcases List.mem_cons.1 hm with rfl | hm
    · rw [Member.name_of] at hv
      rw [Json.field_eq, hv, Option.elim_some, respects.refuses hr] at hb
      cases hb
    · exact ih b hm

end ReadsMembers

section

variable {α : Type} {room : ℕ} {known : List (Member Layout)} {names : List String} {read : Json → Option α}
  {take : List (String × Json) → Option α} {j j' : Json} {fs : List (String × Json)}

/-- A reader that opens a record and then takes its members. -/
theorem Respects.of_opens {opens : Json → Option (List (String × Json))}
    (hread : ∀ j, read j = (opens j).bind take) (h : ReadsMembers (room - 1) known take)
    (hedit : ∀ {j j' fs}, Edit room (record known) j j' → opens j = some fs →
      ∃ fs', opens j' = some fs' ∧ ∀ m ∈ known, m.Edited (room - 1) (fs.lookup m.name) (fs'.lookup m.name))
    (hrepeats : ∀ {j fs}, Repeats (record known) j → opens j = some fs →
      ∃ m ∈ known, ∃ v, fs.lookup m.name = some v ∧ Repeats m.layout v) :
    Respects room (record known) read where
  keeps {j j' a} he ha := by
    rw [hread] at ha ⊢
    obtain ⟨fs, hfs, ha⟩ := Option.bind_eq_some_iff.1 ha
    obtain ⟨fs', hfs', hedited⟩ := hedit he hfs
    rw [hfs', Option.bind_some]
    exact h.keeps hedited ha
  refuses {j} hr := by
    rw [hread, Option.bind_eq_none_iff]
    intro fs hfs
    obtain ⟨m, hm, v, hv, hinside⟩ := hrepeats hr hfs
    exact h.refuses hm hv hinside

/-- Records whose other members are skipped. -/
theorem Respects.of_known (hn : (record known).names = names) (hd : names.Nodup)
    (hread : ∀ j, read j = (j.known? names).bind take) (h : ReadsMembers (room - 1) known take) :
    Respects room (record known) read := by
  subst hn
  exact .of_opens hread h (fun he => he.known? hd) fun hr => hr.known? hd

theorem Layout.names_headed :
    (record (TypeMeta.members ++ known)).names = TypeMeta.names ++ (record known).names := List.map_append

/-- No record stands in a header. -/
theorem Layout.member_headed {name : String} (h : name ∉ (record known).names) :
    (record (TypeMeta.members ++ known)).member name = leaf := by
  have hheader : ∀ m ∈ TypeMeta.members, m.layout = leaf := by
    rw [TypeMeta.members, List.forall_mem_cons, List.forall_mem_singleton]
    exact ⟨rfl, rfl⟩
  rw [member, List.find?_append, find?_unknown h, Option.or_none]
  cases hm : TypeMeta.members.find? (·.name = name) with
  | none => rfl
  | some m => exact hheader m (List.mem_of_find?_eq_some hm)

theorem Json.headed?_eq_some_iff :
    j.headed? names room = some fs ↔ ∃ members, j = .obj members ∧
      (∀ m ∈ members, m.1 ∈ names ∨ m.2.storable room) ∧
      j.known? (TypeMeta.names ++ names) = some fs := by
  cases j <;> simp [headed?, known?]

/-- What stands in no record can be set aside after an edit if it could be before. -/
theorem Edit.settable {l : Layout} {members members' : List (String × Json)}
    (h : Edit (room + 1) l (.obj members) (.obj members')) (hl : ∀ name ∉ names, l.member name = leaf)
    (hs : ∀ m ∈ members, m.1 ∈ names ∨ m.2.storable room) :
    ∀ m ∈ members', m.1 ∈ names ∨ m.2.storable room := by
  cases h with
  | reorder _ perm => exact fun m hm => hs m (perm.mem_iff.2 hm)
  | add _ readable shallow =>
    rw [List.forall_mem_append] at hs
    rw [List.forall_mem_append, List.forall_mem_cons]
    exact ⟨hs.1, .inr ((Json.storable_iff _ _).2 ⟨readable, Nat.lt_succ_iff.1 shallow⟩), hs.2⟩
  | drop =>
    rw [List.forall_mem_append, List.forall_mem_cons] at hs
    rw [List.forall_mem_append]
    exact ⟨hs.1, hs.2.2⟩
  | @member _ _ before after name v v' inside =>
    rw [List.forall_mem_append, List.forall_mem_cons] at hs ⊢
    refine ⟨hs.1, ?_, hs.2.2⟩
    by_cases hn : name ∈ names
    · exact .inl hn
    · rw [hl name hn] at inside
      exact .inr (inside.storable (hs.2.1.resolve_left hn))

theorem Edit.headed? (hd : (TypeMeta.names ++ (record known).names).Nodup)
    (h : Edit (room + 1) (record (TypeMeta.members ++ known)) j j')
    (hfs : j.headed? (record known).names room = some fs) :
    ∃ fs', j'.headed? (record known).names room = some fs' ∧
      ∀ m ∈ TypeMeta.members ++ known, m.Edited room (fs.lookup m.name) (fs'.lookup m.name) := by
  obtain ⟨members, rfl, hs, hknown⟩ := Json.headed?_eq_some_iff.1 hfs
  rw [← names_headed] at hd hknown
  obtain ⟨fs', hfs', hedited⟩ := h.known? hd hknown
  have hc := Json.isSome_knownMembers?_iff.1 (Option.isSome_of_eq_some hknown)
  obtain ⟨members', rfl, -, -⟩ := h.edited_obj hd hc
  have hs' := h.settable (fun name => member_headed) hs
  rw [names_headed] at hfs'
  exact ⟨fs', Json.headed?_eq_some_iff.2 ⟨members', rfl, hs', hfs'⟩, hedited⟩

theorem Repeats.headed? (hd : (TypeMeta.names ++ (record known).names).Nodup)
    (h : Repeats (record (TypeMeta.members ++ known)) j)
    (hfs : j.headed? (record known).names room = some fs) :
    ∃ m ∈ TypeMeta.members ++ known, ∃ v, fs.lookup m.name = some v ∧ Repeats m.layout v := by
  obtain ⟨-, -, -, hknown⟩ := Json.headed?_eq_some_iff.1 hfs
  rw [← names_headed] at hd hknown
  exact h.known? hd hknown

/-- Records whose other members are set aside. -/
theorem Respects.of_headed (hn : (record known).names = names) (hd : (TypeMeta.names ++ names).Nodup)
    (hread : ∀ j, read j = (j.headed? names room).bind take)
    (h : ReadsMembers room (TypeMeta.members ++ known) take) :
    Respects (room + 1) (record (TypeMeta.members ++ known)) read := by
  subst hn
  exact .of_opens hread h (fun he => he.headed? hd) fun hr => hr.headed? hd

end

/-! ## The records of a cluster -/

theorem ObjectMeta.respects (room : ℕ) : Respects room layout ofJson? :=
  .of_known rfl (by decide) (fun _ => rfl) <| .cons .str fun _ => .cons .str fun _ => .cons .str fun _ =>
    .cons .str fun _ => .cons .str fun _ => .cons (.between _ _) fun _ => .cons .instant fun _ =>
    .cons .texts fun _ => .cons .texts fun _ => .nil _

theorem ObjectReference.respects (room : ℕ) : Respects room layout ofJson? :=
  .of_known rfl (by decide) (fun _ => rfl) <| .cons .str fun _ => .cons .str fun _ => .cons .str fun _ =>
    .cons .str fun _ => .cons .str fun _ => .cons .str fun _ => .cons .str fun _ => .nil _

theorem EventSource.respects (room : ℕ) : Respects room layout ofJson? :=
  .of_known rfl (by decide) (fun _ => rfl) <| .cons .str fun _ => .cons .str fun _ => .nil _

theorem EventSeries.respects (room : ℕ) : Respects room layout ofJson? :=
  .of_known rfl (by decide) (fun _ => rfl) <| .cons (.between _ _) fun _ => .cons .instant fun _ => .nil _

theorem ListMeta.respects (room : ℕ) : Respects room layout ofJson? :=
  .of_known rfl (by decide) (fun _ => rfl) <| .cons .str fun _ => .nil _

theorem PodSpec.respects (room : ℕ) : Respects room layout ofJson? :=
  .of_known rfl (by decide) (fun _ => rfl) <| .cons .str fun _ => .cons .str fun _ => .cons .str fun _ =>
    .cons .str fun _ => .cons .str fun _ => .cons .str fun _ => .cons .str fun _ => .cons .str fun _ =>
    .cons .texts fun _ => .cons (.optional .str) fun _ => .nil _

theorem PodStatus.respects (room : ℕ) : Respects room layout ofJson? :=
  .of_known rfl (by decide) (fun _ => rfl) <| .cons .str fun _ => .cons .str fun _ => .cons .str fun _ =>
    .cons .str fun _ => .cons .str fun _ => .cons .str fun _ => .cons .str fun _ => .cons .instant fun _ =>
    .nil _

theorem TypeMeta.readsMembers (room : ℕ) : ReadsMembers room members ofFields? :=
  .cons .str fun _ => .cons .str fun _ => .nil _

theorem Event.respects (room : ℕ) : Respects (room + 1) layout (ofJson? room) :=
  .of_headed rfl (by decide) (fun _ => rfl) <| (TypeMeta.readsMembers room).append fun _ =>
    .cons (ObjectMeta.respects room) fun _ => .cons (ObjectReference.respects room) fun _ =>
    .cons .str fun _ => .cons .str fun _ => .cons (EventSource.respects room) fun _ =>
    .cons .instant fun _ => .cons .instant fun _ => .cons (.between _ _) fun _ => .cons .str fun _ =>
    .cons .instant fun _ => .cons (.optional (EventSeries.respects room)) fun _ => .cons .str fun _ =>
    .cons (.optional (ObjectReference.respects room)) fun _ => .cons .str fun _ => .cons .str fun _ => .nil _

theorem Pod.respects : Respects Json.depthLimit layout ofDocument? :=
  .of_headed rfl (by decide) (fun _ => rfl) <| (TypeMeta.readsMembers _).append fun _ =>
    .cons (ObjectMeta.respects _) fun _ => .cons (PodSpec.respects _) fun _ =>
    .cons (PodStatus.respects _) fun _ => .nil _

theorem EventList.respects : Respects Json.depthLimit layout ofDocument? :=
  .of_known rfl (by decide) (fun _ => rfl) <| .cons (ListMeta.respects _) fun _ =>
    .cons (.list (Event.respects _)) fun _ => .nil _

/-! ## Documents -/

/-- The kinds of documents that hold records of a cluster. -/
inductive DocumentKind where
  | event | pod | events

namespace DocumentKind

def Value : DocumentKind → Type
  | event => Event
  | pod => Pod
  | events => EventList

def read? : (kind : DocumentKind) → Json → Option kind.Value
  | event => Event.ofDocument?
  | pod => Pod.ofDocument?
  | events => EventList.ofDocument?

def layout : DocumentKind → Layout
  | event => Event.layout
  | pod => Pod.layout
  | events => EventList.layout

theorem respects (kind : DocumentKind) : Respects Json.depthLimit kind.layout kind.read? := by
  cases kind with
  | event => exact Event.respects _
  | pod => exact Pod.respects
  | events => exact EventList.respects

end DocumentKind

end EventTally
