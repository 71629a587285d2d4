/-!
# Directories

Values under names, one value for each name and in ascending order of the names. The order of
strings is the order of their UTF-8 octets, so a directory has only one form: two directories that
give the same answers are equal.
-/

namespace AccessForm

/-- Values under distinct names, in ascending order of the names. -/
structure Directory (α : Type) where
  /-- The names with their values. -/
  entries : List (String × α)
  /-- The names ascend. -/
  ascending : entries.Pairwise (·.1 < ·.1)
  deriving DecidableEq, Repr

namespace Directory

variable {α β : Type}

/-- The directory without names. -/
def empty : Directory α := ⟨[], .nil⟩

instance : Inhabited (Directory α) := ⟨empty⟩

/-- The names, in ascending order. -/
def names (d : Directory α) : List String := d.entries.map (·.1)

/-- The number of names. -/
def size (d : Directory α) : Nat := d.entries.length

/-- The value under a name. -/
def find? (d : Directory α) (name : String) : Option α := d.entries.lookup name

/-- The same names with other values. -/
def map (f : α → β) (d : Directory α) : Directory β where
  entries := d.entries.map fun e ↦ (e.1, f e.2)
  ascending := List.pairwise_map.mpr d.ascending

/-! ## Writing a name -/

/-- Puts a value under a name, in place of an earlier one. -/
def put (name : String) (a : α) : List (String × α) → List (String × α)
  | [] => [(name, a)]
  | e :: rest =>
    if name < e.1 then (name, a) :: e :: rest
    else if name = e.1 then (name, a) :: rest
    else e :: put name a rest

private theorem mem_put {name : String} {a : α} {es : List (String × α)} {e : String × α}
    (h : e ∈ put name a es) : e = (name, a) ∨ e ∈ es := by
  fun_induction put name a es with
  | case1 => simpa using h
  | case2 => simpa using h
  | case3 =>
    rcases List.mem_cons.mp h with h | h
    · exact .inl h
    · exact .inr (List.mem_cons_of_mem _ h)
  | case4 _ _ _ _ ih =>
    rcases List.mem_cons.mp h with h | h
    · exact .inr (h ▸ List.mem_cons_self)
    · exact (ih h).imp_right (List.mem_cons_of_mem _)

private theorem lt_of_not {a b : String} (h : ¬ a < b) (hne : a ≠ b) : b < a := by
  by_cases hba : b < a
  · exact hba
  · exact absurd (String.le_antisymm (String.not_lt.mp hba) (String.not_lt.mp h)) hne

theorem ascending_put {name : String} {a : α} {es : List (String × α)}
    (h : es.Pairwise (·.1 < ·.1)) : (put name a es).Pairwise (·.1 < ·.1) := by
  fun_induction put name a es with
  | case1 => simp
  | case2 e rest hlt =>
    refine List.pairwise_cons.mpr ⟨fun e' he' ↦ ?_, h⟩
    rcases List.mem_cons.mp he' with rfl | he'
    · exact hlt
    · exact String.lt_trans hlt ((List.pairwise_cons.mp h).1 e' he')
  | case3 e rest _ heq =>
    obtain ⟨hhead, htail⟩ := List.pairwise_cons.mp h
    exact List.pairwise_cons.mpr ⟨fun e' he' ↦ heq ▸ hhead e' he', htail⟩
  | case4 e rest hlt hne ih =>
    obtain ⟨hhead, htail⟩ := List.pairwise_cons.mp h
    refine List.pairwise_cons.mpr ⟨fun e' he' ↦ ?_, ih htail⟩
    rcases mem_put he' with rfl | he'
    · exact lt_of_not hlt hne
    · exact hhead e' he'

/-- The directory with one value more, in place of an earlier one under the same name. -/
def insert (d : Directory α) (name : String) (a : α) : Directory α :=
  ⟨put name a d.entries, ascending_put d.ascending⟩

/-- The directory without one name. -/
def erase (d : Directory α) (name : String) : Directory α :=
  ⟨d.entries.filter (·.1 != name), d.ascending.filter _⟩

/-- The directory of a list in which later values replace earlier ones. -/
def ofList (members : List (String × α)) : Directory α :=
  members.foldl (fun d m ↦ d.insert m.1 m.2) empty

/-! ## What a directory answers -/

@[simp] theorem find?_empty (name : String) : (empty : Directory α).find? name = none := rfl

private theorem lookup_entry (name : String) (e : String × α) (es : List (String × α)) :
    (e :: es).lookup name = if name = e.1 then some e.2 else es.lookup name := by
  rw [show e = (e.1, e.2) from rfl, List.lookup_cons]
  by_cases h : name = e.1
  · simp [h]
  · simp [h, beq_eq_false_iff_ne.mpr h]

private theorem lookup_put (name other : String) (a : α) (es : List (String × α)) :
    (put name a es).lookup other = if other = name then some a else es.lookup other := by
  fun_induction put name a es with
  | case1 => rw [lookup_entry]
  | case2 e rest => rw [lookup_entry]
  | case3 e rest _ heq =>
    simp only [lookup_entry, ← heq]
    split <;> rfl
  | case4 e rest _ hne ih =>
    simp only [lookup_entry, ih]
    split
    · next h => simp [h, Ne.symm hne]
    · rfl

@[simp] theorem find?_insert (d : Directory α) (name other : String) (a : α) :
    (d.insert name a).find? other = if other = name then some a else d.find? other :=
  lookup_put name other a d.entries

private theorem lookup_filter_ne (name other : String) (es : List (String × α)) :
    (es.filter (·.1 != name)).lookup other = if other = name then none else es.lookup other := by
  induction es with
  | nil => simp
  | cons e es ih =>
    by_cases hname : e.1 = name
    · rw [List.filter_cons_of_neg (by simpa using hname), ih, lookup_entry]
      split <;> simp_all
    · rw [List.filter_cons_of_pos (by simpa using hname), lookup_entry, lookup_entry, ih]
      split <;> simp_all

@[simp] theorem find?_erase (d : Directory α) (name other : String) :
    (d.erase name).find? other = if other = name then none else d.find? other :=
  lookup_filter_ne name other d.entries

private theorem lookup_eq_none_of_lt {name : String} {es : List (String × α)}
    (h : ∀ e ∈ es, name < e.1) : es.lookup name = none := by
  refine List.lookup_eq_none_iff.mpr fun e he ↦ bne_iff_ne.mpr ?_
  rintro rfl
  exact String.lt_irrefl _ (h e he)

private theorem not_lt_of_lookup {e e' : String × α} {es es' : List (String × α)}
    (hhead' : ∀ x ∈ es', e'.1 < x.1)
    (h : ∀ name, (e :: es).lookup name = (e' :: es').lookup name) : ¬ e.1 < e'.1 := by
  intro hlt
  have hfound := h e.1
  have hnone : es'.lookup e.1 = none :=
    lookup_eq_none_of_lt fun x hx ↦ String.lt_trans hlt (hhead' x hx)
  have hne : e.1 ≠ e'.1 := by
    intro heq
    rw [heq] at hlt
    exact String.lt_irrefl _ hlt
  rw [lookup_entry, if_pos rfl, lookup_entry, if_neg hne, hnone] at hfound
  cases hfound

private theorem eq_of_lookup {es es' : List (String × α)} (hes : es.Pairwise (·.1 < ·.1))
    (hes' : es'.Pairwise (·.1 < ·.1)) (h : ∀ name, es.lookup name = es'.lookup name) :
    es = es' := by
  induction es generalizing es' with
  | nil =>
    cases es' with
    | nil => rfl
    | cons e' es' =>
      have hfound := h e'.1
      rw [lookup_entry, if_pos rfl] at hfound
      cases hfound
  | cons e es ih =>
    obtain ⟨hhead, htail⟩ := List.pairwise_cons.mp hes
    cases es' with
    | nil =>
      have hfound := h e.1
      rw [lookup_entry, if_pos rfl] at hfound
      cases hfound
    | cons e' es' =>
      obtain ⟨hhead', htail'⟩ := List.pairwise_cons.mp hes'
      have hname : e.1 = e'.1 := by
        by_cases heq : e.1 = e'.1
        · exact heq
        · have hlt := lt_of_not (not_lt_of_lookup hhead' h) heq
          exact absurd hlt (not_lt_of_lookup hhead fun name ↦ (h name).symm)
      have hvalue : e.2 = e'.2 := by
        have hfound := h e.1
        rw [lookup_entry, if_pos rfl, lookup_entry, if_pos hname] at hfound
        exact Option.some.inj hfound
      have hrest : es = es' := by
        refine ih htail htail' fun name ↦ ?_
        by_cases heq : name = e.1
        · rw [heq, lookup_eq_none_of_lt hhead, hname, lookup_eq_none_of_lt hhead']
        · have hfound := h name
          rwa [lookup_entry, if_neg heq, lookup_entry, if_neg (hname ▸ heq)] at hfound
      rw [Prod.ext hname hvalue, hrest]

/-- Under distinct names, a list holds what it answers. -/
theorem mem_iff_lookup_eq_some {name : String} {a : α} {es : List (String × α)}
    (h : (es.map (·.1)).Nodup) : (name, a) ∈ es ↔ es.lookup name = some a := by
  rw [List.lookup_eq_some_iff]
  constructor
  · intro hmem
    obtain ⟨before, behind, rfl⟩ := List.append_of_mem hmem
    refine ⟨before, behind, rfl, fun e he ↦ bne_iff_ne.mpr ?_⟩
    rw [List.map_append, List.nodup_append] at h
    exact (h.2.2 e.1 (List.mem_map_of_mem he) name List.mem_cons_self).symm
  · rintro ⟨before, behind, rfl, -⟩
    exact List.mem_append_right _ List.mem_cons_self

theorem ascending_names (d : Directory α) : d.names.Pairwise (· < ·) :=
  List.pairwise_map.mpr d.ascending

theorem nodup_names (d : Directory α) : d.names.Nodup := by
  refine d.ascending_names.imp fun hlt ↦ ?_
  rintro rfl
  exact String.lt_irrefl _ hlt

theorem mem_entries_iff {d : Directory α} {name : String} {a : α} :
    (name, a) ∈ d.entries ↔ d.find? name = some a :=
  mem_iff_lookup_eq_some d.nodup_names

theorem mem_names_iff {d : Directory α} {name : String} :
    name ∈ d.names ↔ (d.find? name).isSome = true := by
  rw [names, List.mem_map, Option.isSome_iff_exists]
  constructor
  · rintro ⟨⟨_, a⟩, hmem, rfl⟩
    exact ⟨a, mem_entries_iff.mp hmem⟩
  · rintro ⟨a, hfind⟩
    exact ⟨(name, a), mem_entries_iff.mpr hfind, rfl⟩

@[simp] theorem find?_map (f : α → β) (d : Directory α) (name : String) :
    (d.map f).find? name = (d.find? name).map f := by
  show (d.entries.map _).lookup name = (d.entries.lookup name).map f
  induction d.entries with
  | nil => rfl
  | cons e es ih =>
    rw [List.map_cons, lookup_entry, lookup_entry, ih]
    split <;> rfl

/-- A name answers what was written under it last. -/
theorem find?_ofList (members : List (String × α)) (name : String) :
    (ofList members).find? name = members.reverse.lookup name := by
  rw [ofList, ← List.foldr_reverse]
  induction members.reverse with
  | nil => rfl
  | cons m ms ih => rw [List.foldr_cons, find?_insert, lookup_entry, ih]

/-- Two directories that give the same answers are equal. -/
theorem eq_of_find? {d d' : Directory α} (h : ∀ name, d.find? name = d'.find? name) : d = d' := by
  cases d with
  | mk es hes =>
    cases d' with
    | mk es' hes' =>
      obtain rfl : es = es' := eq_of_lookup hes hes' h
      rfl

end Directory

end AccessForm
