import AccessForm.Proofs.Octets
import AccessForm.Proofs.TableText

/-!
# The validation of tables

A table is made from a directory of argument lists by looking for the first flaw: a permission
without a name, or one without arguments. As the names stand in ascending order, which flaw is
reported depends on the names alone and not on the order in which a page gives them.

`Table.Renders` says what a table has to do with the directory it was made from. The main statement
is `ofArguments_judges`: which directories give a table, which table, and which flaw is reported for
the others. It follows that the outcome for a text depends on the last list of each name only; so
members may be rearranged, and members that are overridden later may be added or left out.
-/

namespace AccessForm

/-! ## The first in ascending order -/

/-- In a list that ascends, the first entry that answers is the least one that does. -/
theorem findSome?_eq_some_iff_of_ascending {α β : Type} {f : String × α → Option β}
    {es : List (String × α)} (hes : es.Pairwise (·.1 < ·.1)) {b : β} :
    es.findSome? f = some b ↔
      ∃ e ∈ es, f e = some b ∧ ∀ o ∈ es, f o ≠ none → o.1 = e.1 ∨ e.1 < o.1 := by
  rw [List.findSome?_eq_some_iff]
  constructor
  · rintro ⟨before, e, behind, rfl, he, hbefore⟩
    refine ⟨e, by simp, he, fun o ho hsome ↦ ?_⟩
    obtain ho | ho := List.mem_append.mp ho
    · exact absurd (hbefore o ho) hsome
    · obtain rfl | ho := List.mem_cons.mp ho
      · exact .inl rfl
      · exact .inr ((List.pairwise_cons.mp (List.pairwise_append.mp hes).2.1).1 o ho)
  · rintro ⟨e, hmem, he, hleast⟩
    obtain ⟨before, behind, rfl⟩ := List.append_of_mem hmem
    refine ⟨before, e, behind, rfl, he, fun o ho ↦ ?_⟩
    have hlt : o.1 < e.1 := (List.pairwise_append.mp hes).2.2 o ho e List.mem_cons_self
    by_contra hsome
    obtain heq | hgt := hleast o (List.mem_append_left _ ho) hsome
    · exact String.lt_irrefl _ (heq ▸ hlt)
    · exact String.lt_irrefl _ (String.lt_trans hlt hgt)

private theorem eq_empty_or_empty_lt (name : String) : name = "" ∨ "" < name := by
  by_cases hname : name = ""
  · exact .inl hname
  · obtain ⟨c, cs, hcons⟩ := List.exists_cons_of_ne_nil (mt String.toList_eq_nil_iff.mp hname)
    refine .inr (String.lt_iff_toList_lt.mpr ?_)
    rw [hcons]
    exact List.nil_lt_cons c cs

namespace Table

/-! ## Flaws -/

private theorem flaw?_eq_unnamedPermission_iff {e : String × List String} :
    flaw? e = some .unnamedPermission ↔ e.1 = "" := by
  unfold flaw?
  split
  · next h => simp [h]
  · next h => split <;> simp [h]

private theorem flaw?_eq_noArguments_iff {e : String × List String} {p : String} :
    flaw? e = some (.noArguments p) ↔ e.1 ≠ "" ∧ e.1 = p ∧ e.2 = [] := by
  unfold flaw?
  split
  · next h => simp [h]
  · next h => split <;> simp [*]

private theorem flaw?_ne_none_iff {e : String × List String} :
    flaw? e ≠ none ↔ e.1 = "" ∨ e.2 = [] := by
  unfold flaw?
  split
  · next h => simp [h]
  · next h => split <;> simp [*]

variable {raw : Directory (List String)}

/-- An unnamed permission is reported before all others, since no name is below the empty one. -/
theorem ofArguments_eq_unnamedPermission_iff :
    ofArguments raw = .error .unnamedPermission ↔ raw.find? "" ≠ none := by
  rw [ofArguments_eq_error_iff, findSome?_eq_some_iff_of_ascending raw.ascending,
    Option.ne_none_iff_exists']
  constructor
  · rintro ⟨⟨name, texts⟩, hmem, hflaw, -⟩
    obtain rfl : name = "" := flaw?_eq_unnamedPermission_iff.mp hflaw
    exact ⟨texts, Directory.mem_entries_iff.mp hmem⟩
  · rintro ⟨texts, hfind⟩
    exact ⟨("", texts), Directory.mem_entries_iff.mpr hfind, flaw?_eq_unnamedPermission_iff.mpr rfl,
      fun o _ _ ↦ eq_empty_or_empty_lt o.1⟩

private theorem ofArguments_eq_noArguments_iff {p : String} :
    ofArguments raw = .error (.noArguments p) ↔
      raw.find? "" = none ∧ raw.find? p = some [] ∧ ∀ q, raw.find? q = some [] → q = p ∨ p < q := by
  rw [ofArguments_eq_error_iff, findSome?_eq_some_iff_of_ascending raw.ascending]
  constructor
  · rintro ⟨⟨name, texts⟩, hmem, hflaw, hleast⟩
    obtain ⟨hname, rfl, rfl⟩ := flaw?_eq_noArguments_iff.mp hflaw
    refine ⟨?_, Directory.mem_entries_iff.mp hmem, fun q hq ↦
      hleast (q, []) (Directory.mem_entries_iff.mpr hq) (flaw?_ne_none_iff.mpr (.inr rfl))⟩
    refine Option.eq_none_iff_forall_ne_some.mpr fun texts hfind ↦ ?_
    obtain heq | hlt := hleast ("", texts) (Directory.mem_entries_iff.mpr hfind)
      (flaw?_ne_none_iff.mpr (.inl rfl))
    · exact hname heq.symm
    · obtain heq | hgt := eq_empty_or_empty_lt name
      · exact hname heq
      · exact String.lt_irrefl _ (String.lt_trans hlt hgt)
  · rintro ⟨hnamed, hfind, hleast⟩
    have hne {q : String} {texts : List String} (hq : (q, texts) ∈ raw.entries) : q ≠ "" := by
      rintro rfl
      rw [Directory.mem_entries_iff, hnamed] at hq
      simp at hq
    have hmem : (p, []) ∈ raw.entries := Directory.mem_entries_iff.mpr hfind
    refine ⟨(p, []), hmem, flaw?_eq_noArguments_iff.mpr ⟨hne hmem, rfl, rfl⟩, ?_⟩
    rintro ⟨q, texts⟩ hq hflaw
    obtain rfl : texts = [] := (flaw?_ne_none_iff.mp hflaw).resolve_left (hne hq)
    exact hleast q (Directory.mem_entries_iff.mp hq)

/-- A directory gives a table when no name and no list in it is empty. -/
theorem exists_ofArguments_eq_ok_iff :
    (∃ t, ofArguments raw = .ok t) ↔ raw.find? "" = none ∧ ∀ p, raw.find? p ≠ some [] := by
  constructor
  · rintro ⟨t, ht⟩
    have hsound : ∀ e ∈ raw.entries, flaw? e = none := by
      refine List.findSome?_eq_none_iff.mp (Option.eq_none_iff_forall_ne_some.mpr fun error h ↦ ?_)
      rw [ofArguments_eq_error_iff.mpr h] at ht
      simp at ht
    refine ⟨Option.eq_none_iff_forall_ne_some.mpr fun texts h ↦ ?_, fun p h ↦ ?_⟩
    · exact flaw?_ne_none_iff.mpr (.inl rfl) (hsound _ (Directory.mem_entries_iff.mpr h))
    · exact flaw?_ne_none_iff.mpr (.inr rfl) (hsound _ (Directory.mem_entries_iff.mpr h))
  · rintro ⟨hnamed, hfilled⟩
    rcases h : ofArguments raw with error | t
    · obtain _ | p | fault := error
      · exact absurd hnamed (ofArguments_eq_unnamedPermission_iff.mp h)
      · exact absurd (ofArguments_eq_noArguments_iff.mp h).2.1 (hfilled p)
      · exact absurd h (ofArguments_ne_malformed raw fault)
    · exact ⟨t, rfl⟩

/-! ## Tables -/

/-- A table says the same as a directory of argument lists. -/
structure Renders (t : Table) (raw : Directory (List String)) : Prop where
  /-- The lists are read as allowances, and there are no others. -/
  allowance? : ∀ p, t.allowance? p = (raw.find? p).map Allowance.ofArguments
  /-- The permissions are the names. -/
  mem_permissions : ∀ p, p ∈ t.permissions ↔ (raw.find? p).isSome = true
  /-- The permissions ascend in the order of their UTF-8 octets, and none stands twice. -/
  ascending : t.permissions.Pairwise fun p q ↦ utf8Octets p < utf8Octets q
  /-- A permission is in the table if it is a name. -/
  contains : ∀ p, t.contains p = (raw.find? p).isSome
  /-- The size is the number of permissions. -/
  size : t.size = t.permissions.length
  /-- A closed list is neither empty nor the wildcard alone. -/
  settled : ∀ p, t.allowance? p ≠ some (.oneOf []) ∧ t.allowance? p ≠ some (.oneOf ["*"])

private theorem renders_of_ofArguments {t : Table} (h : ofArguments raw = .ok t) :
    t.Renders raw := by
  have hallow (p : String) : t.allowance? p = (raw.find? p).map Allowance.ofArguments := by
    rw [Table.allowance?, allowances_of_ofArguments h, Directory.find?_map]
  have hmem (p : String) : p ∈ t.permissions ↔ (raw.find? p).isSome = true := by
    rw [permissions, Directory.mem_names_iff, ← Table.allowance?, hallow, Option.isSome_map]
  exact
    { allowance? := hallow
      mem_permissions := hmem
      ascending := t.allowances.ascending_names.imp lt_iff_utf8Octets_lt.mp
      contains := fun p ↦ by rw [Table.contains, hallow, Option.isSome_map]
      size := (List.length_map _).symm
      settled := fun p ↦
        ⟨fun hnil ↦ (t.settled _ (Directory.mem_entries_iff.mpr hnil)).1 rfl,
          fun hwild ↦ (t.settled _ (Directory.mem_entries_iff.mpr hwild)).2 rfl⟩ }

/-! ## Texts of one outcome -/

variable {text text' : String} {members members' : List (String × List String)}

/-- The outcome depends on the last list of each name. -/
theorem ofJson_eq_of_lookup_eq (h : Written text members) (h' : Written text' members')
    (hlast : ∀ name, members.reverse.lookup name = members'.reverse.lookup name) :
    ofJson text = ofJson text' := by
  rw [ofJson_of_written h, ofJson_of_written h']
  congr 1
  refine Directory.eq_of_find? fun name ↦ ?_
  rw [Directory.find?_ofList, Directory.find?_ofList, hlast]

private theorem lookup_eq_of_perm (hperm : members.Perm members')
    (hdistinct : (members.map (·.1)).Nodup) (name : String) :
    members.reverse.lookup name = members'.reverse.lookup name := by
  have hreverse : (members.reverse.map (·.1)).Nodup :=
    ((List.reverse_perm members).map _).nodup_iff.mpr hdistinct
  have hreverse' : (members'.reverse.map (·.1)).Nodup :=
    ((((List.reverse_perm members').trans hperm.symm).map _)).nodup_iff.mpr hdistinct
  refine Option.ext fun texts ↦ ?_
  rw [← Directory.mem_iff_lookup_eq_some hreverse, ← Directory.mem_iff_lookup_eq_some hreverse',
    List.mem_reverse, List.mem_reverse, hperm.mem_iff]

private theorem lookup_reverse_overridden {before behind : List (String × List String)}
    {name : String} {texts : List String} (h : name ∈ behind.map (·.1)) (other : String) :
    (before ++ (name, texts) :: behind).reverse.lookup other =
      (before ++ behind).reverse.lookup other := by
  simp only [List.reverse_append, List.reverse_cons, List.append_assoc, List.lookup_append,
    List.singleton_append]
  by_cases heq : other = name
  · subst heq
    obtain ⟨m, hm, rfl⟩ := List.mem_map.mp h
    have hlater : (behind.reverse.lookup m.1).isSome = true :=
      List.lookup_isSome_iff.mpr ⟨m, List.mem_reverse.mpr hm, beq_self_eq_true _⟩
    rw [Option.or_of_isSome hlater, Option.or_of_isSome hlater]
  · rw [List.lookup_cons, beq_eq_false_iff_ne.mpr heq]

/-- **Validation of tables.** A directory of argument lists gives a table exactly when it has no
empty name and no empty list, and the table then renders it. Otherwise an empty name is reported
whatever lists are empty, and without one the least name, in the order of UTF-8 octets, whose list
is empty. So texts with the same last list for each name have the same outcome: their members may be
permuted when the names are distinct, and members that a later one overrides may be added. -/
theorem ofArguments_judges :
    (∀ raw : Directory (List String),
      ((∃ t, ofArguments raw = .ok t) ↔ raw.find? "" = none ∧ ∀ p, raw.find? p ≠ some []) ∧
      (∀ t, ofArguments raw = .ok t → t.Renders raw) ∧
      (ofArguments raw = .error .unnamedPermission ↔ raw.find? "" ≠ none) ∧
      ∀ p, ofArguments raw = .error (.noArguments p) ↔
        raw.find? "" = none ∧ raw.find? p = some [] ∧
          ∀ q, raw.find? q = some [] → q = p ∨ utf8Octets p < utf8Octets q) ∧
    (∀ text text' members members', Written text members → Written text' members' →
      (∀ name, members.reverse.lookup name = members'.reverse.lookup name) →
        ofJson text = ofJson text') ∧
    (∀ text text' members members', Written text members → Written text' members' →
      members.Perm members' → (members.map (·.1)).Nodup → ofJson text = ofJson text') ∧
    ∀ text text' before name texts behind, Written text (before ++ behind) →
      Written text' (before ++ (name, texts) :: behind) → name ∈ behind.map (·.1) →
        ofJson text = ofJson text' := by
  refine ⟨fun raw ↦ ⟨exists_ofArguments_eq_ok_iff, fun t ↦ renders_of_ofArguments,
    ofArguments_eq_unnamedPermission_iff, fun p ↦ ?_⟩, ?_, ?_, ?_⟩
  · simp only [← lt_iff_utf8Octets_lt]
    exact ofArguments_eq_noArguments_iff
  · exact fun _ _ _ _ h h' ↦ ofJson_eq_of_lookup_eq h h'
  · exact fun _ _ _ _ h h' hperm hdistinct ↦
      ofJson_eq_of_lookup_eq h h' (lookup_eq_of_perm hperm hdistinct)
  · exact fun _ _ _ _ _ _ h h' hlater ↦
      ofJson_eq_of_lookup_eq h h' fun other ↦ (lookup_reverse_overridden hlater other).symm

/-- Two names without arguments that UTF-16 units would put in the other order, and texts of one
table: two members, the same in the other order, and with an empty list that is overridden. -/
theorem ofArguments_judges_samples :
    let raw : Directory (List String) := ⟨[("\uFFFD", []), ("😀", [])], by decide⟩
    let short := "\x7b\"a\":[\"*\"],\"b\":[\"x\"]\x7d"
    let swapped := "\x7b\"b\":[\"x\"],\"a\":[\"*\"]\x7d"
    let long := "\x7b\"a\":[\"*\"],\"b\":[],\"b\":[\"x\"]\x7d"
    ofArguments raw = .error (.noArguments "\uFFFD") ∧
      (∃ t, ofArguments (.ofList [("a", ["*"]), ("b", ["x"])]) = .ok t ∧
        t.Renders (.ofList [("a", ["*"]), ("b", ["x"])])) ∧
      ofJson short = ofJson swapped ∧ ofJson short = ofJson long := by
  intro raw short swapped long
  obtain ⟨hraw, hlast, hperm, hadd⟩ := ofArguments_judges
  have hshort : Written short [("a", ["*"]), ("b", ["x"])] :=
    written_iff_scan.mpr (by decide +kernel)
  have hswapped : Written swapped [("b", ["x"]), ("a", ["*"])] :=
    written_iff_scan.mpr (by decide +kernel)
  have hlong : Written long ([("a", ["*"])] ++ ("b", []) :: [("b", ["x"])]) :=
    written_iff_scan.mpr (by decide +kernel)
  refine ⟨?_, ?_, ?_, ?_⟩
  · refine ((hraw raw).2.2.2 _).mpr ⟨by decide, by decide, fun q hq ↦ ?_⟩
    have hmem : (q, []) ∈ raw.entries := Directory.mem_entries_iff.mpr hq
    simp only [raw, List.mem_cons, Prod.mk.injEq, and_true, List.not_mem_nil, or_false] at hmem
    obtain rfl | rfl := hmem
    · exact .inl rfl
    · exact .inr (lt_iff_utf8Octets_lt.mp (by decide))
  · have hfilled : ∀ e ∈ (Directory.ofList [("a", ["*"]), ("b", ["x"])]).entries, e.2 ≠ [] := by
      decide
    obtain ⟨t, ht⟩ := (hraw (.ofList [("a", ["*"]), ("b", ["x"])])).1.mpr
      ⟨by decide, fun p hp ↦ hfilled _ (Directory.mem_entries_iff.mpr hp) rfl⟩
    exact ⟨t, ht, (hraw _).2.1 t ht⟩
  · exact hperm _ _ _ _ hshort hswapped (List.Perm.swap _ _ _) (by decide)
  · exact hadd _ _ [("a", ["*"])] "b" [] [("b", ["x"])] hshort hlong (by decide)

end Table

end AccessForm
