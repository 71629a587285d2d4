import AccessForm.Proofs.Mirror

/-!
# Bindings are local

What is bound to an element depends on the household of the element and on its attributes, and
nothing else. A plan is the same on two pages that agree about both (`Plans.congr`). Carrying it
out keeps to the household (`Plans.keepsTo_bindForm`), and what becomes of the household is the same
on both pages, but for the numbers of the new nodes (`bindForm_of_untouched`).
-/

namespace AccessForm

namespace Document

variable {heads : NodeId → Bool} {home home' : NodeId → Option NodeId} {d d' : Document}
  {r : NodeId}

private theorem renumber_shift {limit distance : NodeId} {n : Node} (hid : n.id < limit)
    (hparent : ∀ p ∈ n.parent, p < n.id) : n.renumber (shift limit distance) = n := by
  have hp : n.parent.map (shift limit distance) = n.parent := by
    cases hn : n.parent with
    | none => rfl
    | some p => exact congrArg some (shift_of_lt (Nat.lt_trans (hparent p hn) hid))
  rw [Node.renumber, hp, shift_of_lt hid]

/-- All nodes of a document are old. -/
theorem map_renumber_shift {ns : List Node} (h : ∀ n ∈ ns, n ∈ d.nodes) (distance : NodeId) :
    ns.map (·.renumber (shift d.next distance)) = ns := by
  refine (List.map_congr_left fun n hn ↦ ?_).trans (List.map_id ns)
  obtain ⟨hlt, hparent⟩ := d.aged n (h n hn)
  exact renumber_shift hlt hparent

theorem household_withNew (d : Document) (home : NodeId → Option NodeId) (r r' : NodeId) :
    d.household (withNew home d.next r') r = d.household home r := by
  refine List.filter_congr fun n hn ↦ ?_
  rw [withNew_of_lt (d.aged n hn).1]

/-- On a page, the household of a head is still as it was in the beginning. -/
structure Untouched (heads : NodeId → Bool) (r : NodeId) (home : NodeId → Option NodeId)
    (d : Document) (home' : NodeId → Option NodeId) (d' : Document) : Prop where
  /-- In the beginning all nodes were shared out. -/
  housed : d.Housed heads home
  /-- They still are. -/
  housed' : d'.Housed heads home'
  /-- The head is one. -/
  isHead : heads r = true
  /-- All heads were there from the beginning. -/
  heads_lt (r : NodeId) : heads r = true → r < d.next
  /-- Numbers are only used up. -/
  next_le : d.next ≤ d'.next
  /-- Old nodes are at home where they were. -/
  old (id : NodeId) : id < d.next → home' id = home id
  /-- The household is the same. -/
  household : d'.household home' r = d.household home r
  /-- The head is of the same kind. -/
  kind : d'.kind r = d.kind r
  /-- It was there in the beginning. -/
  found : (d.find? r).isSome = true
  /-- It still is. -/
  found' : (d'.find? r).isSome = true

namespace Untouched

variable (h : Untouched heads r home d home' d')
include h

private theorem inStep : InStep heads r (shift d.next (d'.next - d.next)) (withNew home d.next r)
    (withNew home' d'.next r) d d' where
  housed := h.housed.withNew h.heads_lt r
  housed' := h.housed'.withNew (fun r hr ↦ Nat.lt_of_lt_of_le (h.heads_lt r hr) h.next_le) r
  household := by
    rw [household_withNew, household_withNew, h.household,
      map_renumber_shift fun n hn ↦ (mem_household.mp hn).1]
  mono := strictMono_shift _ _
  isHead := h.isHead
  head := shift_of_lt (h.heads_lt r h.isHead)
  owner k hk := by
    rcases Nat.lt_or_ge k d.next with hlt | hge
    · rw [withNew_of_lt hlt] at hk
      rw [shift_of_lt hlt, withNew_of_lt (Nat.lt_of_lt_of_le hlt h.next_le), h.old k hlt, hk]
    · refine withNew_of_le ?_
      rw [shift_of_le hge]
      calc d'.next = d.next + (d'.next - d.next) := (Nat.add_sub_cancel' h.next_le).symm
        _ ≤ k + (d'.next - d.next) := Nat.add_le_add_right hge _
  next := by
    rw [shift_of_le (Nat.le_refl _), Nat.add_sub_cancel' h.next_le]
  succ id hid := by
    rw [shift_of_le hid, shift_of_le (Nat.le_succ_of_le hid), Nat.add_right_comm]
  new _ hid := withNew_of_le hid
  new' _ hid := withNew_of_le hid

/-- What is found below the head is the same. -/
theorem query (s : Selector) : d'.query r s = d.query r s := by
  rw [h.inStep.query h.found h.found', map_renumber_shift fun n hn ↦ (mem_query.mp hn).1]

end Untouched

end Document

namespace Site

open Document (Housed KeepsTo InStep Mirrors Untouched around inside shift withNew)

variable {heads : NodeId → Bool} {home home' : NodeId → Option NodeId} {d d' : Document}
  {s : Site} {r : NodeId} {plan : FormPlan}

/-! ## What a plan reads -/

/-- The attributes of its element that the plan of a form reads. -/
def planAttributes : List String :=
  [formMarker, tableAttribute, settingsAttribute, methodAttribute]

/-- The plan of a form reads attributes of its element and what is found below. -/
theorem Plans.congr (h : Plans d r plan)
    (hattr : ∀ a ∈ planAttributes,
      (rootElement d' r).attribute? a = (rootElement d r).attribute? a)
    (hcopies : d'.queryKind r permissionFields (· = .dropdown) =
      d.queryKind r permissionFields (· = .dropdown))
    (htext : locateText d' r plan.settings.argumentName =
      locateText d r plan.settings.argumentName)
    (hdropdown : locateDropdown d' r plan.settings.argumentName =
      locateDropdown d r plan.settings.argumentName) : Plans d' r plan where
  unmarked := by
    rw [Element.hasAttribute, hattr formMarker (by simp [planAttributes])]
    exact h.unmarked
  table := by
    rw [readTable, hattr tableAttribute (by simp [planAttributes])]
    exact h.table
  settings := by
    rw [hattr settingsAttribute (by simp [planAttributes]),
      hattr methodAttribute (by simp [planAttributes])]
    exact h.settings
  permission := by rw [hcopies]; exact h.permission
  copies := h.copies
  text := by rw [htext]; exact h.text
  dropdown := by rw [hdropdown]; exact h.dropdown

theorem Plans.congr_query (h : Plans d r plan)
    (hattr : ∀ a ∈ planAttributes,
      (rootElement d' r).attribute? a = (rootElement d r).attribute? a)
    (hquery : ∀ s, d'.query r s = d.query r s) : Plans d' r plan := by
  have hlocate : ∀ text, locate d' r text = locate d r text := by
    intro text
    rw [locate, locate]
    cases Selector.ofText? text with
    | none => rfl
    | some s => simp only [Document.queryFirst?, hquery]
  refine h.congr hattr ?_ ?_ ?_
  · rw [Document.queryKind, hquery, Document.queryKind]
  · rw [locateText, hlocate, locateText]
  · rw [locateDropdown, hlocate, locateDropdown]

/-! ## What a binding writes -/

private theorem isBelow_of_mem_queryKind {sel : Selector} {p : ElementKind → Bool} {k : NodeId}
    (h : k ∈ d.queryKind r sel p) : d.isBelow r k = true := by
  obtain ⟨n, hn, rfl⟩ := List.mem_map.mp h
  exact (Document.mem_query.mp (List.mem_filter.mp hn).1).2.1

theorem Plans.isBelow_elements (h : Plans d r plan) {k : NodeId}
    (hk : k ∈ (plannedLayout d r plan).elements) :
    (provideDropdown d plan).1.isBelow r k = true := by
  have hold : ∀ {k}, k < d.next → d.isBelow r k = true →
      (provideDropdown d plan).1.isBelow r k = true := fun hlt hbelow ↦ by
    rwa [h.provided.evolves.isBelow_eq_of_not_refills (fun _ hfalse ↦ hfalse) hlt]
  rw [Layout.elements, Layout.controls] at hk
  simp only [List.mem_append, List.mem_cons, Option.mem_toList] at hk
  rcases hk with ((((rfl | rfl | hk | hk) | hk) | hk) | hk)
  · obtain ⟨n, hn, hid, hbelow, -⟩ := exists_of_locateText h.text
    have hlt : plan.text < d.next := hid ▸ (d.aged n hn).1
    exact hold hlt hbelow
  · exact h.provided.below
  · replace hk : k ∈ plan.permission := hk
    rw [h.permission] at hk
    exact hold (lt_of_mem_queryKind hk) (isBelow_of_mem_queryKind hk)
  · obtain ⟨n, hn, hkind⟩ := Option.bind_eq_some_iff.mp hk
    split at hkind
    · cases hkind
      exact (Document.mem_query.mp (Document.mem_query_of_queryFirst? hn)).2.1
    · cases hkind
  · exact isBelow_of_mem_queryKind hk
  · exact isBelow_of_mem_queryKind hk
  · exact isBelow_of_mem_queryKind hk

theorem Plans.keepsTo_provideDropdown (h : Plans d r plan) (hr : heads r = true) :
    KeepsTo heads home r (inside home r) d (provideDropdown d plan).1 := by
  intro hd hnew
  cases hk : plan.dropdown with
  | some k =>
    rw [provideDropdown_of_some hk]
    exact Document.frame_keepsTo.refl d hd hnew
  | none =>
    obtain ⟨_, -, -, hbelow, -⟩ := exists_of_locateText h.text
    obtain ⟨t, p, ht, hp, -⟩ := Document.exists_parent_of_isBelow hbelow
    have hhome := hd.home_of_isBelow hr hbelow
    rw [← Document.id_of_find? ht] at hhome
    have hparent := hd.belongs_parent (Document.mem_of_find? ht) hp hhome
    have hm : ∀ id, home id = some r → inside home r id = true := fun _ hid ↦
      Document.inside_eq_true.mpr hid
    rw [provideDropdown_of_none hk ht hp]
    exact Document.frame_keepsTo.trans (.insert hm hparent d _ _) (.settle hm hparent _) hd hnew

theorem mem_elements_plannedLayout {k : NodeId} (hk : k ∈ (opening d r plan).controller.elements) :
    k ∈ (plannedLayout d r plan).elements := by
  obtain ⟨mode, primed, hc⟩ := exists_controller_opening d r plan
  rw [hc, Controller.elements] at hk
  rcases List.mem_append.mp hk with hk | hk
  · exact hk
  · exact Layout.mem_elements_of_prefilled hk

theorem Plans.home_elements (h : Plans d r plan) (hr : heads r = true)
    (hd : (provideDropdown d plan).1.Housed heads home) {k : NodeId}
    (hk : k ∈ (opening d r plan).controller.elements) : home k = some r :=
  hd.home_of_isBelow hr (h.isBelow_elements (mem_elements_plannedLayout hk))

theorem Plans.keepsTo_opening (h : Plans d r plan) (hr : heads r = true) :
    KeepsTo heads home r (inside home r) d (opening d r plan).surface := by
  intro hd hnew
  have hprovided : KeepsTo heads home r (inside home r) d (provideDropdown d plan).1 :=
    h.keepsTo_provideDropdown hr
  obtain ⟨hd', -, -⟩ := hprovided hd hnew
  obtain ⟨mode, primed, hc⟩ := exists_controller_opening d r plan
  have hstart : KeepsTo heads home r (inside home r) (provideDropdown d plan).1
      (opening d r plan).surface :=
    (Controller.within_keepsTo fun k hk ↦ h.home_elements hr hd' (hc ▸ hk)).start
  exact Document.frame_keepsTo.trans hprovided hstart hd hnew

/-- The binding of a form keeps to its element and the household. -/
theorem Plans.keepsTo_bindForm (h : Plans s.document r plan) (hr : heads r = true) :
    KeepsTo heads home r (around home r) s.document (s.bindForm r).site.document := by
  rw [h.opened.2]
  exact Document.frame_keepsTo.trans
    ((h.keepsTo_opening hr).mono fun _ hid ↦ Document.around_of_inside hid)
    (.modify Document.around_self _ _)

/-! ## What becomes of the household -/

theorem Plans.text_lt (h : Plans d r plan) : plan.text < d.next := by
  obtain ⟨n, hn, hid, -, -⟩ := exists_of_locateText h.text
  exact hid ▸ (d.aged n hn).1

theorem Plans.isBelow_text (h : Plans d r plan) : d.isBelow r plan.text = true := by
  obtain ⟨_, -, -, hbelow, -⟩ := exists_of_locateText h.text
  exact hbelow

section

variable (h : Untouched heads r home d home' d') (hplan : Plans d r plan)
include h hplan

private theorem provideDropdown_of_untouched : InStep heads r (shift d.next (d'.next - d.next))
      (withNew home d.next r) (withNew home' d'.next r)
      (provideDropdown d plan).1 (provideDropdown d' plan).1 ∧
    (provideDropdown d' plan).2.1 =
      shift d.next (d'.next - d.next) (provideDropdown d plan).2.1 := by
  have hstep := h.inStep
  have htext : shift d.next (d'.next - d.next) plan.text = plan.text :=
    Document.shift_of_lt hplan.text_lt
  cases hk : plan.dropdown with
  | some k =>
    obtain ⟨n, hn, hid, -, -⟩ := exists_of_locateDropdown (hk ▸ hplan.dropdown)
    rw [provideDropdown_of_some hk, provideDropdown_of_some hk]
    exact ⟨hstep, (Document.shift_of_lt (hid ▸ (d.aged n hn).1)).symm⟩
  | none =>
    have hhome : withNew home d.next r plan.text = some r := by
      rw [Document.withNew_of_lt hplan.text_lt]
      exact h.housed.home_of_isBelow h.isHead hplan.isBelow_text
    have helement := hstep.element? hhome (hstep.owner _ hhome)
    have hroot := h.heads_lt r h.isHead
    have hsibling := hstep.addSibling hhome hroot (Nat.lt_of_lt_of_le hroot h.next_le) h.kind
      (dropdownLike ((d.element? plan.text).getD { tag := "" }))
    rw [htext] at helement hsibling
    rw [provideDropdown, provideDropdown, hk, helement]
    exact ⟨hsibling, hstep.next⟩

variable (hplan' : Plans d' r plan)
include hplan'

theorem plannedLayout_of_untouched : plannedLayout d' r plan =
    (plannedLayout d r plan).map (shift d.next (d'.next - d.next))
      (shift d.next (d'.next - d.next)) := by
  obtain ⟨hstep, hdropdown⟩ := provideDropdown_of_untouched h hplan
  have hfound : ∀ {d}, Plans d r plan → ((provideDropdown d plan).1.find? r).isSome = true := by
    intro d hplan
    have hsome := hplan.provided.evolves.isSome_element? hplan.isSome_root
    rwa [Document.element?, Option.isSome_map] at hsome
  have hquery := hstep.queryKind (hfound hplan) (hfound hplan')
  have hpermission : plan.permission.map (shift d.next (d'.next - d.next)) = plan.permission := by
    refine (List.map_congr_left fun k hk ↦ ?_).trans (List.map_id _)
    rw [hplan.permission] at hk
    exact Document.shift_of_lt (lt_of_mem_queryKind hk)
  have hgroup := hstep.queryFirst? (hfound hplan) (hfound hplan') groupField
  rw [plannedLayout, plannedLayout, layoutOf, layoutOf, Layout.map, hpermission, hdropdown, hquery,
    hquery, hquery, Document.shift_of_lt hplan.text_lt, hgroup]
  cases (provideDropdown d plan).1.queryFirst? r groupField with
  | none => rfl
  | some n =>
    by_cases hkind : n.element.kind = .dropdown
    · simp [Node.renumber, hkind]
    · simp [Node.renumber, hkind]

private theorem opening_of_untouched :
    (opening d' r plan).controller = (opening d r plan).controller.map
        (shift d.next (d'.next - d.next)) (shift d.next (d'.next - d.next)) ∧
      InStep heads r (shift d.next (d'.next - d.next)) (withNew home d.next r)
        (withNew home' d'.next r) (opening d r plan).surface (opening d' r plan).surface := by
  obtain ⟨hstep, -⟩ := provideDropdown_of_untouched h hplan
  have hcontrols : ∀ k ∈ (plannedLayout d r plan).controls, withNew home d.next r k = some r := by
    intro k hk
    refine hstep.housed.home_of_isBelow h.isHead (hplan.isBelow_elements ?_)
    simp [Layout.elements, hk]
  have hlockstep : Lockstep (shift d.next (d'.next - d.next)) (shift d.next (d'.next - d.next))
      (plannedLayout d r plan) (InStep heads r (shift d.next (d'.next - d.next))
        (withNew home d.next r) (withNew home' d'.next r)) := Document.lockstep_inStep hcontrols
  obtain ⟨hcontroller, -, hsurface⟩ :=
    hlockstep.start plan.table (.ofSettings plan.settings) hstep
  rw [opening, opening, plannedLayout_of_untouched h hplan hplan']
  exact ⟨hcontroller, hsurface⟩

end

/-- What a binding makes of an untouched household does not depend on the page. -/
theorem bindForm_of_untouched {home home' : NodeId → Option NodeId}
    (h : Untouched heads r home d home' s.document)
    (hplan : Plans d r plan) (hplan' : Plans s.document r plan) :
    InStep heads r (shift d.next (s.document.next - d.next)) (withNew home d.next r)
      (withNew home' s.document.next r) (bindForm { document := d } r).site.document
      (s.bindForm r).site.document := by
  have hstep := (opening_of_untouched h hplan hplan').2
  have hmarked := hstep.modify r (·.toggleAttribute formMarker true)
  rw [hstep.head] at hmarked
  have hd : (bindForm { document := d } r).site.document =
      setMarker (opening d r plan).surface r formMarker true :=
    (Plans.opened (s := { document := d }) hplan).2
  rw [hd, hplan'.opened.2]
  exact hmarked

end Site

end AccessForm
