import AccessForm.Proofs.Composition
import AccessForm.Proofs.Guarding

/-!
# Comparing pages

A page that is composed of its parts shows what was bound, but not in which order. An element and
everything in it look as if nothing had been bound but its own form and its own guard
(`Composed.outline_head`), and pages with the same bindings look the same everywhere
(`Composed.outline_eq`). Whether a guard can be bound depends on the form of the same element alone
(`Composed.exists_planGuard_iff_alone`).
-/

namespace AccessForm

namespace Site

open Document (Housed Mirrors homeIn shift withNew withNew_of_lt)

variable {heads : NodeId → Bool} {d : Document} {s s' : Site} {home home' : NodeId → Option NodeId}
  {distance distance' : NodeId → NodeId} {r : NodeId}

namespace Composed

variable (h₀ : SharedOut heads d) (h : Composed heads d s home distance)
include h₀ h

/-! ## Bindings alone -/

private theorem exists_alone (hr : heads r = true) :
    (r ∈ (alone d s r).formRoots ↔ r ∈ s.formRoots) ∧ (alone d s r).guardRoots = [] ∧
      ∃ home' distance', Composed heads d (alone d s r) home' distance' := by
  rw [alone]
  split
  · next hmem =>
    obtain ⟨plan, hplan⟩ := h.planned r hr hmem
    have hroots := Plans.formRoots_bindForm (s := { document := d }) hplan
    refine ⟨by simp [hroots, hmem], Plans.guardRoots_bindForm (s := { document := d }) hplan, _, _,
      (composed_open h₀).bindForm h₀ hr List.not_mem_nil hplan⟩
  · next hmem => exact ⟨iff_of_false List.not_mem_nil hmem, rfl, _, _, composed_open h₀⟩

/-- As long as a guard is not bound, it can be bound exactly if that is possible with nothing but
the form of its element. -/
theorem exists_planGuard_iff_alone (hr : heads r = true) (hnew : r ∉ s.guardRoots) :
    (∃ latch, planGuard s.document r = .ok latch) ↔
      ∃ latch, planGuard (alone d s r).document r = .ok latch := by
  obtain ⟨hforms, hguards, _, _, halone⟩ := h.exists_alone h₀ hr
  have hroot : rootElement s.document r = rootElement (alone d s r).document r := by
    rw [h.rootElement_head h₀ hr, halone.rootElement_head h₀ hr, hguards]
    simp [hforms, hnew]
  have hquery := (h.household r hr).query (halone.found_head h₀ hr) (h.found_head h₀ hr) submitters
  rw [exists_planGuard_iff, exists_planGuard_iff, hroot, hquery, Ne, List.map_eq_nil_iff]

theorem descendants_of_new (hr : heads r = true) (hnew : r ∉ s.formRoots) :
    s.document.descendants r = d.descendants r := by
  have hmirror := h.household r hr
  rw [alone, if_neg hnew] at hmirror
  have hsame :
      (d.descendants r).map (Node.renumber (shift d.next (distance r))) = d.descendants r :=
    Document.map_renumber_shift (fun n hn ↦ (List.mem_filter.mp hn).1) _
  exact (hmirror.descendants (h₀.found r hr) (h.found_head h₀ hr)).trans hsame

theorem find?_of_new (hr : heads r = true) (hform : r ∉ s.formRoots) (hguard : r ∉ s.guardRoots) :
    s.document.find? r = d.find? r := by
  rw [h.find?_of_loose (h₀.lt r hr) (h₀.housed.head r hr)]
  cases hn : d.find? r with
  | none => rfl
  | some n =>
    obtain rfl := Document.id_of_find? hn
    simp [stamped, hform, hguard, stamp]

/-! ## Outside of the households -/

theorem lineage_of_loose {id : NodeId} (hid : id < d.next) (hhome : homeIn heads d id = none) :
    s.document.lineage id = d.lineage id := by
  induction id using Nat.strongRecOn with
  | ind id ih =>
    rw [Document.lineage_eq, Document.lineage_eq, h.find?_of_loose hid hhome]
    cases hn : d.find? id with
    | none => rfl
    | some n =>
      show id :: (n.parent.map s.document.lineage).getD [] = id :: (n.parent.map d.lineage).getD []
      cases hp : n.parent with
      | none => rfl
      | some p =>
        have hlt := Document.parent_lt_of_find? hn hp
        have hchild := h₀.housed.child n (Document.mem_of_find? hn) p hp
        rw [Document.id_of_find? hn, hhome] at hchild
        have hparent : homeIn heads d p = none := by
          split at hchild
          · cases hchild
          · exact hchild.symm
        rw [Option.map_some, Option.map_some, ih p hlt (Nat.lt_trans hlt hid) hparent]

private theorem children_of_loose {id : NodeId} (hid : id < d.next)
    (hhome : homeIn heads d id = none)
    (hhead : heads id = false) : s.document.children id = (d.children id).map s.stamped := by
  have hchildren : ∀ {home : NodeId → Option NodeId} {d : Document}, d.Housed heads home →
      home id = none → d.children id = (Site.loose d home).filter (·.parent == some id) := by
    intro home d hd hnone
    rw [Document.children, Site.loose, List.filter_filter]
    refine List.filter_congr fun n hn ↦ ?_
    by_cases hp : n.parent = some id
    · have hchild := hd.child n hn id hp
      rw [hhead, hnone] at hchild
      simp [hp, hchild]
    · simp [hp]
  rw [hchildren h.housed ((h.old id hid).trans hhome), hchildren h₀.housed hhome, h.loose,
    List.filter_map]
  rfl

/-! ## Outlines -/

omit h₀ in
/-- A household looks as if nothing had been bound but the form of its head. -/
theorem outline_of_home {id : NodeId} (hr : heads r = true) (hid : id < d.next)
    (hhome : homeIn heads d id = some r) : s.outline id = (alone d s r).outline id := by
  have hshift : shift d.next (distance r) id = id := Document.shift_of_lt hid
  have hold : withNew (homeIn heads d) d.next r id = some r := (withNew_of_lt hid).trans hhome
  have hnow : home (shift d.next (distance r) id) = some r := by
    rw [hshift, h.old id hid, hhome]
  have houtline := outline_of_mirrors (h.household r hr) (h.heard r hr) hold hnow
  rwa [hshift] at houtline

private theorem map_outline_children (hr : heads r = true) :
    (s.document.children r).map (fun n ↦ s.outline n.id) =
      ((alone d s r).document.children r).map fun n ↦ (alone d s r).outline n.id := by
  have hmirror := h.household r hr
  have hself : shift d.next (distance r) r = r := Document.shift_of_lt (h₀.lt r hr)
  have hchildren := hmirror.children (k := r) (.inr ⟨rfl, hr⟩) (.inr ⟨hself, hr⟩)
  rw [hself] at hchildren
  rw [hchildren, List.map_map]
  refine List.map_congr_left fun n hn ↦ ?_
  have hn' : n.renumber (shift d.next (distance r)) ∈ s.document.children r := by
    rw [hchildren]
    exact List.mem_map_of_mem hn
  have hin : ∀ {d : Document} {home} {m : Node}, d.Housed heads home → m ∈ d.children r →
      home m.id = some r := by
    intro d home m hd hm
    obtain ⟨hmem, hparent⟩ := List.mem_filter.mp hm
    exact hd.home_of_parent hmem (beq_iff_eq.mp hparent) (.inr ⟨rfl, hr⟩)
  exact outline_of_mirrors hmirror (h.heard r hr) (hin hmirror.housed hn) (hin h.housed hn')

variable (h' : Composed heads d s' home' distance')
include h'

/-- Pages on which the same is bound to a head have the same outline there. -/
theorem outline_head (hr : heads r = true) (hforms : r ∈ s'.formRoots ↔ r ∈ s.formRoots)
    (hguards : r ∈ s'.guardRoots ↔ r ∈ s.guardRoots) : s'.outline r = s.outline r := by
  have halone : alone d s' r = alone d s r := by
    rw [alone, alone, if_congr hforms rfl rfl]
  refine outline_congr ?_ ?_ ?_ ?_
  · rw [h'.element?_head h₀ hr, h.element?_head h₀ hr]
    simp only [hforms, hguards]
  · rw [h'.releases r hr, h.releases r hr, if_congr hforms rfl rfl]
  · rw [h'.latches r hr, h.latches r hr, if_congr hguards rfl rfl]
  · rw [h'.map_outline_children h₀ hr, h.map_outline_children h₀ hr, halone]

/-- Pages on which the same is bound have the same outline. -/
theorem outline_eq (hforms : ∀ r, r ∈ s'.formRoots ↔ r ∈ s.formRoots)
    (hguards : ∀ r, r ∈ s'.guardRoots ↔ r ∈ s.guardRoots) {id : NodeId}
    (hid : id < d.next) : s'.outline id = s.outline id := by
  have hstamped : s'.stamped = s.stamped := by
    funext n
    rw [stamped, stamped]
    simp only [hforms, hguards]
  -- children have higher numbers, so the induction is on the distance to the next number
  induction hdepth : d.next - id using Nat.strongRecOn generalizing id with
  | ind depth ih =>
    cases hhome : homeIn heads d id with
    | some r =>
      have hr : heads r = true := List.find?_some hhome
      have halone : alone d s' r = alone d s r := by
        rw [alone, alone, if_congr (hforms r) rfl rfl]
      rw [h'.outline_of_home hr hid hhome, h.outline_of_home hr hid hhome, halone]
    | none =>
      -- a head has its outline from what is bound to it, anything else from its old children
      cases hhead : heads id with
      | true => exact h.outline_head h₀ h' hhead (hforms id) (hguards id)
      | false =>
        have hquiet : s'.hears id = s.hears id := by
          rw [h'.quiet id ((h'.old id hid).trans hhome) hhead,
            h.quiet id ((h.old id hid).trans hhome) hhead]
        refine outline_congr ?_ (by rw [hquiet]) (by rw [hquiet]) ?_
        · rw [Document.element?, h'.find?_of_loose hid hhome, Document.element?,
            h.find?_of_loose hid hhome, hstamped]
        · rw [h'.children_of_loose h₀ hid hhome hhead, h.children_of_loose h₀ hid hhome hhead,
            List.map_map, List.map_map]
          refine List.map_congr_left fun n hn ↦ ?_
          obtain ⟨hmem, hparent⟩ := List.mem_filter.mp hn
          obtain ⟨hlt, hage⟩ := d.aged n hmem
          have hid : id < n.id := hage id (by simpa using hparent)
          refine ih (d.next - n.id) ?_ hlt rfl
          rw [← hdepth]
          exact Nat.sub_lt_sub_left (Nat.lt_trans hid hlt) hid

end Composed

end Site

end AccessForm
