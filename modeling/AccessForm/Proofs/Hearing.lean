import AccessForm.Proofs.Operations

/-!
# Who hears what happens in a form

A user who chooses or types something does so in one element, and the event is heard there and in
everything around it. In a session with a form that no other form is around, these are the listeners
of the form, and for submissions also latches. A choice in a permission selector is heard there
alone if no permission selector lies in another one (`Session.audience_change`). A reason that is
typed may be heard by further copies of the reason field, but by them last
(`Session.audience_input`).
-/

namespace AccessForm

/-! ## Ways up -/

namespace Document

variable {l : Leeway} {d d' : Document}

theorem exists_lineage_eq_cons {id : NodeId} (h : (d.element? id).isSome = true) :
    ∃ as, d.lineage id = id :: as ∧ ∀ a ∈ as, a < id := by
  rw [element?, Option.isSome_map] at h
  obtain ⟨n, hn⟩ := Option.isSome_iff_exists.mp h
  refine ⟨(n.parent.map d.lineage).getD [], by rw [lineage_eq, hn], fun a ha ↦ ?_⟩
  cases hp : n.parent with
  | none =>
    rw [hp] at ha
    cases ha
  | some p =>
    rw [hp] at ha
    exact Nat.lt_of_le_of_lt (le_of_mem_lineage ha) (parent_lt_of_find? hn hp)

theorem lt_next_of_lineage {a id : NodeId} (h : a ∈ d.lineage id) : id < d.next := by
  obtain ⟨n, hn, -⟩ := mem_lineage_iff.mp h
  exact lt_next_of_find? hn

private theorem Evolves.lineage_of_outside (h : d.Evolves l d') {k id : NodeId}
    (hl : ∀ j, l.refills j → j = k) (hsome : (d.element? k).isSome = true) (hid : id < d.next)
    (hk : k ∉ d.lineage id) : d'.lineage id = d.lineage id := by
  refine h.lineage_of_kept hid fun o ho hmem j hj ↦ ?_
  rw [hl j hj]
  by_contra hopt
  simp only [isOptionOf, Bool.not_eq_false, Bool.and_eq_true, beq_iff_eq] at hopt
  have hparent : k ∈ d.lineage o.id :=
    mem_lineage_iff.mpr ⟨o, find?_of_mem ho, .inr ⟨k, hopt.1, mem_lineage_self hsome⟩⟩
  exact hk (mem_lineage_trans hparent hmem)

end Document

namespace Site

variable {s₀ s₁ s : Site} {root : NodeId} {plan : FormPlan} {f : BoundForm} {d₀ : Document}

/-! ## Listeners of a form -/

private theorem filter_formListeners_change (layout : Layout NodeId NodeId) (owner : BindingId)
    (id : NodeId) :
    (formListeners root layout owner).filter
        (fun m ↦ m.target == id && m.reaction.event == "change") =
      (layout.permission.filter (· == id)).map (⟨·, owner, .select⟩) := by
  simp [formListeners, List.filter_append, List.filter_map, Function.comp_def, Reaction.event]

private theorem filter_formListeners_input (layout : Layout NodeId NodeId) (owner : BindingId)
    (id : NodeId) :
    (formListeners root layout owner).filter
        (fun m ↦ m.target == id && m.reaction.event == "input") =
      (layout.reason.filter (· == id)).map (⟨·, owner, .noteReason⟩) := by
  simp [formListeners, List.filter_append, List.filter_map, Function.comp_def, Reaction.event]

private theorem filter_beq_self {ks : List NodeId} (h : ks.Nodup) {k : NodeId} (hk : k ∈ ks) :
    ks.filter (· == k) = [k] := by
  rw [List.filter_beq, List.count_eq_one_of_mem h hk, List.replicate_one]

section Audience

variable (hb : Bound s₀ root plan f s₁) (hplan : Plans s₀.document root plan)
  (h : Session s₁ f d₀ s)
include hb hplan h

theorem Session.lineage_prefix {id : NodeId} (hid : id < s₀.document.next) :
    s.document.lineage id <+: s₀.document.lineage id := by
  obtain ⟨d, hd, -, hdoc⟩ := hb.document
  have hprovided := hplan.provided.evolves
  have hid₁ := Nat.lt_of_lt_of_le hid hprovided.next_le
  have hbound : s₁.document.lineage id = d.lineage id := by
    rw [hdoc, setMarker, Document.lineage_modify]
  have hlt : id < s₁.document.next := by
    rw [hdoc]
    exact Nat.lt_of_lt_of_le hid₁ hd.next_le
  have hsession := h.document.lineage_prefix hlt
  rw [hbound] at hsession
  exact (hsession.trans (hd.lineage_prefix hid₁)).trans (hprovided.lineage_prefix hid)

theorem Session.lineage_of_outside {id : NodeId} (hid : id < s₀.document.next)
    (houtside : f.controller.layout.dropdown ∉ s₀.document.lineage id) :
    s.document.lineage id = s₀.document.lineage id := by
  obtain ⟨d, hd, -, hdoc⟩ := hb.document
  have hprovided := hplan.provided.evolves
  have hid₁ := Nat.lt_of_lt_of_le hid hprovided.next_le
  have hseated := hplan.seated hb.text hb.dropdown
  have hrefills : ∀ j, f.controller.leeway.refills j → j = f.controller.layout.dropdown :=
    fun _ hj ↦ hj
  have hprovided' := hprovided.lineage_eq_of_not_refills (fun _ hfalse ↦ hfalse) hid
  have hbound : s₁.document.lineage id = s₀.document.lineage id := by
    rw [hdoc, setMarker, Document.lineage_modify, ← hprovided']
    refine hd.lineage_of_outside hrefills hseated.dropdown hid₁ ?_
    rwa [hprovided']
  have hlt : id < s₁.document.next := by
    rw [hdoc]
    exact Nat.lt_of_lt_of_le hid₁ hd.next_le
  rw [← hbound]
  refine h.document.lineage_of_outside hrefills (hb.seated hplan).dropdown hlt ?_
  rwa [hbound]

omit hplan in
private theorem Session.listeners_eq :
    s.listeners = s₀.listeners ++ formListeners root f.controller.layout f.id := by
  rw [h.stays.listeners, hb.listeners, hb.number]

variable (hsecluded : s₀.Secluded root)
include hsecluded

/-- Earlier listeners do not hear what happens in the form, but for the latches. -/
theorem Session.deaf {m : Listener} (hm : m ∈ s₀.listeners) (hlatch : m.reaction ≠ .latch)
    {target : NodeId} (htarget : root ∈ s₀.document.lineage target) :
    m.target ∉ s.document.lineage target := by
  have hup := h.lineage_prefix hb hplan (Document.lt_next_of_lineage htarget)
  exact fun hmem ↦ hsecluded m hm hlatch target htarget (hup.subset hmem)

/-- Of everything but submissions the form hears alone. -/
theorem Session.audience_eq {target : NodeId} (htarget : root ∈ s₀.document.lineage target)
    {event : String} (hevent : event ≠ "submit") :
    s.audience target event = (s.document.lineage target).flatMap fun id ↦
      (formListeners root f.controller.layout f.id).filter
        fun m ↦ m.target == id && m.reaction.event == event := by
  refine List.flatMap_congr fun id hid ↦ ?_
  have hnone : s₀.listeners.filter (fun m ↦ m.target == id && m.reaction.event == event) = [] := by
    refine List.filter_eq_nil_iff.mpr fun m hm hcond ↦ ?_
    rw [Bool.and_eq_true, beq_iff_eq, beq_iff_eq] at hcond
    have hlatch : m.reaction ≠ .latch := by
      intro hlatch
      rw [hlatch] at hcond
      exact hevent hcond.2.symm
    have hdeaf := h.deaf hb hplan hsecluded hm hlatch htarget
    exact hdeaf (hcond.1 ▸ hid)
  rw [h.listeners_eq hb, List.filter_append, hnone, List.nil_append]

theorem Session.audience_change {copy : NodeId} (hcopy : copy ∈ f.controller.layout.permission)
    (hnodup : f.controller.layout.permission.Nodup)
    (htarget : root ∈ s₀.document.lineage copy)
    (hflat : ∀ j ∈ f.controller.layout.permission, j ∈ s₀.document.lineage copy → j = copy)
    (hsome : (s.document.element? copy).isSome = true) :
    s.audience copy "change" = [⟨copy, f.id, .select⟩] := by
  obtain ⟨as, has, holder⟩ := Document.exists_lineage_eq_cons hsome
  have hup := h.lineage_prefix hb hplan (Document.lt_next_of_lineage htarget)
  rw [h.audience_eq hb hplan hsecluded htarget (by decide), has, List.flatMap_cons,
    filter_formListeners_change, filter_beq_self hnodup hcopy]
  have hothers : as.flatMap (fun id ↦ (formListeners root f.controller.layout f.id).filter
      fun m ↦ m.target == id && m.reaction.event == "change") = [] := by
    refine List.flatMap_eq_nil_iff.mpr fun id hid ↦ ?_
    rw [filter_formListeners_change, List.map_eq_nil_iff, List.filter_eq_nil_iff]
    intro j hj heq
    obtain rfl : j = id := beq_iff_eq.mp heq
    have hmem : j ∈ s.document.lineage copy := has ▸ List.mem_cons_of_mem _ hid
    exact absurd (hflat j hj (hup.subset hmem)) (Nat.ne_of_lt (holder j hid))
  rw [hothers]
  rfl

/-- A copy of the reason field hears first what is typed into it, and after it at most other copies
hear of it. -/
theorem Session.audience_input {copy : NodeId} (hcopy : copy ∈ f.controller.layout.reason)
    (hnodup : f.controller.layout.reason.Nodup) (htarget : root ∈ s₀.document.lineage copy)
    (hsome : (s.document.element? copy).isSome = true) :
    ∃ ms, s.audience copy "input" = ⟨copy, f.id, .noteReason⟩ :: ms ∧
      ∀ m ∈ ms, ∃ k ∈ f.controller.layout.reason, m = ⟨k, f.id, .noteReason⟩ := by
  obtain ⟨as, has, -⟩ := Document.exists_lineage_eq_cons hsome
  rw [h.audience_eq hb hplan hsecluded htarget (by decide), has, List.flatMap_cons,
    filter_formListeners_input, filter_beq_self hnodup hcopy]
  refine ⟨_, rfl, fun m hm ↦ ?_⟩
  obtain ⟨id, -, hm⟩ := List.mem_flatMap.mp hm
  rw [filter_formListeners_input] at hm
  obtain ⟨k, hk, rfl⟩ := List.mem_map.mp hm
  exact ⟨k, (List.mem_filter.mp hk).1, rfl⟩

theorem Session.mem_audience_submit {target : NodeId}
    (htarget : root ∈ s₀.document.lineage target) {m : Listener}
    (hm : m ∈ s.audience target "submit") :
    m.reaction = .latch ∨ m = ⟨root, f.id, .release⟩ := by
  obtain ⟨id, hid, hm⟩ := List.mem_flatMap.mp hm
  obtain ⟨hmem, hcond⟩ := List.mem_filter.mp hm
  rw [Bool.and_eq_true, beq_iff_eq, beq_iff_eq] at hcond
  rw [h.listeners_eq hb] at hmem
  rcases List.mem_append.mp hmem with hmem | hmem
  · refine or_iff_not_imp_right.mpr fun _ ↦ ?_
    by_contra hlatch
    exact h.deaf hb hplan hsecluded hmem hlatch htarget (hcond.1 ▸ hid)
  · rw [formListeners, List.mem_append, List.mem_append] at hmem
    rcases hmem with (hmem | hmem) | hmem
    · obtain ⟨k, -, rfl⟩ := List.mem_map.mp hmem
      exact absurd hcond.2 (by simp [Reaction.event])
    · obtain ⟨k, -, rfl⟩ := List.mem_map.mp hmem
      exact absurd hcond.2 (by simp [Reaction.event])
    · exact .inr (List.mem_singleton.mp hmem)

omit hplan hsecluded in
theorem Session.release_mem_audience {target : NodeId}
    (htarget : root ∈ s.document.lineage target) :
    ⟨root, f.id, .release⟩ ∈ s.audience target "submit" := by
  refine List.mem_flatMap.mpr ⟨root, htarget, List.mem_filter.mpr ⟨?_, by simp [Reaction.event]⟩⟩
  rw [h.listeners_eq hb, formListeners]
  simp

end Audience

end Site

end AccessForm
