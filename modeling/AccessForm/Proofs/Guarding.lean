import AccessForm.Proofs.Rebinding

/-!
# Guards beside forms

A guard needs settings that can be read and a control that submits, and its element must not be
marked yet. Which of the controls the guard takes is another matter; that it can be bound depends on
whether there is one (`exists_planGuard_iff`).

Forms create no such control, and what they take out of a page are options. So a guard that can be
bound after a form could be bound before (`exists_planGuard_of_evolves`). The converse holds as long
as one of the controls lies in no option of the dropdown (`exists_planGuard_bindForm`).
-/

namespace AccessForm

namespace Site

open Document (isOptionOf)

variable {d d' : Document} {r : NodeId} {s : Site} {plan : FormPlan} {l : Leeway}

/-- The controls that a guard may take. -/
def submitters : Selector := submitControls ++ buttons

private theorem fits_submitters (e : Element) : submitters.fits e = true ↔
    e.tag = "button" ∨ e.tag = "input" ∧ e.attribute? "type" = some "submit" := by
  simp only [submitters, submitControls, buttons, Selector.fits, List.cons_append, List.nil_append,
    List.any_cons, List.any_nil, List.all_cons, List.all_nil, Condition.holds, Bool.and_true,
    Bool.or_false, Bool.or_eq_true, Bool.and_eq_true, beq_iff_eq]
  tauto

theorem kind_of_fits {e : Element} (h : submitters.fits e = true) :
    e.kind = .button ∨ e.kind = .input := by
  rw [Element.kind]
  rcases (fits_submitters e).mp h with htag | ⟨htag, -⟩
  · rw [htag]
    exact .inl rfl
  · rw [htag]
    exact .inr rfl

private theorem isShowable_of_fits {e : Element} (h : submitters.fits e = true) :
    e.kind.isShowable = true := by
  rcases kind_of_fits h with hkind | hkind
  · rw [hkind]
    rfl
  · rw [hkind]
    rfl

private theorem mem_query_submitters {n : Node} : n ∈ d.query r submitters ↔
    n ∈ d.query r submitControls ∨ n ∈ d.query r buttons := by
  have hfits : submitters.fits n.element =
      (submitControls.fits n.element || buttons.fits n.element) := List.any_append
  rw [Document.mem_query, Document.mem_query, Document.mem_query, hfits, Bool.or_eq_true]
  tauto

/-- A guard can be bound when its element is not marked, the settings can be read, and there is a
control that submits. -/
theorem exists_planGuard_iff : (∃ latch, planGuard d r = .ok latch) ↔
    (rootElement d r).hasAttribute guardMarker = false ∧
      (∃ settings, Settings.ofAttributes ((rootElement d r).attribute? settingsAttribute) none =
        .ok settings) ∧
      d.query r submitters ≠ [] := by
  have hfirst : ∀ n, (d.queryFirst? r submitControls).or (d.queryFirst? r buttons) = some n →
      n ∈ d.query r submitters := by
    intro n hn
    refine mem_query_submitters.mpr ?_
    rcases Option.or_eq_some_iff.mp hn with hn | ⟨-, hn⟩
    · exact .inl (Document.mem_query_of_queryFirst? hn)
    · exact .inr (Document.mem_query_of_queryFirst? hn)
  have hnone : (d.queryFirst? r submitControls).or (d.queryFirst? r buttons) = none →
      d.query r submitters = [] := by
    intro hn
    obtain ⟨hcontrols, hbuttons⟩ := Option.or_eq_none_iff.mp hn
    refine List.eq_nil_iff_forall_not_mem.mpr fun n hmem ↦ ?_
    rcases mem_query_submitters.mp hmem with hmem | hmem
    · rw [List.head?_eq_none_iff.mp hcontrols] at hmem
      cases hmem
    · rw [List.head?_eq_none_iff.mp hbuttons] at hmem
      cases hmem
  simp only [planGuard, bind_eq_ok_iff, refuseMarked_eq_ok_iff, mapError_eq_ok_iff]
  constructor
  · rintro ⟨latch, -, hunmarked, settings, hsettings, hfound⟩
    refine ⟨hunmarked, ⟨settings, hsettings⟩, ?_⟩
    split at hfound
    · next n hn => exact List.ne_nil_of_mem (hfirst n hn)
    · cases hfound
  · rintro ⟨hunmarked, ⟨settings, hsettings⟩, hcontrol⟩
    cases hn : (d.queryFirst? r submitControls).or (d.queryFirst? r buttons) with
    | none => exact absurd (hnone hn) hcontrol
    | some n =>
      refine ⟨{ control := n.id, busyClass := settings.busyClass }, (), hunmarked, settings,
        hsettings, ?_⟩
      exact if_pos (isShowable_of_fits (Document.mem_query.mp (hfirst n hn)).2.2)

theorem exists_of_planGuard {latch : Latch NodeId} (h : planGuard d r = .ok latch) :
    ∃ n ∈ d.query r submitters, n.id = latch.control := by
  simp only [planGuard, bind_eq_ok_iff] at h
  obtain ⟨-, -, settings, -, hfound⟩ := h
  split at hfound
  · next n hn =>
    split at hfound
    · cases hfound
      refine ⟨n, mem_query_submitters.mpr ?_, rfl⟩
      rcases Option.or_eq_some_iff.mp hn with hn | ⟨-, hn⟩
      · exact .inl (Document.mem_query_of_queryFirst? hn)
      · exact .inr (Document.mem_query_of_queryFirst? hn)
    · cases hfound
  · cases hfound

/-! ## Controls come and go -/

/-- The attributes of its element that the plan of a guard reads. -/
def guardAttributes : List String := [guardMarker, settingsAttribute]

private theorem fits_submitters_congr {e e' : Element} (htag : e'.tag = e.tag)
    (htype : e'.attribute? "type" = e.attribute? "type") :
    submitters.fits e' = submitters.fits e := by
  rw [Bool.eq_iff_iff, fits_submitters, fits_submitters, htag, htype]

private theorem not_creates_of_fits (hcreates : ∀ k, l.creates k → k = .option ∨ k = .dropdown)
    {e : Element} (h : submitters.fits e = true) : ¬ l.creates e.kind := by
  intro hkind
  rcases kind_of_fits h with hfits | hfits
  · rw [hfits] at hkind
    simpa using hcreates _ hkind
  · rw [hfits] at hkind
    simpa using hcreates _ hkind

/-- Where no control that submits can come to be, a guard that can be bound could be bound
before. -/
theorem exists_planGuard_of_evolves (h : d.Evolves l d') (htype : ∀ id, ¬ l.free id "type")
    (hcreates : ∀ k, l.creates k → k = .option ∨ k = .dropdown)
    (hattr : ∀ a ∈ guardAttributes,
      (rootElement d' r).attribute? a = (rootElement d r).attribute? a)
    (hplan : ∃ latch, planGuard d' r = .ok latch) : ∃ latch, planGuard d r = .ok latch := by
  obtain ⟨hunmarked, hsettings, hcontrols⟩ := exists_planGuard_iff.mp hplan
  rw [Element.hasAttribute, hattr guardMarker (by simp [guardAttributes])] at hunmarked
  rw [hattr settingsAttribute (by simp [guardAttributes])] at hsettings
  refine exists_planGuard_iff.mpr ⟨hunmarked, hsettings, ?_⟩
  obtain ⟨n', hn'⟩ := List.exists_mem_of_ne_nil _ hcontrols
  obtain ⟨hmem, hbelow, hfits⟩ := Document.mem_query.mp hn'
  have hlt : n'.id < d.next := by
    by_contra hge
    exact not_creates_of_fits hcreates hfits (h.new n' hmem (Nat.not_lt.mp hge))
  obtain ⟨n, hn, hb⟩ := h.exists_find? hlt (Document.find?_of_mem hmem)
  refine List.ne_nil_of_mem (a := n) (Document.mem_query.mpr ⟨Document.mem_of_find? hn, ?_, ?_⟩)
  · rw [← hb.id]
    exact h.isBelow_of_isBelow hlt hbelow
  · rw [← fits_submitters_congr hb.tag (hb.attributes "type" (htype _))]
    exact hfits

private theorem exists_planGuard_of_kept (h : d.Evolves l d') (htype : ∀ id, ¬ l.free id "type")
    (hattr : ∀ a ∈ guardAttributes,
      (rootElement d' r).attribute? a = (rootElement d r).attribute? a)
    {n : Node} (hn : n ∈ d.query r submitters) (hkept : d'.lineage n.id = d.lineage n.id)
    (hplan : ∃ latch, planGuard d r = .ok latch) : ∃ latch, planGuard d' r = .ok latch := by
  obtain ⟨hunmarked, hsettings, -⟩ := exists_planGuard_iff.mp hplan
  rw [Element.hasAttribute, ← hattr guardMarker (by simp [guardAttributes])] at hunmarked
  rw [← hattr settingsAttribute (by simp [guardAttributes])] at hsettings
  refine exists_planGuard_iff.mpr ⟨hunmarked, hsettings, ?_⟩
  obtain ⟨hmem, hbelow, hfits⟩ := Document.mem_query.mp hn
  obtain ⟨n', hn', hb⟩ := h.find? (Document.find?_of_mem hmem)
  refine List.ne_nil_of_mem (a := n') (Document.mem_query.mpr ⟨Document.mem_of_find? hn', ?_, ?_⟩)
  · rw [hb.id, Document.isBelow, hkept]
    exact hbelow
  · rw [fits_submitters_congr hb.tag (hb.attributes "type" (htype _))]
    exact hfits

/-! ## After the form of the same element -/

/-- The leeway of those who bind the form of an element. -/
def attaching (r dropdown : NodeId) : Leeway where
  free id a := a = "required" ∨ a = "disabled" ∨ a = "class" ∨ a = "name" ∨ id = r ∧ a = formMarker
  refills k := k = dropdown
  creates k := k = .option ∨ k = .dropdown

theorem Plans.evolves_bindForm (h : Plans s.document r plan) : s.document.Evolves
    (attaching r (provideDropdown s.document plan).2.1) (s.bindForm r).site.document := by
  obtain ⟨f, hb⟩ := h.bound
  have hprovided : s.document.Evolves (attaching r (provideDropdown s.document plan).2.1)
      (provideDropdown s.document plan).1 :=
    h.provided.evolves.mono (fun _ _ hfalse ↦ hfalse.elim) (fun _ hfalse ↦ hfalse.elim)
      fun _ hk ↦ .inr hk
  refine hprovided.trans (hb.evolves.mono ?_ ?_ fun _ hk ↦ .inl hk)
  · rintro id a (hfree | ⟨rfl, rfl⟩)
    · rcases hfree with rfl | rfl | rfl | ⟨rfl, -⟩ <;> simp [attaching]
    · simp [attaching]
  · intro k hk
    exact hk.trans hb.dropdown

private theorem not_free_type (r dropdown id : NodeId) :
    ¬ (attaching r dropdown).free id "type" := by
  simp [attaching, formMarker]

private theorem Plans.attribute?_rootElement_bindForm (h : Plans s.document r plan) {a : String}
    (ha : a ∈ guardAttributes) : (rootElement (s.bindForm r).site.document r).attribute? a =
      (rootElement s.document r).attribute? a := by
  have hfree : ¬ (attaching r (provideDropdown s.document plan).2.1).free r a := by
    rcases List.mem_pair.mp ha with rfl | rfl
    · simp [attaching, guardMarker, formMarker]
    · simp [attaching, settingsAttribute, formMarker]
  rw [attribute?_rootElement (h.evolves_bindForm.isSome_element? h.isSome_root),
    attribute?_rootElement h.isSome_root, h.evolves_bindForm.attribute?_eq h.isSome_root hfree]

/-- Binding the form first does not make it possible to bind the guard. -/
theorem Plans.exists_planGuard (h : Plans s.document r plan)
    (hplan : ∃ latch, planGuard (s.bindForm r).site.document r = .ok latch) :
    ∃ latch, planGuard s.document r = .ok latch :=
  exists_planGuard_of_evolves h.evolves_bindForm (not_free_type r _) (fun _ hk ↦ hk)
    (fun _ ha ↦ h.attribute?_rootElement_bindForm ha) hplan

/-- Whether a control that submits an element lies in no option of a dropdown. -/
def SubmitsOutside (d : Document) (r : NodeId) (dropdown : Option NodeId) : Prop :=
  ∃ n ∈ d.query r submitters, ∀ m ∈ d.nodes, m.id ∈ d.lineage n.id →
    ∀ k ∈ dropdown, isOptionOf k m = false

/-- It does not make it impossible unless all controls lie in options of the dropdown. -/
theorem Plans.exists_planGuard_bindForm (h : Plans s.document r plan)
    (houtside : SubmitsOutside s.document r plan.dropdown)
    (hplan : ∃ latch, planGuard s.document r = .ok latch) :
    ∃ latch, planGuard (s.bindForm r).site.document r = .ok latch := by
  obtain ⟨n, hn, hfree⟩ := houtside
  refine exists_planGuard_of_kept h.evolves_bindForm (not_free_type r _)
    (fun _ ha ↦ h.attribute?_rootElement_bindForm ha) hn ?_ hplan
  refine h.evolves_bindForm.lineage_of_kept (s.document.aged n (Document.mem_query.mp hn).1).1 ?_
  rintro m hm hlineage k rfl
  cases hk : plan.dropdown with
  | some k =>
    rw [provideDropdown_of_some hk]
    exact hfree m hm hlineage k hk
  | none =>
    -- a generated dropdown is younger than everything that was there
    by_contra hopt
    rw [Bool.not_eq_false, isOptionOf, Bool.and_eq_true, beq_iff_eq, beq_iff_eq,
      (h.generated hk).2.1] at hopt
    obtain ⟨hlt, hage⟩ := s.document.aged m hm
    exact Nat.lt_asymm hlt (hage _ hopt.1)

end Site

end AccessForm
