import AccessForm.Proofs.Guarding
import AccessForm.Proofs.Latching
import AccessForm.Proofs.Locking
import AccessForm.Proofs.Selecting
import AccessForm.Proofs.Transcript
import Mathlib.Data.List.Infix

/-!
# Submitting once

A form with a guard is submitted once, whatever else is bound to the page and whatever happens to
it (`single_submission`). The first submission since the guard was bound goes through and disables
the control of the guard; the later ones are prevented. The class that marks the control as busy
plays no part in this.

Forms and guards take turns at disabling and enabling elements, but not the same ones. Apart from
its text field, what a form toggles is a dropdown, and what a guard disables is a button or an input
(`Equipped`). So the control of a guard stays disabled, unless it is the text field of a form, and
locked selectors are enabled when a submission has been heard, in whichever order the listeners
react.
-/

namespace AccessForm

/-! ## What a submission disables -/

namespace Document

variable {d : Document} {k : NodeId}

/-- A submission disables the control of the guard, be the class refused or not. -/
theorem isDisabled_submit_iff (hk : (d.element? k).isSome = true) (latch : Latch NodeId) :
    Surface.isDisabled (latch.submit d).surface k = true ↔
      Surface.isDisabled d k = true ∨ latch.control = k ∧ latch.submitted = false := by
  rw [Latch.submit]
  split
  · next hsub => simp [hsub]
  · next hopen =>
    have hfirst : d.Evolves .slight (Surface.setDisabled d latch.control true) :=
      .toggleAttribute (Leeway.slight_disabled _) (by decide) d true
    have hsome := hfirst.isSome_element? hk
    have hclass : (Surface.setDisabled d latch.control true).Evolves (.sparing k "disabled")
        (SubmitSurface.addClass (Surface.setDisabled d latch.control true) latch.control
          latch.busyClass).1 := by
      simp only [SubmitSurface.addClass]
      split
      · exact .refl _
      · next hfault =>
        exact .addClass (isWord_of_classFault? hfault) (fun hboth ↦ absurd hboth.2 (by decide)) _
    refine (Bool.eq_iff_iff.mp (hclass.isDisabled_spared hsome)).trans ?_
    rw [isDisabled_setDisabled hk]
    by_cases hcontrol : latch.control = k
    · simp [hcontrol, Bool.not_eq_true _ ▸ hopen]
    · simp [hcontrol, Ne.symm hcontrol]

private theorem isDisabled_setMarker (hk : (d.element? k).isSome = true) {marker : String}
    (hmarker : marker ≠ "disabled") (hclass : marker ≠ "class") (root : NodeId) (b : Bool) :
    Surface.isDisabled (Site.setMarker d root marker b) k = Surface.isDisabled d k := by
  have hevolves : d.Evolves (.sparing k "disabled") (Site.setMarker d root marker b) :=
    .toggleAttribute (fun hboth ↦ hmarker hboth.2) hclass d b
  exact hevolves.isDisabled_spared hk

end Document

/-- The dropdowns that a form disables and enables. -/
def Controller.toggled (c : Controller NodeId NodeId) : List NodeId := c.layout.dropdown :: c.locked

namespace Site

variable {s s' : Site} {d : Document} {f : BoundForm} {g : BoundGuard} {l : Listener}
  {k root target : NodeId} {id : BindingId}

private theorem Orderly.isDisabled_judge_iff (h : s.Orderly)
    (hk : (s.document.element? k).isSome = true)
    (id : BindingId) : Surface.isDisabled (s.judge id).site.document k = true ↔
      Surface.isDisabled s.document k = true ∨
        ∃ g ∈ s.guards, g.id = id ∧ g.latch.control = k ∧ g.latch.submitted = false := by
  rw [judge]
  cases hg : s.guard? id with
  | none =>
    refine (or_iff_left ?_).symm
    rintro ⟨g, hmem, hid, -⟩
    exact List.find?_eq_none.mp hg g hmem (beq_iff_eq.mpr hid)
  | some g =>
    refine (Document.isDisabled_submit_iff hk g.latch).trans (or_congr_right ⟨fun hg' ↦ ?_, ?_⟩)
    · exact ⟨g, List.mem_of_find?_eq_some hg, by simpa using List.find?_some hg, hg'⟩
    · rintro ⟨g', hmem, hid, hg'⟩
      exact h.eq_of_guard? hg hmem hid ▸ hg'

/-! ## Acts, one call at a time -/

section Keeps

variable {P : Site → Prop} (hcall : ∀ s id e, P s → P (s.call id e).site)
  (hjudge : ∀ s id, P s → P (s.judge id).site)
include hcall hjudge

private theorem react_keeps (l : Listener) (h : P s) : P (s.react l).site := by
  rw [react]
  split
  · exact hcall s _ _ h
  · exact hcall s _ _ h
  · exact hcall s _ _ h
  · exact hjudge s _ h

/-- What is kept as values are written, forms are called and guards are told of submissions is kept
by all acts. -/
theorem act_keeps (hset : ∀ s target v, P s → P (s.edit (·.setValue target v)))
    (id : BindingId) (a : Act) (h : P s) : P (s.act id a) := by
  have hdispatch (t : Site) (target : NodeId) (event : String) (ht : P t) :
      P (t.dispatch target event).site :=
    reactAll_keeps (fun u hu l _ ↦ react_keeps hcall hjudge l hu) ht
  cases a with
  | select p => exact hcall s _ _ h
  | derive => exact hcall s _ _ h
  | choose target v => exact hdispatch _ _ _ (hset s target v h)
  | typeText target v => exact hdispatch _ _ _ (hset s target v h)
  | dispatch target event => exact hdispatch s target event h

end Keeps

/-! ## Dropdowns and controls -/

/-- What forms toggle are dropdowns, and what guards disable are other elements. -/
structure Equipped (s : Site) : Prop where
  /-- Numbers of bindings are in order. -/
  orderly : s.Orderly
  /-- Forms toggle dropdowns, apart from their text fields. -/
  toggled (f : BoundForm) : f ∈ s.forms → ∀ k ∈ f.controller.toggled, s.document.kind k = .dropdown
  /-- The controls of guards are there. -/
  present (g : BoundGuard) : g ∈ s.guards → (s.document.element? g.latch.control).isSome = true
  /-- They are no dropdowns. -/
  kind (g : BoundGuard) : g ∈ s.guards → s.document.kind g.latch.control ≠ .dropdown

private theorem equipped_open (d : Document) : Equipped { document := d } where
  orderly := orderly_open d
  toggled _ hf := absurd hf List.not_mem_nil
  present _ hg := absurd hg List.not_mem_nil
  kind _ hg := absurd hg List.not_mem_nil

private theorem Plans.kind_toggled {plan : FormPlan} (h : Plans d root plan)
    (hk : k ∈ (opening d root plan).controller.toggled) :
    (provideDropdown d plan).1.kind k = .dropdown := by
  obtain ⟨mode, primed, hc⟩ := exists_controller_opening d root plan
  rw [hc] at hk
  refine h.kind_dropdowns ?_
  obtain rfl | hk := List.mem_cons.mp hk
  · exact List.mem_cons_self
  · exact List.mem_cons_of_mem _ (List.mem_filter.mp hk).1

namespace Equipped

/-- A page stays equipped when forms and guards keep their elements, and new ones have such. -/
theorem evolves (h : s.Equipped) (ho : s'.Orderly) (hd : s.document.Evolves .any s'.document)
    (hforms : ∀ f' ∈ s'.forms, (∃ f ∈ s.forms, f'.controller.toggled = f.controller.toggled) ∨
      ∀ k ∈ f'.controller.toggled, s'.document.kind k = .dropdown)
    (hguards : ∀ g' ∈ s'.guards, (∃ g ∈ s.guards, g'.latch.control = g.latch.control) ∨
      (s.document.element? g'.latch.control).isSome = true ∧
        s.document.kind g'.latch.control ≠ .dropdown) : s'.Equipped := by
  have hcontrol (g' : BoundGuard) (hg' : g' ∈ s'.guards) :
      (s.document.element? g'.latch.control).isSome = true ∧
        s.document.kind g'.latch.control ≠ .dropdown := by
    obtain ⟨g, hg, heq⟩ | hnew := hguards g' hg'
    · exact heq ▸ ⟨h.present g hg, h.kind g hg⟩
    · exact hnew
  refine ⟨ho, fun f' hf' k hk ↦ ?_, fun g' hg' ↦ ?_, fun g' hg' ↦ ?_⟩
  · obtain ⟨f, hf, heq⟩ | hnew := hforms f' hf'
    · exact hd.kind_eq (h.toggled f hf k (heq ▸ hk))
    · exact hnew k hk
  · exact hd.isSome_element? (hcontrol g' hg').1
  · rw [hd.kind_eq_of_lt (Document.lt_next_of_isSome (hcontrol g' hg').1)]
    exact (hcontrol g' hg').2

private theorem setValue (h : s.Equipped) (target : NodeId) (v : String) :
    (s.edit (·.setValue target v)).Equipped :=
  h.evolves (h.orderly.persists (s.persists_setValue target v))
    (s.persists_setValue target v).document (fun f hf ↦ .inl ⟨f, hf, rfl⟩)
    fun g hg ↦ .inl ⟨g, hg, rfl⟩

private theorem call (h : s.Equipped) (id : BindingId) (e : Controller.Event NodeId) :
    (s.call id e).site.Equipped := by
  have hs := h.orderly.call id e
  refine h.evolves (h.orderly.persists hs) hs.document (fun f' hf' ↦ ?_) fun g hg ↦ ?_
  · obtain ⟨f, hf, mode, primed, rfl⟩ := h.orderly.exists_form_call hf'
    exact .inl ⟨f, hf, rfl⟩
  · exact .inl ⟨g, guards_call s id e ▸ hg, rfl⟩

private theorem judge (h : s.Equipped) (id : BindingId) : (s.judge id).site.Equipped := by
  have hs := s.persists_judge id
  refine h.evolves (h.orderly.persists hs) hs.document (fun f hf ↦ ?_) fun g' hg' ↦ ?_
  · exact .inl ⟨f, forms_judge s id ▸ hf, rfl⟩
  · obtain ⟨g, hg, submitted, rfl⟩ := h.orderly.exists_guard_judge hg'
    exact .inl ⟨g, hg, rfl⟩

theorem bindForm (h : s.Equipped) (root : NodeId) : (s.bindForm root).site.Equipped := by
  cases hplan : planForm s.document root with
  | error e =>
    rw [Site.bindForm, hplan]
    exact h
  | ok plan =>
    have hplans := planForm_eq_ok_iff.mp hplan
    obtain ⟨hforms, hdocument⟩ := hplans.opened
    refine h.evolves (h.orderly.enters hplans.enters) hplans.evolves_bindForm.any
      (fun f hf ↦ ?_) fun g hg ↦ ?_
    · rw [hforms] at hf
      obtain hf | hf := List.mem_append.mp hf
      · exact .inl ⟨f, hf, rfl⟩
      · rw [List.mem_singleton.mp hf, hdocument]
        have hopening : (provideDropdown s.document plan).1.Evolves _
            (opening s.document root plan).surface := Controller.evolves_start _ _ _ _
        exact .inr fun k hk ↦ (kind_setMarker (hopening.kind_eq (hplans.kind_toggled hk)) _ _).1
    · rw [bindForm_eq hplans] at hg
      exact .inl ⟨g, hg, rfl⟩

theorem bindGuard (h : s.Equipped) (root : NodeId) : (s.bindGuard root).site.Equipped := by
  cases hplan : planGuard s.document root with
  | error e =>
    rw [Site.bindGuard, hplan]
    exact h
  | ok latch =>
    obtain ⟨n, hn, hid⟩ := exists_of_planGuard hplan
    obtain ⟨hmem, -, hfits⟩ := Document.mem_query.mp hn
    have hkind : s.document.kind latch.control ≠ .dropdown := by
      rw [← hid, Document.kind, Document.element?, Document.find?_of_mem hmem]
      intro hdropdown
      obtain hkind | hkind := kind_of_fits hfits
      · exact absurd (hkind.symm.trans hdropdown) (by decide)
      · exact absurd (hkind.symm.trans hdropdown) (by decide)
    have hd : s.document.Evolves .any (setMarker s.document root guardMarker true) :=
      .toggleAttribute trivial (by decide) _ true
    have ho := h.orderly.enters (enters_bindGuard hplan)
    rw [Site.bindGuard, hplan] at ho ⊢
    refine h.evolves ho hd (fun f hf ↦ .inl ⟨f, hf, rfl⟩) fun g hg ↦ ?_
    obtain hg | hg := List.mem_append.mp hg
    · exact .inl ⟨g, hg, rfl⟩
    · rw [List.mem_singleton.mp hg]
      exact .inr ⟨hid ▸ Document.isSome_of_mem hmem, hkind⟩

private theorem releaseForm (h : s.Equipped) (id : BindingId) : (s.releaseForm id).Equipped := by
  obtain heq | ⟨f, -, -, hs⟩ := h.orderly.releaseForm id
  · rwa [heq]
  · refine h.evolves (h.orderly.leaves hs) hs.document (fun f hf ↦ ?_) fun g hg ↦ ?_
    · rw [forms_releaseForm] at hf
      exact .inl ⟨f, (List.mem_filter.mp hf).1, rfl⟩
    · exact .inl ⟨g, (s.others_releaseForm id).1 ▸ hg, rfl⟩

private theorem releaseGuard (h : s.Equipped) (id : BindingId) : (s.releaseGuard id).Equipped := by
  obtain heq | ⟨g, -, -, hs⟩ := h.orderly.releaseGuard id
  · rwa [heq]
  · refine h.evolves (h.orderly.leaves hs) hs.document (fun f hf ↦ ?_) fun g hg ↦ ?_
    · exact .inl ⟨f, (s.others_releaseGuard id).1 ▸ hf, rfl⟩
    · rw [guards_releaseGuard] at hg
      exact .inl ⟨g, (List.mem_filter.mp hg).1, rfl⟩

end Equipped

private theorem equipped_operateAll (d : Document) (ops : List Operation) :
    (operateAll { document := d } ops).Equipped :=
  operateAll_keeps (fun _ r h ↦ h.bindForm r) (fun _ r h ↦ h.bindGuard r)
    (fun _ id h ↦ h.releaseForm id) (fun _ id h ↦ h.releaseGuard id)
    (fun _ id a h ↦ act_keeps (fun _ id e h ↦ h.call id e) (fun _ id h ↦ h.judge id)
      (fun _ target v h ↦ h.setValue target v) id a h) (equipped_open d) ops

/-! ## Controls that stay disabled -/

/-- No form has the control of a guard for its text field. -/
def SparesControl (id : BindingId) (s : Site) : Prop :=
  ∀ g ∈ s.guards, g.id = id → ∀ f ∈ s.forms, f.controller.layout.text ≠ g.latch.control

instance (id : BindingId) : DecidablePred (SparesControl id) := fun s ↦
  inferInstanceAs (Decidable (∀ g ∈ s.guards, g.id = id → ∀ f ∈ s.forms,
    f.controller.layout.text ≠ g.latch.control))

/-- A site from which bindings were taken, and to which none were added, spares the control too. -/
theorem SparesControl.mono (h : SparesControl id s') (hforms : ∀ f ∈ s.forms, f ∈ s'.forms)
    (hguards : ∀ g ∈ s.guards, g ∈ s'.guards) : SparesControl id s :=
  fun g hg hid f hf ↦ h g (hguards g hg) hid f (hforms f hf)

private theorem SparesControl.of_bindForm (h : SparesControl id (s.bindForm root).site) :
    SparesControl id s := by
  cases hplan : planForm s.document root with
  | error e => rwa [bindForm, hplan] at h
  | ok plan =>
    rw [bindForm_eq (planForm_eq_ok_iff.mp hplan)] at h
    exact h.mono (fun f hf ↦ List.mem_append_left _ hf) fun g hg ↦ hg

private theorem SparesControl.of_bindGuard (h : SparesControl id (s.bindGuard root).site) :
    SparesControl id s := by
  cases hplan : planGuard s.document root with
  | error e => rwa [bindGuard, hplan] at h
  | ok latch =>
    rw [bindGuard, hplan] at h
    exact h.mono (fun f hf ↦ hf) fun g hg ↦ List.mem_append_left _ hg

/-- The control of a guard is disabled if the form was submitted. -/
structure Shuts (id : BindingId) (s : Site) : Prop extends Equipped s where
  /-- No form has other plans for the control. -/
  spared : SparesControl id s
  /-- After a submission it is disabled. -/
  disabled (g : BoundGuard) : g ∈ s.guards → g.id = id → g.latch.submitted = true →
    Surface.isDisabled s.document g.latch.control = true

private theorem shuts_open (id : BindingId) (d : Document) : Shuts id { document := d } where
  toEquipped := equipped_open d
  spared _ hg := absurd hg List.not_mem_nil
  disabled _ hg := absurd hg List.not_mem_nil

namespace Shuts

/-- What is disabled stays so, and who is told of a submission disables the control. -/
theorem next (h : Shuts id s) (he : s'.Equipped) (hspared : SparesControl id s')
    (hguards : ∀ g' ∈ s'.guards, g'.id = id → g'.latch.submitted = true → g' ∈ s.guards ∨
      Surface.isDisabled s'.document g'.latch.control = true)
    (hkeeps : ∀ g ∈ s.guards, g.id = id →
      Surface.isDisabled s.document g.latch.control = true →
      Surface.isDisabled s'.document g.latch.control = true) : Shuts id s' where
  toEquipped := he
  spared := hspared
  disabled g' hg' hid hsub := by
    obtain hg | hdisabled := hguards g' hg' hid hsub
    · exact hkeeps g' hg hid (h.disabled g' hg hid hsub)
    · exact hdisabled

private theorem setValue (h : Shuts id s) (target : NodeId) (v : String) :
    Shuts id (s.edit (·.setValue target v)) := by
  refine h.next (h.toEquipped.setValue target v) h.spared (fun g hg _ _ ↦ .inl hg)
    fun g hg _ hdisabled ↦ ?_
  have hevolves : s.document.Evolves (.sparing g.latch.control "disabled")
      (s.document.setValue target v) := .setValue _ _ _
  exact (hevolves.isDisabled_spared (h.present g hg)).trans hdisabled

private theorem spares (h : Shuts id s) (hg : g ∈ s.guards) (hid : g.id = id) (hf : f ∈ s.forms) :
    f.controller.Spares g.latch.control ∧ g.latch.control ∉ f.controller.locked := by
  have hkind {k : NodeId} (hk : k ∈ f.controller.toggled) : k ≠ g.latch.control := by
    rintro rfl
    exact h.kind g hg (h.toggled f hf _ hk)
  refine ⟨⟨h.spared g hg hid f hf, fun _ ↦ hkind List.mem_cons_self⟩, fun hlocked ↦ ?_⟩
  exact hkind (List.mem_cons_of_mem _ hlocked) rfl

private theorem call (h : Shuts id s) (owner : BindingId) (e : Controller.Event NodeId) :
    Shuts id (s.call owner e).site := by
  refine h.next (h.toEquipped.call owner e) ?_ (fun g hg _ _ ↦ .inl (guards_call s owner e ▸ hg))
    fun g hg hid hdisabled ↦ ?_
  · intro g hg hid f' hf'
    obtain ⟨f, hf, mode, primed, rfl⟩ := h.orderly.exists_form_call hf'
    exact h.spared g (guards_call s owner e ▸ hg) hid f hf
  · cases hf : s.form? owner with
    | none => rwa [Site.call, hf]
    | some f =>
      rw [call_of_some hf]
      obtain ⟨hspares, hlocked⟩ := h.spares hg hid (List.mem_of_find?_eq_some hf)
      refine (hspares.isDisabled_move_iff (h.present g hg) (m := .event e)
        (Document.allows_event _ e)).mpr ⟨hdisabled, fun hsubmit ↦ hlocked hsubmit.1⟩

private theorem judge (h : Shuts id s) (owner : BindingId) : Shuts id (s.judge owner).site := by
  refine h.next (h.toEquipped.judge owner) ?_ (fun g' hg' hid _ ↦ ?_) fun g hg _ hdisabled ↦ ?_
  · intro g' hg' hid f hf
    obtain ⟨g, hg, submitted, rfl⟩ := h.orderly.exists_guard_judge hg'
    exact h.spared g hg hid f (forms_judge s owner ▸ hf)
  · rw [h.orderly.guards_judge] at hg'
    obtain ⟨g, hg, rfl⟩ := List.mem_map.mp hg'
    by_cases howner : g.id = owner
    · refine .inr ((h.orderly.isDisabled_judge_iff (h.present g hg) owner).mpr ?_)
      by_cases hsub : g.latch.submitted = true
      · exact .inl (h.disabled g hg hid hsub)
      · exact .inr ⟨g, hg, howner, rfl, Bool.not_eq_true _ ▸ hsub⟩
    · rw [beq_false_of_ne howner, g.hearing_false]
      exact .inl hg
  · exact (h.orderly.isDisabled_judge_iff (h.present g hg) owner).mpr (.inl hdisabled)

private theorem act (h : Shuts id s) (owner : BindingId) (a : Act) : Shuts id (s.act owner a) :=
  act_keeps (fun _ owner e h ↦ h.call owner e) (fun _ owner h ↦ h.judge owner)
    (fun _ target v h ↦ h.setValue target v) owner a h

theorem bindForm (h : Shuts id s) (hspared : SparesControl id (s.bindForm root).site) :
    Shuts id (s.bindForm root).site := by
  cases hplan : planForm s.document root with
  | error e =>
    rw [Site.bindForm, hplan]
    exact h
  | ok plan =>
    have hplans := planForm_eq_ok_iff.mp hplan
    obtain ⟨hforms, hdocument⟩ := hplans.opened
    have hguards : (s.bindForm root).site.guards = s.guards := by
      rw [bindForm_eq hplans]
      rfl
    refine h.next (h.toEquipped.bindForm root) hspared (fun g hg _ _ ↦ .inl (hguards ▸ hg))
      fun g hg hid hdisabled ↦ ?_
    -- the dropdown that a form gets is new, and the others are none of the control
    have hprovided := hplans.provided.evolves
    have hsome := hprovided.isSome_element? (h.present g hg)
    have hspares : Controller.Spares
        { table := plan.table, exclusion := .ofSettings plan.settings
          layout := plannedLayout s.document root plan } g.latch.control := by
      refine ⟨?_, fun _ heq ↦ ?_⟩
      · obtain ⟨f, hb⟩ := hplans.bound
        have htext := hspared g (hguards ▸ hg) hid f (by simp [hb.forms])
        rwa [hb.layout_eq hplans] at htext
      · have hmem : g.latch.control ∈ (plannedLayout s.document root plan).dropdowns :=
          List.mem_cons.mpr (.inl heq.symm)
        have hkind := hplans.kind_dropdowns hmem
        rw [hprovided.kind_eq_of_lt (Document.lt_next_of_isSome (h.present g hg))] at hkind
        exact h.kind g hg hkind
    have hopening : (provideDropdown s.document plan).1.Evolves _
        (opening s.document root plan).surface := Controller.evolves_start _ _ _ _
    rw [hdocument, Document.isDisabled_setMarker (hopening.isSome_element? hsome) (by decide)
      (by decide)]
    refine (hspares.isDisabled_start_iff hsome).mpr (.inr ?_)
    rwa [hprovided.isDisabled_eq (h.present g hg) fun hfalse ↦ hfalse]

theorem bindGuard (h : Shuts id s) (hspared : SparesControl id (s.bindGuard root).site) :
    Shuts id (s.bindGuard root).site := by
  refine h.next (h.toEquipped.bindGuard root) hspared (fun g hg _ hsub ↦ ?_)
    fun g hg _ hdisabled ↦ ?_
  · obtain hold | ⟨-, hopen⟩ := (Ages.bindGuard s root).guards g hg
    · exact .inl hold
    · exact absurd hsub (Bool.eq_false_iff.mp hopen)
  · rw [Site.bindGuard]
    split
    · exact hdisabled
    · exact (Document.isDisabled_setMarker (h.present g hg) (by decide) (by decide) _ _).trans
        hdisabled

private theorem releaseForm (h : Shuts id s) (owner : BindingId) :
    Shuts id (s.releaseForm owner) := by
  have hguards := (s.others_releaseForm owner).1
  refine h.next (h.toEquipped.releaseForm owner) (h.spared.mono (fun f hf ↦ ?_) fun g hg ↦ ?_)
    (fun g hg _ _ ↦ .inl (hguards ▸ hg)) fun g hg _ hdisabled ↦ ?_
  · rw [forms_releaseForm] at hf
    exact (List.mem_filter.mp hf).1
  · exact hguards ▸ hg
  · rw [Site.releaseForm]
    split
    · exact hdisabled
    · exact (Document.isDisabled_setMarker (h.present g hg) (by decide) (by decide) _ _).trans
        hdisabled

private theorem releaseGuard (h : Shuts id s) (owner : BindingId) :
    Shuts id (s.releaseGuard owner) := by
  have hold (g : BoundGuard) (hg : g ∈ (s.releaseGuard owner).guards) : g ∈ s.guards := by
    rw [guards_releaseGuard] at hg
    exact (List.mem_filter.mp hg).1
  refine h.next (h.toEquipped.releaseGuard owner) (h.spared.mono (fun f hf ↦ ?_) hold)
    (fun g hg _ _ ↦ .inl (hold g hg)) fun g hg _ hdisabled ↦ ?_
  · exact (s.others_releaseGuard owner).1 ▸ hf
  · rw [Site.releaseGuard]
    split
    · exact hdisabled
    · exact (Document.isDisabled_setMarker (h.present g hg) (by decide) (by decide) _ _).trans
        hdisabled

/-- Whatever is done, the control stays disabled, as long as it is spared in the end. -/
theorem operate (h : Shuts id s) (op : Operation) (hspared : SparesControl id (s.operate op)) :
    Shuts id (s.operate op) := by
  cases op with
  | bindForm root => exact h.bindForm hspared
  | bindGuard root => exact h.bindGuard hspared
  | bindPage root =>
    cases root with
    | none => exact h
    | some root =>
      -- whoever is spared when all are bound was spared all the time
      exact bindEach_keeps (P := fun t ↦ SparesControl id t → Shuts id t)
        (fun t r ht hspared ↦ (ht hspared.of_bindGuard).bindGuard hspared)
        (bindEach_keeps (P := fun t ↦ SparesControl id t → Shuts id t)
          (fun t r ht hspared ↦ (ht hspared.of_bindForm).bindForm hspared) (fun _ ↦ h) _) _ hspared
  | releaseForm id => exact h.releaseForm id
  | releaseGuard id => exact h.releaseGuard id
  | releasePage page =>
    exact foldl_keeps (fun _ id ht ↦ ht.releaseGuard id)
      (foldl_keeps (fun _ id ht ↦ ht.releaseForm id) h _) _
  | act id a => exact h.act id a

end Shuts

private theorem shuts_operateAll (d : Document) (ops : List Operation)
    (hspared : ∀ earlier, earlier <+: ops →
      SparesControl id (operateAll { document := d } earlier)) :
    Shuts id (operateAll { document := d } ops) := by
  induction ops using List.reverseRecOn with
  | nil => exact shuts_open id d
  | append_singleton ops op ih =>
    have hbefore := ih fun earlier hinitial ↦
      hspared earlier (hinitial.trans (List.prefix_append _ _))
    have hafter := hspared _ (List.prefix_refl _)
    rw [operateAll_concat] at hafter ⊢
    exact hbefore.operate op hafter

/-! ## Locked selectors -/

/-- A form that is told of a submission enables what it locked, and changes nothing else. -/
theorem Orderly.call_submit (h : s.Orderly) (hf : f ∈ s.forms) : (s.call f.id .submit).site =
    s.edit (Controller.setAllDisabled · f.controller.locked false) := by
  rw [call_of_some (h.form?_of_mem hf)]
  have hforms : (s.forms.map fun k ↦ if k.id = f.id then
      { k with controller := (f.controller.handle s.document .submit).controller } else k) =
        s.forms := by
    refine (List.map_congr_left fun k hk ↦ ?_).trans (List.map_id s.forms)
    split
    · next hid => rw [List.inj_on_of_nodup_map h.nodup_forms hk hf hid]; rfl
    · rfl
  rw [hforms]
  rfl

private theorem Orderly.call_submit_cases (h : s.Orderly) (id : BindingId) :
    ((s.call id .submit).site = s ∧ ∀ f ∈ s.forms, f.id ≠ id) ∨
      ∃ f ∈ s.forms, f.id = id ∧ (s.call id .submit).site =
        s.edit (Controller.setAllDisabled · f.controller.locked false) := by
  cases hf : s.form? id with
  | none =>
    refine .inl ⟨?_, fun f hmem hid ↦ List.find?_eq_none.mp hf f hmem (beq_iff_eq.mpr hid)⟩
    rw [Site.call, hf]
  | some f =>
    have hmem : f ∈ s.forms := List.mem_of_find?_eq_some hf
    have hid : f.id = id := by simpa using List.find?_some hf
    exact .inr ⟨f, hmem, hid, hid ▸ h.call_submit hmem⟩

private theorem Orderly.forms_react_submit (h : s.Orderly) (hsubmit : l.reaction.event = "submit") :
    (s.react l).site.forms = s.forms := by
  cases hr : l.reaction with
  | select => exact absurd (hr ▸ hsubmit) (by decide)
  | noteReason => exact absurd (hr ▸ hsubmit) (by decide)
  | release =>
    rw [Site.react, hr]
    show (s.call l.owner .submit).site.forms = s.forms
    obtain ⟨heq, -⟩ | ⟨f, -, -, heq⟩ := h.call_submit_cases l.owner
    · rw [heq]
    · rw [heq]
      rfl
  | latch =>
    rw [Site.react, hr]
    exact forms_judge s l.owner

namespace Equipped

variable (h : s.Equipped)
include h

private theorem react (l : Listener) : (s.react l).site.Equipped :=
  react_keeps (fun _ id e h ↦ h.call id e) (fun _ id h ↦ h.judge id) l h

private theorem isDisabled_react_iff (hsubmit : l.reaction.event = "submit")
    (hk : s.document.kind k = .dropdown) :
    Surface.isDisabled (s.react l).site.document k = true ↔
      Surface.isDisabled s.document k = true ∧ ∀ f ∈ s.forms, l.reaction = .release →
        l.owner = f.id → k ∉ f.controller.locked := by
  have hsome := Document.isSome_of_kind hk
  cases hr : l.reaction with
  | select => exact absurd (hr ▸ hsubmit) (by decide)
  | noteReason => exact absurd (hr ▸ hsubmit) (by decide)
  | release =>
    rw [Site.react, hr]
    show Surface.isDisabled (s.call l.owner .submit).site.document k = true ↔ _
    obtain ⟨heq, hnone⟩ | ⟨f, hf, hid, heq⟩ := h.orderly.call_submit_cases l.owner
    · rw [heq]
      exact (and_iff_left fun f hf _ hid ↦ absurd hid.symm (hnone f hf)).symm
    · have honly : (∀ f' ∈ s.forms, Reaction.release = .release → l.owner = f'.id →
          k ∉ f'.controller.locked) ↔ k ∉ f.controller.locked := by
        refine ⟨fun hall ↦ hall f hf rfl hid.symm, fun hnot f' hf' _ hid' ↦ ?_⟩
        rwa [List.inj_on_of_nodup_map h.orderly.nodup_forms hf' hf (hid'.symm.trans hid.symm)]
      rw [heq, honly]
      refine (Bool.eq_iff_iff.mp (Document.isDisabled_setAllDisabled hsome
        f.controller.locked false)).trans ?_
      by_cases hlocked : k ∈ f.controller.locked <;> simp [hlocked]
  | latch =>
    rw [Site.react, hr]
    refine (h.orderly.isDisabled_judge_iff hsome l.owner).trans ?_
    rw [or_iff_left, and_iff_left]
    · exact fun f _ hrelease ↦ absurd hrelease (by decide)
    · rintro ⟨g, hg, -, rfl, -⟩
      exact h.kind g hg hk

/-- When all have heard of it, dropdowns are disabled that were, if none of them locked them. -/
theorem isDisabled_reactAll_iff {ls : List Listener}
    (hsubmit : ∀ l ∈ ls, l.reaction.event = "submit") (hk : s.document.kind k = .dropdown) :
    Surface.isDisabled (s.reactAll ls).site.document k = true ↔
      Surface.isDisabled s.document k = true ∧ ∀ f ∈ s.forms, ∀ l ∈ ls, l.reaction = .release →
        l.owner = f.id → k ∉ f.controller.locked := by
  induction ls generalizing s with
  | nil => exact (and_iff_left fun f _ l hl ↦ absurd hl List.not_mem_nil).symm
  | cons l ls ih =>
    obtain ⟨hfirst, hlater⟩ := List.forall_mem_cons.mp hsubmit
    have hkind := (h.orderly.react l).document.kind_eq hk
    refine (ih (h.react l) hlater hkind).trans ?_
    rw [h.isDisabled_react_iff hfirst hk, h.orderly.forms_react_submit hfirst, and_assoc,
      ← forall₂_and]
    simp only [List.forall_mem_cons]

end Equipped

namespace Attended

variable (h : Attended d s)
include h

private theorem release_mem_listeners (hf : f ∈ s.forms) :
    ⟨f.root, f.id, .release⟩ ∈ s.listeners := by
  have hpost : f.post ∈ s.posts := mem_posts.mpr (.inl ⟨f, hf, rfl⟩)
  refine h.listeners.mem_iff.mpr (List.mem_flatMap.mpr ⟨f.post, hpost, ?_⟩)
  exact List.mem_append_right _ (List.mem_singleton.mpr rfl)

private theorem exists_form_of_release (hl : l ∈ s.listeners) (hrelease : l.reaction = .release) :
    ∃ f ∈ s.forms, l = ⟨f.root, f.id, .release⟩ := by
  obtain ⟨p, hp, hlp⟩ := List.mem_flatMap.mp (h.listeners.mem_iff.mp hl)
  obtain ⟨f, hf, rfl⟩ | ⟨g, -, rfl⟩ := mem_posts.mp hp
  · obtain ⟨howner, -, htarget⟩ := of_mem_formListeners hlp
    cases l
    cases howner
    cases hrelease
    cases htarget rfl
    exact ⟨f, hf, rfl⟩
  · rw [List.mem_singleton.mp hlp] at hrelease
    cases hrelease

/-- A submission enables the dropdowns that were locked by the forms around its target. -/
theorem isDisabled_dispatch_submit_iff (he : s.Equipped) (target : NodeId)
    (hk : s.document.kind k = .dropdown) :
    Surface.isDisabled (s.dispatch target "submit").site.document k = true ↔
      Surface.isDisabled s.document k = true ∧ ∀ f ∈ s.forms,
        f.root ∈ s.document.lineage target → k ∉ f.controller.locked := by
  refine (he.isDisabled_reactAll_iff (fun l hl ↦ (mem_audience.mp hl).2.2) hk).trans ?_
  refine and_congr_right fun _ ↦ forall₂_congr fun f hf ↦ ⟨fun hall hroot ↦ ?_, ?_⟩
  · exact hall ⟨f.root, f.id, .release⟩
      (mem_audience.mpr ⟨h.release_mem_listeners hf, hroot, rfl⟩) rfl rfl
  · intro hnot l hl hrelease howner
    obtain ⟨hmem, htarget, -⟩ := mem_audience.mp hl
    obtain ⟨f', hf', rfl⟩ := h.exists_form_of_release hmem hrelease
    obtain rfl : f' = f := List.inj_on_of_nodup_map he.orderly.nodup_forms hf' hf howner
    exact hnot htarget

private theorem mem_lineage_guard (hg : g ∈ s.guards) : g.root ∈ s.document.lineage g.root :=
  Document.mem_lineage_self (Option.isSome_of_isSome_bind
    (h.marked g.post (mem_posts.mpr (.inr ⟨g, hg, rfl⟩))))

end Attended

/-! ## The theorem -/

/-- Whatever is done to a page, and in whichever order forms and guards are bound to it, a form with
a guard is submitted once.

- The element of the guard is there to hear of submissions, and the guard says that its form was
  submitted exactly if one was heard there since the guard was bound.
- From then on its control is disabled, unless it is the text field of a form.
- A submission is prevented exactly if it is not the first one for one of the guards around its
  target. If there is no other guard around the element, a submission of the element is prevented
  exactly if it is not the first one.
- When a submission has been heard, all selectors that the forms around its target locked are
  enabled.

None of this depends on the class that marks the control, which may be one that is refused. -/
theorem single_submission (d : Document) (ops : List Operation) :
    let s := operateAll { document := d } ops
    (∀ g ∈ s.guards, g.root ∈ s.document.lineage g.root ∧
      (g.latch.submitted = true ↔ SubmittedSince g.id g.root { document := d } ops) ∧
      ((∀ earlier, earlier <+: ops →
          SparesControl g.id (operateAll { document := d } earlier)) →
        SubmittedSince g.id g.root { document := d } ops →
        Surface.isDisabled s.document g.latch.control = true) ∧
      ((∀ k ∈ s.guards, k.root ∈ s.document.lineage g.root → k = g) →
        ((s.dispatch g.root "submit").answer = true ↔
          SubmittedSince g.id g.root { document := d } ops))) ∧
    ∀ target, ((s.dispatch target "submit").answer = true ↔
        ∃ g ∈ s.guards, g.root ∈ s.document.lineage target ∧
          SubmittedSince g.id g.root { document := d } ops) ∧
      ∀ f ∈ s.forms, f.root ∈ s.document.lineage target → ∀ k ∈ f.controller.locked,
        Surface.isDisabled (s.dispatch target "submit").site.document k = false := by
  intro s
  obtain ⟨ho, h⟩ : s.Orderly ∧ Attended d s := attended_operateAll d ops
  have he : s.Equipped := equipped_operateAll d ops
  have hsubmitted := submitted_iff_submittedSince d ops
  have hanswer (target : NodeId) : (s.dispatch target "submit").answer = true ↔
      ∃ g ∈ s.guards, g.root ∈ s.document.lineage target ∧
        SubmittedSince g.id g.root { document := d } ops := by
    refine (h.answer_dispatch_submit ho target).trans ?_
    refine exists_congr fun g ↦ and_congr_right fun hg ↦ ?_
    rw [hsubmitted g hg, and_comm]
  refine ⟨fun g hg ↦ ?_, fun target ↦ ⟨hanswer target, fun f hf hroot k hlocked ↦ ?_⟩⟩
  · have hroot := h.mem_lineage_guard hg
    refine ⟨hroot, hsubmitted g hg, fun hspared hsince ↦ ?_, fun honly ↦ ?_⟩
    · exact (shuts_operateAll d ops hspared).disabled g hg rfl ((hsubmitted g hg).mpr hsince)
    · refine (hanswer g.root).trans ⟨?_, fun hsince ↦ ⟨g, hg, hroot, hsince⟩⟩
      rintro ⟨k, hk, hk', hsince⟩
      exact honly k hk hk' ▸ hsince
  · have hk := he.toggled f hf k (List.mem_cons_of_mem _ hlocked)
    refine Bool.eq_false_iff.mpr fun hdisabled ↦ ?_
    exact ((h.isDisabled_dispatch_submit_iff he target hk).mp hdisabled).2 f hf hroot hlocked

/-- A page with one form that asks for a class with a blank. -/
def busyPage : Document where
  nodes :=
    let select : Element := { tag := "select" }
    let input : Element := { tag := "input" }
    let form : Element := { tag := "form" }
    [⟨0, none, (form.setAttribute tableAttribute "\x7b\"edit\": [\"*\"]\x7d").setAttribute
        settingsAttribute "\x7b\"busy_class\": \"is busy\"\x7d"⟩,
      ⟨1, some 0, select.setAttribute "name" "permission_name"⟩,
      ⟨2, some 1, { Element.newOption "edit" with chosen := true }⟩,
      ⟨3, some 0, input.setAttribute "name" "argument"⟩, ⟨4, some 0, { tag := "button" }⟩]
  next := 5
  distinct := by decide +kernel
  aged := by decide +kernel

/-- It is bound and guarded, and submitted twice. -/
def busyPageOperations : List Operation :=
  [.bindForm 0, .bindGuard 0, .act 0 (.dispatch 0 "submit"), .act 0 (.typeText 3 "a"),
    .act 0 (.dispatch 0 "submit")]

/-- Then the button is disabled, though it did not get the class, and a further submission is
prevented. The permission that the page filled in takes part all the same. -/
theorem single_submission_sample :
    let s := operateAll { document := busyPage } busyPageOperations
    s.guards.map (fun g ↦ (g.latch.control, g.latch.busyClass)) = [(4, "is busy")] ∧
      Surface.isDisabled s.document 4 = true ∧ (s.dispatch 0 "submit").answer = true ∧
      Surface.isDisabled (s.dispatch 0 "submit").site.document 1 = false := by
  intro s
  have hguards : s.guards.map (fun g ↦ (g.id, g.root, g.latch.control)) = [(1, 0, 4)] := by
    decide +kernel
  have hforms : s.forms.map (fun f ↦ (f.root, f.controller.locked)) = [(0, [1])] := by
    decide +kernel
  have hspared : ∀ earlier ∈ busyPageOperations.inits,
      SparesControl 1 (operateAll { document := busyPage } earlier) := by decide +kernel
  have hsince : SubmittedSince 1 0 { document := busyPage } busyPageOperations := by
    decide +kernel
  obtain ⟨g, hg, heq⟩ := List.mem_map.mp (hguards ▸ List.mem_singleton.mpr rfl :
    (1, 0, 4) ∈ s.guards.map fun g ↦ (g.id, g.root, g.latch.control))
  obtain ⟨f, hf, heq'⟩ := List.mem_map.mp (hforms ▸ List.mem_singleton.mpr rfl :
    (0, [1]) ∈ s.forms.map fun f ↦ (f.root, f.controller.locked))
  simp only [Prod.mk.injEq] at heq heq'
  obtain ⟨hid, hroot, hcontrol⟩ := heq
  obtain ⟨hgs, htargets⟩ := single_submission busyPage busyPageOperations
  obtain ⟨hself, -, hdisabled, -⟩ := hgs g hg
  obtain ⟨hanswer, hlocked⟩ := htargets 0
  rw [hid, hroot, hcontrol] at hdisabled
  rw [hroot] at hself
  refine ⟨by decide +kernel, hdisabled (fun earlier hinitial ↦ ?_) hsince, hanswer.mpr ?_, ?_⟩
  · exact hspared earlier ((List.mem_inits _ _).mpr hinitial)
  · exact ⟨g, hg, hroot ▸ hself, hid ▸ hroot ▸ hsince⟩
  · exact hlocked f hf (heq'.1 ▸ hself) 1 (heq'.2 ▸ List.mem_singleton.mpr rfl)

end Site

end AccessForm
