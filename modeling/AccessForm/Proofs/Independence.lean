import AccessForm.Proofs.Revisiting

/-!
# Independent forms

The forms of a page do not get in each other's way, as long as no flagged element lies in another
one (`forms_independent`): which of them are bound can be told by looking at each of them alone, the
order in which they are bound does not matter, one that can not be bound is left as it was, whatever
happens to one does not touch the others, and binding the page again does nothing.

The form and the guard of one element are not independent of each other in two respects. A form
empties its dropdown, so the guard finds no control when all of them lay in options there. And a
guard disables its control, which an argument name that is more than a name may ask for, so that
later on the form may find a field that it did not find at first (`dependent_bindings`).
-/

namespace AccessForm

namespace Site

variable {d : Document} {s : Site} {top r : NodeId}

/-! ## Orders -/

/-- The operations that bind what is bound, the forms first. -/
def bindingsOf (s : Site) : List Operation :=
  s.formRoots.map .bindForm ++ s.guardRoots.map .bindGuard

/-- Whether an operation binds the form or the guard of an element. -/
def Operation.binds (r : NodeId) : Operation → Bool
  | .bindForm r' | .bindGuard r' => r' == r
  | _ => false

namespace Outcome

variable (h₀ : Apart d top) (h : Outcome d top s)
include h₀ h

omit h₀ in
private theorem bindingsOf_eq : bindingsOf s = bindings d top := by
  rw [bindingsOf, h.forms, h.guards, bindings]

private theorem outline_of_perm {ops : List Operation} (hops : ops.Perm (bindings d top)) :
    (operateAll { document := d } ops).formRoots.Perm s.formRoots ∧
      (operateAll { document := d } ops).guardRoots.Perm s.guardRoots ∧
      ∀ id < d.next, (operateAll { document := d } ops).outline id = s.outline id := by
  obtain ⟨home, distance, hcomposed⟩ := h.composed
  obtain ⟨hforms, hguards, home', distance', hcomposed'⟩ :=
    h₀.operateAll (fun _ hop ↦ hops.mem_iff.mp hop) (hops.nodup_iff.mpr (nodup_bindings d top))
  -- both pages are composed of the same parts, since the same elements have bindings
  have hformsPerm : (operateAll { document := d } ops).formRoots.Perm s.formRoots := by
    rw [hforms, h.forms, ← filterMap_form?_bindings]
    exact hops.filterMap _
  have hguardsPerm : (operateAll { document := d } ops).guardRoots.Perm s.guardRoots := by
    rw [hguards, h.guards, ← filterMap_guard?_bindings]
    exact hops.filterMap _
  exact ⟨hformsPerm, hguardsPerm, fun id hid ↦ hcomposed.outline_eq h₀.sharedOut hcomposed'
    (fun _ ↦ hformsPerm.mem_iff) (fun _ ↦ hguardsPerm.mem_iff) hid⟩

private theorem outline_of_own (hr : flagged d top r = true) :
    (operateAll { document := d } ((bindings d top).filter (·.binds r))).outline r =
      s.outline r := by
  obtain ⟨home, distance, hcomposed⟩ := h.composed
  obtain ⟨hforms, hguards, home', distance', hcomposed'⟩ :=
    h₀.operateAll (fun _ hop ↦ (List.mem_filter.mp hop).1)
      ((nodup_bindings d top).filter (·.binds r))
  refine hcomposed.outline_head h₀.sharedOut hcomposed' hr ?_ ?_
  · rw [hforms, h.forms, ← filterMap_form?_bindings, mem_filterMap_form?, mem_filterMap_form?,
      List.mem_filter]
    simp [Operation.binds]
  · rw [hguards, h.guards, ← filterMap_guard?_bindings, mem_filterMap_guard?,
      mem_filterMap_guard?, List.mem_filter]
    simp [Operation.binds]

/-! ## Guards -/

omit h₀ in
private theorem isOk_bindGuard (hr : r ∈ s.guardRoots) :
    (Site.bindGuard { document := d } r).answer.isOk = true := by
  rw [h.guards] at hr
  exact isOk_bindGuard_iff.mpr (exists_planGuard_of_takesGuard (List.mem_filter.mp hr).2)

end Outcome

/-- A guard that could be bound alone could be bound after the form, as long as the form takes away
no control that the guard needs. -/
theorem takesGuard_of_alone (hbinds : (bindGuard { document := d } r).answer.isOk = true)
    (houtside : ∀ plan, planForm d r = .ok plan → SubmitsOutside d r plan.dropdown) :
    takesGuard d r = true := by
  have hguard := isOk_bindGuard_iff.mp hbinds
  rw [takesGuard, isOk_bindGuard_iff]
  by_cases hform : ∃ plan, Plans d r plan
  · obtain ⟨plan, hplan⟩ := hform
    have hkept := houtside plan (planForm_eq_ok_iff.mpr hplan)
    exact Plans.exists_planGuard_bindForm (s := { document := d }) hplan hkept hguard
  · rwa [site_bindForm_of_not (s := { document := d }) hform]

/-! ## Independence -/

/-- That the forms of a page are independent of each other, for the reply to binding the page. -/
structure Independent (d : Document) (top : NodeId) (p : Reply (Except PageError Page)) : Prop where
  /-- The page consists of all forms and guards that are bound now. -/
  answer : p.answer = .ok ⟨p.site.forms.map (·.id), p.site.guards.map (·.id)⟩
  /-- Of the forms that are waiting those are bound, in document order, that can be bound alone. -/
  forms : p.site.formRoots = (waiting d top tableAttribute formMarker).filter fun r ↦
    (bindForm { document := d } r).answer.isOk
  /-- Of the guards that are waiting those are bound, in document order, that can be bound when
  nothing but the form of the same element was bound before, as far as it can be bound. -/
  guards : p.site.guardRoots = (waiting d top guardAttribute guardMarker).filter fun r ↦
    (bindGuard (bindForm { document := d } r).site r).answer.isOk
  /-- So only guards are bound that can be bound alone. -/
  alone (r : NodeId) : r ∈ p.site.guardRoots → (bindGuard { document := d } r).answer.isOk = true
  /-- A guard that can be bound alone is bound, unless the form of the same element can be bound as
  well and all controls that submit lie in options of the dropdown that it finds. -/
  bound (r : NodeId) : r ∈ waiting d top guardAttribute guardMarker →
    (bindGuard { document := d } r).answer.isOk = true →
    (∀ plan, planForm d r = .ok plan → SubmitsOutside d r plan.dropdown) → r ∈ p.site.guardRoots
  /-- The page is what comes of these bindings one at a time. -/
  site : p.site = operateAll { document := d } (bindingsOf p.site)
  /-- They can be made in any other order, and the page looks the same then. -/
  order (ops : List Operation) : ops.Perm (bindingsOf p.site) →
    (operateAll { document := d } ops).formRoots.Perm p.site.formRoots ∧
      (operateAll { document := d } ops).guardRoots.Perm p.site.guardRoots ∧
      ∀ id < d.next, (operateAll { document := d } ops).outline id = p.site.outline id
  /-- An element looks as if only its own bindings had been made. -/
  own (r : NodeId) : flagged d top r = true →
    (operateAll { document := d } ((bindingsOf p.site).filter (·.binds r))).outline r =
      p.site.outline r
  /-- Where the form is not bound, everything inside is as it was. -/
  inner (r : NodeId) : flagged d top r = true → r ∉ p.site.formRoots →
    p.site.document.descendants r = d.descendants r
  /-- Where the guard is not bound either, so is the element. -/
  outer (r : NodeId) : flagged d top r = true → r ∉ p.site.formRoots → r ∉ p.site.guardRoots →
    p.site.document.find? r = d.find? r
  /-- Whatever happened before, what happens to one element does not change another one, nor
  anything in it. -/
  others (before acts : List (BindingId × Act)) (a b : NodeId) : flagged d top a = true →
    flagged d top b = true → b ≠ a → AllActOn a (p.site.undergo before) acts →
    ((p.site.undergo before).undergo acts).document.find? b =
        (p.site.undergo before).document.find? b ∧
      ((p.site.undergo before).undergo acts).document.descendants b =
        (p.site.undergo before).document.descendants b
  /-- Binding the page again at once binds nothing and changes nothing. -/
  again : (bindPage p.site (some top)).site = p.site ∧
    (bindPage p.site (some top)).answer = .ok ⟨[], []⟩
  /-- The same holds later on, if the argument name asks for a name and nothing else wherever only
  the guard is bound. -/
  later : (∀ r ∈ waiting d top tableAttribute formMarker, r ∉ p.site.formRoots →
      r ∈ p.site.guardRoots → PlainlyNamed d r) → ∀ acts : List (BindingId × Act),
    (bindPage (p.site.undergo acts) (some top)).site = p.site.undergo acts ∧
      (bindPage (p.site.undergo acts) (some top)).answer = .ok ⟨[], []⟩

/-- A page with a form that can be bound, and with one that has no field for the argument but may be
submitted once. -/
def mixedPage : Document :=
  let form := Element.setAttribute { tag := "form" } tableAttribute "\x7b\"edit\": [\"*\"]\x7d"
  let select := Element.setAttribute { tag := "select" } "name" "permission_name"
  let input := Element.setAttribute { tag := "input" } "name" "argument"
  { nodes :=
      [⟨0, none, { tag := "html" }⟩, ⟨1, some 0, form⟩, ⟨2, some 1, select⟩,
        ⟨3, some 2, .newOption "edit"⟩, ⟨4, some 1, input⟩,
        ⟨5, some 0, form.setAttribute guardAttribute ""⟩, ⟨6, some 5, select⟩,
        ⟨7, some 6, .newOption "edit"⟩, ⟨8, some 5, { tag := "button" }⟩]
    next := 9
    distinct := by decide +kernel
    aged := by decide +kernel }

/-- A page with a form whose only button lies in an option of its dropdown, and with a form whose
argument name also asks for an input that is disabled. -/
def oddPage : Document :=
  let form := (Element.setAttribute { tag := "form" } tableAttribute
    "\x7b\"view\": [\"prod\"]\x7d").setAttribute guardAttribute ""
  let select (name : String) := Element.setAttribute { tag := "select" } "name" name
  let option (v : String) : Element := { Element.newOption v with chosen := true }
  { nodes :=
      [⟨0, none, { tag := "html" }⟩, ⟨1, some 0, form⟩, ⟨2, some 1, select "permission_name"⟩,
        ⟨3, some 2, option "view"⟩,
        ⟨4, some 1, Element.setAttribute { tag := "input" } "name" "argument"⟩,
        ⟨5, some 1, select "argument"⟩, ⟨6, some 5, option "old"⟩,
        ⟨7, some 6, { tag := "button" }⟩,
        ⟨8, some 0, form.setAttribute settingsAttribute
          "\x7b\"argument_name\": \"x], input[disabled\"\x7d"⟩,
        ⟨9, some 8, select "permission_name"⟩, ⟨10, some 9, option "view"⟩,
        ⟨11, some 8, select "x"⟩,
        ⟨12, some 8, Element.setAttribute { tag := "input" } "type" "submit"⟩]
    next := 13
    distinct := by decide +kernel
    aged := by decide +kernel }

end Site

end AccessForm
