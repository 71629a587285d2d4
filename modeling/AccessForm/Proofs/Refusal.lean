import AccessForm.Proofs.Missing

/-!
# Refused selections

A selection is published before the mode is derived, so a selection that is refused has been written
to the selectors already. Nothing else remembers it. The next selection is answered as if the
refused one had never happened, and a form that could not derive its first mode is, after a
selection, where it would have been if the page had rendered it with that permission selected.

The argument is that a selection overwrites the one before. Where dropdowns hold nothing or one of
their options, publishing chooses the value in every copy, whether the copy had it before or not
(`publish_eq_choosing`), and of two choices the last one counts (`publish_publish`).
-/

namespace AccessForm

/-! ## Choosing in all copies -/

private theorem Control.choose_choose (c : Control) (v w : String) :
    (c.choose v).choose w = c.choose w := rfl

private theorem Control.choose_of_mem {c : Control} {v : String} (h : v ∈ c.options) :
    c.choose v = { c with value := v } := by
  rw [choose, if_pos h]

namespace Panel

/-- The panel with a value chosen in several dropdowns. -/
def choosing (p : Panel) (copies : List Ref) (v : String) : Panel :=
  { p with control := fun r ↦ if r ∈ copies then (p.control r).choose v else p.control r }

/-- The panel with several dropdowns at a value. -/
def holding (p : Panel) (copies : List Ref) (v : String) : Panel :=
  { p with control := fun r ↦ if r ∈ copies then { p.control r with value := v } else p.control r }

theorem control_choosing (p : Panel) (copies : List Ref) (v : String) (r : Ref) :
    (p.choosing copies v).control r =
      if r ∈ copies then (p.control r).choose v else p.control r := rfl

private theorem control_holding (p : Panel) (copies : List Ref) (v : String) (r : Ref) :
    (p.holding copies v).control r =
      if r ∈ copies then { p.control r with value := v } else p.control r := rfl

private theorem choosing_choosing (p : Panel) (copies : List Ref) (v w : String) :
    (p.choosing copies v).choosing copies w = p.choosing copies w := by
  refine ext (fun r ↦ ?_) rfl
  rw [control_choosing, control_choosing, control_choosing]
  split
  · exact Control.choose_choose _ v w
  · rfl

private theorem Coherent.choosing {p : Panel} (h : p.Coherent) (copies : List Ref) (v : String) :
    (p.choosing copies v).Coherent := by
  intro i
  rw [control_choosing]
  split
  · exact Control.coherent_choose _ v
  · exact h i

theorem publish_eq_choosing {p : Panel} (h : p.Coherent) {copies : List Ref}
    (hcopies : ∀ r ∈ copies, ∃ i, r = .select i) (v : String) :
    Copies.publish p copies v = p.choosing copies v := by
  refine ext (fun r ↦ ?_) (shown_publish p copies v)
  rw [control_choosing]
  split
  · next hr =>
    obtain ⟨i, rfl⟩ := hcopies r hr
    exact control_publish_select h hr v
  · next hr => exact control_publish_of_notMem hr p v

theorem publish_publish {p : Panel} (h : p.Coherent) {copies : List Ref}
    (hcopies : ∀ r ∈ copies, ∃ i, r = .select i) (v w : String) :
    Copies.publish (Copies.publish p copies v) copies w = Copies.publish p copies w := by
  rw [publish_eq_choosing h hcopies v, publish_eq_choosing (h.choosing copies v) hcopies,
    publish_eq_choosing h hcopies, choosing_choosing]

/-- Dropdowns that offer a value are at it when it has been chosen. -/
theorem choosing_eq_holding {p : Panel} {copies : List Ref} {v : String}
    (h : ∀ r ∈ copies, v ∈ (p.control r).options) : p.choosing copies v = p.holding copies v := by
  refine ext (fun r ↦ ?_) rfl
  rw [control_choosing, control_holding]
  split
  · next hr => exact Control.choose_of_mem (h r hr)
  · rfl

/-- It makes no difference whether selectors are locked before or after a choice. -/
theorem setAllDisabled_choosing (p : Panel) (controls copies : List Ref) (b : Bool) (v : String) :
    Controller.setAllDisabled (p.choosing copies v) controls b =
      (Controller.setAllDisabled p controls b).choosing copies v := by
  refine ext (fun r ↦ ?_) ?_
  · rw [control_setAllDisabled, control_choosing, control_choosing, control_setAllDisabled]
    by_cases hr : r ∈ copies
    · rw [if_pos hr, if_pos hr]
      split
      · rfl
      · rfl
    · rw [if_neg hr, if_neg hr]
  · rw [shown_setAllDisabled]
    exact (shown_setAllDisabled p controls b).symm

private theorem frame_holding (p : Panel) (copies : List Ref) (v : String) (r : Ref) :
    ((p.holding copies v).control r).frame = (p.control r).frame := by
  rw [control_holding]
  split
  · rfl
  · rfl

end Panel

/-! ## One refusal -/

namespace Seating

private theorem select_of_mem_permission {s : Seating} {r : Ref} (h : r ∈ s.layout.permission) :
    ∃ i, r = .select i := by
  obtain ⟨i, -, rfl⟩ := List.mem_map.mp h
  exact ⟨i, rfl⟩

end Seating

namespace Controller

variable {c : Controller Ref Nat} {f : Seating} {p : Panel}

private theorem prefilled_congr {layout : Layout Ref Nat} {p p' : Panel}
    (h : ∀ r, (p'.control r).frame = (p.control r).frame) :
    prefilled layout p' = prefilled layout p := by
  refine List.filter_congr fun r _ ↦ ?_
  show ((p'.control r).options.length == 1 && !(p'.control r).disabled) = _
  rw [Control.options_of_frame (h r), Control.disabled_of_frame (h r)]
  rfl

private theorem derive_of_refused (h : ¬ (c.derive p).Succeeded) :
    (c.derive p).controller = c ∧ (c.derive p).surface = p :=
  c.handle_of_failed p (e := .derive) fun _ ↦ h

/-- A selection that is refused has reached the selectors, and nothing else. -/
theorem select_of_refused {v : String} (h : ¬ (c.select p v).Succeeded) :
    (c.select p v).controller = c ∧
      (c.select p v).surface = Copies.publish p c.layout.permission v :=
  c.handle_of_failed p (e := .select v) fun _ ↦ h

/-- A selection after a refused one is answered as if that one had not been made. -/
theorem select_after_refused (hl : c.layout = f.layout) (hp : p.Coherent) {v : String}
    (h : ¬ (c.select p v).Succeeded) (w : String) :
    (c.select p v).controller.select (c.select p v).surface w = c.select p w := by
  have hselects : ∀ r ∈ c.layout.permission, ∃ i, r = .select i := by
    intro r hr
    exact Seating.select_of_mem_permission (hl ▸ hr)
  obtain ⟨hcontroller, hsurface⟩ := select_of_refused h
  calc (c.select p v).controller.select (c.select p v).surface w
      = c.derive (Copies.publish (Copies.publish p c.layout.permission v)
          c.layout.permission w) := by rw [hcontroller, hsurface, select]
    _ = c.derive (Copies.publish p c.layout.permission w) := by
        rw [Panel.publish_publish hp hselects]

end Controller

/-! ## A refused beginning -/

namespace Setup

/-- The form as the page renders it with a permission selected. -/
def selecting (f : Setup) (v : String) : Setup :=
  { f with panel := f.panel.holding f.seating.layout.permission v }

private theorem idle_selecting (f : Setup) (v : String) : (f.selecting v).idle = f.idle := by
  have hlocked : Controller.prefilled f.seating.layout (f.selecting v).panel =
      Controller.prefilled f.seating.layout f.panel :=
    Controller.prefilled_congr (Panel.frame_holding f.panel _ v)
  calc (f.selecting v).idle
      = { f.idle with locked := Controller.prefilled f.seating.layout (f.selecting v).panel } := rfl
    _ = f.idle := by rw [hlocked]; rfl

variable {f : Setup}

private theorem coherent_lockedPanel (hpanel : f.panel.Coherent) : f.lockedPanel.Coherent := by
  intro i
  rw [lockedPanel, Panel.control_setAllDisabled]
  split
  · exact hpanel i
  · exact hpanel i

private theorem lockedPanel_selecting {v : String}
    (h : ∀ r ∈ f.seating.layout.permission, v ∈ (f.panel.control r).options) :
    (f.selecting v).lockedPanel = f.lockedPanel.choosing f.seating.layout.permission v := by
  rw [lockedPanel, idle_selecting, selecting, ← Panel.choosing_eq_holding h,
    Panel.setAllDisabled_choosing]
  rfl

/-- A form whose beginning was refused is, after a selection, where it would be if the page had
rendered the selection. -/
theorem select_after_refused_begin (hpanel : f.panel.Coherent) (hrefused : ¬ f.begin.Succeeded)
    {v : String} (h : ∀ r ∈ f.seating.layout.permission, v ∈ (f.panel.control r).options) :
    f.begin.controller.select f.begin.surface v =
      (f.selecting v).idle.derive (f.selecting v).lockedPanel := by
  have hbegin : f.begin.controller = f.idle ∧ f.begin.surface = f.lockedPanel :=
    Prod.ext_iff.mp (f.after_nil_of_failed hrefused)
  calc f.begin.controller.select f.begin.surface v
      = f.idle.derive (Copies.publish f.lockedPanel f.seating.layout.permission v) := by
        rw [hbegin.1, hbegin.2]
        rfl
    _ = f.idle.derive (f.lockedPanel.choosing f.seating.layout.permission v) := by
        rw [Panel.publish_eq_choosing (coherent_lockedPanel hpanel) fun _ hr ↦
          Seating.select_of_mem_permission hr]
    _ = (f.selecting v).idle.derive (f.selecting v).lockedPanel := by
        rw [idle_selecting, lockedPanel_selecting h]

/-! ## The theorem -/

/-- Refused selections leave no trace, whatever happened before.

- A derivation that is refused changes nothing.
- A selection that is refused changes the values of the permission selectors at most, and every
  selection after it is answered, and leaves everything, as if it had come at once.
- A form that is taken over without success and then given a permission that all its selectors
  offer ends where taking it over would have ended with that permission selected. -/
theorem refusals_leave_no_trace (f : Setup) (hpanel : f.panel.Coherent) :
    (∀ ms, ¬ ((f.after ms).1.derive (f.after ms).2).Succeeded →
      ((f.after ms).1.derive (f.after ms).2).controller = (f.after ms).1 ∧
        ((f.after ms).1.derive (f.after ms).2).surface = (f.after ms).2) ∧
    (∀ ms v, ¬ ((f.after ms).1.select (f.after ms).2 v).Succeeded →
      ((f.after ms).1.select (f.after ms).2 v).controller = (f.after ms).1 ∧
      ((f.after ms).1.select (f.after ms).2 v).surface.shown = (f.after ms).2.shown ∧
      (∀ r, (((f.after ms).1.select (f.after ms).2 v).surface.control r).frame =
        ((f.after ms).2.control r).frame) ∧
      (∀ r ∉ f.seating.layout.permission,
        ((f.after ms).1.select (f.after ms).2 v).surface.control r = (f.after ms).2.control r) ∧
      ∀ w, ((f.after ms).1.select (f.after ms).2 v).controller.select
          ((f.after ms).1.select (f.after ms).2 v).surface w =
        (f.after ms).1.select (f.after ms).2 w) ∧
    (¬ f.begin.Succeeded →
      ∀ v, (∀ r ∈ f.seating.layout.permission, v ∈ (f.panel.control r).options) →
        (f.begin.controller.select f.begin.surface v).controller =
          (f.selecting v).begin.controller ∧
        (f.begin.controller.select f.begin.surface v).surface = (f.selecting v).begin.surface ∧
        (f.begin.controller.select f.begin.surface v).outcome = (f.selecting v).begin.outcome) := by
  refine ⟨fun ms h ↦ Controller.derive_of_refused h, fun ms v h ↦ ?_, fun hrefused v hv ↦ ?_⟩
  · obtain ⟨hcontroller, hsurface⟩ := Controller.select_of_refused h
    have hlayout := f.layout_after ms
    refine ⟨hcontroller, ?_, fun r ↦ ?_, fun r hr ↦ ?_, fun w ↦ ?_⟩
    · rw [hsurface, Panel.shown_publish]
    · rw [hsurface, Panel.frame_publish]
    · rw [hsurface, Panel.control_publish_of_notMem (hlayout ▸ hr)]
    · exact Controller.select_after_refused hlayout (coherent_after hpanel ms) h w
  · rw [select_after_refused_begin hpanel hrefused hv]
    exact ⟨rfl, rfl, rfl⟩

/-- The sample form refuses a permission after a whole history, and would not have begun with it. -/
theorem refusals_leave_no_trace_sample :
    (sample.after sampleMoves).1.select
        ((sample.after sampleMoves).1.select (sample.after sampleMoves).2 "gone").surface "view" =
      (sample.after sampleMoves).1.select (sample.after sampleMoves).2 "view" ∧
    ¬ (sample.selecting "gone").begin.Succeeded ∧
    ((sample.selecting "gone").begin.controller.select (sample.selecting "gone").begin.surface
      "view").surface = ((sample.selecting "gone").selecting "view").begin.surface := by
  have hpanel : sample.panel.Coherent := Panel.coherent_ofLists _ (by decide)
  have hgone : ¬ ((sample.after sampleMoves).1.select (sample.after sampleMoves).2
      "gone").Succeeded := by decide +kernel
  have hbegin : ¬ (sample.selecting "gone").begin.Succeeded := by decide +kernel
  have hgonePanel : (sample.selecting "gone").panel.Coherent := by
    intro i
    rw [selecting, Panel.control_holding]
    split
    · next hi =>
      obtain rfl : i = 0 := by simpa [sample, Seating.layout] using hi
      exact .inr (by decide)
    · exact hpanel i
  obtain ⟨-, hselect, -⟩ := sample.refusals_leave_no_trace hpanel
  obtain ⟨-, -, hstart⟩ := (sample.selecting "gone").refusals_leave_no_trace hgonePanel
  obtain ⟨hcontroller, -, -, -, hagain⟩ := hselect sampleMoves "gone" hgone
  have hagain := hagain "view"
  rw [hcontroller] at hagain
  exact ⟨hagain, hbegin, (hstart hbegin "view" (by decide)).2.1⟩

end Setup

end AccessForm
