import AccessForm.Proofs.Choice

/-!
# Selectors that the page filled in

Two things bear on whether a control of a form is disabled. The exclusion may disable the argument
field that is not in use, at every derivation. And a selector that the page filled in is disabled
when the form is taken over, and enabled again when it is submitted. As long as the dropdown for the
argument is none of the selectors, the two do not meet: a selector is disabled for being locked, or
because the page rendered it so, and no derivation changes that.

What is locked is decided once. So along a history, a locked selector is disabled until the first
submission and enabled from then on, whatever else happens (`disabled_play_iff`).
-/

namespace AccessForm

namespace Controller

variable {c : Controller Ref Nat} {f : Seating} {p : Panel} {r : Ref}

/-- What is locked is a selector with a single option that was enabled. -/
theorem mem_prefilled_iff {layout : Layout Ref Nat} :
    r ∈ prefilled layout p ↔ r ∈ layout.permission ++ layout.group.toList ∧
      (p.control r).options.length = 1 ∧ (p.control r).disabled = false := by
  rw [prefilled, List.mem_filter]
  simp [Surface.options, Surface.isDisabled]

/-- Apart from the argument fields, only a submission changes more of a control than its value. -/
theorem frame_move (hl : c.layout = f.layout) (ht : r ≠ .field f.text)
    (hd : r ≠ .select f.dropdown) {m : Move Ref Nat} (hm : m.Fits f)
    (hsubmit : m ≠ .event .submit) :
    ((c.move p m).surface.control r).frame = (p.control r).frame := by
  cases m with
  | edit e =>
    cases e with
    | value control v => exact Panel.frame_setValue p control r v
    | _ => exact hm.elim
  | event e =>
    have hspread := c.frame_spread p e r
    rw [move]
    cases he : e.derives with
    | true => rw [c.handle_of_derives p he, control_derive_of_ne hl ht hd, hspread]
    | false =>
      have hfailed : e.derives = true → ¬ (c.handle p e).Succeeded := by
        rw [he]
        exact fun h ↦ absurd h Bool.false_ne_true
      have hsubmits : ¬ e.submits = true :=
        mt Event.submits_iff.mp fun h ↦ hsubmit (congrArg _ h)
      rw [(c.handle_of_failed p hfailed).2, if_neg hsubmits, hspread]

private theorem disabled_move_iff (hl : c.layout = f.layout) (ht : r ≠ .field f.text)
    (hd : r ≠ .select f.dropdown) {m : Move Ref Nat} (hm : m.Fits f) :
    ((c.move p m).surface.control r).disabled = true ↔
      (p.control r).disabled = true ∧ ¬ (r ∈ c.locked ∧ .event .submit = m) := by
  by_cases hsubmit : .event .submit = m
  · subst hsubmit
    rw [move, handle, release, Panel.control_setAllDisabled]
    by_cases hlocked : r ∈ c.locked <;> simp [hlocked]
  · rw [Control.disabled_of_frame (frame_move hl ht hd hm (Ne.symm hsubmit))]
    simp [hsubmit]

/-- Along a history, a selector is enabled if it is locked and the form is submitted, and otherwise
it is as it was. -/
theorem disabled_play_iff (hl : c.layout = f.layout) (ht : r ≠ .field f.text)
    (hd : r ≠ .select f.dropdown) {ms : List (Move Ref Nat)} (hms : ∀ m ∈ ms, m.Fits f) :
    ((c.play p ms).2.control r).disabled = true ↔
      (p.control r).disabled = true ∧ ¬ (r ∈ c.locked ∧ .event .submit ∈ ms) := by
  induction ms generalizing c p with
  | nil => simp
  | cons m ms ih =>
    obtain ⟨hm, hms⟩ := List.forall_mem_cons.mp hms
    rw [play_cons, ih ((c.layout_move p m).trans hl) hms, disabled_move_iff hl ht hd hm,
      c.locked_move p m, List.mem_cons, and_assoc, ← not_or, ← and_or_left]

end Controller

namespace Setup

variable {f : Setup}

/-- A selector is disabled if it is locked or the page rendered it so, unless it is locked and the
form has been submitted. -/
theorem disabled_after_iff {r : Ref} (ht : r ≠ .field f.seating.text)
    (hd : r ≠ .select f.seating.dropdown) {ms : List (Move Ref Nat)}
    (hms : ∀ m ∈ ms, m.Fits f.seating) :
    ((f.after ms).2.control r).disabled = true ↔
      (r ∈ f.begin.controller.locked ∨ (f.panel.control r).disabled = true) ∧
        ¬ (r ∈ f.begin.controller.locked ∧ .event .submit ∈ ms) := by
  have hlocked : f.begin.controller.locked = f.idle.locked := f.locked_after []
  have hfits : ∀ m ∈ Move.event .derive :: ms, m.Fits f.seating :=
    List.forall_mem_cons.mpr ⟨trivial, hms⟩
  rw [after_eq_play, Controller.disabled_play_iff rfl ht hd hfits, lockedPanel,
    Panel.control_setAllDisabled, hlocked]
  by_cases h : r ∈ f.idle.locked <;> simp [h]

/-- The locks of a form are decided when it is taken over, and last until it is submitted.

- Only selectors are locked, and a selector exactly if it has a single option and is enabled.
- The locked selectors and their number stay the same for good.
- A locked selector is disabled until the first submission, and enabled from then on.
- Any other selector is disabled if and only if the page rendered it so. -/
theorem locked_until_submitted (f : Setup)
    (hdropdown : f.seating.dropdown ∉ f.seating.selectors) :
    (∀ r ∈ f.begin.controller.locked, ∃ i ∈ f.seating.selectors, r = .select i) ∧
    (∀ i ∈ f.seating.selectors, .select i ∈ f.begin.controller.locked ↔
      (f.panel.control (.select i)).options.length = 1 ∧
        (f.panel.control (.select i)).disabled = false) ∧
    ∀ ms : List (Move Ref Nat), (∀ m ∈ ms, m.Fits f.seating) →
      (f.after ms).1.locked = f.begin.controller.locked ∧
      ((f.after ms).1.snapshot (f.after ms).2).locked = f.begin.controller.locked.length ∧
      ∀ i ∈ f.seating.selectors,
        (.select i ∈ f.begin.controller.locked →
          (((f.after ms).2.control (.select i)).disabled = true ↔ .event .submit ∉ ms)) ∧
        (.select i ∉ f.begin.controller.locked →
          ((f.after ms).2.control (.select i)).disabled =
            (f.panel.control (.select i)).disabled) := by
  have hbegin : f.begin.controller.locked = Controller.prefilled f.seating.layout f.panel :=
    f.locked_after []
  have hafter (ms : List (Move Ref Nat)) : (f.after ms).1.locked = f.begin.controller.locked := by
    rw [hbegin, f.locked_after]
  refine ⟨?_, ?_, ?_⟩
  · intro r hr
    exact select_of_mem_locked f (hbegin ▸ hr)
  · intro i hi
    have hselector : Ref.select i ∈ f.seating.layout.permission ++ f.seating.layout.group.toList :=
      f.seating.map_selectors ▸ List.mem_map_of_mem hi
    rw [hbegin, Controller.mem_prefilled_iff, and_iff_right hselector]
  · intro ms hms
    refine ⟨hafter ms, congrArg List.length (hafter ms), ?_⟩
    intro i hi
    have hne : Ref.select i ≠ .select f.seating.dropdown := by
      rw [ne_eq, Ref.select.injEq]
      exact ne_of_mem_of_not_mem hi hdropdown
    have hiff := disabled_after_iff (by simp) hne hms
    constructor
    · intro hlocked
      simpa [hlocked] using hiff
    · intro hlocked
      rw [Bool.eq_iff_iff, hiff]
      simp [hlocked]

/-- A form that disables the unused field. The page filled in the group, and it rendered a second
copy of the permission selector with a single option as disabled. -/
def sealed : Setup where
  table := sample.table
  exclusion := .disabling
  seating := { permission := [0, 3], group := some 1, text := 0, dropdown := 2, reason := [1] }
  panel := .ofLists [{ name := "argument" }, { name := "reason" }]
    [{ name := "permission_name", options := ["", "edit", "gone", "view"] },
      { name := "group_name", options := ["sre"], value := "sre" }, { name := "argument" },
      { name := "permission_name", options := ["edit"], value := "edit", disabled := true }]

/-- The group is locked until the form is submitted, and enabled even when a derivation follows. The
second copy stays disabled. -/
theorem locked_until_submitted_sealed :
    let submitted := sampleMoves ++ [.event (.select "view")]
    ((sealed.after (sampleMoves.take 4)).2.control (.select 1)).disabled = true ∧
      ((sealed.after submitted).2.control (.select 1)).disabled = false ∧
      ((sealed.after submitted).2.control (.select 3)).disabled = true := by
  intro submitted
  obtain ⟨-, hlocks, hruns⟩ := sealed.locked_until_submitted (by decide)
  have hgroup := (hlocks 1 (by decide)).mpr (by decide)
  have hcopy : Ref.select 3 ∉ sealed.begin.controller.locked := by
    rw [hlocks 3 (by decide)]
    decide
  obtain ⟨-, -, hbefore⟩ := hruns (sampleMoves.take 4) (by decide)
  obtain ⟨-, -, hafter⟩ := hruns submitted (by decide)
  refine ⟨?_, ?_, ?_⟩
  · exact ((hbefore 1 (by decide)).1 hgroup).mpr (by decide)
  · rw [← Bool.not_eq_true, (hafter 1 (by decide)).1 hgroup]
    decide
  · exact ((hafter 3 (by decide)).2 hcopy).trans (by decide)

end Setup

end AccessForm
