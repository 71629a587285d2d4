import AccessForm.Proofs.Choice
import AccessForm.Proofs.Participation
import AccessForm.Proofs.Priming

/-!
# Repeated derivations

A form that has been brought in line with its permission is in line with it, and bringing it in
line once more changes nothing. The second derivation does not do what the first one did, though.
All options are taken from the dropdown and put back, and what is selected then is decided in
another way: the first derivation of all goes by the text that the page rendered, every later one by
the dropdown. And only a later one throws a text away.

They agree because of what the first derivation leaves behind. It leaves the dropdown at one of its
options, so the next one finds that option among those of the same list (`refill_refill`). It leaves
the mode, so the next one brings no field into use that was not in use already. A selection that is
repeated finds all copies of the selector where it left them, even those that did not take it over
(`publish_again`).
-/

namespace AccessForm

/-! ## Single fields -/

theorem Control.refill_refill {options : List String} (h : options ≠ []) (c : Control)
    (kept : String) : (c.refill options kept).refill options (c.refill options kept).value =
      c.refill options kept := by
  have hmem : (c.refill options kept).value ∈ options := Control.value_refill_mem h c kept
  calc (c.refill options kept).refill options (c.refill options kept).value
      = { c.refill options kept with
          options := options
          value := (c.refill options kept).value } := by
        rw [refill.eq_def (c.refill options kept), if_pos hmem]
    _ = c.refill options kept := rfl

private theorem Exclusion.refill_dress (e : Exclusion) (b : Bool) (c : Control)
    (options : List String) (kept : String) :
    (e.dress b c).refill options kept = e.dress b (c.refill options kept) := by
  cases e with
  | disabling => rfl
  | naming _ _ => rfl

theorem Panel.publish_again {p p' : Panel} {copies : List Ref} {v : String}
    (h : ∀ r ∈ copies, p'.control r = (Copies.publish p copies v).control r) :
    Copies.publish p' copies v = p' := by
  apply Panel.ext
  · intro r
    rw [control_publish]
    split
    · next hr => rw [h r hr, control_publish, if_pos hr, bring_bring]
    · rfl
  · exact shown_publish p' copies v

/-! ## One derivation and the next -/

namespace Controller

/-- The controller after a derivation of a mode. -/
def settled (c : Controller Ref Nat) (mode : Mode) : Controller Ref Nat :=
  { c with mode, primed := true }

variable {c : Controller Ref Nat} {f : Seating} {p : Panel} {mode : Mode}

/-- The next derivation finds the text field in use if it is to be in use. -/
theorem retyped_settled (p : Panel) :
    (c.settled mode).retyped p mode = p.control c.layout.text := by
  rw [retyped]
  apply if_neg
  rintro ⟨hmode, -, hne⟩
  exact hne hmode

/-- The next derivation refills the dropdown around what it holds. -/
theorem refilled_settled (hl : c.layout = f.layout) (p : Panel)
    (hlist : ∀ list, mode = .choice list → list ≠ []) :
    (c.settled mode).refilled (c.arrange p mode) mode =
      (c.arrange p mode).control (.select f.dropdown) := by
  have hdropdown : c.layout.dropdown = .select f.dropdown := by rw [hl]; rfl
  cases mode with
  | unselected => exact congrArg (c.arrange p .unselected).control hdropdown
  | freeText => exact congrArg (c.arrange p .freeText).control hdropdown
  | choice list =>
    have hkeepsake : (c.settled (.choice list)).keepsake (c.arrange p (.choice list)) =
        ((c.arrange p (.choice list)).control (.select f.dropdown)).value :=
      congrArg (fun r ↦ ((c.arrange p (.choice list)).control r).value) hdropdown
    show ((c.arrange p (.choice list)).control c.layout.dropdown).refill list _ = _
    rw [hkeepsake, hdropdown, control_arrange_dropdown hl, Exclusion.value_dress,
      Exclusion.refill_dress]
    exact congrArg _ (Control.refill_refill (hlist list rfl) _ _)

private theorem arrange_settled (hl : c.layout = f.layout) (p : Panel)
    (hlist : ∀ list, mode = .choice list → list ≠ []) :
    (c.settled mode).arrange (c.arrange p mode) mode = c.arrange p mode := by
  have hl' : (c.settled mode).layout = f.layout := hl
  have htext : c.layout.text = .field f.text := by rw [hl]; rfl
  apply Panel.ext
  · intro r
    by_cases hr : r = .field f.text
    · subst hr
      rw [control_arrange_text hl', retyped_settled, htext, control_arrange_text hl]
      exact Exclusion.dress_dress _ _ _ _
    by_cases hr' : r = .select f.dropdown
    · subst hr'
      rw [control_arrange_dropdown hl', refilled_settled hl p hlist, control_arrange_dropdown hl]
      exact Exclusion.dress_dress _ _ _ _
    · exact control_arrange_of_ne hl' hr hr' _ _
  · funext i
    rw [shown_arrange hl', shown_arrange hl]
    split
    · rfl
    · rfl

/-- A derivation that follows another one gives the same answer and changes nothing. -/
theorem derive_again (hl : c.layout = f.layout) (hd : f.dropdown ∉ f.permission) :
    (c.derive p).controller.derive (c.derive p).surface = c.derive p := by
  have hpermission := permission_derive (p := p) hl hd
  obtain ⟨_, -, heq⟩ | ⟨mode, hmode, heq⟩ := c.derive_cases p
  · rw [heq]
    exact heq
  · rw [heq] at hpermission ⊢
    have hlist : ∀ list, mode = .choice list → list ≠ [] := by
      rintro list rfl
      exact Table.ne_nil_of_allowance? (Table.allowance?_of_mode hmode)
    have hagain : (c.settled mode).permission (c.arrange p mode) = c.permission p := hpermission
    obtain ⟨_, herror, -⟩ | ⟨mode', hmode', heq'⟩ :=
      (c.settled mode).derive_cases (c.arrange p mode)
    · rw [hagain] at herror
      exact absurd (hmode.symm.trans herror) (by simp)
    · rw [hagain] at hmode' heq'
      obtain rfl : mode = mode' := Except.ok.inj (hmode.symm.trans hmode')
      rw [arrange_settled hl p hlist] at heq'
      exact heq'

private theorem select_again (hl : c.layout = f.layout) (hd : f.dropdown ∉ f.permission)
    (v : String) : (c.select p v).controller.select (c.select p v).surface v = c.select p v := by
  have hlayout : (c.select p v).controller.layout = c.layout :=
    c.layout_move p (.event (.select v))
  have hcopies : ∀ r ∈ c.layout.permission, (c.select p v).surface.control r =
      (Copies.publish p c.layout.permission v).control r := by
    intro r hr
    rw [hl] at hr
    obtain ⟨i, hi, rfl⟩ := List.mem_map.mp hr
    exact control_derive_of_mem_permission hl hd hi
  calc (c.select p v).controller.select (c.select p v).surface v
      = (c.select p v).controller.derive
          (Copies.publish (c.select p v).surface c.layout.permission v) := by
        rw [select, hlayout]
    _ = (c.select p v).controller.derive (c.select p v).surface := by
        rw [Panel.publish_again hcopies]
    _ = c.select p v := derive_again hl hd

end Controller

/-! ## The theorem -/

/-- Whether a call was answered with the mode in force and left everything as it was. -/
def Turn.Confirms {σ κ ς : Type} (t : Turn σ κ ς) (c : Controller κ ς) (s : σ) : Prop :=
  t.outcome = .ok c.mode ∧ t.controller = c ∧ t.surface = s

private theorem Controller.outcome_of_succeeded {c : Controller Ref Nat} {p : Panel}
    (h : (c.derive p).Succeeded) :
    (c.derive p).outcome = .ok (c.derive p).controller.mode := by
  obtain ⟨_, -, heq⟩ | ⟨_, -, heq⟩ := c.derive_cases p
  · rw [heq] at h
    cases h
  · rw [heq]

namespace Setup

/-- Bringing a form in line once more changes nothing, whatever its history is.

- Right after a successful derivation, be it the one with which the form was taken over, a further
  one is answered with the mode in force, and controller and elements stay as they are.
- Right after a permission was selected with success, the same is true of selecting it again. -/
theorem repetition_changes_nothing (f : Setup)
    (hdropdown : f.seating.dropdown ∉ f.seating.permission) :
    (∀ ms, f.JustDerived ms →
      ((f.after ms).1.derive (f.after ms).2).Confirms (f.after ms).1 (f.after ms).2) ∧
    ∀ ms v, f.JustDerived (ms ++ [.event (.select v)]) →
      ((f.after (ms ++ [.event (.select v)])).1.select
          (f.after (ms ++ [.event (.select v)])).2 v).Confirms
        (f.after (ms ++ [.event (.select v)])).1 (f.after (ms ++ [.event (.select v)])).2 := by
  constructor
  · intro ms hms
    obtain ⟨c, p, hl, hs, heq⟩ := hms.exists_derive
    rw [heq, Controller.derive_again hl hdropdown]
    exact ⟨Controller.outcome_of_succeeded hs, rfl, rfl⟩
  · rintro ms v ⟨before, m, heq, -, hs⟩
    -- the last move is the selection
    have hjoin : (.event .derive :: ms) ++ [.event (.select v)] = before ++ [m] := heq
    obtain ⟨rfl, hm⟩ := List.append_inj' hjoin rfl
    obtain rfl : .event (.select v) = m := List.head_eq_of_cons_eq hm
    rw [after_concat, Controller.move, Controller.handle,
      Controller.select_again (f.layout_after ms) hdropdown]
    exact ⟨Controller.outcome_of_succeeded hs, rfl, rfl⟩

/-- A form whose page asks for an option by a text. -/
def prompted : Setup :=
  { shadowed with
    panel := .ofLists [{ name := "argument", value := "staging" }]
      [{ name := "permission_name", options := ["view"], value := "view" },
        { name := "argument", options := ["prod", "staging"], value := "prod" }] }

/-- The text selects the option when the form is taken over. A second derivation does not look at
the text, and keeps the option; so does selecting the permission twice. -/
theorem repetition_changes_nothing_prompted :
    ((prompted.after []).2.control (.select 1)).value = "staging" ∧
      ((prompted.after []).1.derive (prompted.after []).2).surface = (prompted.after []).2 ∧
      prompted.JustDerived [.event (.select "view")] ∧
      ((prompted.after [.event (.select "view")]).1.select
          (prompted.after [.event (.select "view")]).2 "view").surface =
        (prompted.after [.event (.select "view")]).2 := by
  obtain ⟨hderive, hselect⟩ := prompted.repetition_changes_nothing (by decide)
  have hbegin : prompted.JustDerived [] := ⟨[], .event .derive, rfl, rfl, by decide +kernel⟩
  have hselected : prompted.JustDerived ([] ++ [.event (.select "view")]) :=
    ⟨[.event .derive], .event (.select "view"), rfl, rfl, by decide +kernel⟩
  exact ⟨by decide +kernel, (hderive [] hbegin).2.2, hselected, (hselect [] "view" hselected).2.2⟩

end Setup

end AccessForm
