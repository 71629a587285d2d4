import AccessForm.Proofs.Participation
import AccessForm.Settings.Json
import Mathlib.Data.List.Induction

/-!
# The identity of the argument

The argument of a request is what the fields submit that are enabled and have the name for the
argument. A page may render both argument fields so; it is the form that tells them apart.

The first part is about the settings: whatever was designated before, the field that is designated
last carries the name for the argument, and the other one does not, unless the settings ask for
renaming and give both fields the same name. Nothing rejects such settings, and with them both
fields carry the name all the time.

The second part is about the time before the first successful derivation. As long as the selected
permission is unknown, the form leaves the fields as the page rendered them, so both carry the name,
although no side is said to take part. The first successful derivation puts an end to that.
-/

namespace AccessForm

/-- Whether a field is submitted under a name. -/
def Control.Carries (name : String) (c : Control) : Prop := c.disabled = false ∧ c.name = name

instance (name : String) : DecidablePred (Control.Carries name) := fun c ↦
  inferInstanceAs (Decidable (c.disabled = false ∧ c.name = name))

/-! ## Dressed fields -/

namespace Exclusion

variable {settings : Settings} {c : Control}

/-- Settings confuse the argument fields when they rename one of them to the name of the other. -/
theorem not_tellsApart_iff : ¬ (ofSettings settings).TellsApart ↔
    settings.method = .rename ∧ settings.argumentName = settings.ignoredName := by
  rw [ofSettings]
  cases settings.method with
  | disable => simp [TellsApart]
  | rename => simp [TellsApart]

private theorem carries_dress_iff (h : c.Carries settings.argumentName) (b : Bool) :
    ((ofSettings settings).dress b c).Carries settings.argumentName ↔
      b = true ∨ ¬ (ofSettings settings).TellsApart := by
  obtain ⟨henabled, hname⟩ := h
  rw [ofSettings]
  cases settings.method with
  | disable => simp [dress, Control.Carries, TellsApart, hname]
  | rename => cases b <;> simp [dress, Control.Carries, TellsApart, henabled, eq_comm]

private theorem eq_true_of_carries_dress (hapart : (ofSettings settings).TellsApart) {b : Bool}
    (h : ((ofSettings settings).dress b c).Carries settings.argumentName) : b = true := by
  rw [ofSettings] at h hapart
  cases b with
  | true => rfl
  | false =>
    cases hmethod : settings.method with
    | disable => simp [hmethod, dress, Control.Carries] at h
    | rename =>
      rw [hmethod] at h hapart
      exact absurd h.2.symm hapart

end Exclusion

/-! ## Designations in a row -/

namespace Exclusion

/-- Lets sides take part, one after the other. -/
def designateAll {σ κ ς : Type} [Surface σ κ ς] (e : Exclusion) (s : σ) (text dropdown : κ)
    (sides : List (Option Side)) : σ :=
  sides.foldl (e.designate · text dropdown ·) s

variable {text dropdown : Ref}

private theorem control_designate (hne : text ≠ dropdown) (e : Exclusion) (p : Panel)
    (side : Option Side) :
    (e.designate p text dropdown side).control text =
        e.dress (side = some .text) (p.control text) ∧
      (e.designate p text dropdown side).control dropdown =
        e.dress (side = some .dropdown) (p.control dropdown) := by
  rw [designate, Panel.mark_eq_modify, Panel.mark_eq_modify]
  simp [hne, hne.symm]

private theorem control_designateAll (hne : text ≠ dropdown) (e : Exclusion) (p : Panel)
    (sides : List (Option Side)) (last : Option Side) :
    (e.designateAll p text dropdown (sides ++ [last])).control text =
        e.dress (last = some .text) (p.control text) ∧
      (e.designateAll p text dropdown (sides ++ [last])).control dropdown =
        e.dress (last = some .dropdown) (p.control dropdown) := by
  induction sides generalizing p with
  | nil => exact control_designate hne e p last
  | cons side sides ih =>
    obtain ⟨htext, hdropdown⟩ := control_designate hne e p side
    obtain ⟨htext', hdropdown'⟩ := ih (e.designate p text dropdown side)
    rw [htext, dress_dress] at htext'
    rw [hdropdown, dress_dress] at hdropdown'
    exact ⟨htext', hdropdown'⟩

end Exclusion

/-- Which of the two argument fields carries the name for the argument, whatever was designated
before: the field that was designated last. But settings that ask for renaming and give both fields
the same name are settings like any others, and with them both fields carry it, even when none was
designated. -/
theorem Settings.carries_designated_iff (settings : Settings) {p : Panel} {text dropdown : Ref}
    (hne : text ≠ dropdown) (htext : (p.control text).Carries settings.argumentName)
    (hdropdown : (p.control dropdown).Carries settings.argumentName)
    (sides : List (Option Side)) (last : Option Side) :
    ((((Exclusion.ofSettings settings).designateAll p text dropdown
        (sides ++ [last])).control text).Carries settings.argumentName ↔
      last = some .text ∨
        settings.method = .rename ∧ settings.argumentName = settings.ignoredName) ∧
    ((((Exclusion.ofSettings settings).designateAll p text dropdown
        (sides ++ [last])).control dropdown).Carries settings.argumentName ↔
      last = some .dropdown ∨
        settings.method = .rename ∧ settings.argumentName = settings.ignoredName) := by
  obtain ⟨htext', hdropdown'⟩ :=
    Exclusion.control_designateAll hne (.ofSettings settings) p sides last
  rw [htext', hdropdown', Exclusion.carries_dress_iff htext, Exclusion.carries_dress_iff hdropdown,
    decide_eq_true_iff, decide_eq_true_iff, Exclusion.not_tellsApart_iff]
  exact ⟨Iff.rfl, Iff.rfl⟩

/-- Settings by which both argument fields have the same name all the time. -/
def Settings.confused : Settings :=
  { method := .rename, ignoredName := defaultArgumentName }

/-- A text field and a dropdown that are both rendered as the argument. -/
def Panel.pair : Panel :=
  .ofLists [{ name := defaultArgumentName }] [{ name := defaultArgumentName }]

/-- A page may ask for renaming and name the ignored field like the argument. Its settings are
accepted, and then both fields are submitted as the argument although none is designated. -/
theorem Settings.carries_designated_iff_sample :
    Settings.ofAttributes
        (some "\x7b\"strategy\": \"rename\", \"ignored_name\": \"argument\"\x7d") none =
      .ok Settings.confused ∧
    ∀ r ∈ [Ref.field 0, Ref.select 0],
      (((Exclusion.ofSettings Settings.confused).designateAll Panel.pair
        (.field 0) (.select 0) [none]).control r).Carries "argument" := by
  have htext : (Panel.pair.control (.field 0)).Carries Settings.confused.argumentName := by
    decide
  have hdropdown : (Panel.pair.control (.select 0)).Carries Settings.confused.argumentName := by
    decide
  obtain ⟨htext', hdropdown'⟩ :=
    Settings.carries_designated_iff Settings.confused (by decide) htext hdropdown [] none
  refine ⟨by decide +kernel, List.forall_mem_cons.mpr ⟨?_, List.forall_mem_singleton.mpr ?_⟩⟩
  · exact htext'.mpr (.inr ⟨rfl, rfl⟩)
  · exact hdropdown'.mpr (.inr ⟨rfl, rfl⟩)

/-! ## Before the first successful derivation -/

namespace Setup

variable {f : Setup} {ms : List (Move Ref Nat)}

private theorem failed_of_not_derived {e : Controller.Event Ref}
    (h : ¬ f.Derived (ms ++ [.event e])) :
    e.derives = true → ¬ ((f.after ms).1.handle (f.after ms).2 e).Succeeded := by
  intro he hs
  refine h ((f.primed_after_iff _).mp ?_)
  rw [after_concat, Controller.primed_move_iff]
  exact .inr ⟨he, hs⟩

private theorem controller_after_of_not_derived (h : ¬ f.Derived ms) : (f.after ms).1 = f.idle := by
  induction ms using List.reverseRecOn with
  | nil => rw [f.after_nil_of_failed fun hs ↦ h (.inl hs)]
  | append_singleton ms m ih =>
    have hidle := ih fun hd ↦ h (hd.concat m)
    rw [after_concat]
    cases m with
    | edit e => exact hidle
    | event e => exact ((f.after ms).1.handle_of_failed _ (failed_of_not_derived h)).1.trans hidle

/-- Enabling the locked selectors makes a control as the page rendered it, whether they were locked
all the time or enabled before. -/
theorem frame_unlock {p : Panel} {r : Ref} {rendered : Bool}
    (h : (p.control r).frame =
      ((if rendered then f.panel else f.lockedPanel).control r).frame) :
    ((Controller.setAllDisabled p f.idle.locked false).control r).frame =
      (f.panel.control r).frame := by
  rw [lockedPanel] at h
  by_cases hr : r ∈ f.idle.locked
  · have henabled : (f.panel.control r).disabled = false :=
      Controller.enabled_of_mem_prefilled hr
    have hrendered : (f.panel.control r).frame =
        { (f.panel.control r).frame with disabled := false } := by
      rw [← henabled]
      rfl
    calc ((Controller.setAllDisabled p f.idle.locked false).control r).frame
        = { (p.control r).frame with disabled := false } := by
          rw [Panel.control_setAllDisabled, if_pos hr]
          rfl
      _ = { (f.panel.control r).frame with disabled := false } := by
          rw [h]
          cases rendered with
          | true => rfl
          | false =>
            rw [if_neg Bool.false_ne_true, Panel.control_setAllDisabled, if_pos hr]
            rfl
      _ = (f.panel.control r).frame := hrendered.symm
  · rw [Panel.control_setAllDisabled, if_neg hr, h]
    cases rendered with
    | true => rfl
    | false => rw [if_neg Bool.false_ne_true, Panel.control_setAllDisabled, if_neg hr]

/-- Until a derivation is successful, the controls are as the page rendered them, apart from their
values and from the locks, which last until the form is submitted. -/
theorem frame_after_of_not_derived (hms : ∀ m ∈ ms, m.Fits f.seating) (h : ¬ f.Derived ms)
    (r : Ref) : ((f.after ms).2.control r).frame =
      ((if ms.contains (.event .submit) then f.panel else f.lockedPanel).control r).frame := by
  induction ms using List.reverseRecOn with
  | nil => rw [f.after_nil_of_failed fun hs ↦ h (.inl hs), List.contains_nil,
      if_neg Bool.false_ne_true]
  | append_singleton ms m ih =>
    have hnot : ¬ f.Derived ms := fun hd ↦ h (hd.concat m)
    have hbefore := ih (fun m' hm' ↦ hms m' (List.mem_append_left _ hm')) hnot
    have hcontains : m ≠ .event .submit → (ms ++ [m]).contains (.event .submit) =
        ms.contains (.event .submit) := by
      intro hne
      simp [hne.symm]
    rw [after_concat]
    cases m with
    | edit e =>
      have hfits := hms (.edit e) (by simp)
      cases e with
      | value k v =>
        rw [hcontains (by simp)]
        exact (Panel.frame_setValue _ k r v).trans hbefore
      | _ => exact hfits.elim
    | event e =>
      dsimp only
      rw [Controller.move, ((f.after ms).1.handle_of_failed _ (failed_of_not_derived h)).2,
        controller_after_of_not_derived hnot]
      by_cases he : e = .submit
      · rw [if_pos (Controller.Event.submits_iff.mpr he), frame_unlock hbefore,
          if_pos (by simp [he])]
      · rw [if_neg (mt Controller.Event.submits_iff.mp he), Controller.frame_spread, hbefore,
          hcontains (by simpa using he)]

/-- The first successful derivation arranges the form as if it had just been taken over. -/
theorem after_of_first {m : Move Ref Nat} (hnot : ¬ f.Derived ms) (h : f.Derived (ms ++ [m])) :
    ∃ e mode, m = .event e ∧ f.after (ms ++ [m]) =
      ({ f.idle with mode, primed := true },
        f.idle.arrange (f.idle.spread (f.after ms).2 e) mode) := by
  have hidle := controller_after_of_not_derived hnot
  have hmove : m.derives = true ∧ (f.idle.move (f.after ms).2 m).Succeeded := by
    rw [← primed_after_iff, after_concat, Controller.primed_move_iff, primed_after_iff, hidle] at h
    exact h.resolve_left hnot
  obtain ⟨hderives, hsucceeded⟩ := hmove
  rw [after_concat, hidle]
  rcases m with e | e
  · rw [Controller.move, f.idle.handle_of_derives _ hderives] at hsucceeded ⊢
    obtain ⟨_, -, heq⟩ | ⟨mode, -, heq⟩ := f.idle.derive_cases (f.idle.spread (f.after ms).2 e)
    · rw [heq] at hsucceeded
      exact absurd hsucceeded Bool.false_ne_true
    · exact ⟨e, mode, rfl, by rw [heq]⟩
  · exact absurd hderives Bool.false_ne_true

/-- The first derivation is refused exactly if the table does not know the permission that the page
selected. -/
theorem not_derived_nil_iff : ¬ f.Derived [] ↔
    f.idle.permission f.panel ≠ "" ∧ f.table.contains (f.idle.permission f.panel) = false := by
  have hpermission : f.idle.permission f.lockedPanel = f.idle.permission f.panel := by
    rw [Controller.permission, Controller.permission]
    rcases f.idle.layout.permission with _ | ⟨first, _⟩
    · rfl
    · exact Panel.value_setAllDisabled _ _ _ _
  have hfailed : ¬ f.Derived [] ↔ ∃ e, (f.idle.derive f.lockedPanel).outcome = .error e := by
    rw [Derived, Controller.HasDerived, or_false, begin_succeeded_iff, Turn.Succeeded]
    rcases (f.idle.derive f.lockedPanel).outcome with e | mode
    · exact ⟨fun _ ↦ ⟨e, rfl⟩, fun _ ↦ Bool.false_ne_true⟩
    · exact iff_of_false (fun h ↦ h rfl) (by simp)
  rw [hfailed, Controller.outcome_derive, hpermission]
  simp only [Table.mode_eq_error_iff, exists_eq_left]
  rfl

end Setup

/-! ### Who carries the name -/

/-- The argument field of a side. -/
def Seating.ref (f : Seating) : Side → Ref
  | .text => .field f.text
  | .dropdown => .select f.dropdown

private theorem Control.carries_congr {c c' : Control} {name : String} (h : c'.frame = c.frame) :
    c'.Carries name ↔ c.Carries name := by
  have hframe : c'.frame.Carries name ↔ c.frame.Carries name := by rw [h]
  exact hframe

/-- A successful derivation dresses the argument field of each side. What it did to the field before
that has nothing to do with the name. -/
theorem Controller.exists_control_arrange {c : Controller Ref Nat} {f : Seating}
    (hl : c.layout = f.layout) (p : Panel) (mode : Mode) (side : Side) :
    ∃ d : Control, (∀ name, d.Carries name ↔ (p.control (f.ref side)).Carries name) ∧
      (c.arrange p mode).control (f.ref side) = c.exclusion.dress (mode.side? = some side) d := by
  rcases side
  · refine ⟨_, fun name ↦ ?_, control_arrange_text hl p mode⟩
    rw [retyped, hl]
    split
    · exact Iff.rfl
    · exact Iff.rfl
  · refine ⟨_, fun name ↦ ?_, control_arrange_dropdown hl p mode⟩
    rcases mode
    · rw [refilled, hl]
      exact Iff.rfl
    · rw [refilled, hl]
      exact Iff.rfl
    · rw [refilled, hl]
      exact Iff.rfl

namespace Setup

variable {f : Setup} {ms : List (Move Ref Nat)} {name : String}

/-- Whether the argument field of a side carries a name at the end of a history. -/
def Carrying (f : Setup) (name : String) (ms : List (Move Ref Nat)) (side : Side) : Prop :=
  ((f.after ms).2.control (f.seating.ref side)).Carries name

instance (f : Setup) (name : String) (ms : List (Move Ref Nat)) :
    DecidablePred (f.Carrying name ms) := fun side ↦
  inferInstanceAs (Decidable (((f.after ms).2.control (f.seating.ref side)).Carries name))

private theorem ref_text_notMem_locked : f.seating.ref .text ∉ f.idle.locked :=
  f.field_notMem_locked _

private theorem carrying_iff_of_not_derived (hms : ∀ m ∈ ms, m.Fits f.seating)
    (hnot : ¬ f.Derived ms)
    {side : Side} (hrendered : (f.panel.control (f.seating.ref side)).Carries name) :
    f.Carrying name ms side ↔ (f.seating.ref side ∈ f.idle.locked → .event .submit ∈ ms) := by
  rw [Carrying, Control.carries_congr (frame_after_of_not_derived hms hnot _)]
  by_cases hsubmit : .event .submit ∈ ms
  · rw [if_pos (by simpa using hsubmit)]
    exact iff_of_true hrendered fun _ ↦ hsubmit
  · rw [if_neg (by simpa using hsubmit), lockedPanel, Panel.control_setAllDisabled]
    split
    · next hlocked =>
      have hdisabled : ¬ ({ f.panel.control (f.seating.ref side) with
          disabled := true } : Control).Carries name := fun h ↦ absurd h.1.symm Bool.false_ne_true
      exact iff_of_false hdisabled fun h ↦ hsubmit (h hlocked)
    · next hfree => exact iff_of_true hrendered fun h ↦ absurd h hfree

private theorem carrying_of_first {settings : Settings}
    (hsettings : f.exclusion = .ofSettings settings)
    (hapart : f.exclusion.TellsApart) {m : Move Ref Nat} (hnot : ¬ f.Derived ms)
    (hfirst : f.Derived (ms ++ [m])) (side : Side) :
    (f.Carrying settings.argumentName (ms ++ [m]) side →
      (f.after (ms ++ [m])).1.side? = some side) ∧
    (f.Carrying settings.argumentName ms side → (f.after (ms ++ [m])).1.side? = some side →
      f.Carrying settings.argumentName (ms ++ [m]) side) := by
  obtain ⟨e, mode, -, hafter⟩ := after_of_first hnot hfirst
  obtain ⟨d, hd, hcontrol⟩ := Controller.exists_control_arrange (c := f.idle) (f := f.seating) rfl
    (f.idle.spread (f.after ms).2 e) mode side
  have hexclusion : f.idle.exclusion = .ofSettings settings := hsettings
  have hside : (f.after (ms ++ [m])).1.side? = mode.side? := by
    rw [hafter]
    rfl
  have hbefore : d.Carries settings.argumentName ↔ f.Carrying settings.argumentName ms side := by
    rw [hd, Control.carries_congr (Controller.frame_spread _ e _)]
    rfl
  rw [Carrying, hside, hafter, hcontrol, hexclusion]
  rw [hsettings] at hapart
  refine ⟨fun h ↦ of_decide_eq_true (Exclusion.eq_true_of_carries_dress hapart h), ?_⟩
  intro hcarrying htakes
  exact (Exclusion.carries_dress_iff (hbefore.mpr hcarrying) _).mpr (.inl (decide_eq_true htakes))

/-! ### The theorem -/

/-- A form whose page selects a permission that its table does not know. Both argument fields are
rendered as the argument. -/
def stray : Setup where
  table :=
    { allowances := ⟨[("edit", .anything)], by decide +kernel⟩
      named := by decide
      settled := by decide }
  exclusion := .ofSettings {}
  seating :=
    { permission := [0], group := none, text := 0, dropdown := 1, reason := []
      argumentSections := [], reasonSections := [] }
  panel := .ofLists [{ name := "argument" }]
    [{ name := "permission_name", options := ["gone", "edit"], value := "gone" },
      { name := "argument" }]

/-- As long as no derivation was successful, which is at first exactly if the page selected a
permission that the table does not know, no side takes part, but both argument fields carry the name
that the page gave them; only a dropdown that is locked does so not before the form is submitted.
The first successful derivation leaves the name to the side that takes part. -/
theorem carrying_until_derived (f : Setup) {settings : Settings}
    (hsettings : f.exclusion = .ofSettings settings) (hapart : f.exclusion.TellsApart)
    (hrendered : ∀ side,
      (f.panel.control (f.seating.ref side)).Carries settings.argumentName) :
    (¬ f.Derived [] ↔
      f.idle.permission f.panel ≠ "" ∧ f.table.contains (f.idle.permission f.panel) = false) ∧
    ∀ ms, (∀ m ∈ ms, m.Fits f.seating) → ¬ f.Derived ms →
      (f.after ms).1.side? = none ∧
      f.Carrying settings.argumentName ms .text ∧
      (f.Carrying settings.argumentName ms .dropdown ↔
        (f.seating.ref .dropdown ∈ f.idle.locked → .event .submit ∈ ms)) ∧
      ∀ m, f.Derived (ms ++ [m]) → ∀ side,
        (f.Carrying settings.argumentName (ms ++ [m]) side →
          (f.after (ms ++ [m])).1.side? = some side) ∧
        (f.Carrying settings.argumentName ms side → (f.after (ms ++ [m])).1.side? = some side →
          f.Carrying settings.argumentName (ms ++ [m]) side) := by
  refine ⟨not_derived_nil_iff, fun ms hms hnot ↦ ⟨?_, ?_, ?_, fun m hfirst side ↦ ?_⟩⟩
  · rw [controller_after_of_not_derived hnot]
    rfl
  · exact (carrying_iff_of_not_derived hms hnot (hrendered .text)).mpr
      fun h ↦ absurd h ref_text_notMem_locked
  · exact carrying_iff_of_not_derived hms hnot (hrendered .dropdown)
  · exact carrying_of_first hsettings hapart hnot hfirst side

private theorem carries_stray (side : Side) :
    (stray.panel.control (stray.seating.ref side)).Carries defaultArgumentName := by
  rcases side
  · decide +kernel
  · decide +kernel

/-- The name is not kept to one side while no derivation was successful: the stray form has both
fields submitted as the argument. -/
theorem not_always_exclusive : ¬ ∀ (f : Setup) (settings : Settings),
    f.exclusion = .ofSettings settings → f.exclusion.TellsApart →
    (∀ side, (f.panel.control (f.seating.ref side)).Carries settings.argumentName) →
    f.table.contains (f.idle.permission f.panel) = false →
    ∀ ms, (∀ m ∈ ms, m.Fits f.seating) → ¬ f.Derived ms →
      ¬ (f.Carrying settings.argumentName ms .text ∧
        f.Carrying settings.argumentName ms .dropdown) ∧
      ∀ side, f.Carrying settings.argumentName ms side → (f.after ms).1.side? = some side := by
  intro h
  have hnot : ¬ stray.Derived [] := by
    rw [← primed_after_iff]
    decide +kernel
  have hexclusive := (h stray {} rfl trivial carries_stray (by decide +kernel) [] (by simp) hnot).1
  exact hexclusive ⟨by decide +kernel, by decide +kernel⟩

/-- The stray form has both fields submitted as the argument until the permission with a free text
is selected; then the text field is left alone with the name. -/
theorem carrying_until_derived_sample :
    (∀ side, stray.Carrying "argument" [] side) ∧
      ∀ side, stray.Carrying "argument" [.event (.select "edit")] side ↔ side = .text := by
  have hsettings : stray.exclusion = .ofSettings {} := rfl
  obtain ⟨hstart, huntil⟩ := stray.carrying_until_derived hsettings trivial carries_stray
  obtain ⟨-, htext, hdropdown, hfirst⟩ :=
    huntil [] (by simp) (hstart.mpr ⟨by decide +kernel, by decide +kernel⟩)
  have hboth : ∀ side, stray.Carrying "argument" [] side := by
    rintro (_ | _)
    · exact htext
    · exact hdropdown.mpr fun h ↦ absurd h (by decide +kernel)
  refine ⟨hboth, fun side ↦ ?_⟩
  have hderived : stray.Derived [.event (.select "edit")] :=
    (stray.primed_after_iff _).mp (by decide +kernel)
  have hside : (stray.after [.event (.select "edit")]).1.side? = some .text := by decide +kernel
  obtain ⟨honly, hkeeps⟩ := hfirst _ hderived side
  rw [List.nil_append, hside, Option.some.injEq] at honly hkeeps
  exact ⟨fun h ↦ (honly h).symm, fun h ↦ hkeeps (hboth side) h.symm⟩

end Setup

end AccessForm
