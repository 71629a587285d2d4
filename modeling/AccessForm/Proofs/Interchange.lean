import AccessForm.Proofs.Identity
import AccessForm.Proofs.Missing

/-!
# The two exclusions

An argument field is kept out of a submission by being disabled or by a name that nobody reads. It
makes no difference to anything else which of the two a form uses: both answer every event alike,
and the same field is submitted under the name for the argument.

The form that renames is the image of the form that disables. `Panel.renamed` translates the
controls: a field that is disabled under the one exclusion has the ignored name under the other, and
all argument fields are enabled there. The translation goes with every write of a controller and of
users, so it goes with whole histories (`play_renamed`). Before the first successful derivation, and
after derivations that failed, it is the identity on fields that are enabled under the submitted
name, which is how both begin.
-/

namespace AccessForm

/-! ## Translating controls -/

/-- An argument field as it is kept out by a name, from how it is kept out by being disabled. -/
def Control.renamed (submitted ignored : String) (c : Control) : Control :=
  { c with disabled := false, name := if c.disabled then ignored else submitted }

namespace Control

variable {submitted ignored : String} {c : Control}

private theorem renamed_of_carries (h : c.Carries submitted) : c.renamed submitted ignored = c := by
  obtain ⟨henabled, hname⟩ := h
  obtain ⟨value, name, required, disabled, visible, options⟩ := c
  obtain rfl : disabled = false := henabled
  obtain rfl : name = submitted := hname
  rfl

private theorem carries_renamed_iff (hnames : submitted ≠ ignored) (hname : c.name = submitted) :
    (c.renamed submitted ignored).Carries submitted ↔ c.Carries submitted := by
  cases hdisabled : c.disabled <;> simp [renamed, Carries, hdisabled, hname, hnames.symm]

/-- Renaming a field is the translation of disabling it. -/
theorem dress_renamed (b : Bool) :
    (Exclusion.naming submitted ignored).dress b (c.renamed submitted ignored) =
      (Exclusion.disabling.dress b c).renamed submitted ignored := by
  cases b <;> rfl

private theorem take_renamed (r : Ref) (v : String) :
    Panel.take r (c.renamed submitted ignored) v =
      (Panel.take r c v).renamed submitted ignored := by
  cases r <;> rfl

end Control

/-- The two argument fields. -/
def Seating.arguments (s : Seating) : List Ref := [.field s.text, .select s.dropdown]

/-- The controls of a form that renames, from those of a form that disables. -/
def Panel.renamed (s : Seating) (submitted ignored : String) (p : Panel) : Panel :=
  { p with control := fun r ↦
      if r ∈ s.arguments then (p.control r).renamed submitted ignored else p.control r }

namespace Panel

variable {s : Seating} {submitted ignored : String} {p : Panel}

private theorem control_renamed (r : Ref) : (p.renamed s submitted ignored).control r =
    if r ∈ s.arguments then (p.control r).renamed submitted ignored else p.control r := rfl

private theorem control_renamed_of_mem {r : Ref} (h : r ∈ s.arguments) :
    (p.renamed s submitted ignored).control r = (p.control r).renamed submitted ignored :=
  if_pos h

private theorem control_renamed_of_notMem {r : Ref} (h : r ∉ s.arguments) :
    (p.renamed s submitted ignored).control r = p.control r := if_neg h

private theorem view_renamed {α : Type} (view : Control → α)
    (h : ∀ c : Control, view (c.renamed submitted ignored) = view c) (r : Ref) :
    view ((p.renamed s submitted ignored).control r) = view (p.control r) := by
  rw [control_renamed]
  split
  · exact h _
  · rfl

@[simp] theorem value_renamed (r : Ref) :
    ((p.renamed s submitted ignored).control r).value = (p.control r).value :=
  view_renamed (·.value) (fun _ ↦ rfl) r

private theorem options_renamed (r : Ref) :
    ((p.renamed s submitted ignored).control r).options = (p.control r).options :=
  view_renamed (·.options) (fun _ ↦ rfl) r

private theorem renamed_of_carries (h : ∀ r ∈ s.arguments, (p.control r).Carries submitted) :
    p.renamed s submitted ignored = p := by
  refine ext (fun r ↦ ?_) rfl
  rw [control_renamed]
  split
  · next hr => exact Control.renamed_of_carries (h r hr)
  · rfl

private theorem setValue_renamed (r : Ref) (v : String) :
    Surface.setValue (p.renamed s submitted ignored) r v =
      (Surface.setValue p r v).renamed s submitted ignored := by
  refine ext (fun r' ↦ ?_) rfl
  rw [control_setValue]
  by_cases hr : r' = r
  · by_cases harg : r' ∈ s.arguments
    · rw [if_pos hr, control_renamed_of_mem harg, control_renamed_of_mem harg, control_setValue,
        if_pos hr, Control.take_renamed]
    · rw [if_pos hr, control_renamed_of_notMem harg, control_renamed_of_notMem harg,
        control_setValue, if_pos hr]
  · rw [if_neg hr, control_renamed, control_renamed, control_setValue, if_neg hr]

private theorem publish_renamed (copies : List Ref) (v : String) :
    Copies.publish (p.renamed s submitted ignored) copies v =
      (Copies.publish p copies v).renamed s submitted ignored := by
  induction copies generalizing p with
  | nil => rfl
  | cons r copies ih =>
    have hupdate : Copies.update v (p.renamed s submitted ignored) r =
        (Copies.update v p r).renamed s submitted ignored := by
      rw [Copies.update, Copies.update]
      simp only [Surface.value, value_renamed]
      split
      · rfl
      · exact setValue_renamed r v
    rw [Copies.publish, List.foldl_cons, hupdate]
    exact ih

private theorem setAllDisabled_renamed {controls : List Ref} (h : ∀ r ∈ controls, r ∉ s.arguments)
    (b : Bool) : Controller.setAllDisabled (p.renamed s submitted ignored) controls b =
      (Controller.setAllDisabled p controls b).renamed s submitted ignored := by
  refine ext (fun r ↦ ?_) ?_
  · by_cases hr : r ∈ controls
    · rw [control_setAllDisabled, if_pos hr, control_renamed_of_notMem (h r hr),
        control_renamed_of_notMem (h r hr), control_setAllDisabled, if_pos hr]
    · rw [control_setAllDisabled_of_notMem hr, control_renamed, control_renamed,
        control_setAllDisabled_of_notMem hr]
  · rw [shown_setAllDisabled]
    exact (shown_setAllDisabled p controls b).symm

end Panel

/-! ## Translating controllers -/

namespace Controller

/-- The controller that renames in place of one that disables. -/
def renamed (c : Controller Ref Nat) (submitted ignored : String) : Controller Ref Nat :=
  { c with exclusion := .naming submitted ignored }

end Controller

/-- What a call leaves behind in a form that renames. -/
def Turn.renamed (s : Seating) (submitted ignored : String) (t : Turn Panel Ref Nat) :
    Turn Panel Ref Nat :=
  { t with
    controller := t.controller.renamed submitted ignored
    surface := t.surface.renamed s submitted ignored }

namespace Controller

variable {c : Controller Ref Nat} {s : Seating} {submitted ignored : String} {p : Panel}

private theorem permission_renamed : (c.renamed submitted ignored).permission
    (p.renamed s submitted ignored) = c.permission p := by
  show Copies.value _ c.layout.permission = Copies.value _ c.layout.permission
  cases c.layout.permission with
  | nil => rfl
  | cons first _ => exact Panel.value_renamed first

private theorem keepsake_renamed : (c.renamed submitted ignored).keepsake
    (p.renamed s submitted ignored) = c.keepsake p := by
  simp only [keepsake, Surface.value, Panel.value_renamed]
  rfl

private theorem retyped_renamed (hl : c.layout = s.layout) (mode : Mode) :
    (c.renamed submitted ignored).retyped (p.renamed s submitted ignored) mode =
      (c.retyped p mode).renamed submitted ignored := by
  have htext : c.layout.text ∈ s.arguments := by rw [hl]; exact List.mem_cons_self
  show (if mode = .freeText ∧ c.primed = true ∧ c.mode ≠ .freeText then _ else _) = _
  rw [retyped]
  simp only [renamed, Panel.control_renamed_of_mem htext]
  split
  · rfl
  · rfl

private theorem refilled_renamed (hl : c.layout = s.layout) (mode : Mode) :
    (c.renamed submitted ignored).refilled (p.renamed s submitted ignored) mode =
      (c.refilled p mode).renamed submitted ignored := by
  have hdropdown : c.layout.dropdown ∈ s.arguments := by
    rw [hl]
    exact List.mem_cons_of_mem _ List.mem_cons_self
  rcases mode with _ | _ | options
  · exact Panel.control_renamed_of_mem hdropdown
  · exact Panel.control_renamed_of_mem hdropdown
  · rw [refilled, keepsake_renamed]
    show (Panel.control _ c.layout.dropdown).refill _ _ = _
    rw [Panel.control_renamed_of_mem hdropdown]
    rfl

private theorem arrange_renamed (hl : c.layout = s.layout) (he : c.exclusion = .disabling)
    (mode : Mode) :
    (c.renamed submitted ignored).arrange (p.renamed s submitted ignored) mode =
      (c.arrange p mode).renamed s submitted ignored := by
  have hl' : (c.renamed submitted ignored).layout = s.layout := hl
  refine Panel.ext (fun r ↦ ?_) (funext fun i ↦ ?_)
  · by_cases htext : r = .field s.text
    · subst htext
      rw [control_arrange_text hl', retyped_renamed hl,
        Panel.control_renamed_of_mem List.mem_cons_self, control_arrange_text hl, he]
      exact Control.dress_renamed _
    · by_cases hdropdown : r = .select s.dropdown
      · subst hdropdown
        rw [control_arrange_dropdown hl', refilled_renamed hl,
          Panel.control_renamed_of_mem (List.mem_cons_of_mem _ List.mem_cons_self),
          control_arrange_dropdown hl, he]
        exact Control.dress_renamed _
      · have hother : r ∉ s.arguments := by simp [Seating.arguments, htext, hdropdown]
        rw [control_arrange_of_ne hl' htext hdropdown, Panel.control_renamed_of_notMem hother,
          Panel.control_renamed_of_notMem hother, control_arrange_of_ne hl htext hdropdown]
  · show _ = (c.arrange p mode).shown i
    rw [shown_arrange hl', shown_arrange hl]
    rfl

private theorem derive_renamed (hl : c.layout = s.layout) (he : c.exclusion = .disabling) :
    (c.renamed submitted ignored).derive (p.renamed s submitted ignored) =
      (c.derive p).renamed s submitted ignored := by
  have hmode : (c.renamed submitted ignored).table.mode ((c.renamed submitted ignored).permission
      (p.renamed s submitted ignored)) = c.table.mode (c.permission p) := by
    rw [permission_renamed]
    rfl
  rw [derive, hmode, derive]
  cases c.table.mode (c.permission p) with
  | error e => rfl
  | ok mode =>
    simp only [arrange_renamed hl he, permission_renamed]
    rfl

private theorem spread_renamed (e : Event Ref) :
    (c.renamed submitted ignored).spread (p.renamed s submitted ignored) e =
      (c.spread p e).renamed s submitted ignored := by
  rcases e with v | ⟨copy, v⟩ | _ | v | ⟨copy, v⟩ | _
  · exact Panel.publish_renamed _ v
  · simp only [spread, Panel.setValue_renamed, Surface.value, Panel.value_renamed]
    exact Panel.publish_renamed _ _
  · rfl
  · exact Panel.publish_renamed _ v
  · simp only [spread, Panel.setValue_renamed, Surface.value, Panel.value_renamed]
    exact Panel.publish_renamed _ _
  · rfl

/-- One move goes with the translation. -/
theorem move_renamed (hl : c.layout = s.layout) (he : c.exclusion = .disabling)
    (hlocked : ∀ r ∈ c.locked, r ∉ s.arguments) {m : Move Ref Nat} (hm : m.Fits s) :
    (c.renamed submitted ignored).move (p.renamed s submitted ignored) m =
      (c.move p m).renamed s submitted ignored := by
  rcases m with e | e
  · show handle _ _ e = (c.handle p e).renamed s submitted ignored
    by_cases hd : e.derives = true
    · rw [handle_of_derives _ _ hd, handle_of_derives _ _ hd, spread_renamed, derive_renamed hl he]
    · rcases e with v | ⟨copy, v⟩ | _ | v | ⟨copy, v⟩ | _
      iterate 3 exact absurd rfl hd
      · exact congrArg (fun q ↦ (⟨_, q, _, _⟩ : Turn Panel Ref Nat))
          (spread_renamed (.noteReason v))
      · exact congrArg (fun q ↦ (⟨_, q, _, _⟩ : Turn Panel Ref Nat))
          (spread_renamed (.typeReason copy v))
      · exact congrArg (fun q ↦ (⟨_, q, _, _⟩ : Turn Panel Ref Nat))
          (Panel.setAllDisabled_renamed hlocked false)
  · rcases e with ⟨r, v⟩ | _ | _ | _ | _ | _ | _ | _
    · exact congrArg (fun q ↦ (⟨_, q, _, _⟩ : Turn Panel Ref Nat)) (Panel.setValue_renamed r v)
    all_goals exact hm.elim

theorem play_renamed (hl : c.layout = s.layout) (he : c.exclusion = .disabling)
    (hlocked : ∀ r ∈ c.locked, r ∉ s.arguments) {ms : List (Move Ref Nat)}
    (hms : ∀ m ∈ ms, m.Fits s) :
    (c.renamed submitted ignored).play (p.renamed s submitted ignored) ms =
      ((c.play p ms).1.renamed submitted ignored,
        (c.play p ms).2.renamed s submitted ignored) := by
  induction ms generalizing c p with
  | nil => rfl
  | cons m ms ih =>
    obtain ⟨mode, primed, heq⟩ := c.exists_controller_move p m
    rw [play_cons, move_renamed hl he hlocked (hms m List.mem_cons_self), play_cons]
    refine ih ?_ ?_ ?_ fun m' hm' ↦ hms m' (List.mem_cons_of_mem _ hm')
    · rw [heq, ← hl]
    · rw [heq, ← he]
    · rw [heq]
      exact hlocked

private theorem within_names (he : c.exclusion = .disabling) (r : Ref) :
    c.Within fun p p' : Panel ↦ (p'.control r).name = (p.control r).name := by
  have hmodify : ∀ (p : Panel) (k : Ref) (f : Control → Control), (∀ d, (f d).name = d.name) →
      ((p.modify k f).control r).name = (p.control r).name := by
    intro p k f hf
    rw [Panel.control_modify]
    split
    · exact hf _
    · rfl
  exact {
    refl _ := rfl
    trans h h' := h'.trans h
    setValue p k v _ := hmodify p k _ fun d ↦ by cases k <;> rfl
    lock p k _ _ := hmodify p k _ fun _ ↦ rfl
    setName _ _ _ hne _ := absurd he hne
    setDisabled p k _ _ _ := hmodify p k _ fun _ ↦ rfl
    setRequired p k _ _ := hmodify p k _ fun _ ↦ rfl
    setVisible p k _ _ := hmodify p k _ fun _ ↦ rfl
    clearOptions p := hmodify p _ _ fun _ ↦ rfl
    appendOption p _ := hmodify p _ _ fun _ ↦ rfl
    showSection _ _ _ _ := rfl }

end Controller

/-! ## Two forms -/

/-- Two states of the same controls that differ in nothing but how argument fields are kept out of a
submission: the same fields are submitted under the name. -/
structure Panel.Alike (s : Seating) (submitted : String) (p p' : Panel) : Prop where
  /-- All values agree. -/
  value : ∀ r, (p'.control r).value = (p.control r).value
  /-- All options agree. -/
  options : ∀ r, (p'.control r).options = (p.control r).options
  /-- The same fields have to be filled in. -/
  required : ∀ r, (p'.control r).required = (p.control r).required
  /-- The same fields are shown. -/
  visible : ∀ r, (p'.control r).visible = (p.control r).visible
  /-- The same sections are shown. -/
  shown : p'.shown = p.shown
  /-- All other controls agree in every respect. -/
  others : ∀ r, (∀ side, r ≠ s.ref side) → p'.control r = p.control r
  /-- An argument field is enabled under the name in both states or in none. -/
  carries : ∀ side, (p'.control (s.ref side)).Carries submitted ↔
    (p.control (s.ref side)).Carries submitted

private theorem Seating.mem_arguments_iff {s : Seating} {r : Ref} :
    r ∈ s.arguments ↔ ∃ side, r = s.ref side := by
  constructor
  · intro h
    rcases List.mem_cons.mp h with rfl | h
    · exact ⟨.text, rfl⟩
    · exact ⟨.dropdown, List.mem_singleton.mp h⟩
  · rintro ⟨_ | _, rfl⟩
    · exact List.mem_cons_self
    · exact List.mem_cons_of_mem _ List.mem_cons_self

private theorem Panel.alike_renamed {s : Seating} {submitted ignored : String} {p : Panel}
    (hnames : submitted ≠ ignored) (hkept : ∀ side, (p.control (s.ref side)).name = submitted) :
    p.Alike s submitted (p.renamed s submitted ignored) where
  value r := value_renamed r
  options r := options_renamed r
  required r := view_renamed (·.required) (fun _ ↦ rfl) r
  visible r := view_renamed (·.visible) (fun _ ↦ rfl) r
  shown := rfl
  others r hr := by
    refine control_renamed_of_notMem fun hmem ↦ ?_
    obtain ⟨side, heq⟩ := Seating.mem_arguments_iff.mp hmem
    exact hr side heq
  carries side := by
    rw [control_renamed_of_mem (Seating.mem_arguments_iff.mpr ⟨side, rfl⟩)]
    exact Control.carries_renamed_iff hnames (hkept side)

namespace Setup

/-- The form with another way to keep the unused argument field out. -/
def under (f : Setup) (e : Exclusion) : Setup := { f with exclusion := e }

variable {f : Setup} {submitted ignored : String}

private theorem notMem_arguments_of_mem_locked
    (hdropdown : f.seating.dropdown ∉ f.seating.selectors)
    {r : Ref} (h : r ∈ f.idle.locked) : r ∉ f.seating.arguments := by
  obtain ⟨i, hi, rfl⟩ := f.select_of_mem_locked h
  intro harg
  obtain rfl : i = f.seating.dropdown := by simpa [Seating.arguments] using harg
  exact hdropdown hi

private theorem lockedPanel_renamed (hdropdown : f.seating.dropdown ∉ f.seating.selectors)
    (hfields : ∀ side, (f.panel.control (f.seating.ref side)).Carries submitted) :
    f.lockedPanel.renamed f.seating submitted ignored = f.lockedPanel := by
  refine Panel.renamed_of_carries fun r hr ↦ ?_
  obtain ⟨side, rfl⟩ := Seating.mem_arguments_iff.mp hr
  have hfree : f.seating.ref side ∉ f.idle.locked := fun hlocked ↦
    notMem_arguments_of_mem_locked hdropdown hlocked hr
  rw [lockedPanel, Panel.control_setAllDisabled_of_notMem hfree]
  exact hfields side

/-- What taking over a form reports, before the first derivation does. -/
def preamble (f : Setup) : List Notice :=
  Controller.missingWarning f.table f.seating.layout f.panel ++
    f.idle.locked.map fun r ↦ .locked (Surface.name f.panel r)

private theorem begin_renamed (hdropdown : f.seating.dropdown ∉ f.seating.selectors)
    (hfields : ∀ side, (f.panel.control (f.seating.ref side)).Carries submitted) :
    (f.under (.naming submitted ignored)).begin =
      (f.under .disabling).begin.renamed f.seating submitted ignored := by
  have hderive : (f.under (.naming submitted ignored)).idle.derive f.lockedPanel =
      ((f.under .disabling).idle.derive f.lockedPanel).renamed f.seating submitted ignored := by
    have h : ((f.under .disabling).idle.renamed submitted ignored).derive
        (f.lockedPanel.renamed f.seating submitted ignored) =
          ((f.under .disabling).idle.derive f.lockedPanel).renamed f.seating submitted ignored :=
      Controller.derive_renamed rfl rfl
    rwa [lockedPanel_renamed hdropdown hfields] at h
  calc (f.under (.naming submitted ignored)).begin
      = { (f.under (.naming submitted ignored)).idle.derive f.lockedPanel with
          notices := f.preamble ++
            ((f.under (.naming submitted ignored)).idle.derive f.lockedPanel).notices } := rfl
    _ = (f.under .disabling).begin.renamed f.seating submitted ignored := by
        rw [hderive]
        rfl

private theorem after_renamed (hdropdown : f.seating.dropdown ∉ f.seating.selectors)
    (hfields : ∀ side, (f.panel.control (f.seating.ref side)).Carries submitted)
    {ms : List (Move Ref Nat)} (hms : ∀ m ∈ ms, m.Fits f.seating) :
    (f.under (.naming submitted ignored)).after ms =
      (((f.under .disabling).after ms).1.renamed submitted ignored,
        ((f.under .disabling).after ms).2.renamed f.seating submitted ignored) := by
  have hfits : ∀ m ∈ Move.event .derive :: ms, m.Fits f.seating :=
    List.forall_mem_cons.mpr ⟨trivial, hms⟩
  calc (f.under (.naming submitted ignored)).after ms
      = ((f.under .disabling).idle.renamed submitted ignored).play f.lockedPanel
          (.event .derive :: ms) := rfl
    _ = ((f.under .disabling).idle.renamed submitted ignored).play
          (f.lockedPanel.renamed f.seating submitted ignored) (.event .derive :: ms) := by
        rw [lockedPanel_renamed hdropdown hfields]
    _ = _ := Controller.play_renamed (c := (f.under .disabling).idle) rfl rfl
        (fun _ ↦ notMem_arguments_of_mem_locked hdropdown) hfits

private theorem name_after {ms : List (Move Ref Nat)} (hms : ∀ m ∈ ms, m.Fits f.seating) (r : Ref) :
    (((f.under .disabling).after ms).2.control r).name = (f.panel.control r).name := by
  have hvalue (p : Panel) (k : Ref) (v : String) :
      ((Surface.setValue p k v).control r).name = (p.control r).name := by
    have hname : ((Surface.setValue p k v).control r).frame.name = (p.control r).frame.name := by
      rw [Panel.frame_setValue]
    exact hname
  refine related_after (f := f.under .disabling) (Controller.within_names rfl r) fun m hm ↦ ?_
  rcases m with e | e
  · exact fun p k _ v ↦ hvalue p k v
  · rcases e with ⟨k, v⟩ | _ | _ | _ | _ | _ | _ | _
    · exact fun p ↦ hvalue p k v
    all_goals exact (hms _ hm).elim

/-! ## The theorem -/

/-- The two exclusions are interchangeable. A form is taken over with either of them, both argument
fields being enabled under the submitted name, and the same things happen to it.

- Taking over the form and every move, whatever happened before it, has the same outcome and makes
  the same reports.
- The controllers differ in the exclusion alone, and give the same answers to questions.
- The controls are alike: the same fields are submitted under the name. -/
theorem exclusions_interchangeable (f : Setup) (hnames : submitted ≠ ignored)
    (hdropdown : f.seating.dropdown ∉ f.seating.selectors)
    (hfields : ∀ side, (f.panel.control (f.seating.ref side)).Carries submitted) :
    let f₁ := f.under .disabling
    let f₂ := f.under (.naming submitted ignored)
    (f₂.begin.outcome = f₁.begin.outcome ∧ f₂.begin.notices = f₁.begin.notices) ∧
    ∀ ms, (∀ m ∈ ms, m.Fits f.seating) →
      (f₂.after ms).1 = { (f₁.after ms).1 with exclusion := .naming submitted ignored } ∧
      (f₂.after ms).1.snapshot (f₂.after ms).2 = (f₁.after ms).1.snapshot (f₁.after ms).2 ∧
      (f₁.after ms).2.Alike f.seating submitted (f₂.after ms).2 ∧
      ∀ m : Move Ref Nat, m.Fits f.seating →
        ((f₂.after ms).1.move (f₂.after ms).2 m).outcome =
          ((f₁.after ms).1.move (f₁.after ms).2 m).outcome ∧
        ((f₂.after ms).1.move (f₂.after ms).2 m).notices =
          ((f₁.after ms).1.move (f₁.after ms).2 m).notices := by
  intro f₁ f₂
  refine ⟨?_, fun ms hms ↦ ?_⟩
  · rw [begin_renamed hdropdown hfields]
    exact ⟨rfl, rfl⟩
  · rw [after_renamed hdropdown hfields hms]
    refine ⟨rfl, ?_, Panel.alike_renamed hnames fun side ↦ ?_, fun m hm ↦ ?_⟩
    · rw [Controller.snapshot, Controller.permission_renamed]
      rfl
    · rw [name_after hms]
      exact (hfields side).2
    · have hlocked : ∀ r ∈ (f₁.after ms).1.locked, r ∉ f.seating.arguments := by
        intro r hr
        rw [locked_after] at hr
        exact notMem_arguments_of_mem_locked hdropdown hr
      have hmove : ((f₁.after ms).1.renamed submitted ignored).move
          ((f₁.after ms).2.renamed f.seating submitted ignored) m =
            ((f₁.after ms).1.move (f₁.after ms).2 m).renamed f.seating submitted ignored :=
        Controller.move_renamed (f₁.layout_after ms) (f₁.exclusion_after ms) hlocked hm
      dsimp only
      rw [hmove]
      exact ⟨rfl, rfl⟩

/-- With the sample form, a text ends up as the argument in either way, and a history that fails in
between makes no difference to that. -/
theorem exclusions_interchangeable_sample :
    ((sample.under (.naming "argument" "unused")).after sampleMoves).1.mode = .freeText ∧
      (((sample.under (.naming "argument" "unused")).after sampleMoves).2.control
        (.field 0)).Carries "argument" ∧
      ¬ (((sample.under (.naming "argument" "unused")).after sampleMoves).2.control
        (.select 2)).Carries "argument" := by
  have hfields : ∀ side, (sample.panel.control (sample.seating.ref side)).Carries "argument" := by
    rintro (_ | _)
    · decide
    · decide
  have hnames : "argument" ≠ "unused" := by decide
  have h := (sample.exclusions_interchangeable hnames (by decide) hfields).2 sampleMoves (by decide)
  obtain ⟨hcontroller, -, halike, -⟩ := h
  have hdisabling : ((sample.under .disabling).after sampleMoves).1.mode = .freeText ∧
      (((sample.under .disabling).after sampleMoves).2.control (.field 0)).Carries "argument" ∧
      ¬ (((sample.under .disabling).after sampleMoves).2.control
        (.select 2)).Carries "argument" := by decide +kernel
  refine ⟨?_, (halike.carries .text).mpr hdisabling.2.1, fun hcarries ↦ ?_⟩
  · rw [hcontroller]
    exact hdisabling.1
  · exact hdisabling.2.2 ((halike.carries .dropdown).mp hcarries)

end Setup

end AccessForm
