import AccessForm.Proofs.Panel

/-!
# Which field takes part

From the first successful derivation on, the mode in force decides which of the two argument fields
takes part in a submission, whatever happens to the form: none without a permission, the text field
when any text will do, the dropdown for a closed list. Failed derivations change nothing about it.

The invariant is that both fields are as the exclusion dresses them for the mode. Dressing does not
look at values, and a field that is dressed already is left alone by it, so neither edits nor
published values disturb the invariant. What could disturb it is a locked selector being enabled;
this is why the dropdown must not be one of the selectors.
-/

namespace AccessForm

namespace Exclusion

/-- Whether a field carries the identity under which the argument is submitted. -/
def Admits : Exclusion → Control → Prop
  | disabling, c => c.disabled = false
  | naming submitted _, c => c.name = submitted

/-- Whether a field is kept out of a submission. -/
def Excludes : Exclusion → Control → Prop
  | disabling, c => c.disabled = true
  | naming _ ignored, c => c.name = ignored

/-- Whether the two names of a renaming differ. -/
def TellsApart : Exclusion → Prop
  | disabling => True
  | naming submitted ignored => submitted ≠ ignored

instance : DecidablePred TellsApart
  | disabling => inferInstanceAs (Decidable True)
  | naming submitted ignored => inferInstanceAs (Decidable (submitted ≠ ignored))

/-- Both argument fields are as a mode wants them. -/
structure InLine (e : Exclusion) (mode : Mode) (text dropdown : Control) : Prop where
  /-- Without a permission no field takes part. -/
  unselected : mode = .unselected → ¬ e.Admits text ∧ ¬ e.Admits dropdown
  /-- When any text will do, the text field takes part alone. -/
  freeText : mode = .freeText → e.Admits text ∧ ¬ e.Admits dropdown
  /-- For a closed list, the dropdown takes part alone. -/
  choice : ∀ options, mode = .choice options → ¬ e.Admits text ∧ e.Admits dropdown
  /-- A field that does not take part is kept out. -/
  excluded : ∀ c ∈ [text, dropdown], ¬ e.Admits c → e.Excludes c
  /-- Just the field that takes part has to be filled in. -/
  required : ∀ c ∈ [text, dropdown], c.required = true ↔ e.Admits c
  /-- Just the field that takes part is shown. -/
  visible : ∀ c ∈ [text, dropdown], c.visible = true ↔ e.Admits c

/-! ## Dressing -/

variable {e : Exclusion} {b : Bool} {c c' : Control}

private theorem frame_dress (e : Exclusion) (b : Bool) (c : Control) :
    (e.dress b c).frame = e.dress b c.frame := by
  cases e <;> rfl

private theorem dress_eq_self_of_frame (hf : c'.frame = c.frame) (h : e.dress b c = c) :
    e.dress b c' = c' := by
  have hself : e.dress b c'.frame = c'.frame := by rw [hf, ← frame_dress, h]
  calc e.dress b c'
      = { e.dress b c'.frame with value := c'.value } := by cases e <;> rfl
    _ = { c'.frame with value := c'.value } := by rw [hself]
    _ = c' := rfl

/-- A field that is dressed again is as if it had not been dressed before. -/
theorem dress_dress (e : Exclusion) (b b' : Bool) (c : Control) :
    e.dress b (e.dress b' c) = e.dress b c := by
  cases e <;> rfl

private theorem admits_iff_of_dress (he : e.TellsApart) (h : e.dress b c = c) :
    e.Admits c ↔ b = true := by
  rw [← h]
  cases e with
  | disabling => cases b <;> simp [dress, Admits]
  | naming submitted ignored => cases b <;> simp [dress, Admits, he.symm]

private theorem excludes_of_dress (h : e.dress false c = c) : e.Excludes c := by
  rw [← h]
  cases e <;> rfl

private theorem required_of_dress (h : e.dress b c = c) : c.required = b := by
  rw [← h]
  cases e <;> rfl

private theorem visible_of_dress (h : e.dress b c = c) : c.visible = b := by
  rw [← h]
  cases e <;> rfl

private theorem inLine_of_dress (he : e.TellsApart) {mode : Mode} {text dropdown : Control}
    (ht : e.dress (mode.side? = some .text) text = text)
    (hd : e.dress (mode.side? = some .dropdown) dropdown = dropdown) :
    e.InLine mode text dropdown := by
  have hdressed : ∀ c ∈ [text, dropdown], ∃ b, e.dress b c = c :=
    List.forall_mem_cons.mpr ⟨⟨_, ht⟩, List.forall_mem_singleton.mpr ⟨_, hd⟩⟩
  have hside : (e.Admits text ↔ mode.side? = some .text) ∧
      (e.Admits dropdown ↔ mode.side? = some .dropdown) := by
    rw [admits_iff_of_dress he ht, admits_iff_of_dress he hd, decide_eq_true_iff,
      decide_eq_true_iff]
    exact ⟨Iff.rfl, Iff.rfl⟩
  refine ⟨fun hm ↦ ?_, fun hm ↦ ?_, fun options hm ↦ ?_, fun c hc hn ↦ ?_, fun c hc ↦ ?_,
    fun c hc ↦ ?_⟩
  · simp [hside, hm, Mode.side?]
  · simp [hside, hm, Mode.side?]
  · simp [hside, hm, Mode.side?]
  · obtain ⟨b, h⟩ := hdressed c hc
    rw [admits_iff_of_dress he h, Bool.not_eq_true] at hn
    exact excludes_of_dress (hn ▸ h)
  · obtain ⟨b, h⟩ := hdressed c hc
    rw [admits_iff_of_dress he h, required_of_dress h]
  · obtain ⟨b, h⟩ := hdressed c hc
    rw [admits_iff_of_dress he h, visible_of_dress h]

end Exclusion

/-! ## The invariant -/

namespace Controller

/-- Both argument fields are dressed for the mode in force, and the sections are shown by it. -/
structure Dressed (c : Controller Ref Nat) (f : Seating) (p : Panel) : Prop where
  /-- The text field is dressed for the mode. -/
  text : c.exclusion.dress (c.mode.side? = some .text) (p.control (.field f.text)) =
    p.control (.field f.text)
  /-- The dropdown is dressed for the mode. -/
  dropdown : c.exclusion.dress (c.mode.side? = some .dropdown) (p.control (.select f.dropdown)) =
    p.control (.select f.dropdown)
  /-- The sections are shown unless nothing is selected. -/
  shown : ∀ i ∈ f.argumentSections ++ f.reasonSections, p.shown i = c.mode.showsSections

variable {c : Controller Ref Nat} {f : Seating} {p p' : Panel}

private theorem Dressed.of_frame (h : c.Dressed f p)
    (hf : ∀ r, (p'.control r).frame = (p.control r).frame) (hs : p'.shown = p.shown) :
    c.Dressed f p' where
  text := Exclusion.dress_eq_self_of_frame (hf _) h.text
  dropdown := Exclusion.dress_eq_self_of_frame (hf _) h.dropdown
  shown i hi := by rw [hs, h.shown i hi]

private theorem Dressed.setAllDisabled (h : c.Dressed f p) {controls : List Ref}
    (ht : .field f.text ∉ controls) (hd : .select f.dropdown ∉ controls) (b : Bool) :
    c.Dressed f (setAllDisabled p controls b) where
  text := by rw [Panel.control_setAllDisabled_of_notMem ht, h.text]
  dropdown := by rw [Panel.control_setAllDisabled_of_notMem hd, h.dropdown]
  shown i hi := by rw [Panel.shown_setAllDisabled, h.shown i hi]

/-- A derivation establishes the invariant when it succeeds, and keeps it when it fails. -/
theorem dressed_derive (hl : c.layout = f.layout) (h : c.primed = true → c.Dressed f p)
    (hp : (c.derive p).controller.primed = true) :
    (c.derive p).controller.Dressed f (c.derive p).surface := by
  obtain ⟨_, -, heq⟩ | ⟨mode, -, heq⟩ := c.derive_cases p
  · rw [heq] at hp ⊢
    exact h hp
  · rw [heq]
    refine ⟨?_, ?_, ?_⟩
    · rw [control_arrange_text hl, Exclusion.dress_dress]
    · rw [control_arrange_dropdown hl, Exclusion.dress_dress]
    · intro i hi
      rw [shown_arrange hl, if_pos hi]

private theorem dressed_move (hl : c.layout = f.layout) (ht : .field f.text ∉ c.locked)
    (hd : .select f.dropdown ∉ c.locked) (h : c.primed = true → c.Dressed f p)
    {m : Move Ref Nat} (hm : m.Fits f) (hp : (c.move p m).controller.primed = true) :
    (c.move p m).controller.Dressed f (c.move p m).surface := by
  cases m with
  | edit e =>
    cases e with
    | value k v =>
      exact (h hp).of_frame (fun r ↦ Panel.frame_setValue p k r v) rfl
    | _ => exact hm.elim
  | event e =>
    rw [move] at hp ⊢
    have hspread (hc : c.primed = true) : c.Dressed f (c.spread p e) :=
      (h hc).of_frame (fun r ↦ frame_spread p e r) (shown_spread p e)
    cases he : e.derives with
    | true =>
      rw [c.handle_of_derives p he] at hp ⊢
      exact dressed_derive hl hspread hp
    | false =>
      rw [c.controller_handle_of_not_derives p he] at hp ⊢
      rcases c.surface_handle_of_not_derives p he with heq | heq
      · rw [heq]
        exact hspread hp
      · rw [heq]
        exact (h hp).setAllDisabled ht hd false

private theorem dressed_play (hl : c.layout = f.layout) (ht : .field f.text ∉ c.locked)
    (hd : .select f.dropdown ∉ c.locked) (h : c.primed = true → c.Dressed f p)
    {ms : List (Move Ref Nat)} (hms : ∀ m ∈ ms, m.Fits f)
    (hp : (c.play p ms).1.primed = true) : (c.play p ms).1.Dressed f (c.play p ms).2 := by
  induction ms generalizing c p with
  | nil => exact h hp
  | cons m ms ih =>
    obtain ⟨mode, primed, heq⟩ := c.exists_controller_move p m
    refine ih ?_ ?_ ?_ ?_ (fun m' hm' ↦ hms m' (List.mem_cons_of_mem _ hm')) hp
    · rw [heq, ← hl]
    · rw [heq]
      exact ht
    · rw [heq]
      exact hd
    · exact fun hp' ↦ dressed_move hl ht hd h (hms m List.mem_cons_self) hp'

end Controller

/-! ## The theorem -/

/-- From the first successful derivation on, the field that the mode asks for takes part alone; the
other one is kept out, does not have to be filled in and is not shown. The sections are shown
exactly while a permission is selected. -/
theorem Setup.inLine_after (f : Setup) (hnames : f.exclusion.TellsApart)
    (hdropdown : f.seating.dropdown ∉ f.seating.selectors) {ms : List (Move Ref Nat)}
    (hms : ∀ m ∈ ms, m.Fits f.seating) (hderived : f.Derived ms) :
    f.exclusion.InLine (f.after ms).1.mode
        ((f.after ms).2.control (.field f.seating.text))
        ((f.after ms).2.control (.select f.seating.dropdown)) ∧
      ∀ i ∈ f.seating.argumentSections ++ f.seating.reasonSections,
        (f.after ms).2.shown i = true ↔ (f.after ms).1.mode ≠ .unselected := by
  have ht : (Ref.field f.seating.text) ∉ f.idle.locked := by
    intro h
    obtain ⟨_, -, heq⟩ := f.select_of_mem_locked h
    cases heq
  have hd : (Ref.select f.seating.dropdown) ∉ f.idle.locked := by
    intro h
    obtain ⟨i, hi, heq⟩ := f.select_of_mem_locked h
    cases heq
    exact hdropdown hi
  have hfits : ∀ m ∈ Move.event .derive :: ms, m.Fits f.seating :=
    List.forall_mem_cons.mpr ⟨trivial, hms⟩
  have key : (f.after ms).1.Dressed f.seating (f.after ms).2 := by
    rw [f.after_eq_play]
    refine Controller.dressed_play rfl ht hd (fun h ↦ ?_) hfits ?_
    · cases h
    · rw [← f.after_eq_play, f.primed_after_iff]
      exact hderived
  have hexcl := f.exclusion_after ms
  refine ⟨Exclusion.inLine_of_dress hnames (hexcl ▸ key.text) (hexcl ▸ key.dropdown), ?_⟩
  intro i hi
  rw [key.shown i hi]
  cases (f.after ms).1.mode <;> simp [Mode.showsSections]

/-- After the free text permission was selected and another selection failed, the text field still
takes part alone. -/
theorem Setup.inLine_after_sample :
    Setup.sample.Derived Setup.sampleMoves ∧
      Setup.sample.exclusion.InLine .freeText
        ((Setup.sample.after Setup.sampleMoves).2.control (.field 0))
        ((Setup.sample.after Setup.sampleMoves).2.control (.select 2)) := by
  have hd : Setup.sample.Derived Setup.sampleMoves :=
    (Setup.sample.primed_after_iff _).mp (by decide +kernel)
  have hmode : (Setup.sample.after Setup.sampleMoves).1.mode = .freeText := by decide +kernel
  have h := Setup.sample.inLine_after (by decide +kernel) (by decide) (by decide) hd
  exact ⟨hd, hmode ▸ h.1⟩

end AccessForm
