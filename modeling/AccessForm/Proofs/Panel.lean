import AccessForm.Form.Panel
import AccessForm.Proofs.Derivation

/-!
# Forms in memory

What one derivation, one event and one history do to the controls of a panel. Text fields and
dropdowns are numbered apart, so no text field is ever a dropdown; apart from that the roles of a
form may share elements in any way, and each result says which sharing it rules out.

The work is done by `control_arrange`: it describes every control after a successful derivation.
The two argument fields are dressed by the exclusion after their values are set, and all other
controls are as they were. Everything else that an event does to a panel is a write of values,
which leaves the frames of the controls alone, or a change of `disabled` on locked selectors.
-/

namespace AccessForm

/-! ## Single controls -/

namespace Control

/-- A control apart from its value. -/
def frame (c : Control) : Control := { c with value := "" }

@[simp] theorem frame_take (r : Ref) (c : Control) (v : String) :
    (Panel.take r c v).frame = c.frame := by
  cases r <;> rfl

theorem options_of_frame {c c' : Control} (h : c'.frame = c.frame) : c'.options = c.options := by
  have hoptions : c'.frame.options = c.frame.options := by rw [h]
  exact hoptions

theorem disabled_of_frame {c c' : Control} (h : c'.frame = c.frame) : c'.disabled = c.disabled := by
  have hdisabled : c'.frame.disabled = c.frame.disabled := by rw [h]
  exact hdisabled

/-- A dropdown with new options, of which the kept one is selected if it is among them. -/
def refill (c : Control) (options : List String) (kept : String) : Control :=
  { c with
    options := options
    value := if kept ∈ options then kept else options.headD "" }

/-- Options added to a dropdown that has some leave its value alone. -/
theorem foldl_append_of_ne_nil {c : Control} (h : c.options ≠ []) (vs : List String) :
    vs.foldl append c = { c with options := c.options ++ vs } := by
  induction vs generalizing c with
  | nil => simp
  | cons v vs ih =>
    have hne : (c.append v).options ≠ [] := by simp [append]
    rw [List.foldl_cons, ih hne]
    simp [append, h]

theorem foldl_append_clear (c : Control) (vs : List String) :
    vs.foldl append c.clear = { c with options := vs, value := vs.headD "" } := by
  cases vs with
  | nil => rfl
  | cons v vs =>
    rw [List.foldl_cons, foldl_append_of_ne_nil (by simp [append])]
    simp [append, clear]

end Control

/-- What an exclusion makes of a field that takes part or not. -/
def Exclusion.dress (e : Exclusion) (eligible : Bool) (c : Control) : Control :=
  match e with
  | disabling => { c with disabled := !eligible, required := eligible, visible := eligible }
  | naming submitted ignored =>
    { c with
      name := if eligible then submitted else ignored
      required := eligible
      visible := eligible }

@[simp] theorem Exclusion.value_dress (e : Exclusion) (b : Bool) (c : Control) :
    (e.dress b c).value = c.value := by
  cases e <;> rfl

@[simp] theorem Exclusion.options_dress (e : Exclusion) (b : Bool) (c : Control) :
    (e.dress b c).options = c.options := by
  cases e <;> rfl

/-! ## Writes to a panel -/

namespace Panel

theorem ext {p p' : Panel} (hcontrol : ∀ r, p'.control r = p.control r)
    (hshown : p'.shown = p.shown) : p' = p := by
  obtain ⟨control, shown⟩ := p
  obtain ⟨control', shown'⟩ := p'
  obtain rfl : control' = control := funext hcontrol
  obtain rfl : shown' = shown := hshown
  rfl

theorem control_setValue (p : Panel) (r r' : Ref) (v : String) :
    (Surface.setValue p r v).control r' =
      if r' = r then take r (p.control r') v else p.control r' := rfl

private theorem control_setDisabled (p : Panel) (r r' : Ref) (b : Bool) :
    (Surface.setDisabled p r b).control r' =
      if r' = r then { p.control r' with disabled := b } else p.control r' := rfl

theorem frame_setValue (p : Panel) (r r' : Ref) (v : String) :
    ((Surface.setValue p r v).control r').frame = (p.control r').frame := by
  rw [control_setValue]
  split
  · exact Control.frame_take _ _ _
  · rfl

theorem view_foldl {α β : Type} (view : Panel → β) {op : Panel → α → Panel} {ks : List α}
    {p : Panel} (h : ∀ q, ∀ k ∈ ks, view (op q k) = view q) : view (ks.foldl op p) = view p := by
  induction ks generalizing p with
  | nil => rfl
  | cons k ks ih =>
    rw [List.foldl_cons, ih fun q j hj ↦ h q j (List.mem_cons_of_mem _ hj)]
    exact h p k List.mem_cons_self

/-! ### Publishing -/

theorem take_take (r : Ref) (c : Control) (v w : String) : take r (take r c v) w = take r c w := by
  cases r with
  | field _ => rfl
  | select _ => rfl

/-- A control that is brought to a value, unless it has it already. -/
def bring (r : Ref) (v : String) (c : Control) : Control :=
  if c.value = v then c else take r c v

/-- A control is brought to a value once, even if it did not take the value over. -/
theorem bring_bring (r : Ref) (v : String) (c : Control) :
    bring r v (bring r v c) = bring r v c := by
  by_cases h : c.value = v
  · have hself : bring r v c = c := if_pos h
    rw [hself, hself]
  · have htake : bring r v c = take r c v := if_neg h
    rw [htake, bring]
    split
    · rfl
    · exact take_take r c v v

private theorem frame_bring (r : Ref) (v : String) (c : Control) :
    (bring r v c).frame = c.frame := by
  rw [bring]
  split
  · rfl
  · exact Control.frame_take r c v

private theorem control_update (p : Panel) (r r' : Ref) (v : String) :
    (Copies.update v p r).control r' =
      if r' = r then bring r' v (p.control r') else p.control r' := by
  rw [Copies.update]
  by_cases hr : r' = r
  · subst hr
    rw [if_pos rfl, bring]
    by_cases h : (p.control r').value = v
    · rw [if_pos h]
      exact congrArg (Panel.control · r') (if_pos h)
    · have hwritten : (if Surface.value p r' = v then p else Surface.setValue p r' v) =
          Surface.setValue p r' v := if_neg h
      rw [if_neg h, hwritten, control_setValue, if_pos rfl]
  · rw [if_neg hr]
    split
    · rfl
    · rw [control_setValue, if_neg hr]

private theorem shown_update (p : Panel) (r : Ref) (v : String) :
    (Copies.update v p r).shown = p.shown := by
  rw [Copies.update]
  split
  · rfl
  · rfl

/-- Publishing brings every copy to the value, however often it occurs among the copies. -/
theorem control_publish (p : Panel) (copies : List Ref) (v : String) (r : Ref) :
    (Copies.publish p copies v).control r =
      if r ∈ copies then bring r v (p.control r) else p.control r := by
  induction copies generalizing p with
  | nil => rfl
  | cons k copies ih =>
    rw [Copies.publish, List.foldl_cons, ← Copies.publish, ih, control_update]
    by_cases hk : r = k
    · by_cases hr : r ∈ copies
      · rw [if_pos hr, if_pos hk, if_pos (List.mem_cons_of_mem _ hr), bring_bring]
      · rw [if_neg hr, if_pos hk, if_pos (hk ▸ List.mem_cons_self)]
    · simp only [hk, if_false, List.mem_cons, false_or]

theorem control_publish_of_notMem {r : Ref} {copies : List Ref} (h : r ∉ copies) (p : Panel)
    (v : String) : (Copies.publish p copies v).control r = p.control r := by
  rw [control_publish, if_neg h]

theorem frame_publish (p : Panel) (copies : List Ref) (v : String) (r : Ref) :
    ((Copies.publish p copies v).control r).frame = (p.control r).frame := by
  rw [control_publish]
  split
  · exact frame_bring _ _ _
  · rfl

theorem shown_publish (p : Panel) (copies : List Ref) (v : String) :
    (Copies.publish p copies v).shown = p.shown :=
  view_foldl (·.shown) fun _ _ _ ↦ shown_update _ _ _

/-! ### Locking -/

theorem control_setAllDisabled (p : Panel) (controls : List Ref) (b : Bool) (r : Ref) :
    (Controller.setAllDisabled p controls b).control r =
      if r ∈ controls then { p.control r with disabled := b } else p.control r := by
  induction controls generalizing p with
  | nil => rfl
  | cons k controls ih =>
    rw [Controller.setAllDisabled, List.foldl_cons, ← Controller.setAllDisabled, ih,
      control_setDisabled]
    by_cases hr : r ∈ controls <;> by_cases hk : r = k <;> simp [hr, hk]

theorem control_setAllDisabled_of_notMem {r : Ref} {controls : List Ref} (h : r ∉ controls)
    (p : Panel) (b : Bool) :
    (Controller.setAllDisabled p controls b).control r = p.control r := by
  rw [control_setAllDisabled, if_neg h]

theorem value_setAllDisabled (p : Panel) (controls : List Ref) (b : Bool) (r : Ref) :
    ((Controller.setAllDisabled p controls b).control r).value = (p.control r).value := by
  refine view_foldl (fun q ↦ (q.control r).value) fun q k _ ↦ ?_
  rw [control_setDisabled]
  split
  · rfl
  · rfl

theorem shown_setAllDisabled (p : Panel) (controls : List Ref) (b : Bool) :
    (Controller.setAllDisabled p controls b).shown = p.shown :=
  view_foldl (·.shown) fun _ _ _ ↦ rfl

/-! ### Arranging -/

private theorem control_showSections (c : Controller Ref Nat) (p : Panel) (b : Bool) :
    (c.showSections p b).control = p.control :=
  view_foldl (·.control) fun _ _ _ ↦ rfl

private theorem shown_foldl_showSection (is : List Nat) (p : Panel) (b : Bool) (i : Nat) :
    (is.foldl (Surface.showSection · · b) p).shown i = if i ∈ is then b else p.shown i := by
  induction is generalizing p with
  | nil => simp
  | cons j is ih =>
    rw [List.foldl_cons, ih]
    by_cases hi : i ∈ is
    · simp [hi]
    · by_cases hj : i = j
      · simp [hj, Surface.showSection]
      · simp [hi, hj, Surface.showSection]

theorem foldl_appendOption (p : Panel) (r : Ref) (vs : List String) :
    vs.foldl (Surface.appendOption · r ·) p = p.modify r (vs.foldl Control.append ·) := by
  induction vs generalizing p with
  | nil => simp [modify]
  | cons v vs ih =>
    rw [List.foldl_cons, ih]
    simp only [modify, Surface.appendOption, List.foldl_cons]
    congr 1
    funext r'
    split <;> simp_all

theorem mark_eq_modify (e : Exclusion) (p : Panel) (r : Ref) (b : Bool) :
    e.mark p r b = p.modify r (e.dress b) := by
  cases e with
  | disabling =>
    simp only [Exclusion.mark, modify, Surface.setVisible, Surface.setRequired, Surface.setDisabled]
    congr 1
    funext r'
    split <;> rfl
  | naming submitted ignored =>
    simp only [Exclusion.mark, modify, Surface.setVisible, Surface.setRequired, Surface.setName]
    congr 1
    funext r'
    split <;> rfl

end Panel

/-! ## Forms -/

/-- The elements of a form in memory, by their numbers. -/
structure Seating where
  /-- The dropdowns that are copies of the permission selector. -/
  permission : List Nat
  /-- The dropdown for the group, on forms that ask for one. -/
  group : Option Nat := none
  /-- The text field for the argument. -/
  text : Nat
  /-- The dropdown for the argument. -/
  dropdown : Nat
  /-- The text fields that are copies of the reason field. -/
  reason : List Nat := []
  /-- The sections around the argument. -/
  argumentSections : List Nat := []
  /-- The sections around the reason. -/
  reasonSections : List Nat := []
  deriving DecidableEq, Repr

namespace Seating

/-- The elements by their handles. -/
def layout (s : Seating) : Layout Ref Nat where
  permission := s.permission.map .select
  group := s.group.map .select
  text := .field s.text
  dropdown := .select s.dropdown
  reason := s.reason.map .field
  argumentSections := s.argumentSections
  reasonSections := s.reasonSections

@[simp] theorem select_mem_permission {s : Seating} {i : Nat} :
    .select i ∈ s.layout.permission ↔ i ∈ s.permission := by
  simp [layout]

@[simp] theorem field_notMem_permission {s : Seating} {i : Nat} :
    .field i ∉ s.layout.permission := by
  simp [layout]

@[simp] theorem field_mem_reason {s : Seating} {i : Nat} :
    .field i ∈ s.layout.reason ↔ i ∈ s.reason := by
  simp [layout]

@[simp] theorem select_notMem_reason {s : Seating} {i : Nat} :
    .select i ∉ s.layout.reason := by
  simp [layout]

/-- The permission selectors and the selector for the group. -/
def selectors (s : Seating) : List Nat := s.permission ++ s.group.toList

theorem map_selectors (s : Seating) :
    s.selectors.map .select = s.layout.permission ++ s.layout.group.toList := by
  rw [selectors, List.map_append, layout, Option.toList_map]

/-- The controls of a form. -/
def controls (s : Seating) : List Ref :=
  .field s.text :: (s.reason.map .field ++ (s.dropdown :: s.selectors).map .select)

end Seating

/-- The moves that a form in memory has to cope with. The controller may be told of any event; in
between, users and scripts write values to the form's controls and change nothing else. -/
def Move.Fits (s : Seating) : Move Ref Nat → Prop
  | .event (.choose copy _) => copy ∈ s.layout.permission
  | .event (.typeReason copy _) => copy ∈ s.layout.reason
  | .event _ => True
  | .edit (.value control _) => control ∈ s.controls
  | .edit _ => False

instance (s : Seating) : DecidablePred (Move.Fits s)
  | .event (.choose copy _) => inferInstanceAs (Decidable (copy ∈ s.layout.permission))
  | .event (.typeReason copy _) => inferInstanceAs (Decidable (copy ∈ s.layout.reason))
  | .event (.select _) | .event .derive | .event (.noteReason _) | .event .submit =>
    inferInstanceAs (Decidable True)
  | .edit (.value control _) => inferInstanceAs (Decidable (control ∈ s.controls))
  | .edit (.name ..) | .edit (.required ..) | .edit (.disabled ..) | .edit (.visible ..)
  | .edit (.clearOptions _) | .edit (.appendOption ..) | .edit (.sectionShown ..) =>
    inferInstanceAs (Decidable False)

/-- A form in memory before it is taken over. -/
structure Setup where
  /-- What each permission accepts. -/
  table : Table
  /-- How the unused argument field is kept out of a submission. -/
  exclusion : Exclusion
  /-- The elements of the form. -/
  seating : Seating
  /-- The controls as the page rendered them. -/
  panel : Panel

namespace Setup

/-- The form when it is taken over. -/
def begin (f : Setup) : Turn Panel Ref Nat :=
  Controller.start f.table f.exclusion f.seating.layout f.panel

/-- The controller and the controls at the end of a history. -/
def after (f : Setup) (ms : List (Move Ref Nat)) : Controller Ref Nat × Panel :=
  f.begin.controller.play f.begin.surface ms

/-- Whether a derivation was successful, when the form was taken over or later. -/
def Derived (f : Setup) (ms : List (Move Ref Nat)) : Prop :=
  f.begin.Succeeded ∨ f.begin.controller.HasDerived f.begin.surface ms

end Setup

/-! ## One derivation -/

namespace Controller

variable {c : Controller Ref Nat} {f : Seating} {k : Nat}

/-- The text field when the argument of a mode is about to be entered. -/
def retyped (c : Controller Ref Nat) (p : Panel) (mode : Mode) : Control :=
  let text := p.control c.layout.text
  if mode = .freeText ∧ c.primed = true ∧ c.mode ≠ .freeText then { text with value := "" }
  else text

/-- The dropdown when the argument of a mode is about to be entered. -/
def refilled (c : Controller Ref Nat) (p : Panel) : Mode → Control
  | .choice options => (p.control c.layout.dropdown).refill options (c.keepsake p)
  | .unselected | .freeText => p.control c.layout.dropdown

private theorem keepsake_showSections (p : Panel) (b : Bool) :
    c.keepsake (c.showSections p b) = c.keepsake p := by
  simp only [keepsake, Surface.value, Panel.control_showSections]

private theorem control_rebuild (hd : c.layout.dropdown = .select k) (p : Panel)
    (options : List String) (r : Ref) :
    (c.rebuild p options).control r =
      if r = .select k then (p.control (.select k)).refill options (c.keepsake p)
      else p.control r := by
  rw [rebuild, hd]
  simp only [Panel.foldl_appendOption, Surface.clearOptions]
  by_cases hr : r = .select k
  · subst hr
    split
    · next hk =>
      simp [Panel.control_setValue, Panel.take, Control.choose, Control.foldl_append_clear,
        Control.refill, hk]
    · next hk => simp [Control.foldl_append_clear, Control.refill, hk]
  · split
    · simp [Panel.control_setValue, hr]
    · simp [hr]

private theorem control_fill_text (hl : c.layout = f.layout) (p : Panel) (mode : Mode) :
    (c.fill p mode).control (.field f.text) = c.retyped p mode := by
  have ht : c.layout.text = .field f.text := by rw [hl]; rfl
  have hd : c.layout.dropdown = .select f.dropdown := by rw [hl]; rfl
  cases mode with
  | unselected => simp [fill, retyped, ht]
  | freeText =>
    rw [fill, retyped, ht]
    by_cases hp : c.primed = true ∧ c.mode ≠ .freeText
    · simp [Panel.control_setValue, Panel.take, Control.enter, hp]
    · simp only [if_neg hp, true_and]
  | choice options =>
    rw [fill, control_rebuild hd]
    simp [retyped, ht]

private theorem control_fill_dropdown (hl : c.layout = f.layout) (p : Panel) (mode : Mode) :
    (c.fill p mode).control (.select f.dropdown) = c.refilled p mode := by
  have ht : c.layout.text = .field f.text := by rw [hl]; rfl
  have hd : c.layout.dropdown = .select f.dropdown := by rw [hl]; rfl
  cases mode with
  | unselected => simp [fill, refilled, hd]
  | freeText =>
    rw [fill, refilled, ht, hd]
    split
    · simp [Panel.control_setValue]
    · rfl
  | choice options => rw [fill, control_rebuild hd, if_pos rfl, refilled, hd]

private theorem control_fill_of_ne (hl : c.layout = f.layout) {r : Ref} (ht : r ≠ .field f.text)
    (hd : r ≠ .select f.dropdown) (p : Panel) (mode : Mode) :
    (c.fill p mode).control r = p.control r := by
  cases mode with
  | unselected => rfl
  | freeText =>
    rw [fill]
    split
    · rw [Panel.control_setValue, hl]
      exact if_neg ht
    · rfl
  | choice options =>
    have hk : c.layout.dropdown = .select f.dropdown := by rw [hl]; rfl
    rw [fill, control_rebuild hk, if_neg hd]

private theorem shown_fill (p : Panel) (mode : Mode) : (c.fill p mode).shown = p.shown := by
  cases mode with
  | unselected => rfl
  | freeText =>
    rw [fill]
    split
    · rfl
    · rfl
  | choice options =>
    rw [fill, rebuild]
    simp only [Panel.foldl_appendOption]
    split
    · rfl
    · rfl

/-! ### The whole arrangement -/

private theorem arrange_eq (hl : c.layout = f.layout) (p : Panel) (mode : Mode) :
    c.arrange p mode =
      (((c.fill (c.showSections p mode.showsSections) mode).modify (.field f.text)
        (c.exclusion.dress (mode.side? = some .text))).modify (.select f.dropdown)
          (c.exclusion.dress (mode.side? = some .dropdown))) := by
  rw [arrange, Exclusion.designate, Panel.mark_eq_modify, Panel.mark_eq_modify, hl]
  rfl

theorem control_arrange_text (hl : c.layout = f.layout) (p : Panel) (mode : Mode) :
    (c.arrange p mode).control (.field f.text) =
      c.exclusion.dress (mode.side? = some .text) (c.retyped p mode) := by
  rw [arrange_eq hl, Panel.control_modify, if_neg (by simp), Panel.control_modify, if_pos rfl,
    control_fill_text hl, retyped, retyped, Panel.control_showSections]

theorem control_arrange_dropdown (hl : c.layout = f.layout) (p : Panel) (mode : Mode) :
    (c.arrange p mode).control (.select f.dropdown) =
      c.exclusion.dress (mode.side? = some .dropdown) (c.refilled p mode) := by
  rw [arrange_eq hl, Panel.control_modify, if_pos rfl, Panel.control_modify, if_neg (by simp),
    control_fill_dropdown hl]
  cases mode <;> simp only [refilled, keepsake_showSections, Panel.control_showSections]

/-- A successful derivation leaves all controls but the two argument fields alone. -/
theorem control_arrange_of_ne (hl : c.layout = f.layout) {r : Ref} (ht : r ≠ .field f.text)
    (hd : r ≠ .select f.dropdown) (p : Panel) (mode : Mode) :
    (c.arrange p mode).control r = p.control r := by
  rw [arrange_eq hl, Panel.control_modify, if_neg hd, Panel.control_modify, if_neg ht,
    control_fill_of_ne hl ht hd, Panel.control_showSections]

theorem shown_arrange (hl : c.layout = f.layout) (p : Panel) (mode : Mode) (i : Nat) :
    (c.arrange p mode).shown i =
      if i ∈ f.argumentSections ++ f.reasonSections then mode.showsSections else p.shown i := by
  rw [arrange_eq hl, Panel.shown_modify, Panel.shown_modify, shown_fill, showSections,
    Panel.shown_foldl_showSection, hl]
  rfl

/-! ## One event -/

theorem frame_spread (p : Panel) (e : Event Ref) (r : Ref) :
    ((c.spread p e).control r).frame = (p.control r).frame := by
  cases e with
  | select _ => exact Panel.frame_publish _ _ _ _
  | choose _ _ => exact (Panel.frame_publish _ _ _ _).trans (Panel.frame_setValue _ _ _ _)
  | derive => rfl
  | noteReason _ => exact Panel.frame_publish _ _ _ _
  | typeReason _ _ => exact (Panel.frame_publish _ _ _ _).trans (Panel.frame_setValue _ _ _ _)
  | submit => rfl

theorem shown_spread (p : Panel) (e : Event Ref) : (c.spread p e).shown = p.shown := by
  cases e with
  | select _ => exact Panel.shown_publish _ _ _
  | choose _ _ => exact Panel.shown_publish _ _ _
  | derive => rfl
  | noteReason _ => exact Panel.shown_publish _ _ _
  | typeReason _ _ => exact Panel.shown_publish _ _ _
  | submit => rfl

/-- An event that makes the controller derive writes to permission selectors alone. -/
theorem control_spread_of_derives (hl : c.layout = f.layout) {r : Ref}
    (hr : r ∉ f.layout.permission) {e : Event Ref} (hd : e.derives = true)
    (he : (Move.event e : Move Ref Nat).Fits f) (p : Panel) :
    (c.spread p e).control r = p.control r := by
  cases e with
  | select _ => exact Panel.control_publish_of_notMem (hl ▸ hr) _ _
  | choose copy v =>
    have hne : r ≠ copy := (ne_of_mem_of_not_mem he hr).symm
    rw [spread, Panel.control_publish_of_notMem (hl ▸ hr), Panel.control_setValue, if_neg hne]
  | derive => rfl
  | noteReason _ | typeReason _ _ | submit => cases hd

/-- Any other event writes to copies of the reason field alone. -/
theorem control_spread_of_not_derives (hl : c.layout = f.layout) {r : Ref}
    (hr : r ∉ f.layout.reason) {e : Event Ref} (hd : e.derives = false)
    (he : (Move.event e : Move Ref Nat).Fits f) (p : Panel) :
    (c.spread p e).control r = p.control r := by
  cases e with
  | select _ | choose _ _ | derive => cases hd
  | noteReason _ => exact Panel.control_publish_of_notMem (hl ▸ hr) _ _
  | typeReason copy v =>
    have hne : r ≠ copy := (ne_of_mem_of_not_mem he hr).symm
    rw [spread, Panel.control_publish_of_notMem (hl ▸ hr), Panel.control_setValue, if_neg hne]
  | submit => rfl

theorem control_spread_of_notMem (hl : c.layout = f.layout) {r : Ref}
    (hp : r ∉ f.layout.permission) (hr : r ∉ f.layout.reason) {e : Event Ref}
    (he : (Move.event e : Move Ref Nat).Fits f) (p : Panel) :
    (c.spread p e).control r = p.control r := by
  cases hd : e.derives with
  | true => exact control_spread_of_derives hl hp hd he p
  | false => exact control_spread_of_not_derives hl hr hd he p

end Controller

/-! ## Taking over -/

namespace Setup

variable (f : Setup)

/-- The controller before its first derivation. -/
def idle : Controller Ref Nat where
  table := f.table
  exclusion := f.exclusion
  layout := f.seating.layout
  locked := Controller.prefilled f.seating.layout f.panel

/-- The controls before the first derivation, with the filled in selectors locked. -/
def lockedPanel : Panel := Controller.setAllDisabled f.panel f.idle.locked true

theorem begin_succeeded_iff : f.begin.Succeeded ↔ (f.idle.derive f.lockedPanel).Succeeded := Iff.rfl

theorem after_eq_play (ms : List (Move Ref Nat)) :
    f.after ms = f.idle.play f.lockedPanel (.event .derive :: ms) := rfl

/-- A form whose first derivation fails is left with its selectors locked. -/
theorem after_nil_of_failed (h : ¬ f.begin.Succeeded) : f.after [] = (f.idle, f.lockedPanel) := by
  obtain ⟨_, -, heq⟩ | ⟨_, -, heq⟩ := f.idle.derive_cases f.lockedPanel
  · rw [after_eq_play, Controller.play_cons, Controller.play_nil, Controller.move,
      Controller.handle, heq]
  · rw [begin_succeeded_iff, heq] at h
    exact absurd rfl h

@[simp] theorem table_after (ms : List (Move Ref Nat)) : (f.after ms).1.table = f.table :=
  Controller.table_play f.idle f.lockedPanel (.event .derive :: ms)

@[simp] theorem exclusion_after (ms : List (Move Ref Nat)) :
    (f.after ms).1.exclusion = f.exclusion :=
  Controller.exclusion_play f.idle f.lockedPanel (.event .derive :: ms)

@[simp] theorem layout_after (ms : List (Move Ref Nat)) :
    (f.after ms).1.layout = f.seating.layout :=
  Controller.layout_play f.idle f.lockedPanel (.event .derive :: ms)

@[simp] theorem locked_after (ms : List (Move Ref Nat)) :
    (f.after ms).1.locked = Controller.prefilled f.seating.layout f.panel :=
  Controller.locked_play f.idle f.lockedPanel (.event .derive :: ms)

/-- The mark is set exactly when some derivation was successful. -/
theorem primed_after_iff (ms : List (Move Ref Nat)) :
    (f.after ms).1.primed = true ↔ f.Derived ms := by
  rw [after_eq_play, Controller.primed_play_iff, Derived, begin_succeeded_iff]
  simp only [idle, Bool.false_eq_true, false_or, Controller.HasDerived, Move.derives]
  exact or_congr (and_iff_right rfl) Iff.rfl

theorem after_concat (ms : List (Move Ref Nat)) (m : Move Ref Nat) :
    f.after (ms ++ [m]) = (((f.after ms).1.move (f.after ms).2 m).controller,
      ((f.after ms).1.move (f.after ms).2 m).surface) :=
  Controller.play_concat _ _ ms m

theorem Derived.concat {f : Setup} {ms : List (Move Ref Nat)} (h : f.Derived ms)
    (m : Move Ref Nat) : f.Derived (ms ++ [m]) := by
  rw [← primed_after_iff] at h ⊢
  rw [after_concat, Controller.primed_move_iff]
  exact .inl h

theorem select_of_mem_locked {r : Ref}
    (h : r ∈ Controller.prefilled f.seating.layout f.panel) :
    ∃ i ∈ f.seating.selectors, r = .select i := by
  have hmem : r ∈ f.seating.layout.permission ++ f.seating.layout.group.toList :=
    (List.mem_filter.mp h).1
  rw [← Seating.map_selectors] at hmem
  obtain ⟨i, hi, rfl⟩ := List.mem_map.mp hmem
  exact ⟨i, hi, rfl⟩

theorem field_notMem_locked (i : Nat) :
    .field i ∉ Controller.prefilled f.seating.layout f.panel := by
  intro h
  obtain ⟨_, -, heq⟩ := f.select_of_mem_locked h
  cases heq

theorem dropdown_notMem_locked (hdropdown : f.seating.dropdown ∉ f.seating.selectors) :
    .select f.seating.dropdown ∉ Controller.prefilled f.seating.layout f.panel := by
  intro h
  obtain ⟨i, hi, heq⟩ := f.select_of_mem_locked h
  cases heq
  exact hdropdown hi

end Setup

/-! ## A form to look at -/

namespace Setup

/-- A form that asks for a permission and a group. The page filled in the group, and it offers a
permission that its table does not know. -/
def sample : Setup where
  table :=
    { allowances := ⟨[("edit", .anything), ("view", .oneOf ["prod", "staging"])], by decide +kernel⟩
      named := by decide
      settled := by decide }
  exclusion := .standard
  seating :=
    { permission := [0], group := some 1, text := 0, dropdown := 2, reason := [1]
      argumentSections := [0], reasonSections := [1] }
  panel := .ofLists [{ name := "argument", value := "team-a" }, { name := "reason" }]
    [{ name := "permission_name", options := ["", "edit", "gone", "view"] },
      { name := "group_name", options := ["sre"], value := "sre" }, { name := "argument" }]

/-- The user selects the free text permission, then one that fails, types a text and a reason, and
submits the form. -/
def sampleMoves : List (Move Ref Nat) :=
  [.event (.choose (.select 0) "edit"), .event (.choose (.select 0) "gone"),
    .edit (.value (.field 0) "team-b"), .event (.typeReason (.field 1) "on call"), .event .submit]

end Setup

end AccessForm
