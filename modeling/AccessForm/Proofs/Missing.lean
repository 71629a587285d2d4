import AccessForm.Proofs.Frame
import AccessForm.Proofs.Panel
import Mathlib.Tactic.ByContra

/-!
# Missing permissions

A form that is taken over warns of the permissions that its first selector offers and its table does
not know. The warning says all there is to say about failing derivations: as long as nobody changes
what the selectors offer, selecting a permission fails exactly if the warning names it, and a form
that did not warn never fails.

The reason is that a dropdown can only be brought to a value that it offers. A permission that the
first selector does not offer leaves it empty, and nothing is selected then. So the work lies in two
facts about whole histories, both obtained from single writes: a dropdown holds nothing or one of
its options, and all dropdowns but the one for the argument keep their options.
-/

namespace AccessForm

/-! ## What dropdowns hold -/

instance : DecidablePred Control.Coherent := fun c ↦
  inferInstanceAs (Decidable (c.value = "" ∨ c.value ∈ c.options))

theorem Control.choose_value {c : Control} (h : c.Coherent) : c.choose c.value = c := by
  have hvalue : (if c.value ∈ c.options then c.value else "") = c.value := by
    split
    · rfl
    · next hv => exact (h.resolve_right hv).symm
  rw [choose, hvalue]

theorem Table.mem_missing_iff {t : Table} {offered : List String} {permission : String} :
    permission ∈ t.missing offered ↔
      permission ∈ offered ∧ permission ≠ "" ∧ t.contains permission = false := by
  simp [missing]

namespace Panel

/-- Every dropdown of a panel holds nothing or one of its options. -/
def Coherent (p : Panel) : Prop := ∀ i, (p.control (.select i)).Coherent

private theorem Coherent.modify {p : Panel} (h : p.Coherent) (r : Ref) (f : Control → Control)
    (hf : ∀ i, r = .select i → (f (p.control (.select i))).Coherent) : (p.modify r f).Coherent := by
  intro i
  rw [control_modify]
  split
  · next hr => exact hf i hr.symm
  · exact h i

theorem Coherent.apply {p : Panel} (h : p.Coherent) (e : Edit Ref Nat) : (e.apply p).Coherent := by
  cases e with
  | value r v =>
    refine h.modify r (take r · v) fun i hr ↦ ?_
    subst hr
    exact Control.coherent_choose _ v
  | name r n => exact h.modify r ({ · with name := n }) fun i _ ↦ h i
  | required r b => exact h.modify r ({ · with required := b }) fun i _ ↦ h i
  | disabled r b => exact h.modify r ({ · with disabled := b }) fun i _ ↦ h i
  | visible r b => exact h.modify r ({ · with visible := b }) fun i _ ↦ h i
  | clearOptions r => exact h.modify r Control.clear fun _ _ ↦ Control.coherent_clear _
  | appendOption r v => exact h.modify r (Control.append · v) fun i _ ↦ (h i).append v
  | sectionShown j b => exact h

theorem coherent_ofLists (fields : List Control) {selects : List Control}
    (h : ∀ c ∈ selects, c.Coherent) : (ofLists fields selects).Coherent := by
  intro i
  show (selects.getD i {}).Coherent
  rw [List.getD_eq_getElem?_getD]
  cases hi : selects[i]? with
  | none => exact .inl rfl
  | some c => exact h c (List.mem_of_getElem? hi)

/-- Where dropdowns hold what they offer, it makes no difference that a copy which has the value
already is not written to. -/
theorem bring_select {c : Control} (h : c.Coherent) (i : Nat) (v : String) :
    bring (.select i) v c = c.choose v := by
  rw [bring]
  split
  · next hv =>
    subst hv
    exact (Control.choose_value h).symm
  · rfl

theorem control_publish_select {p : Panel} (h : p.Coherent) {i : Nat} {copies : List Ref}
    (hi : .select i ∈ copies) (v : String) :
    (Copies.publish p copies v).control (.select i) = (p.control (.select i)).choose v := by
  rw [control_publish, if_pos hi, bring_select (h i)]

end Panel

/-! ## What a form may write -/

namespace Controller

/-- A form leaves no dropdown with a value that it does not offer. -/
theorem within_coherent (c : Controller Ref Nat) :
    c.Within fun p p' : Panel ↦ p.Coherent → p'.Coherent where
  refl _ h := h
  trans h h' hp := h' (h hp)
  setValue _ k v _ h := h.apply (.value k v)
  lock _ k b _ h := h.apply (.disabled k b)
  setName _ k n _ _ h := h.apply (.name k n)
  setDisabled _ k b _ _ h := h.apply (.disabled k b)
  setRequired _ k b _ h := h.apply (.required k b)
  setVisible _ k b _ h := h.apply (.visible k b)
  clearOptions _ h := h.apply (.clearOptions _)
  appendOption _ v h := h.apply (.appendOption _ v)
  showSection _ i b _ h := h.apply (.sectionShown i b)

private theorem within_options {c : Controller Ref Nat} {r : Ref} (hr : r ≠ c.layout.dropdown) :
    c.Within fun p p' : Panel ↦ (p'.control r).options = (p.control r).options := by
  have hmodify : ∀ (p : Panel) (k : Ref) (f : Control → Control),
      (k = r → (f (p.control r)).options = (p.control r).options) →
      ((p.modify k f).control r).options = (p.control r).options := by
    intro p k f hf
    rw [Panel.control_modify]
    split
    · next hk => exact hf hk.symm
    · rfl
  exact {
    refl _ := rfl
    trans h h' := h'.trans h
    setValue p k v _ := Control.options_of_frame (Panel.frame_setValue p k r v)
    lock p k _ _ := hmodify p k _ fun _ ↦ rfl
    setName p k _ _ _ := hmodify p k _ fun _ ↦ rfl
    setDisabled p k _ _ _ := hmodify p k _ fun _ ↦ rfl
    setRequired p k _ _ := hmodify p k _ fun _ ↦ rfl
    setVisible p k _ _ := hmodify p k _ fun _ ↦ rfl
    clearOptions p := hmodify p _ _ fun hk ↦ absurd hk.symm hr
    appendOption p _ := hmodify p _ _ fun hk ↦ absurd hk.symm hr
    showSection _ _ _ _ := rfl }

/-! ## What is refused -/

section Offers

variable {σ κ ς : Type} [Surface σ κ ς]

/-- The permissions that a form offers: the options of the first copy of its selector. -/
def offered (c : Controller κ ς) (s : σ) : List String :=
  match c.layout.permission with
  | [] => []
  | first :: _ => Surface.options s first

/-- The warning of a form that is taken over names the offered permissions that are missing. -/
theorem mem_missingWarning_iff {c : Controller κ ς} {s : σ} {n : Notice} :
    n ∈ missingWarning c.table c.layout s ↔
      n = .offersMissing (c.table.missing (c.offered s)) ∧ c.table.missing (c.offered s) ≠ [] := by
  rw [missingWarning, offered]
  cases c.layout.permission with
  | nil => simp [Table.missing]
  | cons first _ =>
    dsimp only
    cases c.table.missing (Surface.options s first) with
    | nil => simp
    | cons _ _ => simp

/-- Nothing else that a form reports when it is taken over is such a warning. -/
theorem offersMissing_mem_start_iff {table : Table} {exclusion : Exclusion} {layout : Layout κ ς}
    {s : σ} {permissions : List String} :
    .offersMissing permissions ∈ (start table exclusion layout s).notices ↔
      .offersMissing permissions ∈ missingWarning table layout s := by
  have hderive : ∀ (c : Controller κ ς) (t : σ),
      .offersMissing permissions ∉ (c.derive t).notices := by
    intro c t
    obtain ⟨_, -, heq⟩ | ⟨_, -, heq⟩ := c.derive_cases t
    · simp [heq]
    · simp [heq]
  simp [start, hderive]

end Offers

variable {c : Controller Ref Nat} {f : Seating} {p p' : Panel}

theorem offered_congr (h : ∀ r ∈ c.layout.permission,
    (p'.control r).options = (p.control r).options) : c.offered p' = c.offered p := by
  rw [offered, offered]
  cases hl : c.layout.permission with
  | nil => rfl
  | cons r _ => exact h r (hl ▸ List.mem_cons_self)

/-- A form in memory has selected nothing, or a permission that it offers. -/
theorem permission_mem_offered (hl : c.layout = f.layout) (hp : p.Coherent) :
    c.permission p = "" ∨ c.permission p ∈ c.offered p := by
  rw [permission, offered, hl]
  cases hf : f.permission with
  | nil => simp [Seating.layout, hf, Copies.value]
  | cons i _ =>
    simp only [Seating.layout, hf, List.map_cons, Copies.value]
    exact hp i

theorem permission_publish (hl : c.layout = f.layout) (hp : p.Coherent) (v : String) :
    c.permission (Copies.publish p c.layout.permission v) = if v ∈ c.offered p then v else "" := by
  rw [permission, offered, hl]
  cases hf : f.permission with
  | nil => simp [Seating.layout, hf, Copies.value]
  | cons i is =>
    have hi : Ref.select i ∈ (i :: is).map Ref.select := List.mem_map_of_mem List.mem_cons_self
    simp only [Seating.layout, hf, List.map_cons, Copies.value, Surface.value]
    rw [← List.map_cons, Panel.control_publish_select hp hi]
    rfl

private theorem derive_eq_error_iff (hl : c.layout = f.layout) (hp : p.Coherent)
    {e : UnknownPermission} :
    (c.derive p).outcome = .error e ↔
      e = ⟨c.permission p⟩ ∧ c.permission p ∈ c.table.missing (c.offered p) := by
  rw [outcome_derive, Table.mode_eq_error_iff, Table.mem_missing_iff]
  refine and_congr_right fun _ ↦ ⟨fun h ↦ ⟨?_, h⟩, fun h ↦ h.2⟩
  exact (permission_mem_offered hl hp).resolve_left h.1

/-- A selection fails exactly if the permission is missing. -/
theorem select_eq_error_iff (hl : c.layout = f.layout) (hp : p.Coherent) {v : String}
    {e : UnknownPermission} :
    (c.select p v).outcome = .error e ↔ e = ⟨v⟩ ∧ v ∈ c.table.missing (c.offered p) := by
  rw [select, outcome_derive, Table.mode_eq_error_iff, permission_publish hl hp,
    Table.mem_missing_iff]
  by_cases hv : v ∈ c.offered p
  · simp [hv]
  · simp [hv]

/-- A form that offers nothing missing answers every event. -/
theorem handle_succeeded (hl : c.layout = f.layout) (hp : p.Coherent)
    (hnone : c.table.missing (c.offered p) = []) (e : Event Ref) : (c.handle p e).Succeeded := by
  cases he : e.derives with
  | false =>
    rw [Turn.Succeeded, c.outcome_handle_of_not_derives p he]
    rfl
  | true =>
    have hcoherent : (c.spread p e).Coherent :=
      spread_within c.within_coherent.toFrame (fun _ k _ v h ↦ h.apply (.value k v)) p hp
    have hoffered : c.offered (c.spread p e) = c.offered p :=
      offered_congr fun r _ ↦ Control.options_of_frame (frame_spread p e r)
    rw [c.handle_of_derives p he, Turn.Succeeded]
    cases h : (c.derive (c.spread p e)).outcome with
    | ok _ => rfl
    | error _ =>
      obtain ⟨-, hmem⟩ := (derive_eq_error_iff hl hcoherent).mp h
      rw [hoffered, hnone] at hmem
      cases hmem

end Controller

/-! ## The theorem -/

namespace Setup

variable (f : Setup)

/-- The permissions that the form offers and its table does not know. -/
def missing : List String := f.table.missing (f.idle.offered f.panel)

variable {f}

/-- What all writes of a form and of others have in common holds between the controls that the page
rendered and those at the end of a history. -/
theorem related_after {ρ : Panel → Panel → Prop} (h : f.idle.Within ρ) {ms : List (Move Ref Nat)}
    (hms : ∀ m ∈ ms, Controller.Allows ρ m) : ρ f.panel (f.after ms).2 := by
  have hlock : ρ f.panel f.lockedPanel :=
    h.setAllDisabled (fun p r hr b ↦ h.lock p r b hr) _ true
  rw [after_eq_play]
  refine h.trans hlock (h.play (List.forall_mem_cons.mpr ⟨?_, hms⟩) _)
  exact fun _ _ hk ↦ absurd hk List.not_mem_nil

theorem coherent_after (hp : f.panel.Coherent) (ms : List (Move Ref Nat)) :
    (f.after ms).2.Coherent := by
  refine related_after f.idle.within_coherent (fun m _ ↦ ?_) hp
  cases m with
  | event _ => exact fun _ k _ v h ↦ h.apply (.value k v)
  | edit e => exact fun _ h ↦ h.apply e

private theorem offered_after (hdropdown : f.seating.dropdown ∉ f.seating.permission)
    {ms : List (Move Ref Nat)} (hms : ∀ m ∈ ms, m.Fits f.seating) :
    (f.after ms).1.offered (f.after ms).2 = f.idle.offered f.panel := by
  have hlayout : (f.after ms).1.offered (f.after ms).2 = f.idle.offered (f.after ms).2 := by
    rw [Controller.offered, layout_after]
    rfl
  rw [hlayout]
  refine Controller.offered_congr fun r hr ↦ ?_
  have hne : r ≠ f.idle.layout.dropdown := by
    rintro rfl
    obtain ⟨i, hi, heq⟩ := List.mem_map.mp hr
    cases heq
    exact hdropdown hi
  have hvalue (p : Panel) (k : Ref) (v : String) :
      ((Surface.setValue p k v).control r).options = (p.control r).options :=
    Control.options_of_frame (Panel.frame_setValue p k r v)
  refine related_after (Controller.within_options hne) fun m hm ↦ ?_
  cases m with
  | event _ => exact fun p k _ v ↦ hvalue p k v
  | edit e =>
    cases e with
    | value k v => exact fun p ↦ hvalue p k v
    | _ => exact (hms _ hm).elim

/-- The warning about missing permissions is right for the whole life of a form.

- The form warns if it offers permissions that are missing, and the warning names them all.
- Whatever happened, a selection fails exactly for these permissions, and a further derivation
  exactly if one of them is selected; the error names the permission.
- A form that did not warn derives its first mode, and answers every event with a mode. -/
theorem refuses_iff_missing (f : Setup) (hdropdown : f.seating.dropdown ∉ f.seating.permission)
    (hpanel : f.panel.Coherent) :
    (∀ permissions, .offersMissing permissions ∈ f.begin.notices ↔
      permissions = f.missing ∧ f.missing ≠ []) ∧
    (∀ ms, (∀ m ∈ ms, m.Fits f.seating) →
      (∀ v e, ((f.after ms).1.select (f.after ms).2 v).outcome = .error e ↔
        e = ⟨v⟩ ∧ v ∈ f.missing) ∧
      (∀ e, ((f.after ms).1.derive (f.after ms).2).outcome = .error e ↔
        e = ⟨(f.after ms).1.permission (f.after ms).2⟩ ∧
          (f.after ms).1.permission (f.after ms).2 ∈ f.missing)) ∧
    ((∀ permissions, .offersMissing permissions ∉ f.begin.notices) →
      f.begin.Succeeded ∧ ∀ ms, (∀ m ∈ ms, m.Fits f.seating) →
        ∀ e, ((f.after ms).1.handle (f.after ms).2 e).Succeeded) := by
  have hwarned : ∀ permissions, .offersMissing permissions ∈ f.begin.notices ↔
      permissions = f.missing ∧ f.missing ≠ [] := by
    intro permissions
    have hidle := Controller.mem_missingWarning_iff (c := f.idle) (s := f.panel)
      (n := .offersMissing permissions)
    rw [Notice.offersMissing.injEq] at hidle
    exact Controller.offersMissing_mem_start_iff.trans hidle
  have hmissing : ∀ ms, (∀ m ∈ ms, m.Fits f.seating) →
      (f.after ms).1.table.missing ((f.after ms).1.offered (f.after ms).2) = f.missing := by
    intro ms hms
    rw [table_after, offered_after hdropdown hms, missing]
  refine ⟨hwarned, fun ms hms ↦ ⟨fun v e ↦ ?_, fun e ↦ ?_⟩, fun hsilent ↦ ?_⟩
  · rw [← hmissing ms hms]
    exact Controller.select_eq_error_iff (f.layout_after ms) (coherent_after hpanel ms)
  · rw [← hmissing ms hms]
    exact Controller.derive_eq_error_iff (f.layout_after ms) (coherent_after hpanel ms)
  · have hnone : f.missing = [] := by
      by_contra hne
      exact hsilent f.missing ((hwarned f.missing).mpr ⟨rfl, hne⟩)
    have hanswers : ∀ ms, (∀ m ∈ ms, m.Fits f.seating) →
        ∀ e, ((f.after ms).1.handle (f.after ms).2 e).Succeeded := fun ms hms e ↦
      Controller.handle_succeeded (f.layout_after ms) (coherent_after hpanel ms)
        ((hmissing ms hms).trans hnone) e
    refine ⟨?_, hanswers⟩
    -- if the first derivation had failed, nothing would have changed, and a second one would not
    by_contra hfailed
    have hagain := hanswers [] (fun _ h ↦ absurd h List.not_mem_nil) .derive
    rw [f.after_nil_of_failed hfailed] at hagain
    exact hfailed hagain

/-- The sample form offers one permission that is missing. After a history in which it was selected
already, selecting it fails again. -/
theorem refuses_iff_missing_sample :
    sample.missing = ["gone"] ∧
      ((sample.after sampleMoves).1.select (sample.after sampleMoves).2 "gone").outcome =
        .error ⟨"gone"⟩ := by
  have hmissing : sample.missing = ["gone"] := by decide +kernel
  have hpanel : sample.panel.Coherent := Panel.coherent_ofLists _ (by decide)
  have h := (sample.refuses_iff_missing (by decide) hpanel).2.1 sampleMoves (by decide)
  exact ⟨hmissing, (h.1 "gone" _).mpr ⟨rfl, by rw [hmissing]; exact List.mem_cons_self⟩⟩

end Setup

end AccessForm
