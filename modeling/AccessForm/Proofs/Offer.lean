import AccessForm.Proofs.Panel

/-!
# What the dropdown offers

A successful derivation leaves the form in agreement with its table: the reported mode is the one
that the table gives for the reported permission, and if that is a closed list, the dropdown offers
this list, option by option, and holds one of its options. The agreement lasts while the user types
into the text field or chooses among the options, until the controller is called again.

Nothing is assumed about the past of the form. Whatever the dropdown offered before, by the page, by
an earlier list or by a script, is gone when it is refilled.
-/

namespace AccessForm

/-! ## Closed lists of a table -/

theorem Table.ne_nil_of_allowance? {t : Table} {permission : String} {options : List String}
    (h : t.allowance? permission = some (.oneOf options)) : options ≠ [] := by
  rintro rfl
  exact (t.settled _ (Directory.mem_entries_iff.mpr h)).1 rfl

theorem Table.allowance?_of_mode {t : Table} {permission : String} {options : List String}
    (h : t.mode permission = .ok (.choice options)) :
    t.allowance? permission = some (.oneOf options) := by
  rw [Table.mode] at h
  split at h
  · cases h
  · split at h
    · next allowance hallow =>
      rw [hallow]
      cases allowance with
      | anything => cases h
      | oneOf _ =>
        cases h
        rfl
    · cases h

/-! ## The refilled dropdown -/

theorem Control.value_refill_mem {options : List String} (h : options ≠ []) (c : Control)
    (kept : String) : (c.refill options kept).value ∈ options := by
  rw [refill]
  dsimp only
  split
  · next hk => exact hk
  · obtain ⟨v, vs, rfl⟩ := List.exists_cons_of_ne_nil h
    exact List.mem_cons_self

/-! ## Agreement with the table -/

namespace Controller

/-- The form agrees with its table about the selected permission. -/
structure Offers (c : Controller Ref Nat) (f : Seating) (p : Panel) : Prop where
  /-- The reported mode is that of the reported permission. -/
  coherent : c.table.mode (c.snapshot p).permission = .ok (c.snapshot p).mode
  /-- For a closed list, the dropdown offers just this list. -/
  options : ∀ list, (c.snapshot p).mode = .choice list →
    (p.control (.select f.dropdown)).options = list
  /-- For a closed list, the dropdown holds one of its options. -/
  value : ∀ list, (c.snapshot p).mode = .choice list →
    (p.control (.select f.dropdown)).value ∈ list

variable {c : Controller Ref Nat} {f : Seating} {p p' : Panel}

/-- The selected permission depends on the values of the permission selectors alone. -/
theorem permission_congr
    (h : ∀ r ∈ c.layout.permission, (p'.control r).value = (p.control r).value) :
    c.permission p' = c.permission p := by
  rw [permission, permission]
  cases hl : c.layout.permission with
  | nil => rfl
  | cons r rs =>
    exact h r (hl ▸ List.mem_cons_self)

theorem control_derive_of_ne (hl : c.layout = f.layout) {r : Ref} (ht : r ≠ .field f.text)
    (hd : r ≠ .select f.dropdown) : (c.derive p).surface.control r = p.control r := by
  obtain ⟨_, -, heq⟩ | ⟨mode, -, heq⟩ := c.derive_cases p
  · rw [heq]
  · rw [heq]
    exact control_arrange_of_ne hl ht hd p mode

theorem control_derive_of_mem_permission (hl : c.layout = f.layout)
    (hd : f.dropdown ∉ f.permission) {i : Nat} (hi : i ∈ f.permission) :
    (c.derive p).surface.control (.select i) = p.control (.select i) := by
  apply control_derive_of_ne hl
  · simp
  · rw [ne_eq, Ref.select.injEq]
    exact ne_of_mem_of_not_mem hi hd

theorem permission_derive (hl : c.layout = f.layout) (hd : f.dropdown ∉ f.permission) :
    (c.derive p).controller.permission (c.derive p).surface = c.permission p := by
  have hlayout : (c.derive p).controller.layout = c.layout := c.layout_move p (.event .derive)
  calc (c.derive p).controller.permission (c.derive p).surface
      = c.permission (c.derive p).surface := by rw [permission, hlayout]; rfl
    _ = c.permission p := by
      refine permission_congr fun r hr ↦ ?_
      rw [hl] at hr
      obtain ⟨i, hi, rfl⟩ := List.mem_map.mp hr
      exact congrArg Control.value (control_derive_of_mem_permission hl hd hi)

/-- What the dropdown holds belongs to the selected permission. -/
theorem Offers.allowed (h : c.Offers f p) {list : List String} (hm : c.mode = .choice list) :
    c.table.allowance? (c.permission p) = some (.oneOf list) ∧ list ≠ [] := by
  have hallow : c.table.allowance? (c.permission p) = some (.oneOf list) :=
    Table.allowance?_of_mode (hm ▸ h.coherent)
  exact ⟨hallow, Table.ne_nil_of_allowance? hallow⟩

private theorem offers_derive (hl : c.layout = f.layout) (hd : f.dropdown ∉ f.permission)
    (hs : (c.derive p).Succeeded) :
    (c.derive p).controller.Offers f (c.derive p).surface := by
  obtain ⟨_, -, heq⟩ | ⟨mode, hmode, heq⟩ := c.derive_cases p
  · rw [heq] at hs
    cases hs
  · rw [heq]
    have hperm := permission_derive (p := p) hl hd
    rw [heq] at hperm
    refine ⟨?_, ?_, ?_⟩
    · rw [snapshot, hperm]
      exact hmode
    · intro list hlist
      cases hlist
      rw [control_arrange_dropdown hl, Exclusion.options_dress]
      rfl
    · intro list hlist
      cases hlist
      rw [control_arrange_dropdown hl, Exclusion.value_dress]
      exact Control.value_refill_mem
        (Table.ne_nil_of_allowance? (Table.allowance?_of_mode hmode)) _ _

end Controller

/-! ## What the user does next -/

/-- Whether a user types into the text field or chooses among options. -/
def Edit.Answers (f : Seating) (offered : List String) : Edit Ref Nat → Prop
  | .value control v => control = .field f.text ∨ control = .select f.dropdown ∧ v ∈ offered
  | _ => False

/-- Whether each of several edits is a text typed into the text field or a choice among the options
that the dropdown offers at that moment. -/
def Panel.Answered (f : Seating) : Panel → List (Edit Ref Nat) → Prop
  | _, [] => True
  | p, e :: es => e.Answers f (p.control (.select f.dropdown)).options ∧ Answered f (e.apply p) es

namespace Controller

variable {c : Controller Ref Nat} {f : Seating} {p : Panel}

private theorem Offers.edit (h : c.Offers f p) (hl : c.layout = f.layout)
    (hd : f.dropdown ∉ f.permission)
    {e : Edit Ref Nat} (he : e.Answers f (p.control (.select f.dropdown)).options) :
    c.Offers f (e.apply p) := by
  cases e with
  | value control v =>
    have hperm : c.permission (Surface.setValue p control v) = c.permission p := by
      refine permission_congr fun r hr ↦ ?_
      rw [hl] at hr
      obtain ⟨i, hi, rfl⟩ := List.mem_map.mp hr
      refine congrArg Control.value (if_neg ?_)
      rcases he with rfl | ⟨rfl, -⟩
      · simp
      · rw [Ref.select.injEq]
        exact ne_of_mem_of_not_mem hi hd
    refine ⟨?_, ?_, ?_⟩
    · rw [snapshot, Edit.apply, hperm]
      exact h.coherent
    · intro list hlist
      rw [← h.options list hlist]
      exact Control.options_of_frame (Panel.frame_setValue p control (.select f.dropdown) v)
    · intro list hlist
      have hvalue := h.value list hlist
      rw [Edit.apply, Panel.control_setValue]
      rcases he with rfl | ⟨rfl, hv⟩
      · rw [if_neg (by simp)]
        exact hvalue
      · rw [if_pos rfl, ← h.options list hlist]
        simp [Panel.take, Control.choose, hv]
  | _ => exact he.elim

private theorem Offers.edits {es : List (Edit Ref Nat)} (h : c.Offers f p)
    (hl : c.layout = f.layout) (hd : f.dropdown ∉ f.permission) (hes : p.Answered f es) :
    (c.play p (es.map .edit)).1.Offers f (c.play p (es.map .edit)).2 := by
  induction es generalizing p with
  | nil => exact h
  | cons e es ih => exact ih (h.edit hl hd hes.1) hes.2

end Controller

/-! ## The theorem -/

namespace Setup

/-- Whether the last thing that happened to a form is a successful derivation. Taking over the form
is one when nothing happened since then. -/
def JustDerived (f : Setup) (ms : List (Move Ref Nat)) : Prop :=
  ∃ before m, .event .derive :: ms = before ++ [m] ∧ m.derives = true ∧
    ((f.idle.play f.lockedPanel before).1.move (f.idle.play f.lockedPanel before).2 m).Succeeded

/-- Then the form is as a derivation left it, which its controller made in line with the same
layout. -/
theorem JustDerived.exists_derive {f : Setup} {ms : List (Move Ref Nat)} (h : f.JustDerived ms) :
    ∃ (c : Controller Ref Nat) (p : Panel), c.layout = f.seating.layout ∧
      (c.derive p).Succeeded ∧
      f.after ms = ((c.derive p).controller, (c.derive p).surface) := by
  obtain ⟨before, m, heq, hm, hs⟩ := h
  rw [after_eq_play, heq, Controller.play_concat]
  cases m with
  | edit e => cases hm
  | event e =>
    rw [Controller.move, Controller.handle_of_derives _ _ hm] at hs ⊢
    exact ⟨_, _, Controller.layout_play _ _ _, hs, rfl⟩

private theorem offers_of_justDerived {f : Setup} (hd : f.seating.dropdown ∉ f.seating.permission)
    {ms : List (Move Ref Nat)} (h : f.JustDerived ms) :
    (f.after ms).1.Offers f.seating (f.after ms).2 := by
  obtain ⟨c, p, hl, hs, heq⟩ := h.exists_derive
  rw [heq]
  exact Controller.offers_derive hl hd hs

/-- After a successful derivation, and through the answers that the user gives to it, the form
agrees with its table: the reported mode is that of the reported permission, and for a closed list
the dropdown offers just this list and holds one of its options. So the dropdown is never empty when
it takes part, and what it submits is an argument that the table allows for the permission. -/
theorem offers_after_answers (f : Setup) (hdropdown : f.seating.dropdown ∉ f.seating.selectors)
    {ms : List (Move Ref Nat)} (hms : f.JustDerived ms) {es : List (Edit Ref Nat)}
    (hes : (f.after ms).2.Answered f.seating es) :
    (f.after (ms ++ es.map .edit)).1.Offers f.seating (f.after (ms ++ es.map .edit)).2 ∧
      ∀ list, (f.after (ms ++ es.map .edit)).1.mode = .choice list →
        f.table.allowance? ((f.after (ms ++ es.map .edit)).1.permission
          (f.after (ms ++ es.map .edit)).2) = some (.oneOf list) ∧
        ((f.after (ms ++ es.map .edit)).2.control (.select f.seating.dropdown)).options ≠ [] := by
  have hd : f.seating.dropdown ∉ f.seating.permission :=
    fun h ↦ hdropdown (List.mem_append_left _ h)
  have hoffers : (f.after (ms ++ es.map .edit)).1.Offers f.seating
      (f.after (ms ++ es.map .edit)).2 := by
    rw [after, Controller.play_append]
    exact (offers_of_justDerived hd hms).edits (f.layout_after ms) hd hes
  refine ⟨hoffers, fun list hlist ↦ ?_⟩
  obtain ⟨hallow, hne⟩ := hoffers.allowed hlist
  rw [table_after] at hallow
  exact ⟨hallow, by rwa [hoffers.options list hlist]⟩

/-- When the permission with a closed list is selected in the sample form and the user chooses the
second option, the dropdown holds it. -/
theorem offers_after_answers_sample :
    sample.JustDerived [.event (.select "view")] ∧
      (sample.after [.event (.select "view"), .edit (.value (.select 2) "staging")]).1.Offers
        sample.seating
        (sample.after [.event (.select "view"), .edit (.value (.select 2) "staging")]).2 := by
  have hms : sample.JustDerived [.event (.select "view")] :=
    ⟨[.event .derive], .event (.select "view"), rfl, rfl, by decide +kernel⟩
  have hes : (sample.after [.event (.select "view")]).2.Answered sample.seating
      [.value (.select 2) "staging"] :=
    ⟨.inr ⟨rfl, by decide +kernel⟩, trivial⟩
  exact ⟨hms, (sample.offers_after_answers (by decide) hms hes).1⟩

end Setup

end AccessForm
