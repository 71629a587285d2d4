import AccessForm.Form.History

/-!
# Derivations along a history

What the events of a form have in common, whatever its elements are. Every event first writes
values, and then either derives the mode, or frees the locked selectors, or does nothing more. Only
a successful derivation changes the controller, and it changes no more than the mode in force and
the mark that there is one.

The mark `primed` is the controller's own memory of its past. `primed_play_iff` says that it
remembers correctly: it is set exactly when some derivation of the history was successful.
-/

namespace AccessForm

/-! ## Kinds of events -/

/-- Whether an event makes the controller derive the mode. -/
def Controller.Event.derives {κ : Type} : Controller.Event κ → Bool
  | .select _ | .choose .. | .derive => true
  | .noteReason _ | .typeReason .. | .submit => false

/-- Whether an event is a submission. -/
def Controller.Event.submits {κ : Type} : Controller.Event κ → Bool
  | .submit => true
  | .select _ | .choose .. | .derive | .noteReason _ | .typeReason .. => false

theorem Controller.Event.submits_iff {κ : Type} {e : Event κ} : e.submits = true ↔ e = .submit := by
  cases e <;> simp [submits]

/-- Whether a move makes the controller derive the mode. -/
def Move.derives {κ ς : Type} : Move κ ς → Bool
  | .event e => e.derives
  | .edit _ => false

/-- Whether the call was answered with a mode. -/
def Turn.Succeeded {σ κ ς : Type} (t : Turn σ κ ς) : Prop := t.outcome.isOk = true

instance {σ κ ς : Type} (t : Turn σ κ ς) : Decidable t.Succeeded :=
  inferInstanceAs (Decidable (t.outcome.isOk = true))

namespace Controller

variable {σ κ ς : Type} [Surface σ κ ς]

/-- The elements when the values that an event brings have reached all copies. -/
def spread (c : Controller κ ς) (s : σ) : Event κ → σ
  | .select permission => Copies.publish s c.layout.permission permission
  | .choose copy permission =>
    let s := Surface.setValue s copy permission
    Copies.publish s c.layout.permission (Surface.value s copy)
  | .noteReason reason => Copies.publish s c.layout.reason reason
  | .typeReason copy reason =>
    let s := Surface.setValue s copy reason
    Copies.publish s c.layout.reason (Surface.value s copy)
  | .derive | .submit => s

theorem handle_of_derives (c : Controller κ ς) (s : σ) :
    ∀ {e : Event κ}, e.derives = true → c.handle s e = c.derive (c.spread s e)
  | .select _, _ => rfl
  | .choose _ _, _ => rfl
  | .derive, _ => rfl

theorem controller_handle_of_not_derives (c : Controller κ ς) (s : σ) :
    ∀ {e : Event κ}, e.derives = false → (c.handle s e).controller = c
  | .noteReason _, _ => rfl
  | .typeReason _ _, _ => rfl
  | .submit, _ => rfl

theorem outcome_handle_of_not_derives (c : Controller κ ς) (s : σ) :
    ∀ {e : Event κ}, e.derives = false → (c.handle s e).outcome = .ok c.mode
  | .noteReason _, _ => rfl
  | .typeReason _ _, _ => rfl
  | .submit, _ => rfl

theorem surface_handle_of_not_derives (c : Controller κ ς) (s : σ) :
    ∀ {e : Event κ}, e.derives = false → (c.handle s e).surface = c.spread s e ∨
      (c.handle s e).surface = setAllDisabled s c.locked false
  | .noteReason _, _ => .inl rfl
  | .typeReason _ _, _ => .inl rfl
  | .submit, _ => .inr rfl

theorem enabled_of_mem_prefilled {layout : Layout κ ς} {s : σ} {k : κ}
    (h : k ∈ prefilled layout s) : Surface.isDisabled s k = false := by
  have hcond := (List.mem_filter.mp h).2
  rw [Bool.and_eq_true, Bool.not_eq_true'] at hcond
  exact hcond.2

/-- All that a derivation can do. -/
theorem derive_cases (c : Controller κ ς) (s : σ) :
    (∃ e, c.table.mode (c.permission s) = .error e ∧
      c.derive s = ⟨c, s, .error e, [.refused e]⟩) ∨
    (∃ mode, c.table.mode (c.permission s) = .ok mode ∧
      c.derive s = ⟨{ c with mode, primed := true }, c.arrange s mode, .ok mode,
        [.derived (c.permission s) mode]⟩) := by
  unfold derive
  cases h : c.table.mode (c.permission s) with
  | error e => exact .inl ⟨e, rfl, rfl⟩
  | ok mode => exact .inr ⟨mode, rfl, rfl⟩

theorem outcome_derive (c : Controller κ ς) (s : σ) :
    (c.derive s).outcome = c.table.mode (c.permission s) := by
  obtain ⟨_, h, heq⟩ | ⟨_, h, heq⟩ := c.derive_cases s
  · rw [heq, h]
  · rw [heq, h]

/-- An event without a successful derivation leaves the controller alone, and spreads its values or
frees the locked selectors. -/
theorem handle_of_failed (c : Controller κ ς) (s : σ) {e : Event κ}
    (h : e.derives = true → ¬ (c.handle s e).Succeeded) :
    (c.handle s e).controller = c ∧ (c.handle s e).surface =
      if e.submits then setAllDisabled s c.locked false else c.spread s e := by
  have hderive : ∀ t : σ, ¬ (c.derive t).Succeeded →
      (c.derive t).controller = c ∧ (c.derive t).surface = t := by
    intro t ht
    obtain ⟨_, -, heq⟩ | ⟨_, -, heq⟩ := c.derive_cases t
    · rw [heq]
      exact ⟨rfl, rfl⟩
    · rw [heq] at ht
      exact absurd rfl ht
  cases e with
  | select _ => exact hderive _ (h rfl)
  | choose _ _ => exact hderive _ (h rfl)
  | derive => exact hderive _ (h rfl)
  | noteReason _ => exact ⟨rfl, rfl⟩
  | typeReason _ _ => exact ⟨rfl, rfl⟩
  | submit => exact ⟨rfl, rfl⟩

/-! ## What stays as it is -/

/-- A move changes no more of a controller than the mode and the mark. -/
theorem exists_controller_move (c : Controller κ ς) (s : σ) (m : Move κ ς) :
    ∃ mode primed, (c.move s m).controller = { c with mode, primed } := by
  cases m with
  | edit e => exact ⟨c.mode, c.primed, rfl⟩
  | event e =>
    rw [move]
    cases h : e.derives with
    | false => exact ⟨c.mode, c.primed, c.controller_handle_of_not_derives s h⟩
    | true =>
      rw [c.handle_of_derives s h]
      obtain ⟨_, -, h'⟩ | ⟨mode, -, h'⟩ := c.derive_cases (c.spread s e)
      · exact ⟨c.mode, c.primed, by rw [h']⟩
      · exact ⟨mode, true, by rw [h']⟩

theorem layout_move (c : Controller κ ς) (s : σ) (m : Move κ ς) :
    (c.move s m).controller.layout = c.layout := by
  obtain ⟨_, _, h⟩ := c.exists_controller_move s m
  rw [h]

theorem locked_move (c : Controller κ ς) (s : σ) (m : Move κ ς) :
    (c.move s m).controller.locked = c.locked := by
  obtain ⟨_, _, h⟩ := c.exists_controller_move s m
  rw [h]

private theorem exists_controller_play (c : Controller κ ς) (s : σ) (ms : List (Move κ ς)) :
    ∃ mode primed, (c.play s ms).1 = { c with mode, primed } := by
  induction ms generalizing c s with
  | nil => exact ⟨c.mode, c.primed, rfl⟩
  | cons m ms ih =>
    obtain ⟨mode, primed, h⟩ := c.exists_controller_move s m
    obtain ⟨mode', primed', h'⟩ := ih (c.move s m).controller (c.move s m).surface
    refine ⟨mode', primed', ?_⟩
    rw [play_cons, h', h]

@[simp] theorem table_play (c : Controller κ ς) (s : σ) (ms : List (Move κ ς)) :
    (c.play s ms).1.table = c.table := by
  obtain ⟨_, _, h⟩ := c.exists_controller_play s ms
  rw [h]

@[simp] theorem exclusion_play (c : Controller κ ς) (s : σ) (ms : List (Move κ ς)) :
    (c.play s ms).1.exclusion = c.exclusion := by
  obtain ⟨_, _, h⟩ := c.exists_controller_play s ms
  rw [h]

@[simp] theorem layout_play (c : Controller κ ς) (s : σ) (ms : List (Move κ ς)) :
    (c.play s ms).1.layout = c.layout := by
  obtain ⟨_, _, h⟩ := c.exists_controller_play s ms
  rw [h]

@[simp] theorem locked_play (c : Controller κ ς) (s : σ) (ms : List (Move κ ς)) :
    (c.play s ms).1.locked = c.locked := by
  obtain ⟨_, _, h⟩ := c.exists_controller_play s ms
  rw [h]

/-- Taking over a form decides the mode and the mark; the rest of the controller is given. -/
theorem exists_controller_start (table : Table) (exclusion : Exclusion) (layout : Layout κ ς)
    (s : σ) : ∃ mode primed, (start table exclusion layout s).controller =
      { table, exclusion, layout, locked := prefilled layout s, mode, primed } :=
  exists_controller_move { table, exclusion, layout, locked := prefilled layout s }
    (setAllDisabled s (prefilled layout s) true) (.event .derive)

theorem play_concat (c : Controller κ ς) (s : σ) (ms : List (Move κ ς)) (m : Move κ ς) :
    c.play s (ms ++ [m]) =
      (((c.play s ms).1.move (c.play s ms).2 m).controller,
        ((c.play s ms).1.move (c.play s ms).2 m).surface) := by
  rw [play_append, play_cons, play_nil]

/-! ## Successful derivations -/

/-- Whether some derivation of a history is successful. -/
def HasDerived (c : Controller κ ς) (s : σ) : List (Move κ ς) → Prop
  | [] => False
  | m :: ms => (m.derives = true ∧ (c.move s m).Succeeded) ∨
      (c.move s m).controller.HasDerived (c.move s m).surface ms

private theorem primed_derive_iff (c : Controller κ ς) (s : σ) :
    (c.derive s).controller.primed = true ↔ c.primed = true ∨ (c.derive s).Succeeded := by
  obtain ⟨_, -, h⟩ | ⟨mode, -, h⟩ := c.derive_cases s
  · simp [h, Turn.Succeeded, Except.isOk, Except.toBool]
  · simp [h, Turn.Succeeded, Except.isOk, Except.toBool]

theorem primed_move_iff (c : Controller κ ς) (s : σ) (m : Move κ ς) :
    (c.move s m).controller.primed = true ↔
      c.primed = true ∨ (m.derives = true ∧ (c.move s m).Succeeded) := by
  cases m with
  | edit e => simp [move, Move.derives]
  | event e =>
    rw [move, Move.derives]
    cases h : e.derives with
    | false => rw [c.controller_handle_of_not_derives s h]; simp
    | true => rw [c.handle_of_derives s h, primed_derive_iff]; simp

/-- The mark is set exactly when it was before or some derivation since then was successful. -/
theorem primed_play_iff (c : Controller κ ς) (s : σ) (ms : List (Move κ ς)) :
    (c.play s ms).1.primed = true ↔ c.primed = true ∨ c.HasDerived s ms := by
  induction ms generalizing c s with
  | nil => simp [HasDerived]
  | cons m ms ih => rw [play_cons, ih, primed_move_iff, HasDerived, or_assoc]

end Controller

end AccessForm
