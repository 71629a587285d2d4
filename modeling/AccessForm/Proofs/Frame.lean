import AccessForm.Proofs.Derivation

/-!
# Frames

What a form leaves alone, whatever its elements are. A frame is a reflexive and transitive relation
between the elements before and after. When every single write that a controller may make lies
within a frame, so does everything the controller does: `Within.handle` is about events and
`Within.start` about taking over.

The writes are listed by the roles of the elements, because that is what a frame can rely on: the
controller names only the argument fields, and only when its exclusion works by names.
-/

namespace AccessForm

/-- A relation that a series of writes can not leave when no single write does. -/
structure Frame {σ : Type} (ρ : σ → σ → Prop) : Prop where
  /-- Nothing done. -/
  refl (s : σ) : ρ s s
  /-- One thing done after another. -/
  trans {s t u : σ} : ρ s t → ρ t u → ρ s u

namespace Frame

variable {σ κ ς : Type} {ρ : σ → σ → Prop}

private theorem foldl (hρ : Frame ρ) {α : Type} {op : σ → α → σ} {as : List α}
    (h : ∀ s, ∀ a ∈ as, ρ s (op s a)) (s : σ) : ρ s (as.foldl op s) := by
  induction as generalizing s with
  | nil => exact hρ.refl s
  | cons a as ih =>
    have hhead : ρ s (op s a) := h s a List.mem_cons_self
    exact hρ.trans hhead (ih (fun t b hb ↦ h t b (List.mem_cons_of_mem _ hb)) _)

variable [Surface σ κ ς]

private theorem publish (hρ : Frame ρ) {copies : List κ}
    (h : ∀ s, ∀ k ∈ copies, ∀ v, ρ s (Surface.setValue s k v)) (s : σ) (v : String) :
    ρ s (Copies.publish s copies v) := by
  refine hρ.foldl (fun t k hk ↦ ?_) s
  rw [Copies.update]
  split
  · exact hρ.refl t
  · exact h t k hk v

theorem setAllDisabled (hρ : Frame ρ) {controls : List κ}
    (h : ∀ s, ∀ k ∈ controls, ∀ b, ρ s (Surface.setDisabled s k b)) (s : σ) (b : Bool) :
    ρ s (Controller.setAllDisabled s controls b) :=
  hρ.foldl (fun t k hk ↦ h t k hk b) s

end Frame

/-! ## Controllers -/

namespace Controller

variable {σ κ ς : Type} [Surface σ κ ς] {ρ : σ → σ → Prop} {c : Controller κ ς}

/-- The elements that an event is about. -/
def Event.copies : Event κ → List κ
  | .choose copy _ | .typeReason copy _ => [copy]
  | .select _ | .derive | .noteReason _ | .submit => []

theorem spread_within (hρ : Frame ρ) {e : Event κ}
    (h : ∀ s, ∀ k ∈ c.layout.permission ++ c.layout.reason ++ e.copies, ∀ v,
      ρ s (Surface.setValue s k v)) (s : σ) : ρ s (c.spread s e) := by
  have hpermission : ∀ s, ∀ k ∈ c.layout.permission, ∀ v, ρ s (Surface.setValue s k v) :=
    fun s k hk ↦ h s k (by simp [hk])
  have hreason : ∀ s, ∀ k ∈ c.layout.reason, ∀ v, ρ s (Surface.setValue s k v) :=
    fun s k hk ↦ h s k (by simp [hk])
  cases e with
  | select _ => exact hρ.publish hpermission _ _
  | choose copy v =>
    have hcopy : ρ s (Surface.setValue s copy v) := h s copy (by simp [Event.copies]) v
    exact hρ.trans hcopy (hρ.publish hpermission _ _)
  | derive => exact hρ.refl s
  | noteReason _ => exact hρ.publish hreason _ _
  | typeReason copy v =>
    have hcopy : ρ s (Surface.setValue s copy v) := h s copy (by simp [Event.copies]) v
    exact hρ.trans hcopy (hρ.publish hreason _ _)
  | submit => exact hρ.refl s

/-- A controller whose writes all lie within a frame. -/
structure Within (c : Controller κ ς) (ρ : σ → σ → Prop) : Prop extends Frame ρ where
  /-- Copies and argument fields get values. -/
  setValue (s : σ) (k : κ) (v : String) :
    k ∈ c.layout.text :: c.layout.dropdown :: (c.layout.permission ++ c.layout.reason) →
      ρ s (Surface.setValue s k v)
  /-- Locked selectors are disabled and enabled. -/
  lock (s : σ) (k : κ) (b : Bool) : k ∈ c.locked → ρ s (Surface.setDisabled s k b)
  /-- Argument fields get names if this is how one of them is excluded. -/
  setName (s : σ) (k : κ) (n : String) : c.exclusion ≠ .disabling →
    k ∈ [c.layout.text, c.layout.dropdown] → ρ s (Surface.setName s k n)
  /-- Otherwise they are disabled and enabled. -/
  setDisabled (s : σ) (k : κ) (b : Bool) : c.exclusion = .disabling →
    k ∈ [c.layout.text, c.layout.dropdown] → ρ s (Surface.setDisabled s k b)
  /-- Argument fields are required or not. -/
  setRequired (s : σ) (k : κ) (b : Bool) :
    k ∈ [c.layout.text, c.layout.dropdown] → ρ s (Surface.setRequired s k b)
  /-- Argument fields are shown or hidden. -/
  setVisible (s : σ) (k : κ) (b : Bool) :
    k ∈ [c.layout.text, c.layout.dropdown] → ρ s (Surface.setVisible s k b)
  /-- The dropdown loses its options. -/
  clearOptions (s : σ) : ρ s (Surface.clearOptions s c.layout.dropdown)
  /-- The dropdown gets options. -/
  appendOption (s : σ) (v : String) : ρ s (Surface.appendOption s c.layout.dropdown v)
  /-- Sections are shown and hidden. -/
  showSection (s : σ) (i : ς) (b : Bool) :
    i ∈ c.layout.argumentSections ++ c.layout.reasonSections → ρ s (Surface.showSection s i b)

namespace Within

private theorem rebuild (h : c.Within ρ) (s : σ) (options : List String) :
    ρ s (c.rebuild s options) := by
  have hrefill : ρ s (options.foldl (Surface.appendOption · c.layout.dropdown ·)
      (Surface.clearOptions s c.layout.dropdown)) :=
    h.trans (h.clearOptions s) (h.foldl (fun t v _ ↦ h.appendOption t v) _)
  rw [Controller.rebuild]
  split
  · exact h.trans hrefill (h.setValue _ _ _ (by simp))
  · exact hrefill

theorem fill (h : c.Within ρ) (s : σ) (mode : Mode) : ρ s (c.fill s mode) := by
  cases mode with
  | unselected => exact h.refl s
  | freeText =>
    rw [Controller.fill]
    split
    · exact h.setValue s _ _ (by simp)
    · exact h.refl s
  | choice options => exact h.rebuild s options

theorem mark (h : c.Within ρ) (s : σ) {k : κ} (hk : k ∈ [c.layout.text, c.layout.dropdown])
    (b : Bool) : ρ s (c.exclusion.mark s k b) := by
  have hrest : ∀ t, ρ t (Surface.setVisible (Surface.setRequired t k b) k b) := fun t ↦
    h.trans (h.setRequired t k b hk) (h.setVisible _ k b hk)
  cases he : c.exclusion with
  | disabling => exact h.trans (h.setDisabled s k _ he hk) (hrest _)
  | naming submitted ignored => exact h.trans (h.setName s k _ (by rw [he]; simp) hk) (hrest _)

theorem showSections (h : c.Within ρ) (s : σ) (shown : Bool) : ρ s (c.showSections s shown) :=
  h.foldl (fun t i hi ↦ h.showSection t i shown hi) s

theorem arrange (h : c.Within ρ) (s : σ) (mode : Mode) : ρ s (c.arrange s mode) := by
  have hfill : ρ s (c.fill (c.showSections s mode.showsSections) mode) :=
    h.trans (h.showSections s _) (h.fill _ mode)
  exact h.trans hfill (h.trans (h.mark _ (by simp) _) (h.mark _ (by simp) _))

private theorem derive (h : c.Within ρ) (s : σ) : ρ s (c.derive s).surface := by
  obtain ⟨_, -, heq⟩ | ⟨mode, -, heq⟩ := c.derive_cases s
  · rw [heq]
    exact h.refl s
  · rw [heq]
    exact h.arrange s mode

/-- An event lies within the frame if the element that it is about may be written to. -/
theorem handle (h : c.Within ρ) {e : Event κ}
    (he : ∀ s, ∀ k ∈ e.copies, ∀ v, ρ s (Surface.setValue s k v)) (s : σ) :
    ρ s (c.handle s e).surface := by
  have hspread : ρ s (c.spread s e) := by
    refine spread_within h.toFrame (fun t k hk v ↦ ?_) s
    rcases List.mem_append.mp hk with hk | hk
    · exact h.setValue t k v (List.mem_cons_of_mem _ (List.mem_cons_of_mem _ hk))
    · exact he t k hk v
  cases hd : e.derives with
  | true =>
    rw [c.handle_of_derives s hd]
    exact h.trans hspread (h.derive _)
  | false =>
    rcases c.surface_handle_of_not_derives s hd with heq | heq
    · rw [heq]
      exact hspread
    · rw [heq]
      exact h.setAllDisabled (fun t k hk b ↦ h.lock t k b hk) s false

theorem start {table : Table} {exclusion : Exclusion} {layout : Layout κ ς} {s : σ}
    (h : Within { table, exclusion, layout, locked := prefilled layout s } ρ) :
    ρ s (Controller.start table exclusion layout s).surface :=
  h.trans (h.setAllDisabled (fun t k hk b ↦ h.lock t k b hk) s true) (h.derive _)

private theorem of_mode (h : c.Within ρ) (mode : Mode) (primed : Bool) :
    Within { c with mode, primed } ρ :=
  { h with }

end Within

/-! ### Histories -/

/-- Whether the writes of others that come with a move lie within a frame. -/
def Allows (ρ : σ → σ → Prop) : Move κ ς → Prop
  | .event e => ∀ s, ∀ k ∈ e.copies, ∀ v, ρ s (Surface.setValue s k v)
  | .edit e => ∀ s, ρ s (e.apply s)

/-- A history lies within the frame if the writes of others do. -/
theorem Within.play (h : c.Within ρ) {ms : List (Move κ ς)} (hms : ∀ m ∈ ms, Allows ρ m) (s : σ) :
    ρ s (c.play s ms).2 := by
  induction ms generalizing c s with
  | nil => exact h.refl s
  | cons m ms ih =>
    have hmove : ρ s (c.move s m).surface := by
      have hm : Allows ρ m := hms m List.mem_cons_self
      cases m with
      | event e => exact h.handle hm s
      | edit e => exact hm s
    obtain ⟨mode, primed, hc⟩ := c.exists_controller_move s m
    rw [play_cons, hc]
    exact h.trans hmove
      (ih (h.of_mode mode primed) (fun m' hm' ↦ hms m' (List.mem_cons_of_mem _ hm')) _)

end Controller

end AccessForm
