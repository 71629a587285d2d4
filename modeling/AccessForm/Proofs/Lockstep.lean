import AccessForm.Proofs.Derivation

/-!
# Forms in lockstep

Two forms on two surfaces, with elements that correspond to each other. When the surfaces agree
about the elements of the one form and their counterparts, and go on to agree after each write to
both, then taking over the one form and taking over the other have the same outcome, report the
same, and leave surfaces that agree again (`Lockstep.start`).

Nothing is said about elements outside of the forms. This is how the binding of a form is compared
on two documents that have no more than this form in common.

Less will do. A controller never adds an option to a dropdown that it has not cleared before, and
reads the options of selectors only. Two kinds of dropdowns that differ in what a single new option
does to them are in `Accord` all the same, when they agree after each refilling. From there on the
two forms also answer every call alike (`Accord.select`, `Concord.noteReason`, `Accord.release`).
-/

namespace AccessForm

variable {σ σ' κ κ' ς ς' : Type}

/-! ## Corresponding elements -/

/-- The controls of a form. -/
def Layout.controls (l : Layout κ ς) : List κ :=
  l.text :: l.dropdown :: (l.permission ++ l.group.toList)

/-- The layout with other elements in the same roles. -/
def Layout.map (f : κ → κ') (g : ς → ς') (l : Layout κ ς) : Layout κ' ς' where
  permission := l.permission.map f
  group := l.group.map f
  text := f l.text
  dropdown := f l.dropdown
  reason := l.reason.map f
  argumentSections := l.argumentSections.map g
  reasonSections := l.reasonSections.map g

/-- The controller with other elements in the same roles. -/
def Controller.map (f : κ → κ') (g : ς → ς') (c : Controller κ ς) : Controller κ' ς' where
  table := c.table
  exclusion := c.exclusion
  layout := c.layout.map f g
  locked := c.locked.map f
  mode := c.mode
  primed := c.primed

theorem Layout.mem_controls_of_permission {l : Layout κ ς} {k : κ} (h : k ∈ l.permission) :
    k ∈ l.controls :=
  List.mem_cons_of_mem _ (List.mem_cons_of_mem _ (List.mem_append_left _ h))

theorem Layout.mem_controls_of_selector {l : Layout κ ς} {k : κ}
    (h : k ∈ l.permission ++ l.group.toList) : k ∈ l.controls :=
  List.mem_cons_of_mem _ (List.mem_cons_of_mem _ h)

variable [Surface σ κ ς] [Surface σ' κ' ς']

/-- A relation between surfaces that agree about the elements of a form and their counterparts, and
go on to agree when both are written to. -/
structure Lockstep (f : κ → κ') (g : ς → ς') (l : Layout κ ς) (ρ : σ → σ' → Prop) : Prop where
  /-- The controls have the same values. -/
  value {s : σ} {t : σ'} : ρ s t → ∀ k ∈ l.controls, Surface.value t (f k) = Surface.value s k
  /-- They have the same names. -/
  name {s : σ} {t : σ'} : ρ s t → ∀ k ∈ l.controls, Surface.name t (f k) = Surface.name s k
  /-- They are both disabled or both enabled. -/
  isDisabled {s : σ} {t : σ'} : ρ s t → ∀ k ∈ l.controls,
    Surface.isDisabled t (f k) = Surface.isDisabled s k
  /-- They offer the same. -/
  options {s : σ} {t : σ'} : ρ s t → ∀ k ∈ l.controls,
    Surface.options t (f k) = Surface.options s k
  /-- Both get a value. -/
  setValue {s : σ} {t : σ'} : ρ s t → ∀ k ∈ l.controls, ∀ v,
    ρ (Surface.setValue s k v) (Surface.setValue t (f k) v)
  /-- Both get a name. -/
  setName {s : σ} {t : σ'} : ρ s t → ∀ k ∈ l.controls, ∀ n,
    ρ (Surface.setName s k n) (Surface.setName t (f k) n)
  /-- Both have to be filled in, or not. -/
  setRequired {s : σ} {t : σ'} : ρ s t → ∀ k ∈ l.controls, ∀ b,
    ρ (Surface.setRequired s k b) (Surface.setRequired t (f k) b)
  /-- Both are disabled, or enabled. -/
  setDisabled {s : σ} {t : σ'} : ρ s t → ∀ k ∈ l.controls, ∀ b,
    ρ (Surface.setDisabled s k b) (Surface.setDisabled t (f k) b)
  /-- Both are shown, or hidden. -/
  setVisible {s : σ} {t : σ'} : ρ s t → ∀ k ∈ l.controls, ∀ b,
    ρ (Surface.setVisible s k b) (Surface.setVisible t (f k) b)
  /-- Both dropdowns lose their options. -/
  clearOptions {s : σ} {t : σ'} : ρ s t →
    ρ (Surface.clearOptions s l.dropdown) (Surface.clearOptions t (f l.dropdown))
  /-- Both get an option. -/
  appendOption {s : σ} {t : σ'} : ρ s t → ∀ v,
    ρ (Surface.appendOption s l.dropdown v) (Surface.appendOption t (f l.dropdown) v)
  /-- Two sections are shown, or hidden. -/
  showSection {s : σ} {t : σ'} : ρ s t → ∀ i ∈ l.argumentSections ++ l.reasonSections, ∀ b,
    ρ (Surface.showSection s i b) (Surface.showSection t (g i) b)

/-- A relation between surfaces that agree about what the controller of a form reads, and go on to
agree when it writes to both. Its dropdowns are written to as a whole. -/
structure Accord (f : κ → κ') (g : ς → ς') (l : Layout κ ς) (ρ : σ → σ' → Prop) : Prop where
  /-- The controls have the same values. -/
  value {s : σ} {t : σ'} : ρ s t → ∀ k ∈ l.controls, Surface.value t (f k) = Surface.value s k
  /-- The selectors have the same names. -/
  name {s : σ} {t : σ'} : ρ s t → ∀ k ∈ l.permission ++ l.group.toList,
    Surface.name t (f k) = Surface.name s k
  /-- They are both disabled or both enabled. -/
  isDisabled {s : σ} {t : σ'} : ρ s t → ∀ k ∈ l.permission ++ l.group.toList,
    Surface.isDisabled t (f k) = Surface.isDisabled s k
  /-- They offer the same. -/
  options {s : σ} {t : σ'} : ρ s t → ∀ k ∈ l.permission ++ l.group.toList,
    Surface.options t (f k) = Surface.options s k
  /-- Both controls get a value. -/
  setValue {s : σ} {t : σ'} : ρ s t → ∀ k ∈ l.controls, ∀ v,
    ρ (Surface.setValue s k v) (Surface.setValue t (f k) v)
  /-- Both get a name. -/
  setName {s : σ} {t : σ'} : ρ s t → ∀ k ∈ l.controls, ∀ n,
    ρ (Surface.setName s k n) (Surface.setName t (f k) n)
  /-- Both have to be filled in, or not. -/
  setRequired {s : σ} {t : σ'} : ρ s t → ∀ k ∈ l.controls, ∀ b,
    ρ (Surface.setRequired s k b) (Surface.setRequired t (f k) b)
  /-- Both are disabled, or enabled. -/
  setDisabled {s : σ} {t : σ'} : ρ s t → ∀ k ∈ l.controls, ∀ b,
    ρ (Surface.setDisabled s k b) (Surface.setDisabled t (f k) b)
  /-- Both are shown, or hidden. -/
  setVisible {s : σ} {t : σ'} : ρ s t → ∀ k ∈ l.controls, ∀ b,
    ρ (Surface.setVisible s k b) (Surface.setVisible t (f k) b)
  /-- Both dropdowns get new options. -/
  refill {s : σ} {t : σ'} : ρ s t → ∀ vs : List String,
    ρ (vs.foldl (Surface.appendOption · l.dropdown ·) (Surface.clearOptions s l.dropdown))
      (vs.foldl (Surface.appendOption · (f l.dropdown) ·)
        (Surface.clearOptions t (f l.dropdown)))
  /-- Two sections are shown, or hidden. -/
  showSection {s : σ} {t : σ'} : ρ s t → ∀ i ∈ l.argumentSections ++ l.reasonSections, ∀ b,
    ρ (Surface.showSection s i b) (Surface.showSection t (g i) b)

/-- What the two controllers do in one call. -/
structure Turn.Matches (f : κ → κ') (g : ς → ς') (ρ : σ → σ' → Prop) (turn : Turn σ κ ς)
    (turn' : Turn σ' κ' ς') : Prop where
  /-- They are the same apart from the elements. -/
  controller : turn'.controller = turn.controller.map f g
  /-- The surfaces agree. -/
  surface : ρ turn.surface turn'.surface
  /-- The answers are the same. -/
  outcome : turn'.outcome = turn.outcome
  /-- The reports are the same. -/
  notices : turn'.notices = turn.notices

/-! ## Series of writes -/

private theorem related_foldl {ρ : σ → σ' → Prop} {s : σ} {t : σ'} {α α' : Type} {op : σ → α → σ}
    {op' : σ' → α' → σ'} {m : α → α'} {as : List α}
    (h : ∀ {s t}, ρ s t → ∀ a ∈ as, ρ (op s a) (op' t (m a))) (hst : ρ s t) :
    ρ (as.foldl op s) ((as.map m).foldl op' t) := by
  induction as generalizing s t with
  | nil => exact hst
  | cons a as ih =>
    have hhead : ρ (op s a) (op' t (m a)) := h hst a List.mem_cons_self
    exact ih (fun hst b hb ↦ h hst b (List.mem_cons_of_mem _ hb)) hhead

/-- Publishing keeps the agreement where the copies have the same values and go on to have them. -/
theorem related_publish {f : κ → κ'} {ρ : σ → σ' → Prop} {s : σ} {t : σ'} {copies : List κ}
    (hvalue : ∀ {s t}, ρ s t → ∀ k ∈ copies, Surface.value t (f k) = Surface.value s k)
    (hset : ∀ {s t}, ρ s t → ∀ k ∈ copies, ∀ v,
      ρ (Surface.setValue s k v) (Surface.setValue t (f k) v))
    (hst : ρ s t) (v : String) :
    ρ (Copies.publish s copies v) (Copies.publish t (copies.map f) v) := by
  refine related_foldl (fun hst k hk ↦ ?_) hst
  rw [Copies.update, Copies.update, hvalue hst k hk]
  split
  · exact hst
  · exact hset hst k hk v

/-- Dropdowns that agree at each step of a refilling agree at its end. -/
theorem Lockstep.accord {f : κ → κ'} {g : ς → ς'} {l : Layout κ ς} {ρ : σ → σ' → Prop}
    (h : Lockstep f g l ρ) : Accord f g l ρ where
  value := h.value
  name hst k hk := h.name hst k (Layout.mem_controls_of_selector hk)
  isDisabled hst k hk := h.isDisabled hst k (Layout.mem_controls_of_selector hk)
  options hst k hk := h.options hst k (Layout.mem_controls_of_selector hk)
  setValue := h.setValue
  setName := h.setName
  setRequired := h.setRequired
  setDisabled := h.setDisabled
  setVisible := h.setVisible
  refill {s t} hst vs := by
    have hrefill : ρ (vs.foldl (Surface.appendOption · l.dropdown ·)
          (Surface.clearOptions s l.dropdown))
        ((vs.map id).foldl (Surface.appendOption · (f l.dropdown) ·)
          (Surface.clearOptions t (f l.dropdown))) :=
      related_foldl (ρ := ρ) (fun hst v _ ↦ h.appendOption hst v) (h.clearOptions hst)
    rwa [List.map_id] at hrefill
  showSection := h.showSection

namespace Accord

variable {f : κ → κ'} {g : ς → ς'} {l : Layout κ ς} {ρ : σ → σ' → Prop} {s : σ} {t : σ'}

variable (h : Accord f g l ρ)
include h

private theorem setAllDisabled (hst : ρ s t) {ks : List κ} (hks : ∀ k ∈ ks, k ∈ l.controls)
    (b : Bool) : ρ (Controller.setAllDisabled s ks b) (Controller.setAllDisabled t (ks.map f) b) :=
  related_foldl (fun hst k hk ↦ h.setDisabled hst k (hks k hk) b) hst

/-! ## Derivations -/

variable {c : Controller κ ς} (hc : c.layout = l)
include hc

theorem permission (hst : ρ s t) : (c.map f g).permission t = c.permission s := by
  rw [Controller.permission, Controller.permission, Controller.map, Layout.map, hc]
  cases hp : l.permission with
  | nil => rfl
  | cons k ks => exact h.value hst k (Layout.mem_controls_of_permission (hp ▸ List.mem_cons_self))

private theorem keepsake (hst : ρ s t) : (c.map f g).keepsake t = c.keepsake s := by
  rw [Controller.keepsake, Controller.keepsake, Controller.map, Layout.map, hc]
  dsimp only
  rw [h.value hst l.text (by simp [Layout.controls]),
    h.value hst l.dropdown (by simp [Layout.controls])]

private theorem rebuild (hst : ρ s t) (options : List String) :
    ρ (c.rebuild s options) ((c.map f g).rebuild t options) := by
  have hkeepsake := h.keepsake hc hst
  subst hc
  have hrefill := h.refill hst options
  rw [Controller.rebuild, Controller.rebuild, hkeepsake]
  split
  · exact h.setValue hrefill _ (by simp [Layout.controls]) _
  · exact hrefill

private theorem showSections (hst : ρ s t) (shown : Bool) :
    ρ (c.showSections s shown) ((c.map f g).showSections t shown) := by
  rw [Controller.showSections, Controller.showSections, Controller.map, Layout.map, hc,
    ← List.map_append]
  exact related_foldl (fun hst i hi ↦ h.showSection hst i hi shown) hst

private theorem fill (hst : ρ s t) (mode : Mode) : ρ (c.fill s mode) ((c.map f g).fill t mode) := by
  cases mode with
  | unselected => exact hst
  | freeText =>
    rw [Controller.fill, Controller.fill]
    subst hc
    show ρ _ (if c.primed = true ∧ c.mode ≠ .freeText then _ else t)
    split
    · exact h.setValue hst _ (by simp [Layout.controls]) _
    · exact hst
  | choice options => exact h.rebuild hc hst options

omit hc in
private theorem mark (e : Exclusion) (hst : ρ s t) {k : κ} (hk : k ∈ l.controls) (b : Bool) :
    ρ (e.mark s k b) (e.mark t (f k) b) := by
  have hrest : ∀ {s t}, ρ s t → ρ (Surface.setVisible (Surface.setRequired s k b) k b)
      (Surface.setVisible (Surface.setRequired t (f k) b) (f k) b) := fun hst ↦
    h.setVisible (h.setRequired hst k hk b) k hk b
  cases e with
  | disabling => exact hrest (h.setDisabled hst k hk _)
  | naming submitted ignored => exact hrest (h.setName hst k hk _)

private theorem arrange (hst : ρ s t) (mode : Mode) :
    ρ (c.arrange s mode) ((c.map f g).arrange t mode) := by
  have hfill := h.fill hc (h.showSections hc hst mode.showsSections) mode
  subst hc
  exact h.mark _ (h.mark _ hfill (by simp [Layout.controls]) _) (by simp [Layout.controls]) _

/-- A derivation has the same outcome, and the surfaces agree afterwards. -/
theorem derive (hst : ρ s t) : Turn.Matches f g ρ (c.derive s) ((c.map f g).derive t) := by
  have hpermission := h.permission hc hst
  have htable : (c.map f g).table = c.table := rfl
  rw [Controller.derive, Controller.derive, hpermission, htable]
  cases c.table.mode (c.permission s) with
  | error e => exact ⟨rfl, hst, rfl, rfl⟩
  | ok mode => exact ⟨rfl, h.arrange hc hst mode, rfl, rfl⟩

/-! ## Calls -/

theorem select (hst : ρ s t) (v : String) :
    Turn.Matches f g ρ (c.select s v) ((c.map f g).select t v) := by
  have hcopies : (c.map f g).layout.permission = c.layout.permission.map f := rfl
  rw [Controller.select, Controller.select, hcopies, hc]
  refine h.derive hc (related_publish (fun hst k hk ↦ ?_) (fun hst k hk v ↦ ?_) hst v)
  · exact h.value hst k (Layout.mem_controls_of_permission hk)
  · exact h.setValue hst k (Layout.mem_controls_of_permission hk) v

omit hc in
theorem release (hst : ρ s t) (hlocked : ∀ k ∈ c.locked, k ∈ l.controls) :
    Turn.Matches f g ρ (c.release s) ((c.map f g).release t) := by
  refine ⟨rfl, h.setAllDisabled hst hlocked false, rfl, ?_⟩
  simp only [Controller.release, Controller.map, List.isEmpty_map, List.length_map]

/-! ## Construction -/

omit hc in
private theorem prefilled (hst : ρ s t) :
    Controller.prefilled (l.map f g) t = (Controller.prefilled l s).map f := by
  have hselectors : (l.map f g).permission ++ (l.map f g).group.toList =
      (l.permission ++ l.group.toList).map f := by
    rw [List.map_append, Layout.map]
    cases l.group <;> rfl
  rw [Controller.prefilled, Controller.prefilled, hselectors, List.filter_map]
  refine congrArg _ (List.filter_congr fun k hk ↦ ?_)
  rw [Function.comp_apply, h.options hst k hk, h.isDisabled hst k hk]

omit hc in
private theorem missingWarning (table : Table) (hst : ρ s t) :
    Controller.missingWarning table (l.map f g) t = Controller.missingWarning table l s := by
  rw [Controller.missingWarning, Controller.missingWarning, Layout.map]
  cases hp : l.permission with
  | nil => rfl
  | cons k ks =>
    have hmem : k ∈ l.permission ++ l.group.toList :=
      List.mem_append_left _ (hp ▸ List.mem_cons_self)
    rw [List.map_cons]
    dsimp only
    rw [h.options hst k hmem]

omit hc in
theorem start (table : Table) (exclusion : Exclusion) (hst : ρ s t) :
    Turn.Matches f g ρ (Controller.start table exclusion l s)
      (Controller.start table exclusion (l.map f g) t) := by
  have hselectors : ∀ k ∈ Controller.prefilled l s, k ∈ l.permission ++ l.group.toList :=
    fun k hk ↦ (List.mem_filter.mp hk).1
  have hnames :
      (Controller.prefilled (l.map f g) t).map (fun k ↦ Notice.locked (Surface.name t k)) =
        (Controller.prefilled l s).map fun k ↦ Notice.locked (Surface.name s k) := by
    rw [h.prefilled hst, List.map_map]
    exact List.map_congr_left fun k hk ↦ congrArg _ (h.name hst k (hselectors k hk))
  obtain ⟨hcontroller, hsurface, houtcome, hnotices⟩ :=
    h.derive (c := { table, exclusion, layout := l, locked := Controller.prefilled l s }) rfl
      (h.setAllDisabled hst (fun k hk ↦ Layout.mem_controls_of_selector (hselectors k hk)) true)
  rw [Controller.start, Controller.start, hnames, h.missingWarning table hst, h.prefilled hst]
  refine ⟨hcontroller, hsurface, houtcome, ?_⟩
  exact congrArg (_ ++ _ ++ ·) hnotices

end Accord

theorem Lockstep.start {f : κ → κ'} {g : ς → ς'} {l : Layout κ ς} {ρ : σ → σ' → Prop} {s : σ}
    {t : σ'} (h : Lockstep f g l ρ) (table : Table) (exclusion : Exclusion) (hst : ρ s t) :
    (Controller.start table exclusion (l.map f g) t).controller =
        (Controller.start table exclusion l s).controller.map f g ∧
      (Controller.start table exclusion (l.map f g) t).notices =
        (Controller.start table exclusion l s).notices ∧
      ρ (Controller.start table exclusion l s).surface
        (Controller.start table exclusion (l.map f g) t).surface := by
  obtain ⟨hcontroller, hsurface, -, hnotices⟩ := h.accord.start table exclusion hst
  exact ⟨hcontroller, hnotices, hsurface⟩

/-! ## Reasons -/

/-- An accord that extends to the copies of the reason field. -/
structure Concord (f : κ → κ') (g : ς → ς') (l : Layout κ ς) (ρ : σ → σ' → Prop) : Prop
    extends Accord f g l ρ where
  /-- The copies have the same values. -/
  reasonValue {s : σ} {t : σ'} : ρ s t → ∀ k ∈ l.reason, Surface.value t (f k) = Surface.value s k
  /-- Both get a reason. -/
  setReason {s : σ} {t : σ'} : ρ s t → ∀ k ∈ l.reason, ∀ v,
    ρ (Surface.setValue s k v) (Surface.setValue t (f k) v)

theorem Concord.noteReason {f : κ → κ'} {g : ς → ς'} {l : Layout κ ς} {ρ : σ → σ' → Prop} {s : σ}
    {t : σ'} (h : Concord f g l ρ) {c : Controller κ ς} (hc : c.layout = l) (hst : ρ s t)
    (v : String) : Turn.Matches f g ρ (c.noteReason s v) ((c.map f g).noteReason t v) := by
  refine ⟨rfl, ?_, rfl, rfl⟩
  have hcopies : (c.map f g).layout.reason = c.layout.reason.map f := rfl
  rw [Controller.noteReason, Controller.noteReason, hcopies, hc]
  exact related_publish h.reasonValue h.setReason hst v

end AccessForm
