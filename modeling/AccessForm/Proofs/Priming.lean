import AccessForm.Proofs.Offer

/-!
# What is selected when a form is taken over

A page can ask for an option of the dropdown in two ways: by a text in the text field, and by an
option that it selected in a dropdown of its own. The text counts first. When a form is taken over
with a permission that has a closed list, though, only one of the two wishes is looked at. If there
is a text at all, the selected option is forgotten, and a text that the list does not offer leaves
the dropdown at its first option, even where the selected option is offered.

So the rule that tries one wish after the other describes the dropdown exactly as long as no text
shadows an option. `value_begin` gives the rule that the controller follows, and
`selected_at_priming` adds where the two rules part.
-/

namespace AccessForm

/-! ## Wishes -/

/-- The first of several wishes that a list offers, and the first text of the list if there is
none. -/
def firstOffered (list wishes : List String) : String :=
  (wishes.find? (· ∈ list)).getD (list.headD "")

@[simp] theorem firstOffered_nil (list : List String) : firstOffered list [] = list.headD "" := rfl

private theorem firstOffered_cons_of_mem {list wishes : List String} {wish : String}
    (h : wish ∈ list) : firstOffered list (wish :: wishes) = wish := by
  simp [firstOffered, h]

private theorem firstOffered_cons_of_notMem {list wishes : List String} {wish : String}
    (h : wish ∉ list) : firstOffered list (wish :: wishes) = firstOffered list wishes := by
  simp [firstOffered, h]

private theorem Control.value_refill (c : Control) (options : List String) (kept : String) :
    (c.refill options kept).value = firstOffered options [kept] := by
  rw [refill]
  dsimp only
  split
  · next hk => rw [firstOffered_cons_of_mem hk]
  · next hk => rw [firstOffered_cons_of_notMem hk, firstOffered_nil]

namespace Setup

variable {f : Setup} {list : List String}

/-- The text that the page put into the text field. -/
def typed (f : Setup) : String := (f.panel.control (.field f.seating.text)).value

/-- The option that the page selected in the dropdown. -/
def held (f : Setup) : String := (f.panel.control (.select f.seating.dropdown)).value

/-- The wishes of the page for the dropdown, in the order in which they count. An empty text is
none. -/
def wishes (f : Setup) : List String :=
  if f.typed = "" then [f.held] else [f.typed, f.held]

/-- Whether a text that a list does not offer stands in front of an option that it offers. The first
option of the list does not need to be asked for. -/
def Shadows (f : Setup) (list : List String) : Prop :=
  f.typed ≠ "" ∧ f.typed ∉ list ∧ f.held ∈ list ∧ f.held ≠ list.headD ""

/-- Trying only the first wish gives another option than trying all of them exactly where a text
shadows an option. -/
theorem firstOffered_take_one_eq_iff :
    firstOffered list (f.wishes.take 1) = firstOffered list f.wishes ↔ ¬ f.Shadows list := by
  unfold wishes Shadows
  by_cases htyped : f.typed = ""
  · simp [htyped]
  rw [if_neg htyped, List.take_succ_cons, List.take_zero]
  by_cases hoffered : f.typed ∈ list
  · rw [firstOffered_cons_of_mem hoffered, firstOffered_cons_of_mem hoffered]
    exact iff_of_true rfl fun h ↦ h.2.1 hoffered
  rw [firstOffered_cons_of_notMem hoffered, firstOffered_cons_of_notMem hoffered, firstOffered_nil]
  by_cases hheld : f.held ∈ list
  · rw [firstOffered_cons_of_mem hheld]
    constructor
    · intro heq h
      exact h.2.2.2 heq.symm
    · intro h
      exact Decidable.byContradiction fun hne ↦ h ⟨htyped, hoffered, hheld, Ne.symm hne⟩
  · rw [firstOffered_cons_of_notMem hheld, firstOffered_nil]
    exact iff_of_true rfl fun h ↦ hheld h.2.2.1

/-! ## The first derivation -/

/-- Locking the selectors does not change what the page asked for. -/
theorem keepsake_lockedPanel (f : Setup) :
    some (f.idle.keepsake f.lockedPanel) = f.wishes.head? := by
  have htext : Surface.value f.lockedPanel f.idle.layout.text = f.typed :=
    Panel.value_setAllDisabled _ _ _ _
  have hdropdown : Surface.value f.lockedPanel f.idle.layout.dropdown = f.held :=
    Panel.value_setAllDisabled _ _ _ _
  rw [Controller.keepsake, htext, hdropdown, wishes]
  by_cases h : f.typed = ""
  · simp [h]
  · simp [h, idle]

private theorem surface_begin_of_choice (h : f.begin.outcome = .ok (.choice list)) :
    f.begin.surface = f.idle.arrange f.lockedPanel (.choice list) ∧
      f.table.mode (f.idle.permission f.lockedPanel) = .ok (.choice list) := by
  have hbegin : f.begin.outcome = (f.idle.derive f.lockedPanel).outcome ∧
      f.begin.surface = (f.idle.derive f.lockedPanel).surface := ⟨rfl, rfl⟩
  obtain ⟨_, -, heq⟩ | ⟨mode, hmode, heq⟩ := f.idle.derive_cases f.lockedPanel
  · rw [hbegin.1, heq] at h
    cases h
  · rw [hbegin.1, heq] at h
    obtain rfl : mode = .choice list := Except.ok.inj h
    exact ⟨by rw [hbegin.2, heq], hmode⟩

private theorem dropdown_begin (h : f.begin.outcome = .ok (.choice list)) :
    f.begin.surface.control (.select f.seating.dropdown) =
      f.exclusion.dress true ((f.lockedPanel.control (.select f.seating.dropdown)).refill list
        (f.idle.keepsake f.lockedPanel)) := by
  rw [(surface_begin_of_choice h).1,
    Controller.control_arrange_dropdown (c := f.idle) (f := f.seating) rfl]
  rfl

theorem value_begin (h : f.begin.outcome = .ok (.choice list)) :
    (f.begin.surface.control (.select f.seating.dropdown)).value =
      firstOffered list (f.wishes.take 1) := by
  have htake : [f.idle.keepsake f.lockedPanel] = f.wishes.take 1 := by
    rw [List.take_one, ← keepsake_lockedPanel]
    rfl
  rw [dropdown_begin h, Exclusion.value_dress, Control.value_refill, htake]

/-! ## The theorem -/

/-- When a form is taken over with a permission that has a closed list, the dropdown offers this
list and holds one of its options: the first wish of the page if the list offers it, otherwise the
first option. This is the first wish that the list offers, as the page may expect, exactly if no
text shadows an option that is to be kept. -/
theorem selected_at_priming (f : Setup) (h : f.begin.outcome = .ok (.choice list)) :
    (f.begin.surface.control (.select f.seating.dropdown)).options = list ∧
    (f.begin.surface.control (.select f.seating.dropdown)).value ∈ list ∧
    (f.begin.surface.control (.select f.seating.dropdown)).value =
      firstOffered list (f.wishes.take 1) ∧
    ((f.begin.surface.control (.select f.seating.dropdown)).value = firstOffered list f.wishes ↔
      ¬ f.Shadows list) := by
  have hne : list ≠ [] :=
    Table.ne_nil_of_allowance? (Table.allowance?_of_mode (surface_begin_of_choice h).2)
  refine ⟨?_, ?_, value_begin h, ?_⟩
  · rw [dropdown_begin h, Exclusion.options_dress]
    rfl
  · rw [dropdown_begin h, Exclusion.value_dress]
    exact Control.value_refill_mem hne _ _
  · rw [value_begin h]
    exact firstOffered_take_one_eq_iff

/-- A form whose page selected an option and put a text into the text field that is none. -/
def shadowed : Setup where
  table :=
    { allowances := ⟨[("view", .oneOf ["prod", "staging"])], by decide +kernel⟩
      named := by decide
      settled := by decide }
  exclusion := .disabling
  seating := { permission := [0], text := 0, dropdown := 1 }
  panel := .ofLists [{ name := "argument", value := "mars" }]
    [{ name := "permission_name", options := ["view"], value := "view" },
      { name := "argument", options := ["prod", "staging"], value := "staging" }]

/-- There the list offers the selected option, and it is lost. -/
theorem selected_at_priming_shadowed :
    shadowed.begin.outcome = .ok (.choice ["prod", "staging"]) ∧
      firstOffered ["prod", "staging"] shadowed.wishes = "staging" ∧
      (shadowed.begin.surface.control (.select 1)).value = "prod" ∧
      (shadowed.begin.surface.control (.select 1)).value ≠
        firstOffered ["prod", "staging"] shadowed.wishes := by
  have hbegin : shadowed.begin.outcome = .ok (.choice ["prod", "staging"]) := by rfl
  obtain ⟨-, -, hvalue, hrule⟩ := shadowed.selected_at_priming hbegin
  have hshadows : shadowed.Shadows ["prod", "staging"] := by
    rw [Shadows]
    decide +kernel
  exact ⟨hbegin, by decide +kernel, hvalue.trans (by decide +kernel), fun heq ↦
    hrule.mp heq hshadows⟩

end Setup

end AccessForm
