import AccessForm.Form.Surface
import AccessForm.Settings

/-!
# Panels

Form elements in memory. A text field holds any text; a dropdown only ever holds one of its
options or nothing, as in a browser: what is not offered cannot be selected, and the first option
that an empty dropdown gets is selected at once.
-/

namespace AccessForm

/-! ## Controls -/

/-- The state of one control. A text field has no options. -/
structure Control where
  /-- What was entered or selected. -/
  value : String := ""
  /-- The name under which the value is submitted. -/
  name : String := ""
  /-- Whether the control has to be filled in. -/
  required : Bool := false
  /-- Whether the control is left out of a submission. -/
  disabled : Bool := false
  /-- Whether the control is shown. -/
  visible : Bool := true
  /-- What a dropdown offers. -/
  options : List String := []
  deriving DecidableEq, Repr

namespace Control

/-- A text field takes over any text. -/
def enter (c : Control) (v : String) : Control := { c with value := v }

/-- A dropdown takes over an offered value; anything else clears the selection. -/
def choose (c : Control) (v : String) : Control :=
  { c with value := if v ∈ c.options then v else "" }

/-- A dropdown without options has no value either. -/
def clear (c : Control) : Control := { c with options := [], value := "" }

/-- A further option; the first one is selected. -/
def append (c : Control) (v : String) : Control :=
  { c with
    value := if c.options = [] then v else c.value
    options := c.options ++ [v] }

/-- A dropdown holds nothing or one of its options. -/
def Coherent (c : Control) : Prop := c.value = "" ∨ c.value ∈ c.options

/-- Whether the value would be submitted as the argument of a form with standard settings. -/
def submitsArgument (c : Control) : Bool := !c.disabled && c.name = defaultArgumentName

/-! ### The value of a dropdown -/

theorem coherent_choose (c : Control) (v : String) : (c.choose v).Coherent := by
  unfold Coherent choose
  by_cases h : v ∈ c.options <;> simp [h]

theorem coherent_clear (c : Control) : c.clear.Coherent := .inl rfl

theorem Coherent.append {c : Control} (h : c.Coherent) (v : String) : (c.append v).Coherent := by
  unfold Coherent Control.append
  by_cases ho : c.options = []
  · simp [ho]
  · rcases h with h | h <;> simp [ho, h]

end Control

/-! ## Panels -/

/-- A handle of a control: the number of a text field or of a dropdown. -/
inductive Ref where
  | field (index : Nat)
  | select (index : Nat)
  deriving DecidableEq, Repr

/-- The state of every control and every section. -/
structure Panel where
  /-- The controls. -/
  control : Ref → Control
  /-- Whether a section is shown. -/
  shown : Nat → Bool

namespace Panel

/-- The panel with one control changed. -/
def modify (p : Panel) (r : Ref) (f : Control → Control) : Panel :=
  { p with control := fun r' ↦ if r' = r then f (p.control r') else p.control r' }

@[simp] theorem control_modify (p : Panel) (r r' : Ref) (f : Control → Control) :
    (p.modify r f).control r' = if r' = r then f (p.control r') else p.control r' := rfl

@[simp] theorem shown_modify (p : Panel) (r : Ref) (f : Control → Control) :
    (p.modify r f).shown = p.shown := rfl

/-- How a control takes over a value: by its kind. -/
def take : Ref → Control → String → Control
  | .field _ => Control.enter
  | .select _ => Control.choose

instance : Surface Panel Ref Nat where
  value p r := (p.control r).value
  name p r := (p.control r).name
  isDisabled p r := (p.control r).disabled
  options p r := (p.control r).options
  setValue p r v := p.modify r (take r · v)
  setName p r n := p.modify r ({ · with name := n })
  setRequired p r b := p.modify r ({ · with required := b })
  setDisabled p r b := p.modify r ({ · with disabled := b })
  setVisible p r b := p.modify r ({ · with visible := b })
  clearOptions p r := p.modify r Control.clear
  appendOption p r v := p.modify r (Control.append · v)
  showSection p i b := { p with shown := fun j ↦ if j = i then b else p.shown j }

/-- The panel of given text fields and dropdowns, with all sections shown. -/
def ofLists (fields selects : List Control) : Panel where
  control
    | .field i => fields.getD i {}
    | .select i => selects.getD i {}
  shown _ := true

end Panel

end AccessForm
