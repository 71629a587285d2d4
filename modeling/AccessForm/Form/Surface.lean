/-!
# Surfaces

What a form needs from the elements that it consists of. A surface is the state of all elements at
one moment; its elements are referred to by handles, so two roles that hold the same handle act on
the same element, and every role sees what any other one did.

The form is written against this interface alone. A panel of elements in memory and a document of
a browser are its two instances.
-/

namespace AccessForm

/-- The operations on controls with handles `κ` and on sections with handles `ς`. -/
class Surface (σ : Type) (κ ς : outParam Type) where
  /-- The value of a control, empty when nothing was entered or selected. -/
  value : σ → κ → String
  /-- The name under which the value is submitted. -/
  name : σ → κ → String
  /-- Whether the control is left out of a submission. -/
  isDisabled : σ → κ → Bool
  /-- The values that a dropdown offers, in the order of their display. -/
  options : σ → κ → List String
  /-- Overwrites the value. -/
  setValue : σ → κ → String → σ
  /-- Overwrites the name. -/
  setName : σ → κ → String → σ
  /-- Marks the control as one that has to be filled in, or not. -/
  setRequired : σ → κ → Bool → σ
  /-- Leaves the control out of a submission, or not. -/
  setDisabled : σ → κ → Bool → σ
  /-- Shows or hides the control. -/
  setVisible : σ → κ → Bool → σ
  /-- Takes all options from a dropdown. -/
  clearOptions : σ → κ → σ
  /-- Adds an option behind the others. -/
  appendOption : σ → κ → String → σ
  /-- Shows or hides a section. -/
  showSection : σ → ς → Bool → σ

/-! ## Single edits -/

/-- One write to one element, as a user or a script makes it. -/
inductive Edit (κ ς : Type) where
  | value (control : κ) (value : String)
  | name (control : κ) (name : String)
  | required (control : κ) (required : Bool)
  | disabled (control : κ) (disabled : Bool)
  | visible (control : κ) (visible : Bool)
  | clearOptions (control : κ)
  | appendOption (control : κ) (value : String)
  | sectionShown (container : ς) (shown : Bool)
  deriving DecidableEq, Repr

/-- The surface after an edit. -/
def Edit.apply {σ κ ς : Type} [Surface σ κ ς] (s : σ) : Edit κ ς → σ
  | value control v => Surface.setValue s control v
  | name control n => Surface.setName s control n
  | required control b => Surface.setRequired s control b
  | disabled control b => Surface.setDisabled s control b
  | visible control b => Surface.setVisible s control b
  | clearOptions control => Surface.clearOptions s control
  | appendOption control v => Surface.appendOption s control v
  | sectionShown container b => Surface.showSection s container b

end AccessForm
