import AccessForm.Form.Notice

/-!
# Latches

A form that may be submitted once. The first submission disables the submit control and marks it as
busy; every later one is suppressed. A latch never opens again.
-/

namespace AccessForm

/-- What a latch needs from submit controls with handles `β`. -/
class SubmitSurface (σ : Type) (β : outParam Type) where
  /-- Makes a control unusable, or usable. -/
  setDisabled : σ → β → Bool → σ
  /-- Adds a class to a control, and reports when that is not possible. -/
  addClass : σ → β → String → σ × List Notice

/-- What becomes of a submission. -/
inductive Verdict where
  | proceed
  | suppress
  deriving DecidableEq, Repr

/-- The name of a verdict. -/
def Verdict.name : Verdict → String
  | proceed => "proceed"
  | suppress => "suppress"

/-- The guard of one form. -/
structure Latch (β : Type) where
  /-- The control that submits the form. -/
  control : β
  /-- The class that marks it as busy. -/
  busyClass : String
  /-- Whether the form was submitted. -/
  submitted : Bool := false
  deriving DecidableEq, Repr

/-- What a submission leaves behind. -/
structure Submission (σ β : Type) where
  /-- Whether the submission goes through. -/
  verdict : Verdict
  /-- The latch after it. -/
  latch : Latch β
  /-- The controls after it. -/
  surface : σ
  /-- What was reported. -/
  notices : List Notice

/-- Lets the first submission through and suppresses the others. -/
def Latch.submit {σ β : Type} [SubmitSurface σ β] (l : Latch β) (s : σ) : Submission σ β :=
  if l.submitted then ⟨.suppress, l, s, [.suppressed]⟩
  else
    -- The control is disabled first, so a class that is refused does not keep the form open.
    let (s, notices) :=
      SubmitSurface.addClass (SubmitSurface.setDisabled s l.control true) l.control l.busyClass
    ⟨.proceed, { l with submitted := true }, s, notices⟩

/-! ## Buttons in memory -/

/-- A submit button in memory. -/
structure Button where
  /-- Whether it cannot be used. -/
  disabled : Bool := false
  /-- Its classes, each once. -/
  classes : List String := []
  deriving DecidableEq, Repr

/-- Adds a class that the button does not have yet. -/
def Button.addClass (b : Button) (token : String) : Button :=
  if token ∈ b.classes then b else { b with classes := b.classes ++ [token] }

/-- The state of every button, by its number. -/
structure Rack where
  /-- The buttons. -/
  button : Nat → Button

/-- The rack with one button changed. -/
def Rack.modify (r : Rack) (i : Nat) (f : Button → Button) : Rack :=
  ⟨fun j ↦ if j = i then f (r.button j) else r.button j⟩

instance : SubmitSurface Rack Nat where
  setDisabled r i b := r.modify i ({ · with disabled := b })
  addClass r i token := (r.modify i (·.addClass token), [])

end AccessForm
