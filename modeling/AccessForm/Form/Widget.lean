import AccessForm.Form.Notice

/-!
# Widgets

The parts of a page are set up independently of each other: a part that fails is reported and
skipped, and the others still get their turn.
-/

namespace AccessForm

/-- The result of setting up one part of a page, if it succeeded, and the report about it. -/
def initialiseWidget {ε α : Type} (describe : ε → String) (widget : String) :
    Except ε α → Option α × Notice
  | .ok a => (some a, .initialised widget)
  | .error e => (none, .failed widget (describe e))

end AccessForm
