import AccessForm.Form.Controller

/-!
# Histories

What happens to a form from the moment it is taken over: its controller is told of events, and in
between users and scripts write to its elements without telling anyone. A history is a list of such
moves; playing it gives the controller and the elements at its end.
-/

namespace AccessForm

/-- One thing that happens to a form. -/
inductive Move (κ ς : Type) where
  /-- The controller is told of an event. -/
  | event (e : Controller.Event κ)
  /-- Someone writes to an element. -/
  | edit (e : Edit κ ς)
  deriving DecidableEq, Repr

namespace Controller

variable {σ κ ς : Type} [Surface σ κ ς]

/-- One move. The controller does not notice writes to the elements. -/
def move (c : Controller κ ς) (s : σ) : Move κ ς → Turn σ κ ς
  | .event e => c.handle s e
  | .edit e => ⟨c, e.apply s, .ok c.mode, []⟩

/-- The controller and the elements at the end of a history. -/
def play (c : Controller κ ς) (s : σ) : List (Move κ ς) → Controller κ ς × σ
  | [] => (c, s)
  | m :: ms => play (c.move s m).controller (c.move s m).surface ms

@[simp] theorem play_nil (c : Controller κ ς) (s : σ) : c.play s [] = (c, s) := rfl

@[simp] theorem play_cons (c : Controller κ ς) (s : σ) (m : Move κ ς) (ms : List (Move κ ς)) :
    c.play s (m :: ms) = (c.move s m).controller.play (c.move s m).surface ms := rfl

theorem play_append (c : Controller κ ς) (s : σ) (ms ms' : List (Move κ ς)) :
    c.play s (ms ++ ms') = (c.play s ms).1.play (c.play s ms).2 ms' := by
  induction ms generalizing c s with
  | nil => rfl
  | cons m ms ih => exact ih _ _

end Controller

end AccessForm
