import AccessForm.Form.Surface

/-!
# Copies

Several controls that stand for one value. A page may show the permission or the reason once in
each of its parts; whatever is entered in one copy is published to all of them before anyone reads
the value, which is the value of the first copy.
-/

namespace AccessForm.Copies

variable {σ κ ς : Type} [Surface σ κ ς]

/-- Brings one copy to a value. A copy that has the value already is not written to. -/
def update (v : String) (s : σ) (copy : κ) : σ :=
  if Surface.value s copy = v then s else Surface.setValue s copy v

/-- Brings all copies to a value, in order. -/
def publish (s : σ) (copies : List κ) (v : String) : σ := copies.foldl (update v) s

/-- The value of the first copy, empty without copies. -/
def value (s : σ) : List κ → String
  | [] => ""
  | first :: _ => Surface.value s first

end AccessForm.Copies
