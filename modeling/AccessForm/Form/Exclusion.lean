import AccessForm.Form.Surface
import AccessForm.Mode
import AccessForm.Settings

/-!
# Exclusion

Of the two fields for the argument at most one takes part in a submission. The other one is
excluded, either by being disabled or by a name that nobody reads. In both cases only the field
that takes part has to be filled in, and only that one is shown.
-/

namespace AccessForm

/-- How a field is kept out of a submission. -/
inductive Exclusion where
  /-- It is disabled and keeps its name. -/
  | disabling
  /-- It gets the ignored name, and the submitted name when it takes part. -/
  | naming (submitted ignored : String)
  deriving DecidableEq, Repr

namespace Exclusion

variable {σ κ ς : Type} [Surface σ κ ς]

/-- Renaming with the standard names. -/
def standard : Exclusion := naming defaultArgumentName defaultIgnoredName

/-- The exclusion that the settings of a form ask for. -/
def ofSettings (s : Settings) : Exclusion :=
  match s.method with
  | .disable => disabling
  | .rename => naming s.argumentName s.ignoredName

/-- Marks a field as taking part or not. -/
def mark (e : Exclusion) (s : σ) (control : κ) (eligible : Bool) : σ :=
  let s := match e with
    | disabling => Surface.setDisabled s control !eligible
    | naming submitted ignored =>
      Surface.setName s control (if eligible then submitted else ignored)
  Surface.setVisible (Surface.setRequired s control eligible) control eligible

/-- Lets one side take part, or none. -/
def designate (e : Exclusion) (s : σ) (text dropdown : κ) (side : Option Side) : σ :=
  e.mark (e.mark s text (side = some .text)) dropdown (side = some .dropdown)

end Exclusion

end AccessForm
