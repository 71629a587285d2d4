import AccessForm.Form.Copies
import AccessForm.Form.Exclusion
import AccessForm.Form.Notice

/-!
# Controllers

A controller keeps the argument fields of one form in line with its selected permission.

* Without a permission the sections for argument and reason are hidden, and no argument is
  submitted.
* For a permission that accepts any text, the text field takes part in the submission.
* For a permission with a closed list, the dropdown is rebuilt from the list and takes part.

A selected permission without an entry in the table changes nothing but the selectors themselves.
Until the first successful derivation the form is as the page rendered it: a text in the text field
was put there by the page, so it is not thrown away, and it says which option to select. From then
on a text is what the user typed under an earlier permission, and is cleared when the text field
comes into use again.

Selectors with a single option were filled in by the page. They are locked until the form is
submitted.
-/

namespace AccessForm

/-- The elements of one form, by their roles. -/
structure Layout (κ ς : Type) where
  /-- The copies of the permission selector. -/
  permission : List κ
  /-- The selector for the group, on forms that ask for one. -/
  group : Option κ
  /-- The text field for the argument. -/
  text : κ
  /-- The dropdown for the argument. -/
  dropdown : κ
  /-- The copies of the reason field. -/
  reason : List κ
  /-- The sections around the argument. -/
  argumentSections : List ς
  /-- The sections around the reason. -/
  reasonSections : List ς
  deriving DecidableEq, Repr

/-- The controller of one form. -/
structure Controller (κ ς : Type) where
  /-- What each permission accepts. -/
  table : Table
  /-- How the unused argument field is kept out of a submission. -/
  exclusion : Exclusion
  /-- The elements. -/
  layout : Layout κ ς
  /-- The locked selectors. -/
  locked : List κ := []
  /-- The mode of the latest successful derivation. -/
  mode : Mode := .unselected
  /-- Whether any derivation has been successful. -/
  primed : Bool := false

/-- What one call leaves behind. -/
structure Turn (σ κ ς : Type) where
  /-- The controller after the call. -/
  controller : Controller κ ς
  /-- The elements after the call. -/
  surface : σ
  /-- The mode in force, or why none could be derived. -/
  outcome : Except UnknownPermission Mode
  /-- What the call reported. -/
  notices : List Notice

/-- What can be asked about a controller at any time. -/
structure Snapshot where
  /-- The value of the permission selectors. -/
  permission : String
  /-- The mode in force. -/
  mode : Mode
  /-- The number of locked selectors. -/
  locked : Nat
  deriving DecidableEq, Repr

namespace Controller

variable {σ κ ς : Type} [Surface σ κ ς]

/-! ## Derivation -/

/-- The selected permission. -/
def permission (c : Controller κ ς) (s : σ) : String := Copies.value s c.layout.permission

/-- The option that the dropdown should keep when it is rebuilt: a text that the page put into the
text field, otherwise the selected option. -/
def keepsake (c : Controller κ ς) (s : σ) : String :=
  let typed := Surface.value s c.layout.text
  if !c.primed && typed != "" then typed else Surface.value s c.layout.dropdown

/-- The dropdown with new options, of which the kept one is selected if it is among them. -/
def rebuild (c : Controller κ ς) (s : σ) (options : List String) : σ :=
  let kept := c.keepsake s
  let dropdown := c.layout.dropdown
  let s := options.foldl (Surface.appendOption · dropdown ·) (Surface.clearOptions s dropdown)
  if kept ∈ options then Surface.setValue s dropdown kept else s

/-- All sections shown or hidden. -/
def showSections (c : Controller κ ς) (s : σ) (shown : Bool) : σ :=
  (c.layout.argumentSections ++ c.layout.reasonSections).foldl (Surface.showSection · · shown) s

/-- What a mode does to the value of its own argument field. -/
def fill (c : Controller κ ς) (s : σ) : Mode → σ
  | .unselected => s
  | .freeText =>
    if c.primed ∧ c.mode ≠ .freeText then Surface.setValue s c.layout.text "" else s
  | .choice options => c.rebuild s options

/-- The elements in line with a mode. -/
def arrange (c : Controller κ ς) (s : σ) (mode : Mode) : σ :=
  c.exclusion.designate (c.fill (c.showSections s mode.showsSections) mode)
    c.layout.text c.layout.dropdown mode.side?

/-- Brings the form in line with the selected permission. -/
def derive (c : Controller κ ς) (s : σ) : Turn σ κ ς :=
  match c.table.mode (c.permission s) with
  | .error e => ⟨c, s, .error e, [.refused e]⟩
  | .ok mode =>
    ⟨{ c with mode, primed := true }, c.arrange s mode, .ok mode,
      [.derived (c.permission s) mode]⟩

/-! ## Construction -/

/-- The warning about offered permissions without arguments. -/
def missingWarning (table : Table) (layout : Layout κ ς) (s : σ) : List Notice :=
  match layout.permission with
  | [] => []
  | first :: _ =>
    match table.missing (Surface.options s first) with
    | [] => []
    | permissions => [.offersMissing permissions]

/-- The selectors that the page filled in: enabled ones with a single option. -/
def prefilled (layout : Layout κ ς) (s : σ) : List κ :=
  (layout.permission ++ layout.group.toList).filter fun k ↦
    (Surface.options s k).length == 1 && !Surface.isDisabled s k

/-- Disables controls, or enables them. -/
def setAllDisabled (s : σ) (controls : List κ) (disabled : Bool) : σ :=
  controls.foldl (Surface.setDisabled · · disabled) s

/-- Takes over a form: locks the selectors that the page filled in and brings the argument fields
in line with the selected permission. -/
def start (table : Table) (exclusion : Exclusion) (layout : Layout κ ς) (s : σ) : Turn σ κ ς :=
  -- A locked selector keeps its value, so the derivation still reads what the page filled in.
  let locked := prefilled layout s
  let turn := derive { table, exclusion, layout, locked } (setAllDisabled s locked true)
  { turn with
    notices := missingWarning table layout s ++ locked.map (fun k ↦ .locked (Surface.name s k)) ++
      turn.notices }

/-! ## Events -/

/-- What happens to a form. -/
inductive Event (κ : Type) where
  /-- A permission is selected. -/
  | select (permission : String)
  /-- A permission is chosen in one copy of the selector. -/
  | choose (copy : κ) (permission : String)
  /-- The form is to be brought in line once more. -/
  | derive
  /-- A reason is given. -/
  | noteReason (reason : String)
  /-- A reason is typed into one copy of the reason field. -/
  | typeReason (copy : κ) (reason : String)
  /-- The form is about to be submitted. -/
  | submit
  deriving DecidableEq, Repr

/-- Publishes a selected permission and brings the form in line with it. -/
def select (c : Controller κ ς) (s : σ) (permission : String) : Turn σ κ ς :=
  c.derive (Copies.publish s c.layout.permission permission)

/-- Publishes a reason. -/
def noteReason (c : Controller κ ς) (s : σ) (reason : String) : Turn σ κ ς :=
  ⟨c, Copies.publish s c.layout.reason reason, .ok c.mode, []⟩

/-- Enables the locked selectors, so that their values are submitted. -/
def release (c : Controller κ ς) (s : σ) : Turn σ κ ς :=
  ⟨c, setAllDisabled s c.locked false, .ok c.mode,
    if c.locked.isEmpty then [] else [.released c.locked.length]⟩

/-- Handles one event. What is chosen or typed in one copy is read back from that copy. -/
def handle (c : Controller κ ς) (s : σ) : Event κ → Turn σ κ ς
  | .select permission => c.select s permission
  | .choose copy permission =>
    let s := Surface.setValue s copy permission
    c.select s (Surface.value s copy)
  | .derive => c.derive s
  | .noteReason reason => c.noteReason s reason
  | .typeReason copy reason =>
    let s := Surface.setValue s copy reason
    c.noteReason s (Surface.value s copy)
  | .submit => c.release s

/-! ## Questions -/

/-- The side that takes part in a submission. -/
def side? (c : Controller κ ς) : Option Side := c.mode.side?

/-- The state of the form in brief. -/
def snapshot (c : Controller κ ς) (s : σ) : Snapshot :=
  ⟨c.permission s, c.mode, c.locked.length⟩

end Controller

end AccessForm
