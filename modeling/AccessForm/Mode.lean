import AccessForm.Table

/-!
# Modes

What a form offers for the argument, given the selected permission: nothing as long as none is
selected, the text field when any text will do, and the dropdown when the argument is one out of a
closed list.
-/

namespace AccessForm

/-- The two places of a form where an argument can be entered. -/
inductive Side where
  /-- The free text field. -/
  | text
  /-- The dropdown with a closed list of options. -/
  | dropdown
  deriving DecidableEq, Repr

/-- The name of a side in a snapshot. -/
def Side.name : Side → String
  | text => "text"
  | dropdown => "select"

/-- How an argument is entered. -/
inductive Mode where
  /-- No permission is selected. -/
  | unselected
  /-- The selected permission accepts any text. -/
  | freeText
  /-- The selected permission accepts one of these texts. -/
  | choice (options : List String)
  deriving DecidableEq, Repr

namespace Mode

/-- The side whose argument is submitted. -/
def side? : Mode → Option Side
  | unselected => none
  | freeText => some .text
  | choice _ => some .dropdown

/-- Whether the sections for argument and reason are shown. -/
def showsSections : Mode → Bool
  | unselected => false
  | freeText | choice _ => true

/-- The options of the dropdown, none unless they are a closed list. -/
def options : Mode → List String
  | choice options => options
  | unselected | freeText => []

/-- The name of a mode in logs and snapshots. -/
def name : Mode → String
  | unselected => "unselected"
  | freeText => "wildcard"
  | choice _ => "enumerated"

/-- The mode for the arguments that a permission accepts. -/
def ofAllowance : Allowance → Mode
  | .anything => freeText
  | .oneOf options => choice options

end Mode

/-- A selected permission without an entry in the table. -/
structure UnknownPermission where
  /-- The permission as it was selected. -/
  permission : String
  deriving DecidableEq, Repr

/-- The wording of the error. -/
def UnknownPermission.message (e : UnknownPermission) : String :=
  "permission '" ++ e.permission ++ "' has no entry in the permission argument table"

/-- The mode for a selected permission; the empty name stands for "nothing selected". -/
def Table.mode (t : Table) (permission : String) : Except UnknownPermission Mode :=
  if permission = "" then .ok .unselected
  else match t.allowance? permission with
    | some allowance => .ok (.ofAllowance allowance)
    | none => .error ⟨permission⟩

/-- A permission has no mode exactly when it is reported missing. -/
theorem Table.mode_eq_error_iff {t : Table} {permission : String} {e : UnknownPermission} :
    t.mode permission = .error e ↔
      e = ⟨permission⟩ ∧ permission ≠ "" ∧ t.contains permission = false := by
  unfold Table.mode Table.contains
  split
  · next h => simp [h]
  · next h =>
    split
    · next h' => simp [h']
    · next h' => simp [h', h, eq_comm]

end AccessForm
