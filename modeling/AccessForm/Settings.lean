import AccessForm.Json.Fault
import AccessForm.Text.Blank

/-!
# Settings of a form

How one form behaves: the means by which the unused argument is kept out of a submission, the names
of the argument fields, and the class that marks a submitted form.
-/

namespace AccessForm

/-- The means by which the unused argument field is kept out of a submission. -/
inductive Method where
  /-- The field is disabled. -/
  | disable
  /-- The field gets a name that nobody reads. -/
  | rename
  deriving DecidableEq, Repr

/-- The name of a method in a page. -/
def Method.name : Method → String
  | disable => "disable"
  | rename => "rename"

/-- The method of a name. -/
def Method.ofName? (name : String) : Option Method :=
  if name = "disable" then some .disable
  else if name = "rename" then some .rename
  else none

theorem Method.ofName?_eq_some_iff {name : String} {m : Method} :
    Method.ofName? name = some m ↔ name = m.name := by
  unfold Method.ofName?
  split
  · next h => cases m <;> simp [h, Method.name]
  · next h =>
    split
    · next h' => cases m <;> simp [h', Method.name]
    · next h' => cases m <;> simp [h, h', Method.name]

/-- The name under which the argument is submitted, unless the settings say otherwise. -/
def defaultArgumentName : String := "argument"

/-- The name of a renamed field, unless the settings say otherwise. -/
def defaultIgnoredName : String := "ignore"

/-- The class of a submitted form's control, unless the settings say otherwise. -/
def defaultBusyClass : String := "busy"

/-- The settings of one form. -/
structure Settings where
  /-- How the unused argument field is kept out of a submission. -/
  method : Method := .disable
  /-- The name under which the argument is submitted. -/
  argumentName : String := defaultArgumentName
  /-- The name of a renamed field. -/
  ignoredName : String := defaultIgnoredName
  /-- The class added to the submit control of a submitted form. -/
  busyClass : String := defaultBusyClass
  deriving DecidableEq, Repr

/-- Why there are no settings. -/
inductive SettingsError where
  /-- No method has this name. -/
  | unknownMethod (name : String)
  /-- The text holds no settings. -/
  | malformed (fault : Json.Fault)
  deriving DecidableEq, Repr

/-- The wording of a settings error. -/
def SettingsError.message : SettingsError → String
  | unknownMethod name =>
    "unknown argument strategy '" ++ name ++ "', expected 'disable' or 'rename'"
  | malformed fault => "invalid form configuration: " ++ fault.message

/-- The method of a name, or the complaint that there is none. -/
def Method.ofName (name : String) : Except SettingsError Method :=
  match Method.ofName? name with
  | some m => .ok m
  | none => .error (.unknownMethod name)

end AccessForm
