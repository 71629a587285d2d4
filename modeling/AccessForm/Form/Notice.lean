import AccessForm.Mode
import AccessForm.Text.Quoted

/-!
# Notices

What the library reports about its work. A notice is data; level, wording and fields of the log
entry are derived from it.
-/

namespace AccessForm

/-- One report. -/
inductive Notice where
  /-- A permission selector offers permissions without arguments. -/
  | offersMissing (permissions : List String)
  /-- A selector with a single option was locked. -/
  | locked (name : String)
  /-- The selected permission has no arguments. -/
  | refused (error : UnknownPermission)
  /-- The form was brought in line with the selected permission. -/
  | derived (permission : String) (mode : Mode)
  /-- The locked selectors take part in the submission again. -/
  | released (count : Nat)
  /-- A form was submitted once more. -/
  | suppressed
  /-- A part of the page works. -/
  | initialised (widget : String)
  /-- A part of the page could not be set up. -/
  | failed (widget reason : String)
  /-- A form without a dropdown for the argument got one. -/
  | generatedDropdown
  /-- A form with a table of that many permissions is bound. -/
  | attached (permissions : Nat)
  /-- All forms of a page were looked at. -/
  | pageReady (forms guards : Nat)
  /-- The control of a submitted form could not be marked by a class. -/
  | refusedClass (token exception : String)
  deriving DecidableEq, Repr

/-- How much a notice matters. -/
inductive Level where
  | debug
  | warn
  | error
  deriving DecidableEq, Repr

/-- The name of a level. -/
def Level.name : Level → String
  | debug => "debug"
  | warn => "warn"
  | error => "error"

/-- The value of a log field. -/
inductive FieldValue where
  | text (s : String)
  | count (n : Nat)
  deriving DecidableEq, Repr

namespace Notice

/-- The level of a notice. -/
def level : Notice → Level
  | offersMissing _ | refusedClass .. => .warn
  | refused _ | failed .. => .error
  | _ => .debug

/-- The wording of a notice. -/
def message : Notice → String
  | offersMissing _ => "permission selector offers permissions without arguments"
  | locked _ => "locking pre-filled selector"
  | refused error => error.message
  | derived .. => "derived argument mode"
  | released _ => "re-enabled locked selectors"
  | suppressed => "suppressing repeated form submission"
  | initialised _ => "initialised widget"
  | failed widget reason => "error in " ++ widget ++ " init: " ++ reason
  | generatedDropdown => "generating argument dropdown"
  | attached _ => "attached permission request form"
  | pageReady .. => "initialised page"
  | refusedClass _ exception => "failed adding class to submit control: " ++ exception

/-- The fields of a notice. -/
def fields : Notice → List (String × FieldValue)
  | offersMissing permissions => [("missing", .text (Text.quoteList permissions))]
  | locked name => [("name", .text name)]
  | refused error => [("permission", .text error.permission)]
  | derived permission mode => [("permission", .text permission), ("mode", .text mode.name)]
  | released count => [("count", .count count)]
  | suppressed | generatedDropdown => []
  | initialised widget | failed widget _ => [("widget", .text widget)]
  | attached permissions => [("permissions", .count permissions)]
  | pageReady forms guards => [("forms", .count forms), ("single_submit", .count guards)]
  | refusedClass token _ => [("class", .text token)]

end Notice

end AccessForm
