import AccessForm.Document.Selector.Text
import AccessForm.Settings.Json
import AccessForm.Site
import AccessForm.Table.Json

/-!
# Bindings

A form is bound to the element that carries its table. All that can be wrong with the element is
looked for before anything is changed: the plan of a binding is read off the document, and carrying
it out can not fail.

The fields for the argument are found by the name in the settings, which is written into a selector
as it is. A form without a dropdown of that name gets one behind its text field, with the same name
and classes.
-/

namespace AccessForm

/-- A part that a form can not do without. -/
inductive Part where
  | permissionSelector
  | argumentText
  | argumentDropdown
  | submitControl
  deriving DecidableEq, Repr

/-- The name of a part in error texts. -/
def Part.name : Part → String
  | permissionSelector => "permission selector"
  | argumentText => "argument text field"
  | argumentDropdown => "argument dropdown"
  | submitControl => "submit control"

/-- Why an element can not be bound. -/
inductive BindError where
  /-- An attribute is missing. -/
  | missingAttribute (name : String)
  /-- The element carries the marker of a binding. -/
  | alreadyBound (marker : String)
  /-- A part of the form is missing. -/
  | missingPart (part : Part)
  /-- There is no table. -/
  | table (error : TableError)
  /-- There are no settings. -/
  | settings (error : SettingsError)
  /-- A text is no selector. -/
  | notSelector (text : String)
  deriving DecidableEq, Repr

/-- The wording of an error. -/
def BindError.message : BindError → String
  | missingAttribute name => "form element has no '" ++ name ++ "' attribute"
  | alreadyBound marker => "form element is bound already ('" ++ marker ++ "' is set)"
  | missingPart part => "form element has no " ++ part.name
  | table error => error.message
  | settings error => error.message
  | notSelector text =>
    "DOM operation failed: Failed to execute 'querySelector' on 'Element': '" ++ text ++
      "' is not a valid selector."

namespace Site

/-! ## Attributes and selectors -/

/-- The attribute with the table. -/
def tableAttribute : String := "data-permission-request"

/-- The attribute with the settings. -/
def settingsAttribute : String := "data-form-config"

/-- The attribute with the method alone, which takes precedence over the settings. -/
def methodAttribute : String := "data-argument-strategy"

/-- The attribute of forms that may be submitted once. -/
def guardAttribute : String := "data-single-submit"

/-- The copies of the permission selector. -/
def permissionFields : Selector :=
  [[.hasClass "input-permission_name"], [.hasTag "select", .attributeIs "name" "permission_name"]]

/-- The copies of the reason field. -/
def reasonFields : Selector := [[.hasClass "input-reason"], [.attributeIs "name" "reason"]]

/-- The selector for the group. -/
def groupField : Selector := [[.hasTag "select", .attributeIs "name" "group_name"]]

/-- The sections around the argument. -/
def argumentSections : Selector := [[.hasClass "form-group-argument"]]

/-- The sections around the reason. -/
def reasonSections : Selector := [[.hasClass "form-group-reason"]]

/-- Controls that submit a form. -/
def submitControls : Selector :=
  [[.hasTag "button", .attributeIs "type" "submit"],
    [.hasTag "input", .attributeIs "type" "submit"]]

/-- Any button. -/
def buttons : Selector := [[.hasTag "button"]]

/-- The first element below the root that a written selector finds. -/
def locate (d : Document) (root : NodeId) (text : String) : Except BindError (Option Node) :=
  match Selector.ofText? text with
  | some s => .ok (d.queryFirst? root s)
  | none => .error (.notSelector text)

/-- Refuses an element that carries a marker. -/
def refuseMarked (e : Element) (marker : String) : Except BindError Unit :=
  if e.hasAttribute marker then .error (.alreadyBound marker) else .ok ()

/-! ## Forms -/

/-- What is read off the document before a form is bound. -/
structure FormPlan where
  /-- What each permission accepts. -/
  table : Table
  /-- The settings of the form. -/
  settings : Settings
  /-- The copies of the permission selector, at least one. -/
  permission : List NodeId
  /-- The text field for the argument. -/
  text : NodeId
  /-- The dropdown for the argument, if the page has one. -/
  dropdown : Option NodeId

/-- The table of an element. -/
def readTable (e : Element) : Except BindError Table :=
  match e.attribute? tableAttribute with
  | none => .error (.missingAttribute tableAttribute)
  | some json => (Table.ofJson json).mapError .table

/-- The text field for the argument. -/
def locateText (d : Document) (root : NodeId) (name : String) : Except BindError NodeId := do
  match ← locate d root ("input[name=" ++ name ++ "]") with
  | some n => if n.element.kind = .input then .ok n.id else .error (.missingPart .argumentText)
  | none => .error (.missingPart .argumentText)

/-- The dropdown for the argument, if there is one. -/
def locateDropdown (d : Document) (root : NodeId) (name : String) :
    Except BindError (Option NodeId) := do
  match ← locate d root ("select[name=" ++ name ++ "]") with
  | some n =>
    if n.element.kind = .dropdown then .ok (some n.id) else .error (.missingPart .argumentDropdown)
  | none => .ok none

/-- The plan for a form, or the first thing that is wrong with it. -/
def planForm (d : Document) (root : NodeId) : Except BindError FormPlan := do
  let e := (d.element? root).getD { tag := "" }
  refuseMarked e formMarker
  let table ← readTable e
  let settings ←
    (Settings.ofAttributes (e.attribute? settingsAttribute) (e.attribute? methodAttribute)).mapError
      BindError.settings
  let permission := d.queryKind root permissionFields (· = .dropdown)
  if permission = [] then .error (.missingPart .permissionSelector)
  else
    let text ← locateText d root settings.argumentName
    let dropdown ← locateDropdown d root settings.argumentName
    .ok { table, settings, permission, text, dropdown }

/-- The dropdown that a form gets when its page has none. -/
def dropdownLike (text : Element) : Element where
  tag := "select"
  attributes := (Directory.empty.insert "name" (text.attributeText "name")).insert "class"
    (text.attributeText "class")

/-- The dropdown of a plan, generated if need be. -/
def provideDropdown (d : Document) (plan : FormPlan) : Document × NodeId × List Notice :=
  match plan.dropdown with
  | some dropdown => (d, dropdown, [])
  | none =>
    (d.addSibling plan.text (dropdownLike ((d.element? plan.text).getD { tag := "" })), d.next,
      [.generatedDropdown])

/-- The elements of a form with all of its argument fields. -/
def layoutOf (d : Document) (root : NodeId) (plan : FormPlan) (dropdown : NodeId) :
    Layout NodeId NodeId where
  permission := plan.permission
  group := (d.queryFirst? root groupField).bind fun n ↦
    if n.element.kind = .dropdown then some n.id else none
  text := plan.text
  dropdown := dropdown
  reason := d.queryKind root reasonFields (·.isField)
  argumentSections := d.queryKind root argumentSections (·.isShowable)
  reasonSections := d.queryKind root reasonSections (·.isShowable)

/-- The listeners of a form. -/
def formListeners (root : NodeId) (layout : Layout NodeId NodeId) (owner : BindingId) :
    List Listener :=
  layout.permission.map (⟨·, owner, .select⟩) ++ layout.reason.map (⟨·, owner, .noteReason⟩) ++
    [⟨root, owner, .release⟩]

/-- Carries out the plan for a form. -/
def carryOut (s : Site) (root : NodeId) (plan : FormPlan) : Reply BindingId :=
  let (d, dropdown, generated) := provideDropdown s.document plan
  -- A generated dropdown has the classes of the text field and may have further roles by them.
  let layout := layoutOf d root plan dropdown
  let turn := Controller.start plan.table (.ofSettings plan.settings) layout d
  { site :=
      { document := setMarker turn.surface root formMarker true
        listeners := s.listeners ++ formListeners root layout s.next
        forms := s.forms ++ [⟨s.next, root, turn.controller⟩]
        guards := s.guards
        next := s.next + 1 }
    answer := s.next
    notices := generated ++ turn.notices ++ [.attached plan.table.size] }

/-- Binds the form of an element. -/
def bindForm (s : Site) (root : NodeId) : Reply (Except BindError BindingId) :=
  match planForm s.document root with
  | .error e => { site := s, answer := .error e }
  | .ok plan =>
    let reply := s.carryOut root plan
    { reply with answer := .ok reply.answer }

/-! ## Guards -/

/-- The latch for the submit control of an element, or the first thing that is wrong. -/
def planGuard (d : Document) (root : NodeId) : Except BindError (Latch NodeId) := do
  let e := (d.element? root).getD { tag := "" }
  refuseMarked e guardMarker
  let settings ←
    (Settings.ofAttributes (e.attribute? settingsAttribute) none).mapError BindError.settings
  -- A button without a type submits its form too, but one that says so is preferred.
  match (d.queryFirst? root submitControls).or (d.queryFirst? root buttons) with
  | some n =>
    if n.element.kind.isShowable then .ok { control := n.id, busyClass := settings.busyClass }
    else .error (.missingPart .submitControl)
  | none => .error (.missingPart .submitControl)

/-- Guards the form of an element against repeated submission. -/
def bindGuard (s : Site) (root : NodeId) : Reply (Except BindError BindingId) :=
  match planGuard s.document root with
  | .error e => { site := s, answer := .error e }
  | .ok latch =>
    { site :=
        { document := setMarker s.document root guardMarker true
          listeners := s.listeners ++ [⟨root, s.next, .latch⟩]
          forms := s.forms
          guards := s.guards ++ [⟨s.next, root, latch⟩]
          next := s.next + 1 }
      answer := .ok s.next }

end Site

end AccessForm
