import AccessForm.Document.Fields
import AccessForm.Form.Controller

/-!
# Sites

A document together with the forms and guards that are bound to its elements, and the listeners
through which they hear what users do. A binding lives from the moment it is made until it is
released; its listeners are registered and taken away with it, and an attribute on its root element
marks that there is one.
-/

namespace AccessForm

/-- The number of a binding. -/
abbrev BindingId := Nat

/-- What a listener does for its binding. -/
inductive Reaction where
  /-- The permission in the element is selected. -/
  | select
  /-- The reason in the element is published. -/
  | noteReason
  /-- The locked selectors take part in the submission. -/
  | release
  /-- A repeated submission is suppressed. -/
  | latch
  deriving DecidableEq, Repr

/-- The event that a reaction answers to. -/
def Reaction.event : Reaction → String
  | select => "change"
  | noteReason => "input"
  | release | latch => "submit"

/-- A reaction registered on an element. -/
structure Listener where
  /-- The element. -/
  target : NodeId
  /-- The binding that registered it. -/
  owner : BindingId
  /-- What it does. -/
  reaction : Reaction
  deriving DecidableEq, Repr

/-- A form with its controller. -/
structure BoundForm where
  /-- The number of the binding. -/
  id : BindingId
  /-- The element of the form. -/
  root : NodeId
  /-- The controller of its fields. -/
  controller : Controller NodeId NodeId

/-- A form that may be submitted once. -/
structure BoundGuard where
  /-- The number of the binding. -/
  id : BindingId
  /-- The element of the form. -/
  root : NodeId
  /-- The latch on its submit control. -/
  latch : Latch NodeId

/-- A document with its bindings. -/
structure Site where
  /-- The document. -/
  document : Document
  /-- The listeners in the order of their registration. -/
  listeners : List Listener := []
  /-- The bound forms, oldest first. -/
  forms : List BoundForm := []
  /-- The bound guards, oldest first. -/
  guards : List BoundGuard := []
  /-- The number of the next binding. -/
  next : BindingId := 0

/-- What one call on a site leaves behind. -/
structure Reply (α : Type) where
  /-- The site after the call. -/
  site : Site
  /-- The answer. -/
  answer : α
  /-- What the call reported. -/
  notices : List Notice := []

namespace Site

/-- The attribute that marks the root element of a bound form. -/
def formMarker : String := "data-permission-request-bound"

/-- The attribute that marks the root element of a bound guard. -/
def guardMarker : String := "data-single-submit-bound"

/-- The bound form with a number. -/
def form? (s : Site) (id : BindingId) : Option BoundForm := s.forms.find? (·.id == id)

/-- The bound guard with a number. -/
def guard? (s : Site) (id : BindingId) : Option BoundGuard := s.guards.find? (·.id == id)

/-- The site after a change of the document by someone else. -/
def edit (s : Site) (f : Document → Document) : Site := { s with document := f s.document }

/-- The document with or without a marker on an element. -/
def setMarker (d : Document) (root : NodeId) (marker : String) (present : Bool) : Document :=
  d.modify root (·.toggleAttribute marker present)

/-! ## Calls on a bound form -/

/-- Lets the controller of a bound form handle an event. There is no answer from a form that is not
bound any more. -/
def call (s : Site) (id : BindingId) (e : Controller.Event NodeId) :
    Reply (Option (Except UnknownPermission Mode)) :=
  match s.form? id with
  | none => { site := s, answer := none }
  | some f =>
    let turn := f.controller.handle s.document e
    { site := { s with
        document := turn.surface
        forms := s.forms.map fun g ↦
          if g.id = id then { g with controller := turn.controller } else g }
      answer := some turn.outcome
      notices := turn.notices }

/-! ## Release -/

/-- The site without the listeners of a binding. -/
def silence (s : Site) (id : BindingId) : Site :=
  { s with listeners := s.listeners.filter (·.owner != id) }

/-- Releases a bound form. -/
def releaseForm (s : Site) (id : BindingId) : Site :=
  match s.form? id with
  | none => s
  | some f =>
    { s.silence id with
      document := setMarker s.document f.root formMarker false
      forms := s.forms.filter (·.id != id) }

/-- Releases a bound guard. -/
def releaseGuard (s : Site) (id : BindingId) : Site :=
  match s.guard? id with
  | none => s
  | some g =>
    { s.silence id with
      document := setMarker s.document g.root guardMarker false
      guards := s.guards.filter (·.id != id) }

end Site

end AccessForm
