import AccessForm.Document.Tree

/-!
# Selectors

Conditions by which elements of a document are found. An element fits a selector when it fits one of
its alternatives, and it fits an alternative when it meets all of its conditions. All names and
values are compared exactly.
-/

namespace AccessForm

/-- A condition on one element. -/
inductive Condition where
  | hasTag (tag : String)
  | hasClass (token : String)
  | hasAttribute (name : String)
  | attributeIs (name value : String)
  | lacksAttribute (name : String)
  deriving DecidableEq, Repr

/-- Whether an element meets a condition. -/
def Condition.holds (e : Element) : Condition → Bool
  | hasTag tag => e.tag == tag
  | hasClass token => e.classes.contains token
  | hasAttribute name => e.hasAttribute name
  | attributeIs name v => e.attribute? name == some v
  | lacksAttribute name => !e.hasAttribute name

/-- Alternatives, each a list of conditions. -/
abbrev Selector := List (List Condition)

/-- Whether an element fits one of the alternatives. -/
def Selector.fits (s : Selector) (e : Element) : Bool :=
  s.any fun conditions ↦ conditions.all (·.holds e)

namespace Document

/-- The nodes below a node that fit a selector, in document order. -/
def query (d : Document) (root : NodeId) (s : Selector) : List Node :=
  (d.descendants root).filter (s.fits ·.element)

/-- The first node below a node that fits a selector. -/
def queryFirst? (d : Document) (root : NodeId) (s : Selector) : Option Node :=
  (d.query root s).head?

/-- The nodes below a node that fit a selector and are of a kind. -/
def queryKind (d : Document) (root : NodeId) (s : Selector) (p : ElementKind → Bool) :
    List NodeId :=
  ((d.query root s).filter (p ·.element.kind)).map (·.id)

end Document

end AccessForm
