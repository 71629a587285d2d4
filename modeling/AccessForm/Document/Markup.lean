import AccessForm.Document.Fields

/-!
# Markup

What a page says about its elements, before they are elements. Laid out in a document, an element
comes before its children, and the options of a dropdown before its other children. The value of an
element is set when all of it is there, as a script would do it.
-/

namespace AccessForm

/-- An option of a dropdown as a page writes it. -/
structure OptionMarkup where
  /-- The `value` attribute, if there is one. -/
  value : Option String := none
  /-- The text. -/
  label : String := ""
  /-- Whether it is the selected one. -/
  chosen : Bool := false
  deriving DecidableEq, Repr

/-- The option whose value is its text. -/
def OptionMarkup.ofText (s : String) : OptionMarkup := ⟨some s, s, false⟩

/-- The element of an option. -/
def OptionMarkup.element (o : OptionMarkup) : Element where
  tag := "option"
  attributes := Directory.ofList ((o.value.map fun v ↦ ("value", v)).toList)
  label := o.label
  chosen := o.chosen

/-- An element as a page writes it. -/
inductive Markup where
  | node (element : Element) (options : List OptionMarkup) (children : List Markup)
    (value : Option String)
  deriving Repr, Inhabited

namespace Document

mutual

/-- Adds an element with everything below it as the last child of a node. -/
def layOut (d : Document) (parent : NodeId) : Markup → Document
  | .node element options children value =>
    let id := d.next
    let d := d.addChild parent element
    let d := options.foldl (fun d o ↦ d.addChild id o.element) d
    let d := layOutAll d id children
    match value with
    | some v => d.setValue id v
    | none => d

/-- Adds several elements, in order. -/
def layOutAll (d : Document) (parent : NodeId) : List Markup → Document
  | [] => d
  | m :: ms => layOutAll (layOut d parent m) parent ms

end

/-- The number of the root element of every page. -/
def rootId : NodeId := 0

/-- The number of the body of every page. -/
def bodyId : NodeId := 1

/-- The page with the given elements in its body. -/
def page (body : List Markup) : Document :=
  layOutAll ((ofRoot { tag := "html" }).addChild rootId { tag := "body" }) bodyId body

end Document

end AccessForm
