import AccessForm.Directory
import AccessForm.Text.Words

/-!
# Elements

One element of a document, apart from its place in the tree: the tag, the attributes, and what a
user or a script did to it. The kind of an element is decided by its tag.
-/

namespace AccessForm

/-- What an element is used for. -/
inductive ElementKind where
  | input
  | textArea
  | dropdown
  | option
  | button
  /-- A part of a drawing. Such elements have no place in the layout of text. -/
  | drawing
  | plain
  deriving DecidableEq, Repr

namespace ElementKind

/-- The kind of the elements with a tag, which is in lower case. -/
def ofTag : String → ElementKind
  | "input" => input
  | "textarea" => textArea
  | "select" => dropdown
  | "option" => option
  | "button" => button
  | "svg" | "g" | "path" => drawing
  | _ => plain

/-- Whether the value is a text that a user types. -/
def isTyped : ElementKind → Bool
  | input | textArea => true
  | _ => false

/-- Whether the element carries a value that a form submits. -/
def isField : ElementKind → Bool
  | input | textArea | dropdown => true
  | _ => false

/-- Whether the element can be shown and hidden. -/
def isShowable : ElementKind → Bool
  | drawing => false
  | _ => true

end ElementKind

/-- An element. -/
structure Element where
  /-- The name by which a script knows the element. No markup shows it. -/
  key : Option String := none
  /-- The tag in lower case. -/
  tag : String
  /-- The attributes. -/
  attributes : Directory String := .empty
  /-- The text typed last into a text field. -/
  entered : Option String := none
  /-- The inline style of the display, if there is one. -/
  display : Option String := none
  /-- The text of an option. -/
  label : String := ""
  /-- Whether an option is the selected one of its dropdown. -/
  chosen : Bool := false
  deriving DecidableEq, Repr, Inhabited

namespace Element

/-- What the element is used for. -/
def kind (e : Element) : ElementKind := .ofTag e.tag

/-! ## Attributes -/

/-- The value of an attribute. -/
def attribute? (e : Element) (name : String) : Option String := e.attributes.find? name

/-- Whether the attribute is there, with any value. -/
def hasAttribute (e : Element) (name : String) : Bool := (e.attribute? name).isSome

/-- The value of an attribute, empty when it is missing. -/
def attributeText (e : Element) (name : String) : String := (e.attribute? name).getD ""

/-- The element with an attribute, in place of an earlier one. -/
def setAttribute (e : Element) (name v : String) : Element :=
  { e with attributes := e.attributes.insert name v }

/-- The element without an attribute. -/
def removeAttribute (e : Element) (name : String) : Element :=
  { e with attributes := e.attributes.erase name }

/-- The element with or without an attribute that counts by its presence. One that is there keeps
its value. -/
def toggleAttribute (e : Element) (name : String) (present : Bool) : Element :=
  if present then
    if e.hasAttribute name then e else e.setAttribute name ""
  else e.removeAttribute name

/-! ## Classes -/

/-- The classes of an element, each once. -/
def classes (e : Element) : List String := (Text.words (e.attributeText "class")).eraseDups

/-- The element with one class more. All its classes are written anew. -/
def addClass (e : Element) (token : String) : Element :=
  let classes := if token ∈ e.classes then e.classes else e.classes ++ [token]
  e.setAttribute "class" (" ".intercalate classes)

/-! ## Values and display -/

/-- The text in a text field: what was typed last, otherwise what the page says. -/
def typedText (e : Element) : String := e.entered.getD (e.attributeText "value")

/-- The value of an option: what the page says, otherwise its text. -/
def optionValue (e : Element) : String := (e.attribute? "value").getD e.label

/-- The element shown as its kind is by itself, or hidden. -/
def setShown (e : Element) (shown : Bool) : Element :=
  { e with display := if shown then none else some "none" }

/-- A further option of a dropdown, not selected. -/
def newOption (v : String) : Element :=
  { tag := "option", attributes := Directory.empty.insert "value" v, label := v }

/-! ### What attribute writes do -/

@[simp] theorem attribute?_setAttribute (e : Element) (name other v : String) :
    (e.setAttribute name v).attribute? other =
      if other = name then some v else e.attribute? other :=
  e.attributes.find?_insert name other v

@[simp] theorem attribute?_removeAttribute (e : Element) (name other : String) :
    (e.removeAttribute name).attribute? other =
      if other = name then none else e.attribute? other :=
  e.attributes.find?_erase name other

@[simp] theorem hasAttribute_toggleAttribute (e : Element) (name : String) (present : Bool) :
    (e.toggleAttribute name present).hasAttribute name = present := by
  unfold toggleAttribute
  cases present
  · simp [hasAttribute]
  · by_cases h : e.hasAttribute name <;> simp [h]
    simp [hasAttribute]

end Element

end AccessForm
