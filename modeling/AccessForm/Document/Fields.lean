import AccessForm.Document.Tree
import AccessForm.Form.Latch
import AccessForm.Form.Surface

/-!
# Fields of a document

The value of a text field is what was typed into it. The value of a dropdown is that of its selected
option; its options are those among its children. Whenever the children of a dropdown change, one
of its options is selected: the last one that was, or the first one. Only a script that sets a value
which is not offered leaves a dropdown without a selection.

With these operations a document is a surface for forms and for submit controls.
-/

namespace AccessForm

namespace Document

/-! ## Dropdowns -/

/-- Whether a node is an option of a dropdown. -/
def isOptionOf (dropdown : NodeId) (n : Node) : Bool :=
  n.parent == some dropdown && n.element.kind == .option

/-- The options of a dropdown. -/
def options (d : Document) (dropdown : NodeId) : List Node := d.nodes.filter (isOptionOf dropdown)

/-- Selects one option of a dropdown, or none. -/
def mark (d : Document) (dropdown : NodeId) (option : Option Node) : Document :=
  d.mapElements fun n ↦
    if isOptionOf dropdown n then { n.element with chosen := some n.id == option.map (·.id) }
    else n.element

/-- Selects the first option with a value, or none. -/
def choose (d : Document) (dropdown : NodeId) (v : String) : Document :=
  d.mark dropdown ((d.options dropdown).find? (·.element.optionValue == v))

/-- The option that is selected after the children of a dropdown changed. -/
def favourite? (d : Document) (dropdown : NodeId) : Option Node :=
  ((d.options dropdown).filter (·.element.chosen)).getLast?.or (d.options dropdown).head?

/-- The document after a change among the children of a node. -/
def settle (d : Document) (id : NodeId) : Document :=
  if d.kind id = .dropdown then d.mark id (d.favourite? id) else d

/-! ## Values -/

/-- The value of a field. -/
def value (d : Document) (id : NodeId) : String :=
  match d.element? id with
  | none => ""
  | some e =>
    if e.kind.isTyped then e.typedText
    else if e.kind = .dropdown then
      (((d.options id).find? (·.element.chosen)).map (·.element.optionValue)).getD ""
    else ""

/-- Sets the value of a field. Other elements have none. -/
def setValue (d : Document) (id : NodeId) (v : String) : Document :=
  -- What is typed hides the value of the page and leaves the attribute alone.
  if (d.kind id).isTyped then d.modify id ({ · with entered := some v })
  else if d.kind id = .dropdown then d.choose id v
  else d

/-! ## Children -/

/-- A new last child of a node. -/
def addChild (d : Document) (parent : NodeId) (e : Element) : Document :=
  (d.appendChild parent e).settle parent

/-- A new sibling right behind a node. -/
def addSibling (d : Document) (sibling : NodeId) (e : Element) : Document :=
  match (d.find? sibling).bind (·.parent) with
  | some parent => (d.insertAfter sibling e).settle parent
  | none => d

/-- Takes a node out of the tree, with everything below it. -/
def remove (d : Document) (id : NodeId) : Document :=
  match (d.find? id).bind (·.parent) with
  | some parent => (d.detach (·.id == id)).settle parent
  | none => d

/-! ## Surfaces -/

instance : Surface Document NodeId NodeId where
  value := value
  name d id := ((d.element? id).map (·.attributeText "name")).getD ""
  isDisabled d id := ((d.element? id).map (·.hasAttribute "disabled")).getD false
  options d id := (d.options id).map (·.element.optionValue)
  setValue := setValue
  setName d id n := d.modify id (·.setAttribute "name" n)
  setRequired d id b := d.modify id (·.toggleAttribute "required" b)
  setDisabled d id b := d.modify id (·.toggleAttribute "disabled" b)
  setVisible d id b := d.modify id (·.setShown b)
  clearOptions d id := d.detach (isOptionOf id)
  appendOption d id v := d.addChild id (.newOption v)
  showSection d id b := d.modify id (·.setShown b)

/-- Why a text can not be a class. -/
inductive ClassFault where
  | empty
  | blankInside (token : String)
  deriving DecidableEq, Repr

/-- The name of the exception. -/
def ClassFault.name : ClassFault → String
  | empty => "SyntaxError"
  | blankInside _ => "InvalidCharacterError"

/-- The wording of the exception. -/
def ClassFault.message : ClassFault → String
  | empty => "Failed to execute 'add' on 'DOMTokenList': The token provided must not be empty."
  | blankInside token =>
    "Failed to execute 'add' on 'DOMTokenList': The token provided ('" ++ token ++
      "') contains HTML space characters, which are not valid in tokens."

/-- What is wrong with a class. -/
def classFault? (token : String) : Option ClassFault :=
  if token = "" then some .empty
  else if token.toList.any Text.isMarkupBlank then some (.blankInside token)
  else none

instance : SubmitSurface Document NodeId where
  setDisabled d id b := d.modify id (·.toggleAttribute "disabled" b)
  addClass d id token :=
    match classFault? token with
    | some fault =>
      (d, [.refusedClass token ("JsValue(" ++ fault.name ++ ": " ++ fault.message ++ ")")])
    | none => (d.modify id (·.addClass token), [])

end Document

end AccessForm
