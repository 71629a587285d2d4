import AccessForm.Form.Widget
import AccessForm.Site.Binding

/-!
# Pages

All forms and guards of a document, bound in one go. Elements that are bound already are left alone,
and one that can not be bound is reported and does not keep the others from being bound.
-/

namespace AccessForm

/-- What was bound in one go. -/
structure Page where
  /-- The forms. -/
  forms : List BindingId
  /-- The guards. -/
  guards : List BindingId
  deriving DecidableEq, Repr

/-- Why the forms of a page can not be bound. -/
inductive PageError where
  /-- There is nothing to look for forms in. -/
  | noDocument
  deriving DecidableEq, Repr

/-- The wording of an error. -/
def PageError.message : PageError → String
  | noDocument => "no document available"

namespace Site

/-- Elements that carry an attribute and not the marker. -/
def unbound (name marker : String) : Selector := [[.hasAttribute name, .lacksAttribute marker]]

/-- Makes a binding for each of several elements. One that can not be made is skipped. -/
def bindEach (widget : String) (bind : Site → NodeId → Reply (Except BindError BindingId)) :
    Site → List NodeId → Reply (List BindingId)
  | s, [] => ⟨s, [], []⟩
  | s, root :: roots =>
    let first := bind s root
    let (bound, report) := initialiseWidget BindError.message widget first.answer
    let later := bindEach widget bind first.site roots
    ⟨later.site, bound.toList ++ later.answer, first.notices ++ report :: later.notices⟩

/-- The elements below a node that wait to be bound, in document order. -/
def waiting (d : Document) (root : NodeId) (name marker : String) : List NodeId :=
  (d.query root (unbound name marker)).map (·.id)

/-- Binds all forms and then all guards below the root of a page. The guards are looked for when the
forms are bound, because binding a form may change the page. -/
def bindPage (s : Site) : Option NodeId → Reply (Except PageError Page)
  | none => { site := s, answer := .error .noDocument }
  | some root =>
    let forms := bindEach "permission request form" bindForm s
      (waiting s.document root tableAttribute formMarker)
    let guards := bindEach "single submit form" bindGuard forms.site
      (waiting forms.site.document root guardAttribute guardMarker)
    { site := guards.site
      answer := .ok ⟨forms.answer, guards.answer⟩
      notices := forms.notices ++ guards.notices ++
        [.pageReady forms.answer.length guards.answer.length] }

/-- Releases everything that was bound in one go. -/
def releasePage (s : Site) (p : Page) : Site :=
  p.guards.foldl releaseGuard (p.forms.foldl releaseForm s)

end Site

end AccessForm
