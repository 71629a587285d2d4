import AccessForm.Site

/-!
# Events

An event that happens to an element is heard on the element and then on everything around it, from
the inside out. On each element the listeners come in the order of their registration. An event is
prevented when at least one of them says so; the others hear it all the same.
-/

namespace AccessForm.Site

/-- The listeners that hear an event, in the order in which they hear it. -/
def audience (s : Site) (target : NodeId) (event : String) : List Listener :=
  (s.document.lineage target).flatMap fun id ↦
    s.listeners.filter fun l ↦ l.target == id && l.reaction.event == event

/-- Lets a bound form handle an event on behalf of a listener. Such an event is never prevented. -/
def inform (s : Site) (owner : BindingId) (e : Controller.Event NodeId) : Reply Bool :=
  { s.call owner e with answer := false }

/-- Lets a bound guard decide on a submission, which is prevented when it is not the first one. -/
def judge (s : Site) (owner : BindingId) : Reply Bool :=
  match s.guard? owner with
  | none => ⟨s, false, []⟩
  | some g =>
    let done := g.latch.submit s.document
    { site := { s with
        document := done.surface
        guards := s.guards.map fun h ↦
          if h.id = owner then { h with latch := done.latch } else h }
      answer := done.verdict = .suppress
      notices := done.notices }

/-- Lets one listener react, and says whether it prevents the event. -/
def react (s : Site) (l : Listener) : Reply Bool :=
  match l.reaction with
  | .select => s.inform l.owner (.select (s.document.value l.target))
  | .noteReason => s.inform l.owner (.noteReason (s.document.value l.target))
  | .release => s.inform l.owner .submit
  | .latch => s.judge l.owner

/-- Lets listeners react in order, and says whether one of them prevents the event. -/
def reactAll (s : Site) : List Listener → Reply Bool
  | [] => ⟨s, false, []⟩
  | l :: ls =>
    let first := s.react l
    -- A prevented event is heard by the others all the same.
    let later := reactAll first.site ls
    ⟨later.site, first.answer || later.answer, first.notices ++ later.notices⟩

/-- An event on an element, and whether it is prevented. -/
def dispatch (s : Site) (target : NodeId) (event : String) : Reply Bool :=
  s.reactAll (s.audience target event)

/-- A user chooses a value in a field. -/
def choose (s : Site) (target : NodeId) (v : String) : Reply Bool :=
  (s.edit (·.setValue target v)).dispatch target "change"

/-- A user types a text into a field. -/
def typeText (s : Site) (target : NodeId) (v : String) : Reply Bool :=
  (s.edit (·.setValue target v)).dispatch target "input"

end AccessForm.Site
