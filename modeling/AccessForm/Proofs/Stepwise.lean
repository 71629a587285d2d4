import AccessForm.Proofs.Attributes

/-!
# Bindings step by step

`bindForm` reads a plan off the document and carries it out. Whoever binds a form by hand has no
plan: one looks for the parts of the form one by one, generates a dropdown as soon as it turns out
that there is none, goes on looking, lets the controller take the form over, and then registers one
listener after the other. Every look may fail, and what was done before the failure stays done.

Such a procedure is an `Attempt`: it works on a site, and a failure leaves the site as it is at that
moment. `attemptForm` and `attemptGuard` are the two procedures. They turn out to do just what
`bindForm` and `bindGuard` do, so no failure comes too late. The reason is that whatever is looked
for after the first change is looked for by a text that the procedure brings with it, and that is a
selector whatever the page says.
-/

namespace AccessForm

/-! ## Attempts -/

/-- A site at work, and what was reported so far. -/
structure Progress where
  /-- The site. -/
  site : Site
  /-- The reports. -/
  notices : List Notice := []

/-- A procedure on a site. When it fails, everything that it did so far stays. -/
abbrev Attempt (α : Type) : Type := ExceptT BindError (StateM Progress) α

namespace Attempt

variable {α β : Type} {p : Progress}

/-- The answer and the site at the end of an attempt. -/
def exec (x : Attempt α) (p : Progress) : Except BindError α × Progress := x.run.run p

/-- An attempt as a call on a site. -/
def reply (x : Attempt α) (s : Site) : Reply (Except BindError α) where
  site := (x.exec { site := s }).2.site
  answer := (x.exec { site := s }).1
  notices := (x.exec { site := s }).2.notices

/-- A look at the document, which may fail. -/
def look (f : Document → Except BindError α) : Attempt α := do
  let p ← get
  ExceptT.mk (pure (f p.site.document))

/-- A change of the site. -/
def change (f : Site → Site) : Attempt Unit := modify fun p ↦ { p with site := f p.site }

/-- A report. -/
def report (notices : List Notice) : Attempt Unit :=
  modify fun p ↦ { p with notices := p.notices ++ notices }

/-- What comes after a failure is not done. -/
theorem exec_bind (x : Attempt α) (f : α → Attempt β) (p : Progress) :
    (x >>= f).exec p = match x.exec p with
      | (.ok a, p') => (f a).exec p'
      | (.error e, p') => (.error e, p') := by
  unfold exec
  rw [ExceptT.run_bind, StateT.run_bind]
  rcases x.run.run p with ⟨_ | _, _⟩
  · rfl
  · rfl

@[simp] theorem exec_pure (a : α) : (pure a : Attempt α).exec p = (.ok a, p) := rfl

@[simp] theorem exec_throw (e : BindError) : (throw e : Attempt α).exec p = (.error e, p) := rfl

@[simp] theorem exec_get : (get : Attempt Progress).exec p = (.ok p, p) := rfl

@[simp] theorem exec_look (f : Document → Except BindError α) :
    (look f).exec p = (f p.site.document, p) := rfl

@[simp] theorem exec_change (f : Site → Site) :
    (change f).exec p = (.ok (), { p with site := f p.site }) := rfl

@[simp] theorem exec_report (notices : List Notice) :
    (report notices).exec p = (.ok (), { p with notices := p.notices ++ notices }) := rfl

private theorem exec_look_bind (f : Document → Except BindError α) (k : α → Attempt β) :
    (look f >>= k).exec p = match f p.site.document with
      | .ok a => (k a).exec p
      | .error e => (.error e, p) := by
  rw [exec_bind, exec_look]
  cases f p.site.document with
  | error e => rfl
  | ok a => rfl

private theorem exec_look_bind_look {f : Document → Except BindError α} {k : α → Attempt β}
    {g : α → Except BindError β} (hk : ∀ a, (k a).exec p = (g a, p)) :
    (look f >>= k).exec p = (f p.site.document >>= g, p) := by
  rw [exec_look_bind]
  cases f p.site.document with
  | error e => rfl
  | ok a => exact hk a

end Attempt

namespace Site

open Attempt

/-! ## Looking -/

/-- A text as a selector. -/
def readSelector (text : String) : Except BindError Selector :=
  match Selector.ofText? text with
  | some s => .ok s
  | none => .error (.notSelector text)

/-- The elements of some kind that a written selector finds below the root. -/
def findAll (root : NodeId) (text : String) (accepts : ElementKind → Bool) :
    Attempt (List NodeId) :=
  look fun d ↦ (readSelector text).map fun s ↦ d.queryKind root s accepts

/-- The first element that a written selector finds below the root. -/
def findFirst (root : NodeId) (text : String) : Attempt (Option Node) := look (locate · root text)

/-- A selector in writing. -/
structure Wording where
  /-- The text. -/
  text : String
  /-- The selector. -/
  selector : Selector
  /-- The text says what the selector is. -/
  reads : readSelector text = .ok selector

namespace Wording

def permission : Wording :=
  ⟨".input-permission_name, select[name=permission_name]", permissionFields, by decide +kernel⟩

def reason : Wording := ⟨".input-reason, [name=reason]", reasonFields, by decide +kernel⟩

def group : Wording := ⟨"select[name=group_name]", groupField, by decide +kernel⟩

def argumentSection : Wording := ⟨".form-group-argument", argumentSections, by decide +kernel⟩

def reasonSection : Wording := ⟨".form-group-reason", reasonSections, by decide +kernel⟩

def submit : Wording :=
  ⟨"button[type=submit], input[type=submit]", submitControls, by decide +kernel⟩

def button : Wording := ⟨"button", buttons, by decide +kernel⟩

variable (w : Wording) {β : Type} {root : NodeId} {p : Progress}

/-- What is looked for by a selector in writing is found or not, without a failure. -/
theorem exec_findAll_bind {accepts : ElementKind → Bool} {k : List NodeId → Attempt β} :
    (findAll root w.text accepts >>= k).exec p =
      (k (p.site.document.queryKind root w.selector accepts)).exec p := by
  rw [findAll, exec_look_bind, w.reads]
  rfl

private theorem locate_eq (d : Document) :
    locate d root w.text = .ok (d.queryFirst? root w.selector) := by
  have hreads := w.reads
  rw [readSelector] at hreads
  rw [locate]
  cases hs : Selector.ofText? w.text with
  | none =>
    rw [hs] at hreads
    cases hreads
  | some s =>
    rw [hs] at hreads
    obtain rfl : s = w.selector := Except.ok.inj hreads
    rfl

private theorem exec_findFirst_bind {k : Option Node → Attempt β} :
    (findFirst root w.text >>= k).exec p =
      (k (p.site.document.queryFirst? root w.selector)).exec p := by
  rw [findFirst, exec_look_bind, w.locate_eq]

end Wording

/-! ## Binding a form -/

/-- Looks for everything that the page has to bring. -/
def findParts (root : NodeId) : Attempt FormPlan := do
  look fun d ↦ refuseMarked (rootElement d root) formMarker
  let table ← look fun d ↦ readTable (rootElement d root)
  let settings ← look fun d ↦ (Settings.ofAttributes
    ((rootElement d root).attribute? settingsAttribute)
    ((rootElement d root).attribute? methodAttribute)).mapError BindError.settings
  let permission ← findAll root Wording.permission.text (· = .dropdown)
  if permission = [] then throw (.missingPart .permissionSelector)
  else
    let text ← look (locateText · root settings.argumentName)
    let dropdown ← look (locateDropdown · root settings.argumentName)
    return { table, settings, permission, text, dropdown }

/-- Puts a dropdown behind the text field, unless there is one. -/
def provide (plan : FormPlan) : Attempt NodeId := do
  match plan.dropdown with
  | some dropdown => return dropdown
  | none =>
    let d := (← get).site.document
    change (·.edit (·.addSibling plan.text
      (dropdownLike ((d.element? plan.text).getD { tag := "" }))))
    report [.generatedDropdown]
    return d.next

/-- Looks for all further elements of a form. -/
def findRest (root : NodeId) (plan : FormPlan) (dropdown : NodeId) :
    Attempt (Layout NodeId NodeId) := do
  let reason ← findAll root Wording.reason.text (·.isField)
  let group ← findFirst root Wording.group.text
  let argumentSections ← findAll root Wording.argumentSection.text (·.isShowable)
  let reasonSections ← findAll root Wording.reasonSection.text (·.isShowable)
  return {
    permission := plan.permission
    group := group.bind fun n ↦ if n.element.kind = .dropdown then some n.id else none
    text := plan.text
    dropdown, reason, argumentSections, reasonSections }

/-- Lets a controller take over the elements of a form. -/
def takeOver (plan : FormPlan) (layout : Layout NodeId NodeId) :
    Attempt (Controller NodeId NodeId) := do
  let turn := Controller.start plan.table (.ofSettings plan.settings) layout (← get).site.document
  change (·.edit fun _ ↦ turn.surface)
  report turn.notices
  return turn.controller

/-- Registers a listener. -/
def listen (l : Listener) : Attempt Unit :=
  change fun s ↦ { s with listeners := s.listeners ++ [l] }

/-- Registers the listeners of a form and marks its root. -/
def register (root : NodeId) (plan : FormPlan) (controller : Controller NodeId NodeId) :
    Attempt BindingId := do
  let id := (← get).site.next
  forM (formListeners root controller.layout id) listen
  change (·.edit (setMarker · root formMarker true))
  change fun s ↦ { s with forms := s.forms ++ [⟨id, root, controller⟩], next := s.next + 1 }
  report [.attached plan.table.size]
  return id

/-- Binds the form of an element, one step after the other. -/
def attemptForm (root : NodeId) : Attempt BindingId := do
  let plan ← findParts root
  let dropdown ← provide plan
  let layout ← findRest root plan dropdown
  let controller ← takeOver plan layout
  register root plan controller

variable {root : NodeId} {plan : FormPlan} {p : Progress}

/-- Looking for the parts of a form changes nothing, and finds the plan. -/
theorem exec_findParts : (findParts root).exec p = (planForm p.site.document root, p) := by
  rw [findParts, planForm, ← rootElement]
  refine exec_look_bind_look fun _ ↦ exec_look_bind_look fun table ↦ ?_
  refine exec_look_bind_look fun settings ↦ ?_
  rw [Wording.exec_findAll_bind]
  rw [show Wording.permission.selector = permissionFields from rfl]
  by_cases hnone : p.site.document.queryKind root permissionFields (· = .dropdown) = []
  · rw [if_pos hnone, if_pos hnone]
    rfl
  · rw [if_neg hnone, if_neg hnone]
    exact exec_look_bind_look fun text ↦ exec_look_bind_look fun dropdown ↦ rfl

private theorem exec_provide : (provide plan).exec p =
    (.ok (provideDropdown p.site.document plan).2.1, { p with
      site := p.site.edit fun d ↦ (provideDropdown d plan).1
      notices := p.notices ++ (provideDropdown p.site.document plan).2.2 }) := by
  rw [provide]
  cases hdropdown : plan.dropdown with
  | some dropdown => simp [provideDropdown, hdropdown, Site.edit]
  | none =>
    simp only [provideDropdown, hdropdown]
    rfl

private theorem exec_findRest {dropdown : NodeId} : (findRest root plan dropdown).exec p =
    (.ok (layoutOf p.site.document root plan dropdown), p) := by
  rw [findRest, Wording.exec_findAll_bind, Wording.exec_findFirst_bind, Wording.exec_findAll_bind,
    Wording.exec_findAll_bind]
  rfl

theorem exec_takeOver {layout : Layout NodeId NodeId} : (takeOver plan layout).exec p =
    let turn := Controller.start plan.table (.ofSettings plan.settings) layout p.site.document
    (.ok turn.controller, { p with
      site := p.site.edit fun _ ↦ turn.surface
      notices := p.notices ++ turn.notices }) := rfl

private theorem exec_listenAll (ls : List Listener) : (forM ls listen : Attempt Unit).exec p =
    (.ok (), { p with site := { p.site with listeners := p.site.listeners ++ ls } }) := by
  induction ls generalizing p with
  | nil => simp
  | cons l ls ih =>
    rw [List.forM_cons, exec_bind, listen, exec_change]
    dsimp only
    rw [ih]
    simp

private theorem exec_register {controller : Controller NodeId NodeId} :
    (register root plan controller).exec p = (.ok p.site.next, {
      site :=
        { document := setMarker p.site.document root formMarker true
          listeners := p.site.listeners ++ formListeners root controller.layout p.site.next
          forms := p.site.forms ++ [⟨p.site.next, root, controller⟩]
          guards := p.site.guards
          next := p.site.next + 1 }
      notices := p.notices ++ [.attached plan.table.size] }) := by
  simp only [register, exec_bind, exec_get, exec_listenAll, exec_change, exec_report, exec_pure]
  rfl

/-- Step by step a form is bound as by its plan. -/
theorem reply_attemptForm (s : Site) (root : NodeId) :
    (attemptForm root).reply s = s.bindForm root := by
  have hfind : (findParts root).exec { site := s } = (planForm s.document root, { site := s }) :=
    exec_findParts
  rw [reply, attemptForm, exec_bind, hfind, bindForm]
  cases planForm s.document root with
  | error e => rfl
  | ok plan =>
    dsimp only
    have hlayout : (opening s.document root plan).controller.layout =
        plannedLayout s.document root plan := by
      obtain ⟨_, _, h⟩ := exists_controller_opening s.document root plan
      rw [h]
    have hcarry : s.carryOut root plan =
        { site :=
            { document := setMarker (opening s.document root plan).surface root formMarker true
              listeners := s.listeners ++
                formListeners root (plannedLayout s.document root plan) s.next
              forms := s.forms ++ [⟨s.next, root, (opening s.document root plan).controller⟩]
              guards := s.guards
              next := s.next + 1 }
          answer := s.next
          notices := (provideDropdown s.document plan).2.2 ++
            (opening s.document root plan).notices ++ [.attached plan.table.size] } := rfl
    simp only [exec_bind, exec_provide, exec_findRest, exec_takeOver, exec_register]
    rw [hcarry, ← hlayout]
    rfl

/-! ## Binding a guard -/

/-- Looks for a control that submits the form, and for any button if there is none. -/
def findSubmitter (root : NodeId) : Attempt (Option Node) := do
  match ← findFirst root Wording.submit.text with
  | some n => return some n
  | none => findFirst root Wording.button.text

/-- Looks for the control that a guard disables. -/
def findControl (root : NodeId) : Attempt (Latch NodeId) := do
  look fun d ↦ refuseMarked (rootElement d root) guardMarker
  let settings ← look fun d ↦ (Settings.ofAttributes
    ((rootElement d root).attribute? settingsAttribute) none).mapError BindError.settings
  match ← findSubmitter root with
  | some n =>
    if n.element.kind.isShowable then return { control := n.id, busyClass := settings.busyClass }
    else throw (.missingPart .submitControl)
  | none => throw (.missingPart .submitControl)

/-- Guards the form of an element, one step after the other. -/
def attemptGuard (root : NodeId) : Attempt BindingId := do
  let latch ← findControl root
  let id := (← get).site.next
  listen ⟨root, id, .latch⟩
  change (·.edit (setMarker · root guardMarker true))
  change fun s ↦ { s with guards := s.guards ++ [⟨id, root, latch⟩], next := s.next + 1 }
  return id

private theorem exec_findSubmitter : (findSubmitter root).exec p =
    (.ok ((p.site.document.queryFirst? root submitControls).or
      (p.site.document.queryFirst? root buttons)), p) := by
  rw [findSubmitter, Wording.exec_findFirst_bind]
  show (match p.site.document.queryFirst? root submitControls with
    | some n => return some n
    | none => findFirst root Wording.button.text : Attempt (Option Node)).exec p = _
  cases p.site.document.queryFirst? root submitControls with
  | some n => rfl
  | none => exact congrArg (·, p) (Wording.button.locate_eq p.site.document)

private theorem exec_findControl :
    (findControl root).exec p = (planGuard p.site.document root, p) := by
  rw [findControl, planGuard, ← rootElement]
  refine exec_look_bind_look fun _ ↦ exec_look_bind_look fun settings ↦ ?_
  rw [exec_bind, exec_findSubmitter]
  cases (p.site.document.queryFirst? root submitControls).or
      (p.site.document.queryFirst? root buttons) with
  | none => rfl
  | some n =>
    dsimp only
    split
    · rfl
    · rfl

/-- Step by step a form is guarded as by its plan. -/
theorem reply_attemptGuard (s : Site) (root : NodeId) :
    (attemptGuard root).reply s = s.bindGuard root := by
  have hfind : (findControl root).exec { site := s } = (planGuard s.document root, { site := s }) :=
    exec_findControl
  rw [reply, attemptGuard, exec_bind, hfind, bindGuard]
  cases planGuard s.document root with
  | error e => rfl
  | ok latch => rfl

/-! ## Failures -/

variable {s : Site}

private theorem bindForm_of_error {e : BindError} (h : (s.bindForm root).answer = .error e) :
    s.bindForm root = { site := s, answer := .error e } := by
  cases hplan : planForm s.document root with
  | error e' =>
    rw [bindForm, hplan] at h ⊢
    obtain rfl : e' = e := Except.error.inj h
    rfl
  | ok plan =>
    rw [bindForm, hplan] at h
    cases h

private theorem bindGuard_of_error {e : BindError} (h : (s.bindGuard root).answer = .error e) :
    s.bindGuard root = { site := s, answer := .error e } := by
  cases hplan : planGuard s.document root with
  | error e' =>
    rw [bindGuard, hplan] at h ⊢
    obtain rfl : e' = e := Except.error.inj h
    rfl
  | ok latch =>
    rw [bindGuard, hplan] at h
    cases h

private theorem refuseMarked_of_marked {d : Document} {marker : String} (h : Marked d marker root) :
    refuseMarked (rootElement d root) marker = .error (.alreadyBound marker) :=
  if_pos (marked_iff_rootElement.mp h)

private theorem planForm_of_marked {d : Document} (h : Marked d formMarker root) :
    planForm d root = .error (.alreadyBound formMarker) := by
  rw [planForm, ← rootElement, refuseMarked_of_marked h]
  rfl

private theorem planGuard_of_marked {d : Document} (h : Marked d guardMarker root) :
    planGuard d root = .error (.alreadyBound guardMarker) := by
  rw [planGuard, ← rootElement, refuseMarked_of_marked h]
  rfl

/-- A failed binding changes nothing, even when it is made step by step.

- The steps come to what is done by a plan, so a form is bound exactly if there is a plan for it,
  and guarded exactly if there is a latch.
- If a step fails, the site is as it was before the first one, with its document, listeners and
  bindings, and nothing is reported.
- An element that carries the marker is refused for that, whatever else is wrong with it. -/
theorem failed_binding_changes_nothing (s : Site) (root : NodeId) :
    ((attemptForm root).reply s = s.bindForm root ∧
      (attemptGuard root).reply s = s.bindGuard root) ∧
    ((∀ id, ((attemptForm root).reply s).answer = .ok id ↔
        ∃ plan, Plans s.document root plan ∧ id = s.next) ∧
      ∀ id, ((attemptGuard root).reply s).answer = .ok id ↔
        (∃ latch, planGuard s.document root = .ok latch) ∧ id = s.next) ∧
    ((∀ e, ((attemptForm root).reply s).answer = .error e →
        ((attemptForm root).reply s).site = s ∧ ((attemptForm root).reply s).notices = []) ∧
      ∀ e, ((attemptGuard root).reply s).answer = .error e →
        ((attemptGuard root).reply s).site = s ∧ ((attemptGuard root).reply s).notices = []) ∧
    ((Marked s.document formMarker root →
        ((attemptForm root).reply s).answer = .error (.alreadyBound formMarker)) ∧
      (Marked s.document guardMarker root →
        ((attemptGuard root).reply s).answer = .error (.alreadyBound guardMarker))) := by
  rw [reply_attemptForm, reply_attemptGuard]
  refine ⟨⟨rfl, rfl⟩, ⟨fun id ↦ bindForm_answer_iff, fun id ↦ ?_⟩, ⟨fun e h ↦ ?_, fun e h ↦ ?_⟩,
    fun h ↦ ?_, fun h ↦ ?_⟩
  · rw [bindGuard]
    cases planGuard s.document root with
    | error e => simp
    | ok latch => simp [eq_comm]
  · rw [bindForm_of_error h]
    exact ⟨rfl, rfl⟩
  · rw [bindGuard_of_error h]
    exact ⟨rfl, rfl⟩
  · rw [bindForm, planForm_of_marked h]
  · rw [bindGuard, planGuard_of_marked h]

/-- A page with a form whose settings name the argument by a text that spoils the selector, and with
a form that carries the marker and has no table. -/
def faultyPage : Document :=
  let form := (Element.setAttribute { tag := "form" } tableAttribute
    "\x7b\"edit\": [\"*\"]\x7d").setAttribute settingsAttribute "\x7b\"argument_name\": \"x]\"\x7d"
  { nodes :=
      [⟨0, none, { tag := "html" }⟩, ⟨1, some 0, form⟩,
        ⟨2, some 1, Element.setAttribute { tag := "select" } "name" "permission_name"⟩,
        ⟨3, some 2, .newOption "edit"⟩,
        ⟨4, some 1, Element.setAttribute { tag := "input" } "name" "x]"⟩,
        ⟨5, some 0, Element.setAttribute { tag := "form" } formMarker ""⟩]
    next := 6
    distinct := by decide +kernel
    aged := by decide +kernel }

/-- There the first form fails when its text field is looked for, both fail for want of a control to
disable, and the second form is refused for its marker. -/
theorem failed_binding_changes_nothing_sample :
    ((attemptForm 1).reply { document := faultyPage }).answer =
        .error (.notSelector "input[name=x]]") ∧
      ((attemptForm 1).reply { document := faultyPage }).site = { document := faultyPage } ∧
      ((attemptGuard 1).reply { document := faultyPage }).site = { document := faultyPage } ∧
      ((attemptForm 5).reply { document := faultyPage }).answer =
        .error (.alreadyBound formMarker) := by
  obtain ⟨-, -, ⟨hform, hguard⟩, -⟩ := failed_binding_changes_nothing { document := faultyPage } 1
  obtain ⟨-, -, -, hmarked, -⟩ := failed_binding_changes_nothing { document := faultyPage } 5
  have hanswer : ((attemptForm 1).reply { document := faultyPage }).answer =
      .error (.notSelector "input[name=x]]") := by decide +kernel
  have hlatch : ((attemptGuard 1).reply { document := faultyPage }).answer =
      .error (.missingPart .submitControl) := by decide +kernel
  refine ⟨hanswer, (hform _ hanswer).1, (hguard _ hlatch).1, hmarked ?_⟩
  rw [Marked]
  decide +kernel

end Site

end AccessForm
