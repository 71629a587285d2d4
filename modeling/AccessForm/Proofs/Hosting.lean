import AccessForm.Proofs.Session

/-!
# Sites with one form

On a site with one form, and nobody else who listens, everything that happens is a history of that
form: whatever users and scripts do, the controller is told of some events, values are written in
between, and this is all that there is to say about the site (`Plays`). So what is known about
histories is known about such sites. Among the events is a submission exactly if one was heard at
the element of the form.

A site without forms and listeners is vacant. There only values are written.
-/

namespace AccessForm

namespace Document

/-- Writes of values, by the controller and by others, are possible under any leeway. -/
theorem allows_event (l : Leeway) (e : Controller.Event NodeId) :
    Controller.Allows (Evolves l) (.event e) :=
  fun t k _ v ↦ Evolves.setValue t k v

private theorem allows_value (l : Leeway) (id : NodeId) (v : String) :
    Controller.Allows (Evolves l) (.edit (.value id v)) :=
  fun t ↦ Evolves.setValue t id v

end Document

namespace Site

variable {s s' s'' : Site} {f : BoundForm} {root : NodeId} {ms ms' : List (Move NodeId NodeId)}

/-! ## Histories on a site -/

/-- There is one form, and nobody else listens. -/
structure Hosts (s : Site) (f : BoundForm) : Prop where
  /-- The form is there alone. -/
  forms : s.forms = [f]
  /-- Its listeners are there alone. -/
  listeners : s.listeners = formListeners f.root f.controller.layout f.id

/-- What happened on a site with one form is a history of the form. -/
structure Plays (s : Site) (f : BoundForm) (ms : List (Move NodeId NodeId)) (s' : Site) : Prop where
  /-- The form is there as the history left it. -/
  hosts : s'.Hosts { f with controller := (f.controller.play s.document ms).1 }
  /-- The document is there as the history left it. -/
  document : s'.document = (f.controller.play s.document ms).2

private theorem Hosts.form? (h : s.Hosts f) : s.form? f.id = some f := by
  rw [Site.form?, h.forms]
  simp

private theorem Hosts.plays (h : s.Hosts f)
    (hs' : s' = { s with
      document := (f.controller.play s.document ms).2
      forms := [{ f with controller := (f.controller.play s.document ms).1 }] }) :
    s.Plays f ms s' := by
  subst hs'
  refine ⟨⟨rfl, ?_⟩, rfl⟩
  rw [Controller.layout_play]
  exact h.listeners

private theorem Plays.nil (h : s.Hosts f) : s.Plays f [] s := ⟨h, rfl⟩

private theorem Plays.append (h : s.Plays f ms s')
    (h' : s'.Plays { f with controller := (f.controller.play s.document ms).1 } ms' s'') :
    s.Plays f (ms ++ ms') s'' := by
  obtain ⟨hhosts, hdocument⟩ := h'
  rw [h.document] at hhosts hdocument
  rw [← Controller.play_append] at hhosts hdocument
  exact ⟨hhosts, hdocument⟩

private theorem Hosts.call (h : s.Hosts f) (e : Controller.Event NodeId) :
    s.Plays f [.event e] (s.call f.id e).site := by
  refine h.plays ?_
  rw [call_of_some h.form?, h.forms]
  simp [Controller.move]

private theorem Hosts.setValue (h : s.Hosts f) (id : NodeId) (v : String) :
    s.Plays f [.edit (.value id v)] (s.edit (·.setValue id v)) := by
  refine h.plays ?_
  rw [edit, Controller.play_cons, Controller.play_nil, h.forms]
  rfl

/-! ## Events on a site -/

private theorem Hosts.react (h : s.Hosts f) {l : Listener} (hl : l ∈ s.listeners) :
    ∃ e : Controller.Event NodeId, (e = .submit ↔ l.reaction = .release) ∧
      s.Plays f [.event e] (s.react l).site := by
  obtain ⟨howner, hlatch, -⟩ := of_mem_formListeners (h.listeners ▸ hl)
  rw [Site.react, howner]
  split
  · next hr => exact ⟨_, by simp [hr], h.call _⟩
  · next hr => exact ⟨_, by simp [hr], h.call _⟩
  · next hr => exact ⟨_, by simp [hr], h.call _⟩
  · next hr => exact absurd hr hlatch

private theorem Hosts.reactAll (h : s.Hosts f) {ls : List Listener}
    (hls : ∀ l ∈ ls, l ∈ s.listeners) :
    ∃ es : List (Controller.Event NodeId), (.submit ∈ es ↔ ∃ l ∈ ls, l.reaction = .release) ∧
      ((∀ l ∈ ls, l.reaction = .release) → ∀ e ∈ es, e = .submit) ∧
      s.Plays f (es.map .event) (s.reactAll ls).site := by
  induction ls generalizing s f with
  | nil => exact ⟨[], by simp, by simp, .nil h⟩
  | cons l ls ih =>
    obtain ⟨e, he, hfirst⟩ := h.react (hls l List.mem_cons_self)
    have hlisteners : (s.react l).site.listeners = s.listeners := (s.stays_react l).listeners
    obtain ⟨es, hsome, hall, hrest⟩ := ih hfirst.hosts fun m hm ↦
      hlisteners ▸ hls m (List.mem_cons_of_mem _ hm)
    refine ⟨e :: es, ?_, fun hrelease ↦ ?_, hfirst.append hrest⟩
    · rw [List.mem_cons, hsome, eq_comm, he, List.exists_mem_cons_iff]
    · obtain ⟨hfirst, hlater⟩ := List.forall_mem_cons.mp hrelease
      exact List.forall_mem_cons.mpr ⟨he.mpr hfirst, hall hlater⟩

/-- An event is heard as a submission if it is one, and the form lies on the way up. Nothing else is
heard of a submission. -/
theorem Hosts.dispatch (h : s.Hosts f) (target : NodeId) (event : String) :
    ∃ es : List (Controller.Event NodeId),
      (.submit ∈ es ↔ event = "submit" ∧ f.root ∈ s.document.lineage target) ∧
      (event = "submit" → ∀ e ∈ es, e = .submit) ∧
      s.Plays f (es.map .event) (s.dispatch target event).site := by
  have haudience : ∀ l ∈ s.audience target event, l ∈ s.listeners ∧
      l.target ∈ s.document.lineage target ∧ l.reaction.event = event := by
    intro l hl
    obtain ⟨id, hid, hl⟩ := List.mem_flatMap.mp hl
    obtain ⟨hmem, hcond⟩ := List.mem_filter.mp hl
    rw [Bool.and_eq_true, beq_iff_eq, beq_iff_eq] at hcond
    exact ⟨hmem, hcond.1 ▸ hid, hcond.2⟩
  obtain ⟨es, hsome, hall, hplays⟩ := h.reactAll fun l hl ↦ (haudience l hl).1
  refine ⟨es, hsome.trans ⟨?_, ?_⟩, ?_, hplays⟩
  · rintro ⟨l, hl, hrelease⟩
    obtain ⟨hmem, htarget, hevent⟩ := haudience l hl
    rw [hrelease] at hevent
    rw [(of_mem_formListeners (h.listeners ▸ hmem)).2.2 hrelease] at htarget
    exact ⟨hevent.symm, htarget⟩
  · rintro ⟨rfl, hroot⟩
    refine ⟨⟨f.root, f.id, .release⟩, List.mem_flatMap.mpr ⟨f.root, hroot, ?_⟩, rfl⟩
    refine List.mem_filter.mpr ⟨?_, by simp [Reaction.event]⟩
    rw [h.listeners, formListeners]
    exact List.mem_append_right _ (List.mem_singleton.mpr rfl)
  · rintro rfl
    refine hall fun l hl ↦ ?_
    obtain ⟨hmem, -, hevent⟩ := haudience l hl
    have hlatch := (of_mem_formListeners (h.listeners ▸ hmem)).2.1
    rcases hr : l.reaction with _ | _ | _ | _
    · exact absurd (hr ▸ hevent) (by decide)
    · exact absurd (hr ▸ hevent) (by decide)
    · rfl
    · exact absurd hr hlatch

/-! ## Acts on a site -/

/-- Whether an act is a submission that is heard at an element. -/
def Act.Submits (d : Document) (root : NodeId) : Act → Prop
  | .dispatch target event => event = "submit" ∧ root ∈ d.lineage target
  | .select _ | .derive | .choose .. | .typeText .. => False

instance (d : Document) (root : NodeId) : DecidablePred (Act.Submits d root)
  | .dispatch target event =>
    inferInstanceAs (Decidable (event = "submit" ∧ root ∈ d.lineage target))
  | .select _ | .derive | .choose .. | .typeText .. => inferInstanceAs (Decidable False)

/-- Whether a submission is heard at an element in the course of several acts. -/
def Submitted (s : Site) (id : BindingId) (root : NodeId) : List Act → Prop
  | [] => False
  | a :: as => a.Submits s.document root ∨ Submitted (s.act id a) id root as

instance decidableSubmitted (id : BindingId) (root : NodeId) :
    ∀ (s : Site) (as : List Act), Decidable (s.Submitted id root as)
  | _, [] => inferInstanceAs (Decidable False)
  | s, a :: as =>
    have := decidableSubmitted id root (s.act id a) as
    inferInstanceAs (Decidable (a.Submits s.document root ∨ (s.act id a).Submitted id root as))

private theorem Hosts.act (h : s.Hosts f) (a : Act) :
    ∃ ms, (.event .submit ∈ ms ↔ a.Submits s.document f.root) ∧
      (∀ l, ∀ m ∈ ms, Controller.Allows (Document.Evolves l) m) ∧
      s.Plays f ms (s.act f.id a) := by
  have hevents : ∀ es : List (Controller.Event NodeId), ∀ l, ∀ m ∈ es.map Move.event,
      Controller.Allows (ς := NodeId) (Document.Evolves l) m := by
    intro es l m hm
    obtain ⟨e, -, rfl⟩ := List.mem_map.mp hm
    exact Document.allows_event l e
  have hentered : ∀ target v event, event ≠ "submit" →
      ∃ ms, (.event .submit ∈ ms ↔ False) ∧
        (∀ l, ∀ m ∈ ms, Controller.Allows (Document.Evolves l) m) ∧
        s.Plays f ms ((s.edit (·.setValue target v)).dispatch target event).site := by
    intro target v event hevent
    have hvalue := h.setValue target v
    obtain ⟨es, hes, -, hplays⟩ := hvalue.hosts.dispatch target event
    refine ⟨_, ?_, fun l ↦ ?_, hvalue.append hplays⟩
    · simpa [hevent] using hes
    · exact List.forall_mem_cons.mpr ⟨Document.allows_value l target v, hevents es l⟩
  rcases a with p | _ | ⟨target, v⟩ | ⟨target, v⟩ | ⟨target, event⟩
  · exact ⟨_, by simp [Act.Submits], fun l ↦ hevents [.select p] l, h.call _⟩
  · exact ⟨_, by simp [Act.Submits], fun l ↦ hevents [.derive] l, h.call _⟩
  · exact hentered target v "change" (by decide)
  · exact hentered target v "input" (by decide)
  · obtain ⟨es, hes, -, hplays⟩ := h.dispatch target event
    exact ⟨_, by simpa [Act.Submits] using hes, hevents es, hplays⟩

theorem submitted_append (s : Site) (id : BindingId) (root : NodeId) (as bs : List Act) :
    s.Submitted id root (as ++ bs) ↔
      s.Submitted id root as ∨ (s.actAll id as).Submitted id root bs := by
  induction as generalizing s with
  | nil => simp [Submitted, Site.actAll]
  | cons a as ih =>
    rw [List.cons_append, Submitted, Submitted, ih, or_assoc]
    rfl

theorem Hosts.actAll (h : s.Hosts f) (as : List Act) :
    ∃ ms, (.event .submit ∈ ms ↔ s.Submitted f.id f.root as) ∧
      (∀ l, ∀ m ∈ ms, Controller.Allows (Document.Evolves l) m) ∧
      s.Plays f ms (s.actAll f.id as) := by
  induction as generalizing s f with
  | nil => exact ⟨[], by simp [Submitted], by simp, .nil h⟩
  | cons a as ih =>
    obtain ⟨ms, hms, hallows, hfirst⟩ := h.act a
    obtain ⟨ms', hms', hallows', hrest⟩ := ih hfirst.hosts
    refine ⟨ms ++ ms', ?_, fun l ↦ ?_, hfirst.append hrest⟩
    · rw [List.mem_append, hms, hms', Submitted]
    · exact List.forall_mem_append.mpr ⟨hallows l, hallows' l⟩

/-! ## Vacant sites -/

/-- There are no forms, and nobody listens. -/
structure Vacant (s : Site) : Prop where
  /-- No forms. -/
  forms : s.forms = []
  /-- No listeners. -/
  listeners : s.listeners = []

namespace Vacant

private theorem audience_eq_nil (h : s.Vacant) (target : NodeId) (event : String) :
    s.audience target event = [] := by
  rw [audience, h.listeners]
  simp

private theorem call_eq (h : s.Vacant) (id : BindingId) (e : Controller.Event NodeId) :
    (s.call id e).site = s := by
  rw [call, form?, h.forms]
  rfl

private theorem setValue (h : s.Vacant) (id : NodeId) (v : String) :
    (s.edit (·.setValue id v)).Vacant := ⟨h.forms, h.listeners⟩

private theorem dispatch_eq (h : s.Vacant) (target : NodeId) (event : String) :
    (s.dispatch target event).site = s := by
  rw [dispatch, h.audience_eq_nil]
  rfl

private theorem act (h : s.Vacant) (id : BindingId) (a : Act) :
    (s.act id a).Vacant ∧ ∀ l, s.document.Evolves l (s.act id a).document := by
  have hentered : ∀ target v event,
      ((s.edit (·.setValue target v)).dispatch target event).site.Vacant ∧
        ∀ l, s.document.Evolves l
          ((s.edit (·.setValue target v)).dispatch target event).site.document := by
    intro target v event
    rw [(h.setValue target v).dispatch_eq]
    exact ⟨h.setValue target v, fun l ↦ .setValue s.document target v⟩
  rcases a with p | _ | ⟨target, v⟩ | ⟨target, v⟩ | ⟨target, event⟩
  · rw [Site.act, h.call_eq]
    exact ⟨h, fun l ↦ .refl _⟩
  · rw [Site.act, h.call_eq]
    exact ⟨h, fun l ↦ .refl _⟩
  · exact hentered target v "change"
  · exact hentered target v "input"
  · rw [Site.act, h.dispatch_eq]
    exact ⟨h, fun l ↦ .refl _⟩

theorem actAll (h : s.Vacant) (id : BindingId) (as : List Act) :
    (s.actAll id as).Vacant ∧ (∀ l, s.document.Evolves l (s.actAll id as).document) ∧
      (s.actAll id as).next = s.next := by
  induction as generalizing s with
  | nil => exact ⟨h, fun l ↦ .refl _, rfl⟩
  | cons a as ih =>
    obtain ⟨hvacant, hfirst⟩ := h.act id a
    obtain ⟨hvacant', hrest, hnext⟩ := ih hvacant
    exact ⟨hvacant', fun l ↦ (hfirst l).trans (hrest l), hnext.trans (s.stays_act id a).next⟩

/-- A form that is bound on a vacant site is there alone. -/
theorem hosts (h : s.Vacant) {plan : FormPlan} (hb : Bound s root plan f s') : s'.Hosts f where
  forms := by rw [hb.forms, h.forms, List.nil_append]
  listeners := by rw [hb.listeners, h.listeners, List.nil_append, hb.element, hb.number]

end Vacant

/-- When the form is released, the site is vacant, and its element is not marked any more. -/
theorem Hosts.releaseForm (h : s.Hosts f) : (s.releaseForm f.id).Vacant ∧
    (s.releaseForm f.id).document = setMarker s.document f.root formMarker false := by
  rw [Site.releaseForm, h.form?]
  refine ⟨⟨?_, ?_⟩, rfl⟩
  · show s.forms.filter (·.id != f.id) = []
    rw [h.forms]
    simp
  · show s.listeners.filter (·.owner != f.id) = []
    refine List.filter_eq_nil_iff.mpr fun l hl ↦ ?_
    simp [(of_mem_formListeners (h.listeners ▸ hl)).1]

theorem Vacant.releaseForm_eq (h : s.Vacant) (id : BindingId) : s.releaseForm id = s := by
  rw [Site.releaseForm, Site.form?, h.forms]
  rfl

end Site

end AccessForm
