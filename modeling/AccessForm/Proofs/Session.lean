import AccessForm.Proofs.Binding
import AccessForm.Site.Dispatch

/-!
# Sessions

What happens to a bound form until it is released. Scripts call it, and users do things with the
elements in it; whatever they do, only the form itself and guards hear of it, as long as no other
form is bound in or around its element (`Secluded`). A `Session` is a site that such acts lead to.
Its form is still the one that was bound, apart from the mode in force and the mark, its document
evolved as the form allows, and the argument fields have the names that the controller says.

The first part is about all sites: reacting to events changes neither the bindings that there are
nor their listeners, so numbers stay in order.
-/

namespace AccessForm

namespace Site

variable {s s' s'' : Site}

/-! ## Reactions -/

/-- What no call and no event changes. -/
structure Stays (s s' : Site) : Prop where
  /-- The listeners. -/
  listeners : s'.listeners = s.listeners
  /-- The number of the next binding. -/
  next : s'.next = s.next
  /-- The numbers of the forms. -/
  numbers : s'.forms.map (·.id) = s.forms.map (·.id)
  /-- Nodes are only added. -/
  document : s.document.next ≤ s'.document.next

private theorem Stays.refl (s : Site) : s.Stays s := ⟨rfl, rfl, rfl, Nat.le_refl _⟩

private theorem Stays.trans (h : s.Stays s') (h' : s'.Stays s'') : s.Stays s'' :=
  ⟨h'.listeners.trans h.listeners, h'.next.trans h.next, h'.numbers.trans h.numbers,
    Nat.le_trans h.document h'.document⟩

theorem Numbered.of_stays (h : s.Numbered) (hs : s.Stays s') : s'.Numbered where
  forms f hf := by
    have hid : f.id ∈ s.forms.map (·.id) := hs.numbers ▸ List.mem_map_of_mem hf
    obtain ⟨g, hg, heq⟩ := List.mem_map.mp hid
    rw [hs.next, ← heq]
    exact h.forms g hg
  targets l hl := Nat.lt_of_lt_of_le (h.targets l (hs.listeners ▸ hl)) hs.document

theorem call_of_some {id : BindingId} {f : BoundForm} (h : s.form? id = some f)
    (e : Controller.Event NodeId) : (s.call id e).site =
      { s with
        document := (f.controller.handle s.document e).surface
        forms := s.forms.map fun g ↦
          if g.id = id then { g with controller := (f.controller.handle s.document e).controller }
          else g } := by
  rw [call, h]

theorem form?_call {id : BindingId} {f : BoundForm} (h : s.form? id = some f)
    (e : Controller.Event NodeId) : (s.call id e).site.form? id =
      some { f with controller := (f.controller.handle s.document e).controller } := by
  have hsame : ((fun g : BoundForm ↦ g.id == id) ∘ fun g : BoundForm ↦
      if g.id = id then { g with controller := (f.controller.handle s.document e).controller }
      else g) = fun g ↦ g.id == id := by
    funext g
    rw [Function.comp_apply]
    split <;> rfl
  have hid : f.id = id := by simpa using List.find?_some h
  rw [form?, call_of_some h]
  dsimp only
  rw [List.find?_map, hsame]
  rw [form?] at h
  rw [h, Option.map_some, if_pos hid]

private theorem stays_call (s : Site) (id : BindingId) (e : Controller.Event NodeId) :
    s.Stays (s.call id e).site := by
  cases h : s.form? id with
  | none =>
    rw [call, h]
    exact .refl s
  | some f =>
    rw [call_of_some h]
    refine ⟨rfl, rfl, ?_, (f.controller.evolves_handle s.document e).next_le⟩
    rw [List.map_map]
    refine List.map_congr_left fun g _ ↦ ?_
    rw [Function.comp_apply]
    split <;> rfl

/-- A guard decides without touching the forms, and does little to the document. -/
theorem exists_site_judge (s : Site) (id : BindingId) :
    ∃ d guards, (s.judge id).site = { s with document := d, guards } ∧
      s.document.Evolves .slight d := by
  rw [judge]
  cases h : s.guard? id with
  | none => exact ⟨s.document, s.guards, rfl, .refl _⟩
  | some g =>
    exact ⟨_, _, rfl, .submit (Leeway.slight_disabled _) (Leeway.slight_class _) s.document⟩

theorem stays_react (s : Site) (l : Listener) : s.Stays (s.react l).site := by
  cases h : l.reaction with
  | latch =>
    rw [react, h]
    obtain ⟨d, guards, heq, hd⟩ := s.exists_site_judge l.owner
    rw [heq]
    exact ⟨rfl, rfl, rfl, hd.next_le⟩
  | select | noteReason | release =>
    rw [react, h]
    exact s.stays_call _ _

/-- What every reaction keeps is kept when all listeners have reacted. -/
theorem reactAll_keeps {P : Site → Prop} {ls : List Listener}
    (h : ∀ s, P s → ∀ l ∈ ls, P (s.react l).site) {s : Site} (hs : P s) :
    P (s.reactAll ls).site := by
  induction ls generalizing s with
  | nil => exact hs
  | cons l ls ih =>
    have hfirst : P (s.react l).site := h s hs l List.mem_cons_self
    exact ih (fun t ht m hm ↦ h t ht m (List.mem_cons_of_mem _ hm)) hfirst

private theorem stays_dispatch (s : Site) (target : NodeId) (event : String) :
    s.Stays (s.dispatch target event).site :=
  reactAll_keeps (fun t ht l _ ↦ ht.trans (t.stays_react l)) (.refl s)

private theorem stays_setValue (s : Site) (id : NodeId) (v : String) :
    s.Stays (s.edit (·.setValue id v)) :=
  ⟨rfl, rfl, rfl, (Document.Evolves.setValue (l := .slight) s.document id v).next_le⟩

/-! ## Acts -/

/-- What users and scripts do while a form is bound. -/
inductive Act where
  /-- A script selects a permission. -/
  | select (permission : String)
  /-- A script brings the form in line once more. -/
  | derive
  /-- A user chooses a value in a field. -/
  | choose (target : NodeId) (v : String)
  /-- A user types a text into a field. -/
  | typeText (target : NodeId) (v : String)
  /-- An event happens to an element, such as a submission to the form. -/
  | dispatch (target : NodeId) (event : String)
  deriving DecidableEq, Repr

/-- Whether an act is about an element of a form, as far as it is about any. -/
def Act.Inside (d : Document) (root : NodeId) : Act → Prop
  | .select _ | .derive => True
  | .choose target _ | .typeText target _ | .dispatch target _ => root ∈ d.lineage target

instance (d : Document) (root : NodeId) : DecidablePred (Act.Inside d root)
  | .select _ | .derive => inferInstanceAs (Decidable True)
  | .choose target _ | .typeText target _ | .dispatch target _ =>
    inferInstanceAs (Decidable (root ∈ d.lineage target))

/-- The site after an act. -/
def act (s : Site) (id : BindingId) : Act → Site
  | .select permission => (s.call id (.select permission)).site
  | .derive => (s.call id .derive).site
  | .choose target v => (s.choose target v).site
  | .typeText target v => (s.typeText target v).site
  | .dispatch target event => (s.dispatch target event).site

/-- The site after several acts. -/
def actAll (s : Site) (id : BindingId) (as : List Act) : Site := as.foldl (·.act id ·) s

theorem stays_act (s : Site) (id : BindingId) (a : Act) : s.Stays (s.act id a) := by
  cases a with
  | select _ => exact s.stays_call _ _
  | derive => exact s.stays_call _ _
  | choose target v => exact (s.stays_setValue target v).trans (stays_dispatch _ _ _)
  | typeText target v => exact (s.stays_setValue target v).trans (stays_dispatch _ _ _)
  | dispatch _ _ => exact s.stays_dispatch _ _

/-! ## Numbers in order -/

theorem numbered_open (d : Document) : Numbered { document := d } :=
  ⟨fun _ h ↦ absurd h List.not_mem_nil, fun _ h ↦ absurd h List.not_mem_nil⟩

private theorem numbered_act (h : s.Numbered) (id : BindingId) (a : Act) : (s.act id a).Numbered :=
  h.of_stays (s.stays_act id a)

theorem Bound.next_le {root : NodeId} {plan : FormPlan} {f : BoundForm}
    (hb : Bound s root plan f s') (hplan : Plans s.document root plan) :
    s.document.next ≤ (provideDropdown s.document plan).1.next ∧
      (provideDropdown s.document plan).1.next ≤ s'.document.next := by
  obtain ⟨d, hd, -, hdoc⟩ := hb.document
  refine ⟨hplan.provided.evolves.next_le, ?_⟩
  rw [hdoc]
  exact hd.next_le

theorem Bound.numbered {root : NodeId} {plan : FormPlan} {f : BoundForm}
    (hb : Bound s root plan f s') (hplan : Plans s.document root plan) (h : s.Numbered) :
    s'.Numbered := by
  obtain ⟨hprovided, hstarted⟩ := hb.next_le hplan
  have hold : ∀ k, k < s.document.next → k < s'.document.next := fun k hk ↦
    Nat.lt_of_lt_of_le hk (Nat.le_trans hprovided hstarted)
  refine ⟨fun g hg ↦ ?_, fun l hl ↦ ?_⟩
  · rw [hb.next]
    rw [hb.forms] at hg
    rcases List.mem_append.mp hg with hg | hg
    · exact Nat.lt_succ_of_lt (h.forms g hg)
    · rw [List.mem_singleton.mp hg, hb.number]
      exact Nat.lt_succ_self _
  · rw [hb.listeners] at hl
    rcases List.mem_append.mp hl with hl | hl
    · exact hold _ (h.targets l hl)
    · rw [formListeners, List.mem_append, List.mem_append] at hl
      rcases hl with (hl | hl) | hl
      · obtain ⟨k, hk, rfl⟩ := List.mem_map.mp hl
        rw [hb.permission, hplan.permission] at hk
        exact hold k (lt_of_mem_queryKind hk)
      · obtain ⟨k, hk, rfl⟩ := List.mem_map.mp hl
        exact Nat.lt_of_lt_of_le (hb.reason k hk) hstarted
      · rw [List.mem_singleton.mp hl]
        exact hold root hplan.root_lt

theorem numbered_bindForm (h : s.Numbered) (root : NodeId) : (s.bindForm root).site.Numbered := by
  cases hplan : planForm s.document root with
  | error e =>
    rw [bindForm, hplan]
    exact h
  | ok plan =>
    have hplans := planForm_eq_ok_iff.mp hplan
    obtain ⟨f, hb⟩ := hplans.bound
    exact hb.numbered hplans h

theorem numbered_bindGuard (h : s.Numbered) (root : NodeId) :
    (s.bindGuard root).site.Numbered := by
  cases hplan : planGuard s.document root with
  | error e =>
    rw [bindGuard, hplan]
    exact h
  | ok latch =>
    have hroot : root < s.document.next := by
      obtain ⟨-, -, settings, -, hfound⟩ := by
        simpa only [planGuard, bind_eq_ok_iff] using hplan
      split at hfound
      · next n hn =>
        have hbelow : s.document.isBelow root n.id = true := by
          rcases Option.or_eq_some_iff.mp hn with hn | ⟨-, hn⟩
          · exact (Document.mem_query.mp (Document.mem_query_of_queryFirst? hn)).2.1
          · exact (Document.mem_query.mp (Document.mem_query_of_queryFirst? hn)).2.1
        exact Document.root_lt_of_isBelow hbelow
      · cases hfound
    rw [bindGuard, hplan]
    refine ⟨fun f hf ↦ Nat.lt_succ_of_lt (h.forms f hf), fun l hl ↦ ?_⟩
    rcases List.mem_append.mp hl with hl | hl
    · exact h.targets l hl
    · rw [List.mem_singleton.mp hl]
      exact hroot

theorem numbered_releaseForm (h : s.Numbered) (id : BindingId) : (s.releaseForm id).Numbered := by
  rw [releaseForm]
  split
  · exact h
  · exact ⟨fun f hf ↦ h.forms f (List.mem_filter.mp hf).1,
      fun l hl ↦ h.targets l (List.mem_filter.mp hl).1⟩

private theorem numbered_releaseGuard (h : s.Numbered) (id : BindingId) :
    (s.releaseGuard id).Numbered := by
  rw [releaseGuard]
  split
  · exact h
  · exact ⟨h.forms, fun l hl ↦ h.targets l (List.mem_filter.mp hl).1⟩

/-- The sites that come about as a document gets bindings, things happen to it, and bindings are
released. -/
inductive Reachable : Site → Prop where
  /-- A document without bindings. -/
  | opened (d : Document) : Reachable { document := d }
  /-- Someone binds a form. -/
  | bindForm {s : Site} (root : NodeId) : s.Reachable → (s.bindForm root).site.Reachable
  /-- Someone binds a guard. -/
  | bindGuard {s : Site} (root : NodeId) : s.Reachable → (s.bindGuard root).site.Reachable
  /-- Something happens to an element or to a form. -/
  | act {s : Site} (id : BindingId) (a : Act) : s.Reachable → (s.act id a).Reachable
  /-- Someone releases a form. -/
  | releaseForm {s : Site} (id : BindingId) : s.Reachable → (s.releaseForm id).Reachable
  /-- Someone releases a guard. -/
  | releaseGuard {s : Site} (id : BindingId) : s.Reachable → (s.releaseGuard id).Reachable

/-- The numbers are always in order. -/
theorem Reachable.numbered (h : s.Reachable) : s.Numbered := by
  induction h with
  | opened d => exact numbered_open d
  | bindForm root _ ih => exact numbered_bindForm ih root
  | bindGuard root _ ih => exact numbered_bindGuard ih root
  | act id a _ ih => exact numbered_act ih id a
  | releaseForm id _ ih => exact numbered_releaseForm ih id
  | releaseGuard id _ ih => exact numbered_releaseGuard ih id

/-! ## Sessions -/

/-- No form hears what happens to an element or to anything in it; guards may. -/
def Secluded (s : Site) (root : NodeId) : Prop :=
  ∀ l ∈ s.listeners, l.reaction ≠ .latch →
    ∀ t, root ∈ s.document.lineage t → l.target ∉ s.document.lineage t

/-- Only one form and guards hear what happens to an element or to anything in it. -/
def HeardBy (s : Site) (root : NodeId) (owner : BindingId) : Prop :=
  ∀ l ∈ s.listeners, l.reaction = .latch ∨ l.owner = owner ∨
    ∀ t, root ∈ s.document.lineage t → l.target ∉ s.document.lineage t

/-- A site during a session that began with a bound form on the site `s₁`; the names that its
argument fields had before are those of the document `d₀`. -/
structure Session (s₁ : Site) (f : BoundForm) (d₀ : Document) (s : Site) : Prop where
  /-- The bindings and listeners are the same. -/
  stays : s₁.Stays s
  /-- The document is what the form may make of it. -/
  document : s₁.document.Evolves f.controller.leeway s.document
  /-- The form is there, and the argument fields have the names that it says. -/
  form : ∃ mode primed,
    s.form? f.id = some { f with controller := { f.controller with mode, primed } } ∧
    Controller.Named { f.controller with mode, primed } d₀ s.document

namespace Session

variable {s₁ : Site} {f : BoundForm} {d₀ : Document} {root : NodeId}

/-- In a session, only the form and guards hear what happens to its element. -/
theorem heard (h : Session s₁ f d₀ s) (hours : s₁.HeardBy root f.id) {target : NodeId}
    (htarget : root ∈ s₁.document.lineage target) (event : String) :
    ∀ l ∈ s.audience target event, l.reaction = .latch ∨ l.owner = f.id := by
  intro l hl
  obtain ⟨id, hid, hl⟩ := List.mem_flatMap.mp hl
  obtain ⟨hmem, hcond⟩ := List.mem_filter.mp hl
  rw [Bool.and_eq_true, beq_iff_eq] at hcond
  -- an element on whose way up the form lies was there when the form was bound
  have hlt : target < s₁.document.next := by
    by_contra hge
    have hnone : s₁.document.lineage target = [] := by
      rw [Document.lineage_eq]
      cases hn : s₁.document.find? target with
      | none => rfl
      | some n => exact absurd (Document.lt_next_of_find? hn) hge
    rw [hnone] at htarget
    cases htarget
  -- listeners stay, and ways up get no longer, so nobody else comes to hear of the target
  rcases hours l (h.stays.listeners ▸ hmem) with hlatch | howner | hapart
  · exact .inl hlatch
  · exact .inr howner
  · refine absurd ?_ (hapart target htarget)
    rw [hcond.1]
    exact (h.document.lineage_prefix hlt).subset hid

variable (hseated : f.controller.Seated s₁.document)
include hseated

/-- What is done without the form's help does no harm to the session. -/
theorem of_slight (h : Session s₁ f d₀ s) (hs : s.Stays s') (hforms : s'.forms = s.forms)
    (hd : s.document.Evolves .slight s'.document) : Session s₁ f d₀ s' := by
  obtain ⟨mode, primed, hform, hnamed⟩ := h.form
  refine ⟨h.stays.trans hs, h.document.trans ?_, mode, primed, ?_, ?_⟩
  · refine hd.mono ?_ (fun _ hfalse ↦ hfalse.elim) (fun _ hfalse ↦ hfalse.elim)
    rintro id a (rfl | rfl)
    · exact f.controller.free_disabled id
    · exact f.controller.free_class id
  · rw [form?, hforms]
    exact hform
  · have hseated' := hseated.of_evolves h.document
    exact hnamed.of_evolves ⟨hseated'.distinct, hseated'.text, hseated'.dropdown⟩ hd
      Controller.not_slight_free_name

theorem call (h : Session s₁ f d₀ s) (e : Controller.Event NodeId) :
    Session s₁ f d₀ (s.call f.id e).site := by
  obtain ⟨mode, primed, hform, hnamed⟩ := h.form
  have hseated' := hseated.of_evolves h.document
  have hevolves := Controller.evolves_handle { f.controller with mode, primed } s.document e
  have hnamed' := hnamed.handle ⟨hseated'.distinct, hseated'.text, hseated'.dropdown⟩ e
  obtain ⟨mode', primed', hc⟩ := Controller.exists_controller_move
    { f.controller with mode, primed } s.document (.event e)
  simp only [Controller.move] at hc
  refine ⟨h.stays.trans (s.stays_call _ _), ?_, mode', primed', ?_, ?_⟩
  · rw [call_of_some hform]
    exact h.document.trans hevolves
  · rw [form?_call hform, hc]
  · rw [call_of_some hform]
    rw [hc] at hnamed'
    exact hnamed'

theorem react (h : Session s₁ f d₀ s) {l : Listener}
    (hl : l.reaction = .latch ∨ l.owner = f.id) : Session s₁ f d₀ (s.react l).site := by
  cases hr : l.reaction with
  | latch =>
    have hstays := s.stays_react l
    rw [Site.react, hr] at hstays ⊢
    obtain ⟨d, guards, heq, hd⟩ := s.exists_site_judge l.owner
    rw [heq] at hstays ⊢
    exact h.of_slight hseated hstays rfl hd
  | select | noteReason | release =>
    have howner : l.owner = f.id := by
      rcases hl with hlatch | howner
      · rw [hr] at hlatch
        cases hlatch
      · exact howner
    rw [Site.react, hr]
    dsimp only
    rw [howner]
    exact h.call hseated _

theorem setValue (h : Session s₁ f d₀ s) (id : NodeId) (v : String) :
    Session s₁ f d₀ (s.edit (·.setValue id v)) :=
  h.of_slight hseated (s.stays_setValue id v) rfl (.setValue s.document id v)

private theorem dispatch (h : Session s₁ f d₀ s) (hours : s₁.HeardBy root f.id) {target : NodeId}
    (htarget : root ∈ s₁.document.lineage target) (event : String) :
    Session s₁ f d₀ (s.dispatch target event).site :=
  reactAll_keeps (fun _ ht l hl ↦ ht.react hseated (h.heard hours htarget event l hl)) h

private theorem act (h : Session s₁ f d₀ s) (hours : s₁.HeardBy root f.id) {a : Act}
    (ha : a.Inside s₁.document root) : Session s₁ f d₀ (s.act f.id a) := by
  cases a with
  | select _ => exact h.call hseated _
  | derive => exact h.call hseated _
  | choose target v => exact (h.setValue hseated target v).dispatch hseated hours ha _
  | typeText target v => exact (h.setValue hseated target v).dispatch hseated hours ha _
  | dispatch _ event => exact h.dispatch hseated hours ha event

theorem actAll (h : Session s₁ f d₀ s) (hours : s₁.HeardBy root f.id) {as : List Act}
    (has : ∀ a ∈ as, a.Inside s₁.document root) :
    Session s₁ f d₀ (s.actAll f.id as) := by
  induction as generalizing s with
  | nil => exact h
  | cons a as ih =>
    have hfirst : Session s₁ f d₀ (s.act f.id a) := h.act hseated hours (has a List.mem_cons_self)
    exact ih hfirst fun b hb ↦ has b (List.mem_cons_of_mem _ hb)

end Session

/-! ### The beginning of a session -/

variable {root : NodeId} {plan : FormPlan} {f : BoundForm}

theorem Bound.form? (hb : Bound s root plan f s') (h : s.Numbered) :
    s'.form? f.id = some f := by
  have hnone : s.forms.find? (·.id == f.id) = none := by
    refine List.find?_eq_none.mpr fun g hg hid ↦ ?_
    have hlt := h.forms g hg
    rw [beq_iff_eq, hb.number] at hid
    exact absurd hlt (hid ▸ Nat.lt_irrefl _)
  rw [Site.form?, hb.forms, List.find?_append, hnone, Option.none_or]
  simp

theorem name?_setMarker (d : Document) (b : Bool) (id : NodeId) :
    (setMarker d root formMarker b).name? id = d.name? id :=
  Document.name?_toggleAttribute (by decide) d root id b

theorem isSome_setMarker {d : Document} {id : NodeId} (h : (d.element? id).isSome = true)
    (b : Bool) : ((setMarker d root formMarker b).element? id).isSome = true := by
  rw [setMarker, Document.element?_modify]
  split
  · rwa [Option.isSome_map]
  · exact h

theorem Bound.seated (hb : Bound s root plan f s') (hplan : Plans s.document root plan) :
    f.controller.Seated s'.document := by
  obtain ⟨d, hd, -, hdoc⟩ := hb.document
  obtain ⟨hdistinct, htext, hdropdown⟩ := (hplan.seated hb.text hb.dropdown).of_evolves hd
  rw [hdoc]
  exact ⟨hdistinct, isSome_setMarker htext true, isSome_setMarker hdropdown true⟩

theorem Bound.session (hb : Bound s root plan f s') (h : s.Numbered) :
    Session s' f (provideDropdown s.document plan).1 s' := by
  obtain ⟨d, -, hnamed, hdoc⟩ := hb.document
  refine ⟨.refl s', .refl _, f.controller.mode, f.controller.primed, hb.form? h, ?_⟩
  rw [hdoc]
  refine ⟨?_, ?_⟩
  · rw [name?_setMarker]
    exact hnamed.text
  · rw [name?_setMarker]
    exact hnamed.dropdown

/-- No other form hears what happens to the element of a form. -/
theorem Bound.heard (hb : Bound s root plan f s') (hplan : Plans s.document root plan)
    (h : s.Numbered) (hsecluded : s.Secluded root) : s'.HeardBy root f.id := by
  intro l hl
  obtain ⟨d, hd, -, hdoc⟩ := hb.document
  rw [hb.listeners] at hl
  rcases List.mem_append.mp hl with hl | hl
  · -- an earlier listener: what was apart from the form stays apart
    by_cases hlatch : l.reaction = .latch
    · exact .inl hlatch
    · refine .inr (.inr fun t ↦ ?_)
      have hprovided := hplan.provided.evolves
      have hroot := Nat.lt_of_lt_of_le hplan.root_lt hprovided.next_le
      have htarget := Nat.lt_of_lt_of_le (h.targets l hl) hprovided.next_le
      rw [hdoc, setMarker, Document.lineage_modify]
      refine hd.notMem_lineage hroot htarget (fun u ↦ ?_) t
      exact hprovided.notMem_lineage hplan.root_lt (h.targets l hl) (hsecluded l hl hlatch) u
  · -- a listener of the form itself
    exact .inr (.inl ((of_mem_formListeners hl).1.trans hb.number.symm))

end Site

end AccessForm
