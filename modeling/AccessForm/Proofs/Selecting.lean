import AccessForm.Proofs.Attendance
import AccessForm.Proofs.Reselection
import AccessForm.Proofs.Tracking

/-!
# Choosing is selecting

A permission is chosen by a user in one copy of the selector, or it is selected by a script. The
user writes to the copy first, and the form publishes what it reads back from there; for a script it
publishes the permission to all copies at once. Both ways lead to the same
(`choosing_is_selecting`), whatever the copies offer and whatever happened to the page before, as
long as no one else hears of the choice: no form lies in the element of another one, and the copy
lies in no other copy. When the permission that the form then finds has no entry in the table, a
script gets the error for an answer, and a user gets none.

If the copy lies in another one, the other one hears of the choice after it, and publishes what it
holds itself (`not_always_selecting`).
-/

namespace AccessForm

namespace Controller

private theorem snapshot_eq_of_alike {d d' : Document} {k : NodeId} (h : Document.Alike k d d')
    (c : Controller NodeId NodeId) : c.snapshot d' = c.snapshot d := by
  have hpermission : c.permission d' = c.permission d := by
    rw [permission, permission]
    cases c.layout.permission with
    | nil => rfl
    | cons first _ => exact h.value_eq first
  rw [snapshot, snapshot, hpermission]

end Controller

namespace Site

variable {s : Site} {f : BoundForm} {copy : NodeId} {v : String}

/-! ## What is compared -/

/-- What can be asked about the forms of a site. -/
def states (s : Site) : List (BindingId × Snapshot) :=
  s.forms.map fun g ↦ (g.id, g.controller.snapshot s.document)

/-- A permission that a user can choose, on a site that began with a page. -/
structure Choosable (d : Document) (s : Site) (f : BoundForm) (copy : NodeId) (v : String) :
    Prop where
  /-- The form is bound. -/
  bound : f ∈ s.forms
  /-- No form lies in the element of another one on the page. -/
  apart : ∀ f ∈ s.forms, ∀ g ∈ s.forms, f.root ≠ g.root → f.root ∉ d.lineage g.root
  /-- No copy of the permission selector is the dropdown for the argument. -/
  roles : f.controller.layout.dropdown ∉ f.controller.layout.permission
  /-- The user chooses in a copy. -/
  among : copy ∈ f.controller.layout.permission
  /-- The copy offers the permission. -/
  offered : v ∈ Surface.options s.document copy

/-- On a page with one form there are no forms to tell apart. -/
theorem Choosable.of_one {d : Document} (hone : s.forms = [f])
    (hroles : f.controller.layout.dropdown ∉ f.controller.layout.permission)
    (hcopy : copy ∈ f.controller.layout.permission)
    (hv : v ∈ Surface.options s.document copy) : Choosable d s f copy v where
  bound := hone ▸ List.mem_singleton.mpr rfl
  apart := by
    rw [hone]
    intro g hg k hk hne
    rw [List.mem_singleton.mp hg, List.mem_singleton.mp hk] at hne
    exact absurd rfl hne
  roles := hroles
  among := hcopy
  offered := hv

/-- It makes no difference whether a user chooses a permission in a copy of the selector of a form,
or a script selects it. -/
structure SelectsAlike (s : Site) (f : BoundForm) (copy : NodeId) (v : String) : Prop where
  /-- All elements look the same. -/
  portrait (k : NodeId) : (s.choose copy v).site.document.portrait k =
    (s.call f.id (.select v)).site.document.portrait k
  /-- All forms go on in the same way. -/
  forms : (s.choose copy v).site.forms = (s.call f.id (.select v)).site.forms
  /-- All forms say the same about themselves. -/
  states : (s.choose copy v).site.states = (s.call f.id (.select v)).site.states

/-! ## The two ways -/

theorem Orderly.form?_of_mem (h : s.Orderly) (hf : f ∈ s.forms) : s.form? f.id = some f := by
  have hsome : (s.form? f.id).isSome = true := List.find?_isSome.mpr ⟨f, hf, by simp⟩
  obtain ⟨g, hg⟩ := Option.isSome_iff_exists.mp hsome
  have hid : g.id = f.id := by simpa using List.find?_some hg
  rw [hg, List.inj_on_of_nodup_map h.nodup_forms (List.mem_of_find?_eq_some hg) hf hid]

/-- A choice that is heard in the copy alone is handled by the form, and not prevented. -/
theorem choose_of_audience (hf : s.form? f.id = some f)
    (haudience : (s.edit (·.setValue copy v)).audience copy "change" = [⟨copy, f.id, .select⟩]) :
    (s.choose copy v).site = (s.call f.id (.choose copy v)).site ∧
      (s.choose copy v).answer = false := by
  have hedit : (s.edit (·.setValue copy v)).form? f.id = some f := hf
  rw [choose, dispatch, haudience]
  refine ⟨?_, rfl⟩
  show ((s.edit (·.setValue copy v)).call f.id
    (.select ((s.edit (·.setValue copy v)).document.value copy))).site = _
  rw [call_of_some hedit, call_of_some hf]
  rfl

/-- Where the page keeps the forms apart and the copy lies in no other copy, a choice in the copy
is handled by its form alone. -/
theorem Attended.choose_eq {d : Document} (h : Attended d s) (ho : s.Orderly)
    (hchoosable : Choosable d s f copy v)
    (hflat : ∀ j ∈ f.controller.layout.permission, j ∈ s.document.lineage copy → j = copy)
    (hkind : s.document.kind copy = .dropdown) :
    (s.choose copy v).site = (s.call f.id (.choose copy v)).site ∧
      (s.choose copy v).answer = false := by
  -- the user writes to the copy before anyone hears of it
  have hpersists := s.persists_setValue copy v
  have hset := Document.sameBut_setValue hkind v
  have hsome : (s.document.element? copy).isSome = true := by
    obtain ⟨e, he, -⟩ := Document.exists_of_kind_ne (d := s.document) (k := copy)
      (by rw [hkind]; decide)
    rw [he]
    rfl
  exact choose_of_audience (ho.form?_of_mem hchoosable.bound)
    ((h.persists hpersists).audience_change (ho.persists hpersists) hchoosable.bound
      hchoosable.apart hchoosable.among
      (fun j hj hmem ↦ hflat j hj (hset.lineage_eq copy ▸ hmem))
      (hpersists.document.isSome_element? hsome))

/-- Choosing a permission in a copy of the selector is selecting it.

- This is so on every site that comes about as users and scripts do things with a page and as forms
  and guards are bound and released, for every form that is bound there and every permission that a
  copy offers, as long as the copy lies in no other copy of the selector.
- All elements look the same, and all forms are in the same state.
- The choice is not prevented and has no other answer. A script gets the mode for the permission
  that the first copy can hold, or the error if that one has no entry in the table. -/
theorem choosing_is_selecting (d : Document) (ops : List Operation) (f : BoundForm) (copy : NodeId)
    (v : String) (h : Choosable d (operateAll { document := d } ops) f copy v)
    (hflat : ∀ j ∈ f.controller.layout.permission,
      j ∈ (operateAll { document := d } ops).document.lineage copy → j = copy) :
    let s := operateAll { document := d } ops
    s.SelectsAlike f copy v ∧ (s.choose copy v).answer = false ∧
      ∀ first rest, f.controller.layout.permission = first :: rest →
        (s.call f.id (.select v)).answer = some (f.controller.table.mode
          (if v ∈ Surface.options s.document first then v else "")) := by
  intro s
  obtain ⟨ho, hattended⟩ := attended_operateAll d ops
  have hkind : ∀ k ∈ f.controller.layout.permission, s.document.kind k = .dropdown := fun k hk ↦
    (dropdowns_operateAll d ops).kind _ (hattended.select_mem_listeners h.bound hk) rfl
  have hform : s.form? f.id = some f := ho.form?_of_mem h.bound
  obtain ⟨hsite, hanswer⟩ := hattended.choose_eq ho h hflat (hkind copy h.among)
  obtain ⟨hcontroller, hsurface, -, -⟩ := Controller.matches_choose h.among (hkind copy h.among)
    (fun heq ↦ h.roles (heq ▸ h.among)) h.offered
  rw [Controller.map_id] at hcontroller
  have hdocument : Document.Alike copy (s.call f.id (.select v)).site.document
      (s.choose copy v).site.document := by
    rw [hsite, call_of_some hform, call_of_some hform]
    exact hsurface
  have hforms : (s.choose copy v).site.forms = (s.call f.id (.select v)).site.forms := by
    rw [hsite, call_of_some hform, call_of_some hform]
    dsimp only
    rw [hcontroller]
    rfl
  refine ⟨⟨hdocument.portrait_eq, hforms, ?_⟩, hanswer, fun first rest hfirst ↦ ?_⟩
  · rw [states, states, hforms]
    exact List.map_congr_left fun g _ ↦ by rw [Controller.snapshot_eq_of_alike hdocument]
  · -- the form reads the permission off the first copy, whatever the others hold
    have hmem : first ∈ f.controller.layout.permission := hfirst ▸ List.mem_cons_self
    rw [call, hform]
    show some (f.controller.derive _).outcome = _
    rw [Controller.outcome_derive, Controller.permission, hfirst]
    show some (f.controller.table.mode (Document.value _ first)) = _
    rw [← hfirst, Document.value_publish (hkind first hmem) hmem]

/-- A page with two copies of the permission selector that offer different permissions. Each of them
offers one without an entry in the table. -/
def unevenPage : Document where
  nodes :=
    [⟨0, none, tabled⟩,
      ⟨1, some 0, called "select" "permission_name"⟩, ⟨2, some 1, chosenOption ""⟩,
      ⟨3, some 1, .newOption "view"⟩, ⟨4, some 1, .newOption "gone"⟩,
      ⟨5, some 0, called "select" "permission_name"⟩, ⟨6, some 5, chosenOption ""⟩,
      ⟨7, some 5, .newOption "view"⟩, ⟨8, some 5, .newOption "lost"⟩,
      ⟨9, some 0, called "input" "argument"⟩]
  next := 10
  distinct := by decide +kernel
  aged := by decide +kernel

/-- There a permission is chosen in the second copy, and then one without an entry in the first. -/
theorem choosing_is_selecting_gone :
    let s := operateAll { document := unevenPage } [.bindForm 0, .act 0 (.choose 5 "view")]
    ∃ f ∈ s.forms, s.SelectsAlike f 1 "gone" ∧
      (s.choose 1 "gone").site.states = [(0, ⟨"gone", .choice ["prod", "staging"], 0⟩)] ∧
      (s.choose 1 "gone").answer = false ∧
      (s.call f.id (.select "gone")).answer = some (.error ⟨"gone"⟩) := by
  intro s
  obtain ⟨f, hf⟩ : ∃ f, s.forms = [f] := List.length_eq_one_iff.mp (by decide +kernel)
  have hlayout : s.forms.map (fun g ↦ (g.controller.layout.permission,
      g.controller.layout.dropdown)) = [([1, 5], 10)] := by decide +kernel
  have hmode : s.forms.map (·.controller.table.mode "gone") = [.error ⟨"gone"⟩] := by
    decide +kernel
  rw [hf] at hlayout hmode
  obtain ⟨hpermission, hdropdown⟩ := Prod.mk.inj (List.singleton_inj.mp hlayout)
  have hchoosable : Choosable unevenPage s f 1 "gone" :=
    .of_one hf (by rw [hpermission, hdropdown]; decide) (by rw [hpermission]; decide)
      (by decide +kernel)
  have hflat : ∀ j ∈ f.controller.layout.permission, j ∈ s.document.lineage 1 → j = 1 := by
    rw [hpermission]
    decide +kernel
  obtain ⟨halike, hanswer, hscript⟩ := choosing_is_selecting unevenPage
    [.bindForm 0, .act 0 (.choose 5 "view")] f 1 "gone" hchoosable hflat
  refine ⟨f, hchoosable.bound, halike, by decide +kernel, hanswer, ?_⟩
  rw [hscript 1 [5] hpermission, if_pos hchoosable.offered]
  exact congrArg some (List.singleton_inj.mp hmode)

/-- A copy that lies in another one makes a difference. And a script gets no error for a permission
that the first copy does not offer. -/
theorem not_always_selecting :
    (¬ ∀ d ops f copy v, Choosable d (operateAll { document := d } ops) f copy v →
      (operateAll { document := d } ops).SelectsAlike f copy v) ∧
    ¬ ∀ d ops f copy v e, Choosable d (operateAll { document := d } ops) f copy v →
      f.controller.table.mode v = .error e →
      ((operateAll { document := d } ops).call f.id (.select v)).answer = some (.error e) := by
  constructor
  · -- the outer copy holds nothing, and the form takes the choice back
    intro h
    obtain ⟨f, hf⟩ : ∃ f, (operateAll { document := nestedPage } [.bindForm 0]).forms = [f] :=
      List.length_eq_one_iff.mp (by decide +kernel)
    have hlayout : (operateAll { document := nestedPage } [.bindForm 0]).forms.map (fun g ↦
        (g.id, g.controller.layout.permission, g.controller.layout.dropdown)) =
        [(0, [1, 4, 7], 11)] := by decide +kernel
    rw [hf] at hlayout
    obtain ⟨hid, hroles⟩ := Prod.mk.inj (List.singleton_inj.mp hlayout)
    obtain ⟨hpermission, hdropdown⟩ := Prod.mk.inj hroles
    have hsame := (h nestedPage [.bindForm 0] f 7 "view"
      (.of_one hf (by rw [hpermission, hdropdown]; decide) (by rw [hpermission]; decide)
        (by decide +kernel))).states
    rw [hid] at hsame
    exact absurd hsame (by decide +kernel)
  · -- the first copy cannot hold the permission, and nothing is selected in it
    intro h
    obtain ⟨f, hf⟩ : ∃ f, (operateAll { document := unevenPage } [.bindForm 0]).forms = [f] :=
      List.length_eq_one_iff.mp (by decide +kernel)
    have hlayout : (operateAll { document := unevenPage } [.bindForm 0]).forms.map (fun g ↦
        (g.id, g.controller.layout.permission, g.controller.layout.dropdown)) =
        [(0, [1, 5], 10)] := by decide +kernel
    have hmode : (operateAll { document := unevenPage } [.bindForm 0]).forms.map
        (·.controller.table.mode "lost") = [.error ⟨"lost"⟩] := by decide +kernel
    rw [hf] at hlayout hmode
    obtain ⟨hid, hroles⟩ := Prod.mk.inj (List.singleton_inj.mp hlayout)
    obtain ⟨hpermission, hdropdown⟩ := Prod.mk.inj hroles
    have hanswer := h unevenPage [.bindForm 0] f 5 "lost" ⟨"lost"⟩
      (.of_one hf (by rw [hpermission, hdropdown]; decide) (by rw [hpermission]; decide)
        (by decide +kernel)) (List.singleton_inj.mp hmode)
    rw [hid] at hanswer
    exact absurd hanswer (by decide +kernel)

end Site

end AccessForm
