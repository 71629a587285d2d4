import AccessForm.Proofs.Hosting
import AccessForm.Proofs.Rebinding

/-!
# Locked selectors

A form locks the selectors that the page filled in by disabling them, and enables them when it is
submitted. What is locked is read off the document at every binding, and a release enables nothing.
So a selector that is locked when its form is released without having been submitted stays disabled
for good: to the next form it is a selector that the page rendered as disabled, which is not to be
submitted.

The result follows one dropdown of a page through the bindings of a root. As long as it is not the
one that a form disables and enables for other reasons, nothing but the locks bears on whether it is
disabled: `Controller.Spares.isDisabled_play_iff` is about one history of a form,
`Vacant.isDisabled_visit_iff` about one binding from the first act to the release. So after a
submission it is disabled exactly if some earlier form locked it and was released too soon.
-/

namespace AccessForm

/-- The leeway of those who leave one attribute of one element alone. -/
def Leeway.sparing (k : NodeId) (name : String) : Leeway :=
  ⟨fun id a ↦ ¬ (id = k ∧ a = name), fun _ ↦ True, fun _ ↦ True⟩

/-! ## Disabled elements -/

namespace Document

variable {d d' : Document} {k : NodeId} {l : Leeway}

theorem isSome_of_kind (h : d.kind k = .dropdown) : (d.element? k).isSome = true := by
  by_contra hnone
  rw [kind, Option.not_isSome_iff_eq_none.mp hnone] at h
  exact absurd h (by decide)

theorem Evolves.kind_eq (h : d.Evolves l d') (hk : d.kind k = .dropdown) :
    d'.kind k = .dropdown := by
  have hsome := isSome_of_kind hk
  rw [element?, Option.isSome_map] at hsome
  obtain ⟨n, hn⟩ := Option.isSome_iff_exists.mp hsome
  obtain ⟨n', hn', hb⟩ := h.find? hn
  rw [kind, element?, hn, Option.map_some, Option.map_some, Option.getD_some] at hk
  rw [kind, element?, hn', Option.map_some, Option.map_some, Option.getD_some, hb.kind, hk]

private theorem isDisabled_eq_isSome (d : Document) (k : NodeId) :
    Surface.isDisabled d k = ((d.element? k).bind (·.attribute? "disabled")).isSome := by
  simp only [Surface.isDisabled]
  rcases d.element? k with _ | e
  · rfl
  · rfl

theorem Evolves.isDisabled_eq (h : d.Evolves l d') (hk : (d.element? k).isSome = true)
    (hfree : ¬ l.free k "disabled") : Surface.isDisabled d' k = Surface.isDisabled d k := by
  rw [isDisabled_eq_isSome, isDisabled_eq_isSome, h.attribute?_eq hk hfree]

theorem Evolves.isDisabled_spared (h : d.Evolves (.sparing k "disabled") d')
    (hk : (d.element? k).isSome = true) : Surface.isDisabled d' k = Surface.isDisabled d k :=
  h.isDisabled_eq hk fun hfree ↦ hfree ⟨rfl, rfl⟩

private theorem Evolves.spared (h : d.Evolves (.sparing k "disabled") d')
    (hk : d.kind k = .dropdown) :
    d'.kind k = .dropdown ∧ Surface.isDisabled d' k = Surface.isDisabled d k :=
  ⟨h.kind_eq hk, h.isDisabled_spared (isSome_of_kind hk)⟩

theorem isDisabled_setDisabled (hk : (d.element? k).isSome = true) (j : NodeId) (b : Bool) :
    Surface.isDisabled (Surface.setDisabled d j b) k =
      if k = j then b else Surface.isDisabled d k := by
  obtain ⟨e, he⟩ := Option.isSome_iff_exists.mp hk
  simp only [Surface.isDisabled, Surface.setDisabled, element?_modify]
  split
  · rw [he]
    exact Element.hasAttribute_toggleAttribute e "disabled" b
  · rfl

theorem isDisabled_setAllDisabled (hk : (d.element? k).isSome = true) (ks : List NodeId)
    (b : Bool) : Surface.isDisabled (Controller.setAllDisabled d ks b) k =
      if k ∈ ks then b else Surface.isDisabled d k := by
  induction ks generalizing d with
  | nil => rfl
  | cons j ks ih =>
    have hfirst : d.Evolves .slight (Surface.setDisabled d j b) :=
      .toggleAttribute (Leeway.slight_disabled _) (by decide) d b
    have hrest := ih (hfirst.isSome_element? hk)
    rw [isDisabled_setDisabled hk] at hrest
    rw [Controller.setAllDisabled, List.foldl_cons, ← Controller.setAllDisabled, hrest]
    by_cases hks : k ∈ ks <;> by_cases hj : k = j <;> simp [hks, hj]

end Document

/-! ## Along a history -/

namespace Controller

private theorem surface_handle_locked {σ κ ς : Type} [Surface σ κ ς] (c : Controller κ ς) (s : σ)
    {e : Event κ} (he : e.submits = false) (locked : List κ) :
    (handle { c with locked } s e).surface = (c.handle s e).surface := by
  have hderive : ∀ t : σ, (derive { c with locked } t).surface = (c.derive t).surface := by
    intro t
    simp only [derive, permission]
    rcases c.table.mode (Copies.value t c.layout.permission) with _ | mode
    · rfl
    · rfl
  rcases e with p | ⟨copy, p⟩ | _ | r | ⟨copy, r⟩ | _
  · exact hderive _
  · exact hderive _
  · exact hderive _
  · rfl
  · rfl
  · exact absurd he.symm Bool.false_ne_true

variable {c : Controller NodeId NodeId} {d : Document} {k : NodeId}

/-- An element is none of those that a form disables when they are not in use. -/
structure Spares (c : Controller NodeId NodeId) (k : NodeId) : Prop where
  /-- It is not the text field. -/
  text : c.layout.text ≠ k
  /-- It is not the dropdown, unless the unused field is renamed. -/
  dropdown : c.exclusion = .disabling → c.layout.dropdown ≠ k

namespace Spares

private theorem within (h : c.Spares k) :
    Within { c with locked := [] } (Document.Evolves (.sparing k "disabled")) := by
  have hother : ∀ {id : NodeId} {name : String}, name ≠ "disabled" →
      (Leeway.sparing k "disabled").free id name := fun hname hboth ↦ hname hboth.2
  exact {
    toFrame := Document.frame_evolves _
    setValue d id v _ := .setValue d id v
    lock _ _ _ hid := absurd hid List.not_mem_nil
    setName d id n _ _ := .setAttribute (hother (by decide)) (by decide) d n
    setDisabled d id b hdisabling hid := by
      refine .toggleAttribute (fun hboth ↦ ?_) (by decide) d b
      rcases List.mem_pair.mp hid with heq | heq
      · exact h.text (heq.symm.trans hboth.1)
      · exact h.dropdown hdisabling (heq.symm.trans hboth.1)
    setRequired d id b _ := .toggleAttribute (hother (by decide)) (by decide) d b
    setVisible d id b _ := .setShown d id b
    clearOptions d := .detach fun _ _ ho ↦ ⟨_, trivial, ho⟩
    appendOption d v := (Document.Evolves.insert trivial d _ _).trans (.settle _ _)
    showSection d id b _ := .setShown d id b }

/-- A move bears on whether the element is disabled only if the form is submitted. -/
theorem isDisabled_move_iff (h : c.Spares k) (hk : (d.element? k).isSome = true)
    {m : Move NodeId NodeId} (hm : Allows (Document.Evolves (.sparing k "disabled")) m) :
    Surface.isDisabled (c.move d m).surface k = true ↔
      Surface.isDisabled d k = true ∧ ¬ (k ∈ c.locked ∧ m = .event .submit) := by
  rcases m with e | e
  · rw [move]
    by_cases hsubmit : e = .submit
    · subst hsubmit
      rw [handle, release, Document.isDisabled_setAllDisabled hk]
      by_cases hlocked : k ∈ c.locked <;> simp [hlocked]
    · have hsubmits : e.submits = false :=
        Bool.eq_false_iff.mpr (mt Event.submits_iff.mp hsubmit)
      rw [← c.surface_handle_locked d hsubmits [], (h.within.handle hm d).isDisabled_spared hk]
      simp [hsubmit]
  · rw [move, Document.Evolves.isDisabled_spared (hm d) hk]
    simp

/-- Along a history, the element is enabled if it is locked and the form is submitted, and otherwise
it is as it was. -/
theorem isDisabled_play_iff (h : c.Spares k) (hk : d.kind k = .dropdown)
    {ms : List (Move NodeId NodeId)} (hms : ∀ l, ∀ m ∈ ms, Allows (Document.Evolves l) m) :
    Surface.isDisabled (c.play d ms).2 k = true ↔
      Surface.isDisabled d k = true ∧ ¬ (k ∈ c.locked ∧ .event .submit ∈ ms) := by
  induction ms generalizing c d with
  | nil => simp
  | cons m ms ih =>
    have hm : ∀ l, Allows (Document.Evolves l) m := fun l ↦ hms l m List.mem_cons_self
    have hevolves : d.Evolves c.leeway (c.move d m).surface := by
      rcases m with e | e
      · exact c.evolves_handle d e
      · exact hm c.leeway d
    have hkind : (c.move d m).surface.kind k = .dropdown := hevolves.kind_eq hk
    obtain ⟨mode, primed, hc⟩ := c.exists_controller_move d m
    have hrest := ih (c := { c with mode, primed }) ⟨h.text, h.dropdown⟩ hkind
      fun l m' hm' ↦ hms l m' (List.mem_cons_of_mem _ hm')
    rw [play_cons, hc, hrest, h.isDisabled_move_iff (Document.isSome_of_kind hk) (hm _),
      List.mem_cons, eq_comm]
    tauto

/-- Taking over a form disables the element if it is locked. -/
theorem isDisabled_start_iff {table : Table} {exclusion : Exclusion}
    {layout : Layout NodeId NodeId} (h : Spares { table, exclusion, layout } k)
    (hk : (d.element? k).isSome = true) :
    Surface.isDisabled (start table exclusion layout d).surface k = true ↔
      k ∈ prefilled layout d ∨ Surface.isDisabled d k = true := by
  have hsome : ((setAllDisabled d (prefilled layout d) true).element? k).isSome = true :=
    (evolves_setAllDisabled d _ true).isSome_element? hk
  have hspares : Spares { table, exclusion, layout, locked := prefilled layout d } k :=
    ⟨h.text, h.dropdown⟩
  refine (hspares.isDisabled_move_iff hsome (m := .event .derive)
    (Document.allows_event _ _)).trans ?_
  rw [Document.isDisabled_setAllDisabled hk]
  by_cases hlocked : k ∈ prefilled layout d <;> simp [hlocked]

end Spares

end Controller

/-! ## Visits -/

namespace Site

variable {s s' : Site} {root k : NodeId} {plan : FormPlan} {f : BoundForm}

/-- What happens around one binding of a form. -/
structure Visit where
  /-- What users do before the form is bound. -/
  before : List Act := []
  /-- What happens until it is released. -/
  during : List Act := []
  deriving DecidableEq, Repr

/-- The site to which the form of a visit comes. -/
def await (s : Site) (v : Visit) : Site := s.actAll s.next v.before

/-- The binding of a visit. -/
def arrive (s : Site) (root : NodeId) (v : Visit) : Reply (Except BindError BindingId) :=
  (s.await v).bindForm root

/-- The site right before the form is released. -/
def stay (s : Site) (root : NodeId) (v : Visit) : Site :=
  (s.arrive root v).site.actAll s.next v.during

/-- The site after a visit. -/
def visit (s : Site) (root : NodeId) (v : Visit) : Site :=
  (s.await v).leave root s.next v.during

private theorem visit_eq (s : Site) (root : NodeId) (v : Visit) :
    s.visit root v = (s.stay root v).releaseForm s.next := rfl

/-- The site after several visits. -/
def visitAll (s : Site) (root : NodeId) (vs : List Visit) : Site := vs.foldl (·.visit root ·) s

/-- The forms that are bound in the course of several visits. -/
def visitors (s : Site) (root : NodeId) : List Visit → List BoundForm
  | [] => []
  | v :: vs => (s.arrive root v).site.forms ++ visitors (s.visit root v) root vs

/-- A form finds that an element is a selector of its own that is enabled and has a single option,
and is released without having been submitted. -/
def Strands (s : Site) (root k : NodeId) (v : Visit) : Prop :=
  (∃ f ∈ (s.arrive root v).site.forms,
      k ∈ Controller.prefilled f.controller.layout (s.await v).document) ∧
    ¬ (s.arrive root v).site.Submitted s.next root v.during

/-- Some form found an element filled in and was released without having been submitted. -/
def Stranded (s : Site) (root k : NodeId) : List Visit → Prop
  | [] => False
  | v :: vs => s.Strands root k v ∨ Stranded (s.visit root v) root k vs

instance (s : Site) (root k : NodeId) : DecidablePred (s.Strands root k) := fun v ↦
  inferInstanceAs (Decidable ((∃ f ∈ (s.arrive root v).site.forms,
      k ∈ Controller.prefilled f.controller.layout (s.await v).document) ∧
    ¬ (s.arrive root v).site.Submitted s.next root v.during))

instance decidableStranded (root k : NodeId) :
    ∀ (s : Site) (vs : List Visit), Decidable (s.Stranded root k vs)
  | _, [] => inferInstanceAs (Decidable False)
  | s, v :: vs =>
    have := decidableStranded root k (s.visit root v) vs
    inferInstanceAs (Decidable (s.Strands root k v ∨ (s.visit root v).Stranded root k vs))

private theorem visitors_append (s : Site) (root : NodeId) (vs ws : List Visit) :
    s.visitors root (vs ++ ws) = s.visitors root vs ++ (s.visitAll root vs).visitors root ws := by
  induction vs generalizing s with
  | nil => rfl
  | cons v vs ih =>
    rw [List.cons_append, visitors, visitors, ih, List.append_assoc]
    rfl

/-! ### One binding -/

/-- What a form finds that is bound to a root, as far as one dropdown of the page is concerned. -/
structure Receives (s : Site) (root k : NodeId) (f : BoundForm) (s' : Site) : Prop where
  /-- The form is there alone. -/
  hosts : s'.Hosts f
  /-- It has the next number. -/
  number : f.id = s.next
  /-- It knows its element. -/
  element : f.root = root
  /-- The element is there. -/
  root : (s'.document.element? root).isSome = true
  /-- The dropdown is still one. -/
  kind : s'.document.kind k = .dropdown
  /-- So it is not the text field. -/
  text : f.controller.layout.text ≠ k
  /-- It is locked if it is a selector that the page filled in. -/
  locked : k ∈ f.controller.locked ↔ k ∈ Controller.prefilled f.controller.layout s.document
  /-- It is disabled if it is locked or was disabled before. -/
  disabled : f.controller.Spares k → (Surface.isDisabled s'.document k = true ↔
    k ∈ f.controller.locked ∨ Surface.isDisabled s.document k = true)

theorem kind_setMarker {d : Document} (h : d.kind k = .dropdown) (root : NodeId) (b : Bool) :
    (setMarker d root formMarker b).kind k = .dropdown ∧
      Surface.isDisabled (setMarker d root formMarker b) k = Surface.isDisabled d k := by
  have hevolves : d.Evolves (.sparing k "disabled") (setMarker d root formMarker b) :=
    .toggleAttribute (fun hboth ↦ absurd hboth.2 (by decide)) (by decide) d b
  exact hevolves.spared h

private theorem Plans.keeps (hplan : Plans s.document root plan)
    (hk : s.document.kind k = .dropdown) :
    (provideDropdown s.document plan).1.kind k = .dropdown ∧
      Surface.isDisabled (provideDropdown s.document plan).1 k =
        Surface.isDisabled s.document k ∧
      ∀ layout : Layout NodeId NodeId,
        k ∈ Controller.prefilled layout (provideDropdown s.document plan).1 ↔
          k ∈ Controller.prefilled layout s.document := by
  have hsome := Document.isSome_of_kind hk
  have hevolves := hplan.provided.evolves
  have hflag := hevolves.isDisabled_eq hsome fun hfalse ↦ hfalse
  have hoptions : (Surface.options (provideDropdown s.document plan).1 k).length =
      (Surface.options s.document k).length := by
    simp only [Surface.options, List.length_map]
    refine hevolves.length_options (fun _ hfalse ↦ hfalse) (fun hkind ↦ ?_) k
    exact absurd hkind (by simp [generating])
  refine ⟨hevolves.kind_eq hk, hflag, fun layout ↦ ?_⟩
  rw [Controller.prefilled, Controller.prefilled, List.mem_filter, List.mem_filter, hoptions,
    hflag]

private theorem Plans.text_ne (hplan : Plans s.document root plan)
    (hk : s.document.kind k = .dropdown) : plan.text ≠ k := by
  obtain ⟨n, hn, hid, -, hkind⟩ := exists_of_locateText hplan.text
  rintro rfl
  rw [← hid, Document.kind, Document.element?, Document.find?_of_mem hn] at hk
  rw [Option.map_some, Option.map_some, Option.getD_some, hkind] at hk
  exact absurd hk (by decide)

private theorem Vacant.receives (h : s.Vacant) (hplan : Plans s.document root plan)
    (hk : s.document.kind k = .dropdown) : ∃ f, s.Receives root k f (s.bindForm root).site := by
  obtain ⟨hkind, hflag, hfilled⟩ := hplan.keeps hk
  obtain ⟨f, hb⟩ := hplan.bound
  obtain ⟨hforms, hdocument⟩ := hplan.opened
  obtain ⟨mode, primed, hc⟩ := exists_controller_opening s.document root plan
  have hopened : f.controller.layout = plannedLayout s.document root plan ∧
      f.controller.locked = Controller.prefilled (plannedLayout s.document root plan)
        (provideDropdown s.document plan).1 := by
    rw [hb.forms] at hforms
    rw [List.singleton_inj.mp (List.append_cancel_left hforms), hc]
    exact ⟨rfl, rfl⟩
  have hevolves : (provideDropdown s.document plan).1.Evolves
      (opening s.document root plan).controller.leeway (opening s.document root plan).surface :=
    Controller.evolves_start _ _ _ _
  obtain ⟨hmarked, hsame⟩ := kind_setMarker (hevolves.kind_eq hkind) root true
  refine ⟨f, h.hosts hb, hb.number, hb.element, ?_, hdocument ▸ hmarked,
    hb.text ▸ hplan.text_ne hk, ?_, fun hspares ↦ ?_⟩
  · rw [hdocument]
    have hroot := hplan.provided.evolves.isSome_element? hplan.isSome_root
    exact isSome_setMarker (hevolves.isSome_element? hroot) true
  · rw [hopened.1, hopened.2]
    exact hfilled _
  · have hstart : Controller.Spares
        { table := plan.table, exclusion := .ofSettings plan.settings
          layout := plannedLayout s.document root plan } k := by
      rw [← hopened.1]
      exact ⟨hspares.text, fun he ↦ hspares.dropdown (hb.exclusion.trans he)⟩
    rw [hdocument, hsame, opening,
      hstart.isDisabled_start_iff (Document.isSome_of_kind hkind), hflag, hopened.2]

/-! ### One visit -/

variable {v : Visit} {vs : List Visit}

/-- Whether the unused dropdown of a form is another element, if it is disabled at all. -/
def Avoids (k : NodeId) (f : BoundForm) : Prop :=
  f.controller.exclusion = .disabling → f.controller.layout.dropdown ≠ k

instance (k : NodeId) : DecidablePred (Avoids k) := fun f ↦
  inferInstanceAs (Decidable (f.controller.exclusion = .disabling →
    f.controller.layout.dropdown ≠ k))

namespace Receives

private theorem actAll (h : s.Receives root k f s') (as : List Act) :
    (∃ g, g.id = f.id ∧ g.root = f.root ∧ g.controller.locked = f.controller.locked ∧
        (s'.actAll f.id as).Hosts g) ∧
      ((s'.actAll f.id as).document.element? root).isSome = true ∧
      (s'.actAll f.id as).document.kind k = .dropdown := by
  obtain ⟨ms, -, hallows, hplays⟩ := h.hosts.actAll as
  have hevolves : s'.document.Evolves f.controller.leeway (s'.actAll f.id as).document := by
    rw [hplays.document]
    exact f.controller.within_evolves.play (hallows _) _
  refine ⟨⟨{ f with controller := (f.controller.play s'.document ms).1 }, rfl, rfl,
    Controller.locked_play _ _ _, hplays.hosts⟩, hevolves.isSome_element? h.root,
    hevolves.kind_eq h.kind⟩

/-- While a form is bound, the dropdown is disabled as long as it is locked and the form was not
submitted. -/
theorem isDisabled_actAll_iff (h : s.Receives root k f s') (havoids : Avoids k f)
    (as : List Act) : Surface.isDisabled (s'.actAll f.id as).document k = true ↔
      Surface.isDisabled s.document k = true ∨
        k ∈ Controller.prefilled f.controller.layout s.document ∧
          ¬ s'.Submitted f.id root as := by
  have hspares : f.controller.Spares k := ⟨h.text, havoids⟩
  obtain ⟨ms, hms, hallows, hplays⟩ := h.hosts.actAll as
  rw [hplays.document, hspares.isDisabled_play_iff h.kind hallows, h.disabled hspares, hms,
    h.element, h.locked]
  have henabled : k ∈ Controller.prefilled f.controller.layout s.document →
      ¬ Surface.isDisabled s.document k = true := by
    intro hfilled
    rw [Controller.enabled_of_mem_prefilled hfilled]
    exact Bool.false_ne_true
  tauto

private theorem mem_lineage_root (h : s.Receives root k f s') (as : List Act) :
    root ∈ (s'.actAll f.id as).document.lineage root := by
  obtain ⟨-, hroot, -⟩ := h.actAll as
  obtain ⟨e, he⟩ := Option.isSome_iff_exists.mp hroot
  obtain ⟨n, hn, -⟩ := Option.map_eq_some_iff.mp he
  exact Document.mem_lineage_iff.mpr ⟨n, hn, .inl rfl⟩

/-- A submission enables what the form locked, whatever else the form does to it. -/
theorem enabled_of_dispatch (h : s.Receives root k f s')
    (hfilled : k ∈ Controller.prefilled f.controller.layout s.document) (as : List Act) :
    Surface.isDisabled ((s'.actAll f.id as).dispatch root "submit").site.document k = false := by
  obtain ⟨⟨g, -, hroot, hlocked, hhosts⟩, -, hkind⟩ := h.actAll as
  obtain ⟨es, hsome, hall, hplays⟩ := hhosts.dispatch root "submit"
  have hsubmit : .submit ∈ es := by
    refine hsome.mpr ⟨rfl, ?_⟩
    rw [hroot, h.element]
    exact h.mem_lineage_root as
  -- the last event that the form is told of is a submission
  obtain ⟨es, e, rfl⟩ := (List.eq_nil_or_concat es).resolve_left (List.ne_nil_of_mem hsubmit)
  have hlast : e = .submit := hall rfl e (by simp)
  have hallows : ∀ m ∈ es.map Move.event,
      Controller.Allows (ς := NodeId) (Document.Evolves g.controller.leeway) m := by
    intro m hm
    obtain ⟨e, -, rfl⟩ := List.mem_map.mp hm
    exact Document.allows_event _ e
  have hevolves := g.controller.within_evolves.play hallows (s'.actAll f.id as).document
  have hthere := hevolves.isSome_element? (Document.isSome_of_kind hkind)
  rw [hplays.document, hlast, List.map_concat, List.concat_eq_append, Controller.play_concat,
    Controller.move, Controller.handle, Controller.release,
    Document.isDisabled_setAllDisabled hthere, Controller.locked_play, hlocked,
    if_pos (h.locked.mpr hfilled)]

end Receives

private theorem Vacant.await (h : s.Vacant) (hk : s.document.kind k = .dropdown) (v : Visit) :
    (s.await v).Vacant ∧ (s.await v).next = s.next ∧ (s.await v).document.kind k = .dropdown ∧
      Surface.isDisabled (s.await v).document k = Surface.isDisabled s.document k := by
  obtain ⟨hvacant, hevolves, hnext⟩ := h.actAll s.next v.before
  exact ⟨hvacant, hnext, (hevolves _).spared hk⟩

/-- The form of a visit comes to a vacant site, if the element can be bound at all. -/
theorem Vacant.arrive_cases (h : s.Vacant) (hk : s.document.kind k = .dropdown) (root : NodeId)
    (v : Visit) :
    ((s.arrive root v).site = s.await v ∧ ∀ id, (s.arrive root v).answer ≠ .ok id) ∨
      ∃ f, (s.await v).Receives root k f (s.arrive root v).site ∧ f.id = s.next := by
  obtain ⟨hvacant, hnext, hkind, -⟩ := h.await hk v
  rcases hplan : planForm (s.await v).document root with e | plan
  · refine .inl ⟨?_, fun id hanswer ↦ ?_⟩
    · rw [arrive, bindForm, hplan]
    · rw [arrive, bindForm, hplan] at hanswer
      exact absurd hanswer (by simp)
  · obtain ⟨f, hf⟩ := hvacant.receives (planForm_eq_ok_iff.mp hplan) hkind
    exact .inr ⟨f, hf, hf.number.trans hnext⟩

private theorem Vacant.visit (h : s.Vacant) (hk : s.document.kind k = .dropdown) (root : NodeId)
    (v : Visit) :
    (s.visit root v).Vacant ∧ (s.visit root v).document.kind k = .dropdown ∧
      Surface.isDisabled (s.visit root v).document k =
        Surface.isDisabled (s.stay root v).document k := by
  rcases h.arrive_cases hk root v with ⟨heq, -⟩ | ⟨f, hf, hnumber⟩
  · obtain ⟨hvacant, -, hkind, -⟩ := h.await hk v
    obtain ⟨hstay, hevolves, -⟩ := hvacant.actAll s.next v.during
    rw [visit_eq, stay, heq, hstay.releaseForm_eq]
    exact ⟨hstay, ((hevolves _).spared hkind).1, rfl⟩
  · obtain ⟨⟨g, hg, -, -, hhosts⟩, -, hkind⟩ := hf.actAll v.during
    obtain ⟨hvacant, hdocument⟩ := hhosts.releaseForm
    obtain ⟨hmarked, hsame⟩ := kind_setMarker hkind g.root false
    rw [hg, hnumber] at hvacant hdocument
    rw [hnumber] at hmarked hsame
    rw [visit_eq, stay, hdocument]
    exact ⟨hvacant, hmarked, hsame⟩

/-- A visit leaves the dropdown disabled if it was before or is stranded by the visit. -/
theorem Vacant.isDisabled_visit_iff (h : s.Vacant) (hk : s.document.kind k = .dropdown)
    (havoids : ∀ f ∈ (s.arrive root v).site.forms, Avoids k f) :
    Surface.isDisabled (s.visit root v).document k = true ↔
      Surface.isDisabled s.document k = true ∨ s.Strands root k v := by
  obtain ⟨hvacant, -, hkind, hflag⟩ := h.await hk v
  rw [(h.visit hk root v).2.2, stay, Strands, ← hflag]
  rcases h.arrive_cases hk root v with ⟨heq, -⟩ | ⟨f, hf, hnumber⟩
  · -- no form, nothing locked
    obtain ⟨-, hevolves, -⟩ := hvacant.actAll s.next v.during
    rw [heq, hvacant.forms, ((hevolves _).spared hkind).2]
    simp
  · have hiff := hf.isDisabled_actAll_iff (havoids f (by simp [hf.hosts.forms])) v.during
    rw [hnumber] at hiff
    rw [hiff, hf.hosts.forms]
    simp

private theorem Vacant.visitAll (h : s.Vacant) (hk : s.document.kind k = .dropdown) (root : NodeId)
    (vs : List Visit) :
    (s.visitAll root vs).Vacant ∧ (s.visitAll root vs).document.kind k = .dropdown := by
  induction vs generalizing s with
  | nil => exact ⟨h, hk⟩
  | cons v vs ih =>
    obtain ⟨hvacant, hkind, -⟩ := h.visit hk root v
    exact ih hvacant hkind

/-- Several visits leave the dropdown disabled if it was before or is stranded by one of them. -/
theorem Vacant.isDisabled_visitAll_iff (h : s.Vacant) (hk : s.document.kind k = .dropdown)
    (havoids : ∀ f ∈ s.visitors root vs, Avoids k f) :
    Surface.isDisabled (s.visitAll root vs).document k = true ↔
      Surface.isDisabled s.document k = true ∨ s.Stranded root k vs := by
  induction vs generalizing s with
  | nil => simp [Site.visitAll, Stranded]
  | cons v vs ih =>
    obtain ⟨hfirst, hlater⟩ := List.forall_mem_append.mp havoids
    obtain ⟨hvacant, hkind, -⟩ := h.visit hk root v
    rw [Stranded, ← or_assoc, ← h.isDisabled_visit_iff hk hfirst]
    exact ih hvacant hkind hlater

/-! ### The theorem -/

/-- When a form is submitted, a dropdown of the page that the form found filled in is enabled. But a
dropdown that the page rendered as enabled is disabled all the same if an earlier form found it
filled in and was released without having been submitted, and only then, unless a form disables it
as the dropdown for an argument that is not in use. -/
theorem disabled_after_submit {d : Document} {root k : NodeId} (hk : d.kind k = .dropdown)
    {vs : List Visit} {v : Visit} {id : BindingId}
    (hlive : ((visitAll { document := d } root vs).arrive root v).answer = .ok id) :
    (∀ f ∈ ((visitAll { document := d } root vs).arrive root v).site.forms,
      k ∈ Controller.prefilled f.controller.layout
        ((visitAll { document := d } root vs).await v).document →
      Surface.isDisabled (((visitAll { document := d } root vs).stay root v).dispatch root
        "submit").site.document k = false) ∧
    (Surface.isDisabled d k = false →
      (∀ f ∈ visitors { document := d } root (vs ++ [v]), Avoids k f) →
      (Surface.isDisabled (((visitAll { document := d } root vs).stay root v).dispatch root
          "submit").site.document k = true ↔
        Stranded { document := d } root k vs)) := by
  have hopen : Vacant { document := d } := ⟨rfl, rfl⟩
  obtain ⟨hvacant, hkind⟩ := hopen.visitAll hk root vs
  rcases hvacant.arrive_cases hkind root v with ⟨-, hno⟩ | ⟨f, hf, hnumber⟩
  · exact absurd hlive (hno id)
  rw [stay, ← hnumber, hf.hosts.forms]
  refine ⟨fun g hg hfilled ↦ ?_, fun henabled havoids ↦ ?_⟩
  · obtain rfl := List.mem_singleton.mp hg
    exact hf.enabled_of_dispatch hfilled v.during
  · rw [visitors_append, visitors, visitors, List.append_nil, hf.hosts.forms] at havoids
    obtain ⟨hbefore, hlast⟩ := List.forall_mem_append.mp havoids
    -- the submission is the last act of the visit
    have hafter := hf.isDisabled_actAll_iff (hlast f List.mem_cons_self)
      (v.during ++ [.dispatch root "submit"])
    have hsubmitted : ((Site.visitAll { document := d } root vs).arrive root v).site.Submitted f.id
        root (v.during ++ [.dispatch root "submit"]) :=
      (submitted_append _ _ _ _ _).mpr (.inr (.inl ⟨rfl, hf.mem_lineage_root v.during⟩))
    rw [Site.actAll, List.foldl_append] at hafter
    refine hafter.trans ?_
    rw [(hvacant.await hkind v).2.2.2, hopen.isDisabled_visitAll_iff hk hbefore, henabled]
    simp [hsubmitted]

/-- A page with one form. The page filled in the permission: the selector offers nothing else. -/
def filledPage : Document where
  nodes :=
    let select : Element := { tag := "select" }
    let input : Element := { tag := "input" }
    [⟨0, none, ({ tag := "form" } : Element).setAttribute tableAttribute
        "\x7b\"edit\": [\"*\"]\x7d"⟩,
      ⟨1, some 0, select.setAttribute "name" "permission_name"⟩,
      ⟨2, some 1, { Element.newOption "edit" with chosen := true }⟩,
      ⟨3, some 0, input.setAttribute "name" "argument"⟩]
  next := 4
  distinct := by decide +kernel
  aged := by decide +kernel

/-- When the form of the page is bound and released and bound once more, a submission leaves out the
permission that the page filled in. -/
theorem disabled_after_submit_sample :
    Surface.isDisabled filledPage 1 = false ∧ Surface.options filledPage 1 = ["edit"] ∧
      Surface.isDisabled (((visitAll { document := filledPage } 0 [{}]).stay 0 {}).dispatch
        0 "submit").site.document 1 = true := by
  have henabled : Surface.isDisabled filledPage 1 = false := by decide +kernel
  have hlive : ((visitAll { document := filledPage } 0 [{}]).arrive 0 {}).answer = .ok 1 := by
    decide +kernel
  obtain ⟨-, hiff⟩ := disabled_after_submit (k := 1) (by decide +kernel) hlive
  exact ⟨henabled, by decide +kernel,
    (hiff henabled (by decide +kernel)).mpr (by decide +kernel)⟩

end Site

end AccessForm
