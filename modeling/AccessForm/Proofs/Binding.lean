import AccessForm.Proofs.Naming

/-!
# Making a binding

What a successful plan for a form knows about the document (`Plans`), and what carrying it out does.
Everything that a plan is made from except the fields themselves is read off the root element, whose
attributes no form touches; so a later plan can differ from an earlier one in its fields only.
-/

namespace AccessForm

namespace Site

variable {d : Document} {root : NodeId} {plan : FormPlan}

/-! ## Plans -/

/-- The element of a form. -/
def rootElement (d : Document) (root : NodeId) : Element := (d.element? root).getD { tag := "" }

/-- What is found before a form is bound. -/
structure Plans (d : Document) (root : NodeId) (plan : FormPlan) : Prop where
  /-- There is no binding yet. -/
  unmarked : (rootElement d root).hasAttribute formMarker = false
  /-- The table is read. -/
  table : readTable (rootElement d root) = .ok plan.table
  /-- The settings are read. -/
  settings : Settings.ofAttributes ((rootElement d root).attribute? settingsAttribute)
    ((rootElement d root).attribute? methodAttribute) = .ok plan.settings
  /-- The copies of the permission selector. -/
  permission : plan.permission = d.queryKind root permissionFields (· = .dropdown)
  /-- There is at least one. -/
  copies : plan.permission ≠ []
  /-- The text field is found. -/
  text : locateText d root plan.settings.argumentName = .ok plan.text
  /-- The dropdown is looked for, and found if there is one. -/
  dropdown : locateDropdown d root plan.settings.argumentName = .ok plan.dropdown

theorem bind_eq_ok_iff {ε α β : Type} {x : Except ε α} {f : α → Except ε β} {b : β} :
    (x >>= f) = .ok b ↔ ∃ a, x = .ok a ∧ f a = .ok b := by
  cases x with
  | error e => simp [bind, Except.bind]
  | ok a => simp [bind, Except.bind]

theorem mapError_eq_ok_iff {ε ε' α : Type} {x : Except ε α} {f : ε → ε'} {a : α} :
    x.mapError f = .ok a ↔ x = .ok a := by
  cases x <;> simp [Except.mapError]

theorem refuseMarked_eq_ok_iff {e : Element} {marker : String} {u : Unit} :
    refuseMarked e marker = .ok u ↔ e.hasAttribute marker = false := by
  rw [refuseMarked]
  split
  · next h => simp [h]
  · next h => simp [h]

/-- A plan is made exactly when all its parts are found. -/
theorem planForm_eq_ok_iff : planForm d root = .ok plan ↔ Plans d root plan := by
  simp only [planForm, bind_eq_ok_iff, refuseMarked_eq_ok_iff, mapError_eq_ok_iff]
  constructor
  · rintro ⟨-, hmarker, table, htable, settings, hsettings, h⟩
    split at h
    · cases h
    · next hcopies =>
      obtain ⟨text, htext, dropdown, hdropdown, h⟩ := by simpa only [bind_eq_ok_iff] using h
      cases h
      exact ⟨hmarker, htable, hsettings, rfl, hcopies, htext, hdropdown⟩
  · intro h
    refine ⟨(), h.unmarked, plan.table, h.table, plan.settings, h.settings, ?_⟩
    rw [if_neg (h.permission ▸ h.copies)]
    refine bind_eq_ok_iff.mpr ⟨plan.text, h.text, ?_⟩
    refine bind_eq_ok_iff.mpr ⟨plan.dropdown, h.dropdown, ?_⟩
    rw [← h.permission]

/-! ## The fields of a plan -/

theorem Plans.isSome_root (h : Plans d root plan) : (d.element? root).isSome = true := by
  by_contra hnone
  have hroot : rootElement d root = { tag := "" } := by
    rw [rootElement, Option.not_isSome_iff_eq_none.mp hnone]
    rfl
  have htable := h.table
  rw [hroot] at htable
  cases htable

theorem Plans.root_lt (h : Plans d root plan) : root < d.next :=
  Document.lt_next_of_isSome h.isSome_root

private theorem mem_of_locate {text : String} {n : Node} (h : locate d root text = .ok (some n)) :
    n ∈ d.nodes ∧ d.isBelow root n.id = true := by
  rw [locate] at h
  split at h
  · obtain ⟨hmem, hbelow, -⟩ :=
      Document.mem_query.mp (Document.mem_query_of_queryFirst? (Except.ok.inj h))
    exact ⟨hmem, hbelow⟩
  · cases h

theorem exists_of_locateText {name : String} {t : NodeId} (h : locateText d root name = .ok t) :
    ∃ n ∈ d.nodes, n.id = t ∧ d.isBelow root t = true ∧ n.element.kind = .input := by
  obtain ⟨found, hfound, h⟩ := bind_eq_ok_iff.mp h
  split at h
  · next n =>
    obtain ⟨hmem, hbelow⟩ := mem_of_locate hfound
    split at h
    · next hkind =>
      cases h
      exact ⟨n, hmem, rfl, hbelow, hkind⟩
    · cases h
  · cases h

theorem exists_of_locateDropdown {name : String} {k : NodeId}
    (h : locateDropdown d root name = .ok (some k)) :
    ∃ n ∈ d.nodes, n.id = k ∧ d.isBelow root k = true ∧ n.element.kind = .dropdown := by
  obtain ⟨found, hfound, h⟩ := bind_eq_ok_iff.mp h
  split at h
  · next n =>
    obtain ⟨hmem, hbelow⟩ := mem_of_locate hfound
    split at h
    · next hkind =>
      cases h
      exact ⟨n, hmem, rfl, hbelow, hkind⟩
    · cases h
  · cases h

/-! ## Generated dropdowns -/

/-- The leeway of those who generate dropdowns. -/
def generating : Leeway := ⟨fun _ _ ↦ False, fun _ ↦ False, (· = .dropdown)⟩

theorem attribute?_name_dropdownLike (e : Element) :
    (dropdownLike e).attribute? "name" = some (e.attributeText "name") := by
  rw [Element.attribute?, dropdownLike, Directory.find?_insert, if_neg (by decide),
    Directory.find?_insert, if_pos rfl]

theorem provideDropdown_of_some {k : NodeId} (h : plan.dropdown = some k) :
    provideDropdown d plan = (d, k, []) := by
  rw [provideDropdown, h]

theorem provideDropdown_of_none (h : plan.dropdown = none) {n : Node}
    (hn : d.find? plan.text = some n) {p : NodeId} (hp : n.parent = some p) :
    provideDropdown d plan =
      ((d.insert p plan.text (dropdownLike n.element)).settle p, d.next, [.generatedDropdown]) := by
  rw [provideDropdown, h]
  simp only [Document.addSibling, Document.insertAfter, Document.element?, hn, hp,
    Option.bind_some, Option.map_some, Option.getD_some]

theorem Plans.generated (h : Plans d root plan) (hk : plan.dropdown = none) :
    d.Evolves generating (provideDropdown d plan).1 ∧
      (provideDropdown d plan).2.1 = d.next ∧ (provideDropdown d plan).1.next = d.next + 1 ∧
      ∃ n ∈ (provideDropdown d plan).1.nodes, n.id = d.next ∧
        (provideDropdown d plan).1.isBelow root n.id = true ∧ n.element.tag = "select" ∧
        n.element.attribute? "name" = some ((d.name? plan.text).getD "") := by
  obtain ⟨_, -, -, hbelow, -⟩ := exists_of_locateText h.text
  obtain ⟨t, p, ht, hp, hroot⟩ := Document.exists_parent_of_isBelow hbelow
  have hlt : p < d.next := by
    have hpt := (d.aged t (Document.mem_of_find? ht)).2 p hp
    exact Nat.lt_trans hpt (d.aged t (Document.mem_of_find? ht)).1
  have hnext : (d.insert p plan.text (dropdownLike t.element)).next = d.next + 1 := by
    rw [Document.insert, dif_pos hlt]
  have hinsert : d.Evolves generating (d.insert p plan.text (dropdownLike t.element)) :=
    .insert rfl d _ _
  have hsettle : (d.insert p plan.text (dropdownLike t.element)).Evolves generating
      ((d.insert p plan.text (dropdownLike t.element)).settle p) := .settle _ _
  obtain ⟨n, hn, hb⟩ := hsettle.find? (Document.find?_of_mem (Document.mem_insert hlt _ _))
  rw [provideDropdown_of_none hk ht hp]
  refine ⟨hinsert.trans hsettle, rfl, ?_, n, Document.mem_of_find? hn, hb.id, ?_, hb.tag, ?_⟩
  · rw [Document.settle]
    split
    · exact hnext
    · exact hnext
  · have hparent : n.parent = some p := by
      rcases hb.parent with hparent | ⟨-, _, hfalse, -⟩
      · exact hparent
      · exact hfalse.elim
    refine Document.isBelow_of_parent (Document.mem_of_find? hn) hparent ?_ ?_
    · rw [(hinsert.trans hsettle).lineage_eq_of_not_refills (fun _ hfalse ↦ hfalse) hlt]
      exact hroot
    · rw [hb.id]
      exact Nat.ne_of_gt h.root_lt
  · rw [hb.attributes "name" fun hfalse ↦ hfalse, attribute?_name_dropdownLike, Document.name?,
      Document.element?, ht]
    rfl

/-- The document and the dropdown that the rest of a binding works with. -/
structure Provided (d : Document) (root : NodeId) (d₁ : Document) (dropdown : NodeId) : Prop where
  /-- At most a dropdown is new. -/
  evolves : d.Evolves generating d₁
  /-- The dropdown is in the form. -/
  below : d₁.isBelow root dropdown = true
  /-- The dropdown is there, and is one. -/
  found : ∃ n ∈ d₁.nodes, n.id = dropdown ∧ n.element.kind = .dropdown

theorem Plans.provided (h : Plans d root plan) :
    Provided d root (provideDropdown d plan).1 (provideDropdown d plan).2.1 := by
  cases hk : plan.dropdown with
  | some k =>
    obtain ⟨n, hn, hid, hbelow, hkind⟩ := exists_of_locateDropdown (hk ▸ h.dropdown)
    rw [provideDropdown_of_some hk]
    exact ⟨.refl d, hbelow, n, hn, hid, hkind⟩
  | none =>
    obtain ⟨hd, hid, -, n, hn, hn', hbelow, htag, -⟩ := h.generated hk
    refine ⟨hd, by rwa [hid, ← hn'], n, hn, hn'.trans hid.symm, ?_⟩
    rw [Element.kind, htag]
    rfl

/-- The fields of a form are the first ones of their name once they are all there. -/
theorem Plans.firsts (h : Plans d root plan) {name : String}
    (hname : AsksFor plan.settings.argumentName name) :
    ((provideDropdown d plan).1.queryFirst? root (.named "input" name)).map (·.id) =
        some plan.text ∧
      ((provideDropdown d plan).1.queryFirst? root (.named "select" name)).map (·.id) =
        some (provideDropdown d plan).2.1 := by
  have htext := (locateText_eq_ok_iff hname).mp h.text
  have hdropdown := (locateDropdown_eq_ok_iff hname).mp h.dropdown
  cases hk : plan.dropdown with
  | some k =>
    rw [provideDropdown_of_some hk]
    exact ⟨htext, hdropdown.trans hk⟩
  | none =>
    obtain ⟨hd, hid, hnext, n, hn, hn', hbelow, htag, hattr⟩ := h.generated hk
    obtain ⟨t, ht, htid, htbelow, -, htname⟩ := Document.exists_of_queryFirst?_named htext
    have htmem := (Document.mem_query.mp (Document.mem_query_of_queryFirst? ht)).1
    have htsome : (d.element? plan.text).isSome = true := htid ▸ Document.isSome_of_mem htmem
    constructor
    · have hinput : ¬ generating.creates (.ofTag "input") := by
        intro hkind
        cases hkind
      have hfirst := hd.queryFirst?_named hinput ht fun _ _ _ _ hfalse ↦ hfalse
      rw [htid] at hfirst
      refine hfirst.mpr ⟨?_, ?_⟩
      · rw [hd.isBelow_eq_of_not_refills (fun _ hfalse ↦ hfalse) (htid ▸ (d.aged t htmem).1)]
        exact htbelow
      · rw [hd.name?_eq htsome fun hfalse ↦ hfalse]
        exact htname
    · -- the page has no dropdown of the name, so the generated one is the only one
      have hnone : d.query root (.named "select" name) = [] := by
        rw [hk, Option.map_eq_none_iff] at hdropdown
        exact List.head?_eq_none_iff.mp hdropdown
      have hquery : n ∈ (provideDropdown d plan).1.query root (.named "select" name) := by
        refine Document.mem_query.mpr ⟨hn, hbelow, (Selector.fits_named _ _ _).mpr ⟨htag, ?_⟩⟩
        rw [hattr, htname]
        rfl
      -- whatever is found is the new node, because nothing was found before
      have honly : ∀ m ∈ (provideDropdown d plan).1.query root (.named "select" name),
          m.id = d.next := by
        intro m hm
        obtain ⟨hmem, hmbelow, hmfits⟩ := Document.mem_query.mp hm
        by_contra hne
        have hlt : m.id < d.next := by
          have hle : m.id < d.next + 1 := hnext ▸ ((provideDropdown d plan).1.aged m hmem).1
          exact Nat.lt_of_le_of_ne (Nat.le_of_lt_succ hle) hne
        obtain ⟨m₀, hm₀, hb⟩ := hd.exists_find? hlt (Document.find?_of_mem hmem)
        have hm₀query : m₀ ∈ d.query root (.named "select" name) := by
          obtain ⟨hmtag, hmname⟩ := (Selector.fits_named _ _ _).mp hmfits
          refine Document.mem_query.mpr ⟨Document.mem_of_find? hm₀, ?_, ?_⟩
          · rw [← hb.id]
            exact hd.isBelow_of_isBelow hlt hmbelow
          · refine (Selector.fits_named _ _ _).mpr ⟨hb.tag ▸ hmtag, ?_⟩
            rw [← hb.attributes "name" fun hfalse ↦ hfalse]
            exact hmname
        rw [hnone] at hm₀query
        cases hm₀query
      obtain ⟨m, hm⟩ : ∃ m, (provideDropdown d plan).1.queryFirst? root (.named "select" name) =
          some m := by
        rw [Document.queryFirst?]
        exact ⟨_, List.head?_eq_some_head (List.ne_nil_of_mem hquery)⟩
      rw [hm, Option.map_some, honly m (Document.mem_query_of_queryFirst? hm), hid]

/-! ## Bindings -/

/-- Bindings are younger than the forms that are there, and listeners hear elements that are there.
This is so on all sites that there are (`Reachable.numbered`). -/
structure Numbered (s : Site) : Prop where
  /-- No form has the next number. -/
  forms (f : BoundForm) : f ∈ s.forms → f.id < s.next
  /-- No listener waits for an element to come. -/
  targets (l : Listener) : l ∈ s.listeners → l.target < s.document.next

variable {s : Site}

theorem bindForm_eq (h : Plans s.document root plan) : s.bindForm root =
    { s.carryOut root plan with answer := .ok s.next } := by
  rw [bindForm, planForm_eq_ok_iff.mpr h]
  rfl

/-- A binding is made exactly when there is a plan for it. -/
theorem bindForm_answer_iff {id : BindingId} : (s.bindForm root).answer = .ok id ↔
    ∃ plan, Plans s.document root plan ∧ id = s.next := by
  constructor
  · intro h
    cases hplan : planForm s.document root with
    | error e =>
      rw [bindForm, hplan] at h
      cases h
    | ok plan =>
      have hplans := planForm_eq_ok_iff.mp hplan
      rw [bindForm_eq hplans] at h
      cases h
      exact ⟨plan, hplans, rfl⟩
  · rintro ⟨plan, hplans, rfl⟩
    rw [bindForm_eq hplans]

/-- What a binding leaves behind. -/
structure Bound (s : Site) (root : NodeId) (plan : FormPlan) (f : BoundForm) (s₁ : Site) :
    Prop where
  /-- The form has the next number. -/
  number : f.id = s.next
  /-- It knows its element. -/
  element : f.root = root
  /-- Its text field is the planned one. -/
  text : f.controller.layout.text = plan.text
  /-- Its dropdown is the planned one, or generated. -/
  dropdown : f.controller.layout.dropdown = (provideDropdown s.document plan).2.1
  /-- Its exclusion is that of the settings. -/
  exclusion : f.controller.exclusion = .ofSettings plan.settings
  /-- The form is there. -/
  forms : s₁.forms = s.forms ++ [f]
  /-- Its listeners are there. -/
  listeners : s₁.listeners = s.listeners ++ formListeners root f.controller.layout s.next
  /-- A number is used up. -/
  next : s₁.next = s.next + 1
  /-- The copies of the permission selector are the planned ones. -/
  permission : f.controller.layout.permission = plan.permission
  /-- The reason fields are in the document. -/
  reason (k : NodeId) : k ∈ f.controller.layout.reason →
    k < (provideDropdown s.document plan).1.next
  /-- The document is the one with all fields, after the form was taken over. -/
  document : ∃ d, (provideDropdown s.document plan).1.Evolves f.controller.leeway d ∧
    f.controller.Named (provideDropdown s.document plan).1 d ∧
    s₁.document = setMarker d root formMarker true

theorem Plans.seated (h : Plans d root plan) {c : Controller NodeId NodeId}
    (htext : c.layout.text = plan.text)
    (hdropdown : c.layout.dropdown = (provideDropdown d plan).2.1) :
    c.Seated (provideDropdown d plan).1 := by
  obtain ⟨hd, -, n, hn, hid, hkind⟩ := h.provided
  obtain ⟨t, ht, htid, -, htkind⟩ := exists_of_locateText h.text
  obtain ⟨t', ht', hb⟩ := hd.find? (Document.find?_of_mem ht)
  refine ⟨fun heq ↦ ?_, ?_, ?_⟩
  · -- one node can not be both an input and a dropdown
    have hsame : t'.id = n.id := by rw [hb.id, htid, hid, ← htext, ← hdropdown, heq]
    have hkinds : n.element.kind = .input := by
      rw [← Document.eq_of_id (Document.mem_of_find? ht') hn hsame, hb.kind, htkind]
    rw [hkind] at hkinds
    cases hkinds
  · rw [htext, ← htid]
    exact hd.isSome_element? (Document.isSome_of_mem ht)
  · rw [hdropdown, ← hid]
    exact Document.isSome_of_mem hn

theorem lt_of_mem_queryKind {sel : Selector} {p : ElementKind → Bool} {k : NodeId}
    (h : k ∈ d.queryKind root sel p) : k < d.next := by
  obtain ⟨n, hn, rfl⟩ := List.mem_map.mp h
  exact (d.aged n (Document.mem_query.mp (List.mem_filter.mp hn).1).1).1

theorem kind_of_mem_queryKind {sel : Selector} {p : ElementKind → Bool} {k : NodeId}
    (h : k ∈ d.queryKind root sel p) : p (d.kind k) = true := by
  obtain ⟨n, hn, rfl⟩ := List.mem_map.mp h
  obtain ⟨hquery, hkind⟩ := List.mem_filter.mp hn
  rw [Document.kind, Document.element?, Document.find?_of_mem (Document.mem_query.mp hquery).1]
  exact hkind

/-- All listeners of a form are its own, none of them is a latch, and the one that releases is at
the element of the form. -/
theorem of_mem_formListeners {layout : Layout NodeId NodeId} {owner : BindingId} {l : Listener}
    (h : l ∈ formListeners root layout owner) :
    l.owner = owner ∧ l.reaction ≠ .latch ∧ (l.reaction = .release → l.target = root) := by
  rw [formListeners, List.mem_append, List.mem_append] at h
  rcases h with (h | h) | h
  · obtain ⟨_, -, rfl⟩ := List.mem_map.mp h
    exact ⟨rfl, by simp, by simp⟩
  · obtain ⟨_, -, rfl⟩ := List.mem_map.mp h
    exact ⟨rfl, by simp, by simp⟩
  · rw [List.mem_singleton.mp h]
    exact ⟨rfl, by simp, fun _ ↦ rfl⟩

/-- The elements of a planned form, once it has a dropdown. -/
def plannedLayout (d : Document) (root : NodeId) (plan : FormPlan) : Layout NodeId NodeId :=
  layoutOf (provideDropdown d plan).1 root plan (provideDropdown d plan).2.1

/-- What the controller of a planned form begins with. -/
def opening (d : Document) (root : NodeId) (plan : FormPlan) : Turn Document NodeId NodeId :=
  Controller.start plan.table (.ofSettings plan.settings) (plannedLayout d root plan)
    (provideDropdown d plan).1

theorem exists_controller_opening (d : Document) (root : NodeId) (plan : FormPlan) :
    ∃ mode primed, (opening d root plan).controller =
      { table := plan.table, exclusion := .ofSettings plan.settings
        layout := plannedLayout d root plan
        locked := Controller.prefilled (plannedLayout d root plan) (provideDropdown d plan).1
        mode, primed } :=
  Controller.exists_controller_start _ _ _ _

/-- The form of a plan, and the document in which it begins. -/
theorem Plans.opened (h : Plans s.document root plan) :
    (s.bindForm root).site.forms =
        s.forms ++ [⟨s.next, root, (opening s.document root plan).controller⟩] ∧
      (s.bindForm root).site.document =
        setMarker (opening s.document root plan).surface root formMarker true := by
  rw [bindForm_eq h]
  exact ⟨rfl, rfl⟩

theorem Plans.bound (h : Plans s.document root plan) :
    ∃ f, Bound s root plan f (s.bindForm root).site := by
  obtain ⟨mode, primed, hc⟩ := exists_controller_opening s.document root plan
  obtain ⟨hforms, hdocument⟩ := h.opened
  refine ⟨⟨s.next, root, (opening s.document root plan).controller⟩, ?_⟩
  rw [bindForm_eq h] at hforms hdocument ⊢
  exact {
    number := rfl
    element := rfl
    text := by rw [hc]; rfl
    dropdown := by rw [hc]; rfl
    exclusion := by rw [hc]
    forms := hforms
    listeners := by rw [hc]; rfl
    next := rfl
    permission := by rw [hc]; rfl
    reason := by
      rw [hc]
      exact fun k hk ↦ lt_of_mem_queryKind hk
    document := by
      refine ⟨_, ?_, ?_, hdocument⟩
      · exact Controller.evolves_start _ _ _ _
      · exact Controller.named_start _ _ _ (h.seated rfl rfl) }

end Site

end AccessForm
