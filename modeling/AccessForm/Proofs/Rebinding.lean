import AccessForm.Proofs.Session

/-!
# Binding a form again

Whether a form that was bound and released can be bound again with the same fields. The element
itself never stands in the way: its marker is gone, and its table and its settings are the ones it
had. What matters is whether the fields are found again, and they are looked for by their names.

A form that disables the unused field leaves the names alone and can be bound again. A form that
renames the unused field does not give the names back when it is released. After the first
successful derivation at most one field has the submitted name, so the form can not be bound again
with its two fields, unless the ignored name happens to be the one that is asked for.
-/

namespace AccessForm

/-! ## Where elements lie -/

namespace Document

variable {d d' : Document} {l : Leeway} {k : NodeId}

/-- The dropdowns of a document, in order. -/
def dropdowns (d : Document) : List NodeId :=
  (d.nodes.filter (·.element.kind = .dropdown)).map (·.id)

private theorem Evolves.dropdowns_eq (h : d.Evolves l d') (hl : ¬ l.creates .dropdown) :
    d'.dropdowns = d.dropdowns := by
  have hrel : List.Forall₂ (Node.Becomes l) (d.nodes.filter (·.element.kind = .dropdown))
      (d'.nodes.filter (·.element.kind = .dropdown)) := by
    refine h.forall₂_filter (fun n n' hn ↦ by rw [hn.kind]) fun n hn ↦ ?_
    exact decide_eq_false fun heq ↦ hl (heq ▸ hn)
  have hids : List.Forall₂ (· = ·) d.dropdowns d'.dropdowns := by
    refine List.forall₂_map_left_iff.mpr (List.forall₂_map_right_iff.mpr ?_)
    exact hrel.imp fun n n' hn ↦ hn.id.symm
  rw [List.forall₂_eq_eq_eq] at hids
  exact hids.symm

/-- The options of a dropdown hold no other elements. -/
def HoldsNothing (d : Document) (dropdown : NodeId) : Prop :=
  ∀ o ∈ d.nodes, isOptionOf dropdown o = true → ∀ n ∈ d.nodes, n.parent ≠ some o.id

/-- Where options hold nothing, only options are ever taken out. -/
theorem Evolves.lineage_of_holdsNothing (h : d.Evolves l d') (hl : ∀ j, l.refills j → j = k)
    (hk : d.HoldsNothing k) {n : Node} (hn : n ∈ d.nodes) (hkind : n.element.kind ≠ .option) :
    d'.lineage n.id = d.lineage n.id := by
  refine h.lineage_of_kept (d.aged n hn).1 fun o ho hmem j hj ↦ ?_
  rw [hl j hj]
  by_contra hopt
  rw [Bool.not_eq_false] at hopt
  rcases exists_child_of_mem_lineage hmem with heq | ⟨m, hm, hp⟩
  · simp only [isOptionOf, Bool.and_eq_true, beq_iff_eq] at hopt
    exact hkind (eq_of_id ho hn heq ▸ hopt.2)
  · exact hk o ho hopt m hm hp

private theorem Evolves.lineage_of_refilled (h : d.Evolves l d') (hl : ∀ j, l.refills j → j = k)
    (hk : k < d.next) : d'.lineage k = d.lineage k := by
  refine h.lineage_of_kept hk fun o ho hmem j hj ↦ ?_
  rw [hl j hj]
  by_contra hopt
  simp only [isOptionOf, Bool.not_eq_false, Bool.and_eq_true, beq_iff_eq] at hopt
  have hlt : k < o.id := (d.aged o ho).2 k hopt.1
  exact absurd (le_of_mem_lineage hmem) (Nat.not_le.mpr hlt)

end Document

/-! ## Names that remain -/

/-- The names that were overwritten, if any, are the one that is asked for. -/
def NamesRemain (settings : Settings) (c : Controller NodeId NodeId) (name : String) : Prop :=
  settings.method = .disable ∨ c.primed = false ∨
    settings.ignoredName = name ∧ (c.mode = .unselected ∨ settings.argumentName = name)

instance (settings : Settings) (c : Controller NodeId NodeId) (name : String) :
    Decidable (NamesRemain settings c name) :=
  inferInstanceAs (Decidable (_ ∨ _ ∨ _ ∧ (_ ∨ _)))

private theorem nameFor_eq_iff {settings : Settings} {c : Controller NodeId NodeId}
    (hc : c.exclusion = .ofSettings settings) (name : String) :
    (c.nameFor .text (some name) = some name ∧ c.nameFor .dropdown (some name) = some name) ↔
      NamesRemain settings c name := by
  rw [Controller.nameFor, Controller.nameFor, NamesRemain, hc, Exclusion.ofSettings]
  cases settings.method with
  | disable => simp
  | rename =>
    cases c.primed with
    | false => simp
    | true =>
      cases c.mode with
      | unselected => simp [Mode.side?]
      | freeText => simp [Mode.side?, and_comm]
      | choice _ => simp [Mode.side?]

namespace Site

variable {s s' s'' : Site} {root text dropdown : NodeId} {plan : FormPlan} {f : BoundForm}

/-! ## Binding with given fields -/

/-- Binding a form is successful, takes the given argument fields, and adds no dropdown. -/
def Takes (s : Site) (root text dropdown : NodeId) : Prop :=
  ∃ id f, (s.bindForm root).answer = .ok id ∧ (s.bindForm root).site.form? id = some f ∧
    f.controller.layout.text = text ∧ f.controller.layout.dropdown = dropdown ∧
    (s.bindForm root).site.document.dropdowns = s.document.dropdowns

/-- The leeway of those who also mark the element of a form. -/
def marking (l : Leeway) (root : NodeId) : Leeway :=
  { l with free := fun id a ↦ l.free id a ∨ id = root ∧ a = formMarker }

private theorem evolves_marking {l : Leeway} {d d' : Document} (h : d.Evolves l d')
    (root : NodeId) : d.Evolves (marking l root) d' :=
  h.mono (fun _ _ ↦ .inl) (fun _ hk ↦ hk) fun _ hk ↦ hk

private theorem evolves_setMarker (l : Leeway) (d : Document) (root : NodeId) (b : Bool) :
    d.Evolves (marking l root) (setMarker d root formMarker b) := by
  have hfree : (marking l root).free root formMarker := .inr ⟨rfl, rfl⟩
  exact .toggleAttribute hfree (by decide) d b

theorem Bound.evolves (hb : Bound s root plan f s') :
    (provideDropdown s.document plan).1.Evolves (marking f.controller.leeway root) s'.document := by
  obtain ⟨d, hd, -, hdoc⟩ := hb.document
  rw [hdoc]
  exact (evolves_marking hd root).trans (evolves_setMarker _ _ _ _)

private theorem takes_iff (hs : s.Numbered) (hdropdown : dropdown < s.document.next) :
    s.Takes root text dropdown ↔
      ∃ plan, Plans s.document root plan ∧ plan.text = text ∧ plan.dropdown = some dropdown := by
  constructor
  · rintro ⟨id, f, hanswer, hform, rfl, rfl, -⟩
    obtain ⟨plan, hplan, rfl⟩ := bindForm_answer_iff.mp hanswer
    obtain ⟨g, hb⟩ := hplan.bound
    have hsame : some g = some f := by rw [← hform, ← hb.form? hs, hb.number]
    cases hsame
    -- a generated dropdown has a number that no element had before
    refine ⟨plan, hplan, hb.text.symm, ?_⟩
    rw [hb.dropdown] at hdropdown ⊢
    cases hk : plan.dropdown with
    | some k => rw [provideDropdown_of_some hk]
    | none =>
      rw [(hplan.generated hk).2.1] at hdropdown
      exact absurd hdropdown (Nat.lt_irrefl _)
  · rintro ⟨plan, hplan, rfl, hk⟩
    obtain ⟨f, hb⟩ := hplan.bound
    have hprovided := provideDropdown_of_some (d := s.document) hk
    refine ⟨s.next, f, bindForm_answer_iff.mpr ⟨plan, hplan, rfl⟩, ?_, hb.text, ?_, ?_⟩
    · rw [← hb.number]
      exact hb.form? hs
    · rw [hb.dropdown, hprovided]
    · have hevolves := hb.evolves
      rw [hprovided] at hevolves
      refine hevolves.dropdowns_eq fun hkind ↦ ?_
      cases hkind

/-! ## Leaving -/

/-- The site after a form was bound, used and released. -/
def leave (s : Site) (root : NodeId) (id : BindingId) (acts : List Act) : Site :=
  ((s.bindForm root).site.actAll id acts).releaseForm id

theorem releaseForm_of_some {id : BindingId} (h : s.form? id = some f) : s.releaseForm id =
    { s.silence id with
      document := setMarker s.document f.root formMarker false
      forms := s.forms.filter (·.id != id) } := by
  rw [releaseForm, h]

/-- The document in which a form left its element, given the one in which it was bound. -/
structure Left (d₀ : Document) (root : NodeId) (plan : FormPlan) (c : Controller NodeId NodeId)
    (d : Document) : Prop where
  /-- The form was bound by a plan. -/
  planned : Plans d₀ root plan
  /-- The text field is the planned one. -/
  text : c.layout.text = plan.text
  /-- The dropdown is the planned one, or generated. -/
  dropdown : c.layout.dropdown = (provideDropdown d₀ plan).2.1
  /-- The exclusion is that of the settings. -/
  exclusion : c.exclusion = .ofSettings plan.settings
  /-- The document is what the form made of the one with all fields. -/
  evolves : (provideDropdown d₀ plan).1.Evolves (marking c.leeway root) d
  /-- The argument fields have the names that the form gave them last. -/
  named : c.Named (provideDropdown d₀ plan).1 d
  /-- The marker is gone. -/
  unmarked : (rootElement d root).hasAttribute formMarker = false

private theorem hasAttribute_rootElement_setMarker (d : Document) (root : NodeId) :
    (rootElement (setMarker d root formMarker false) root).hasAttribute formMarker = false := by
  rw [rootElement, setMarker, Document.element?_modify, if_pos rfl]
  cases d.element? root with
  | none => rfl
  | some e => exact Element.hasAttribute_toggleAttribute e formMarker false

private theorem Session.left (h : Session s' f (provideDropdown s.document plan).1 s'')
    (hplan : Plans s.document root plan) (hb : Bound s root plan f s') :
    ∃ g, s''.form? f.id = some g ∧ g.controller.layout = f.controller.layout ∧
      Left s.document root plan g.controller (s''.releaseForm f.id).document := by
  obtain ⟨mode, primed, hform, hnamed⟩ := h.form
  refine ⟨_, hform, rfl, ?_⟩
  rw [releaseForm_of_some hform, hb.element]
  refine ⟨hplan, hb.text, hb.dropdown, hb.exclusion, ?_, ⟨?_, ?_⟩,
    hasAttribute_rootElement_setMarker _ _⟩
  · exact (hb.evolves.trans (evolves_marking h.document root)).trans (evolves_setMarker _ _ _ _)
  · rw [name?_setMarker]
    exact hnamed.text
  · rw [name?_setMarker]
    exact hnamed.dropdown

/-! ## What is found again -/

variable {d₀ d : Document} {c : Controller NodeId NodeId} {name : String}

private theorem mem_of_free {id : NodeId} {a : String} (h : (marking c.leeway root).free id a) :
    a ∈ ["required", "disabled", "class", "name", formMarker] := by
  rcases h with (rfl | rfl | rfl | ⟨rfl, -, -⟩) | ⟨-, rfl⟩ <;> simp

private theorem eq_or_eq_of_free_name {id : NodeId} (h : (marking c.leeway root).free id "name") :
    id = c.layout.text ∨ id = c.layout.dropdown := by
  rcases h with (heq | heq | heq | ⟨-, -, hid⟩) | ⟨-, heq⟩
  · exact absurd heq (by decide)
  · exact absurd heq (by decide)
  · exact absurd heq (by decide)
  · exact List.mem_pair.mp hid
  · exact absurd heq (by decide)

theorem attribute?_rootElement (hroot : (d.element? root).isSome = true) (a : String) :
    (rootElement d root).attribute? a = (d.element? root).bind (·.attribute? a) := by
  obtain ⟨e, he⟩ := Option.isSome_iff_exists.mp hroot
  rw [rootElement, he]
  rfl

/-- What a plan needs besides the table and the settings. -/
structure FieldsRemain (d : Document) (root : NodeId) (written : String)
    (text dropdown : NodeId) : Prop where
  /-- There is a permission selector. -/
  permission : d.queryKind root permissionFields (· = .dropdown) ≠ []
  /-- The text field is found. -/
  text : locateText d root written = .ok text
  /-- The dropdown is found. -/
  dropdown : locateDropdown d root written = .ok (some dropdown)

namespace Left

/-- The element of the form kept all attributes but those that are left free. -/
theorem attribute?_root (h : Left d₀ root plan c d) {a : String}
    (ha : a ∉ ["required", "disabled", "class", "name", formMarker]) :
    (rootElement d root).attribute? a = (rootElement d₀ root).attribute? a := by
  have hroot := h.planned.isSome_root
  have hroot₁ := h.planned.provided.evolves.isSome_element? hroot
  rw [attribute?_rootElement (h.evolves.isSome_element? hroot₁), attribute?_rootElement hroot,
    h.evolves.attribute?_eq hroot₁ fun hfree ↦ ha (mem_of_free hfree),
    h.planned.provided.evolves.attribute?_eq hroot fun hfalse ↦ hfalse]

/-- The form can be planned again exactly if its fields are found. -/
theorem plans_iff (h : Left d₀ root plan c d) :
    (∃ plan', Plans d root plan' ∧ plan'.text = text ∧ plan'.dropdown = some dropdown) ↔
      FieldsRemain d root plan.settings.argumentName text dropdown := by
  have htable : readTable (rootElement d root) = .ok plan.table := by
    rw [readTable, h.attribute?_root (by decide)]
    exact h.planned.table
  have hsettings : Settings.ofAttributes ((rootElement d root).attribute? settingsAttribute)
      ((rootElement d root).attribute? methodAttribute) = .ok plan.settings := by
    rw [h.attribute?_root (by decide), h.attribute?_root (by decide)]
    exact h.planned.settings
  constructor
  · rintro ⟨plan', hplan', rfl, hk⟩
    have heq : plan'.settings = plan.settings :=
      Except.ok.inj (hplan'.settings.symm.trans hsettings)
    exact ⟨hplan'.permission ▸ hplan'.copies, heq ▸ hplan'.text, heq ▸ hk ▸ hplan'.dropdown⟩
  · intro hfields
    exact ⟨⟨plan.table, plan.settings, _, text, some dropdown⟩,
      ⟨h.unmarked, htable, hsettings, rfl, hfields.permission, hfields.text, hfields.dropdown⟩,
      rfl, rfl⟩

/-- The fields that the form was bound with were the first ones of their name. -/
theorem firsts (h : Left d₀ root plan c d) (hname : AsksFor plan.settings.argumentName name) :
    ((provideDropdown d₀ plan).1.queryFirst? root (.named "input" name)).map (·.id) =
        some c.layout.text ∧
      ((provideDropdown d₀ plan).1.queryFirst? root (.named "select" name)).map (·.id) =
        some c.layout.dropdown := by
  rw [h.text, h.dropdown]
  exact h.planned.firsts hname

private theorem not_creates (root : NodeId) {tag : String} (htag : tag = "input" ∨ tag = "select") :
    ¬ (marking c.leeway root).creates (.ofTag tag) := by
  rcases htag with rfl | rfl
  · intro hkind
    cases hkind
  · intro hkind
    cases hkind

/-- The text field is found again if it is still there and was not renamed for good. -/
theorem locateText_iff (h : Left d₀ root plan c d)
    (hname : AsksFor plan.settings.argumentName name) :
    locateText d root plan.settings.argumentName = .ok c.layout.text ↔
      d.isBelow root c.layout.text = true ∧ c.nameFor .text (some name) = some name := by
  obtain ⟨hfirst, hsecond⟩ := h.firsts hname
  obtain ⟨t, ht, htid, -, -, htname⟩ := Document.exists_of_queryFirst?_named hfirst
  obtain ⟨k, hk, hkid, -, hktag, -⟩ := Document.exists_of_queryFirst?_named hsecond
  have hkmem := (Document.mem_query.mp (Document.mem_query_of_queryFirst? hk)).1
  have hfree : ∀ m ∈ (provideDropdown d₀ plan).1.nodes, m.element.tag = "input" → m.id ≠ t.id →
      ¬ (marking c.leeway root).free m.id "name" := by
    intro m hm hmtag hne hfree
    rcases eq_or_eq_of_free_name hfree with heq | heq
    · exact hne (heq.trans htid.symm)
    · rw [Document.eq_of_id hm hkmem (heq.trans hkid.symm), hktag] at hmtag
      exact absurd hmtag (by decide)
  have hfound := h.evolves.queryFirst?_named (not_creates root (.inl rfl)) ht hfree
  rwa [htid, h.named.text, htname, ← locateText_eq_ok_iff hname] at hfound

/-- The dropdown is found again if it was not renamed for good. It is always there, because nothing
but its own options is ever taken out. -/
theorem locateDropdown_iff (h : Left d₀ root plan c d)
    (hname : AsksFor plan.settings.argumentName name) :
    locateDropdown d root plan.settings.argumentName = .ok (some c.layout.dropdown) ↔
      c.nameFor .dropdown (some name) = some name := by
  obtain ⟨hfirst, hsecond⟩ := h.firsts hname
  obtain ⟨t, ht, htid, -, httag, -⟩ := Document.exists_of_queryFirst?_named hfirst
  obtain ⟨k, hk, hkid, hkbelow, -, hkname⟩ := Document.exists_of_queryFirst?_named hsecond
  have htmem := (Document.mem_query.mp (Document.mem_query_of_queryFirst? ht)).1
  have hkmem := (Document.mem_query.mp (Document.mem_query_of_queryFirst? hk)).1
  have hfree : ∀ m ∈ (provideDropdown d₀ plan).1.nodes, m.element.tag = "select" → m.id ≠ k.id →
      ¬ (marking c.leeway root).free m.id "name" := by
    intro m hm hmtag hne hfree
    rcases eq_or_eq_of_free_name hfree with heq | heq
    · rw [Document.eq_of_id hm htmem (heq.trans htid.symm), httag] at hmtag
      exact absurd hmtag (by decide)
    · exact hne (heq.trans hkid.symm)
  have hbelow : d.isBelow root c.layout.dropdown = true := by
    have hlt : c.layout.dropdown < (provideDropdown d₀ plan).1.next :=
      hkid ▸ ((provideDropdown d₀ plan).1.aged k hkmem).1
    rw [Document.isBelow, h.evolves.lineage_of_refilled (fun _ hj ↦ hj) hlt]
    exact hkbelow
  have hfound := h.evolves.queryFirst?_named (not_creates root (.inr rfl)) hk hfree
  rwa [hkid, h.named.dropdown, hkname, hbelow, eq_self_iff_true, true_and,
    ← locateDropdown_eq_ok_iff hname] at hfound

/-- The fields are found again exactly if their names remain and nothing was taken out. -/
theorem fieldsRemain_iff (h : Left d₀ root plan c d)
    (hname : AsksFor plan.settings.argumentName name) :
    FieldsRemain d root plan.settings.argumentName c.layout.text c.layout.dropdown ↔
      NamesRemain plan.settings c name ∧ d.isBelow root c.layout.text = true ∧
        d.queryKind root permissionFields (· = .dropdown) ≠ [] := by
  rw [← nameFor_eq_iff h.exclusion name]
  constructor
  · rintro ⟨hpermission, htext, hdropdown⟩
    obtain ⟨hbelow, htname⟩ := (h.locateText_iff hname).mp htext
    exact ⟨⟨htname, (h.locateDropdown_iff hname).mp hdropdown⟩, hbelow, hpermission⟩
  · rintro ⟨⟨htname, hkname⟩, hbelow, hpermission⟩
    exact ⟨hpermission, (h.locateText_iff hname).mpr ⟨hbelow, htname⟩,
      (h.locateDropdown_iff hname).mpr hkname⟩

/-! ### Where options hold nothing -/

private theorem isBelow_eq (h : Left d₀ root plan c d)
    (hholds : (provideDropdown d₀ plan).1.HoldsNothing c.layout.dropdown) {n : Node}
    (hn : n ∈ (provideDropdown d₀ plan).1.nodes) (hkind : n.element.kind ≠ .option) :
    d.isBelow root n.id = (provideDropdown d₀ plan).1.isBelow root n.id := by
  rw [Document.isBelow, Document.isBelow,
    h.evolves.lineage_of_holdsNothing (fun _ hj ↦ hj) hholds hn hkind]

private theorem isBelow_text (h : Left d₀ root plan c d)
    (hholds : (provideDropdown d₀ plan).1.HoldsNothing c.layout.dropdown) :
    d.isBelow root c.layout.text = true := by
  obtain ⟨t, ht, htid, hbelow, hkind⟩ := exists_of_locateText h.planned.text
  have hd₁ := h.planned.provided.evolves
  obtain ⟨t₁, ht₁, hb⟩ := hd₁.find? (Document.find?_of_mem ht)
  have hkind₁ : t₁.element.kind ≠ .option := by
    rw [hb.kind, hkind]
    decide
  have hid : t₁.id = c.layout.text := by rw [hb.id, htid, h.text]
  rw [← hid, h.isBelow_eq hholds (Document.mem_of_find? ht₁) hkind₁, hb.id,
    hd₁.isBelow_eq_of_not_refills (fun _ hfalse ↦ hfalse) (d₀.aged t ht).1, htid]
  exact hbelow

/-- As long as the names remain, every dropdown keeps its name. -/
theorem name?_eq (h : Left d₀ root plan c d) (hname : AsksFor plan.settings.argumentName name)
    (hremain : NamesRemain plan.settings c name) {id : NodeId}
    (hid : ((provideDropdown d₀ plan).1.element? id).isSome = true) :
    d.name? id = (provideDropdown d₀ plan).1.name? id := by
  obtain ⟨htname, hkname⟩ := (nameFor_eq_iff h.exclusion name).mpr hremain
  obtain ⟨hfirst, hsecond⟩ := h.firsts hname
  obtain ⟨_, -, -, -, -, htname₁⟩ := Document.exists_of_queryFirst?_named hfirst
  obtain ⟨_, -, -, -, -, hkname₁⟩ := Document.exists_of_queryFirst?_named hsecond
  by_cases hfree : (marking c.leeway root).free id "name"
  · rcases eq_or_eq_of_free_name hfree with rfl | rfl
    · rw [h.named.text, htname₁, htname]
    · rw [h.named.dropdown, hkname₁, hkname]
  · exact h.evolves.name?_eq hid hfree

private theorem permission_ne_nil (h : Left d₀ root plan c d)
    (hname : AsksFor plan.settings.argumentName name)
    (hremain : NamesRemain plan.settings c name)
    (hholds : (provideDropdown d₀ plan).1.HoldsNothing c.layout.dropdown) :
    d.queryKind root permissionFields (· = .dropdown) ≠ [] := by
  have hd₁ := h.planned.provided.evolves
  obtain ⟨p, hp⟩ := List.exists_mem_of_ne_nil _ h.planned.copies
  rw [h.planned.permission] at hp
  obtain ⟨n, hn, rfl⟩ := List.mem_map.mp hp
  obtain ⟨hquery, hkind⟩ := List.mem_filter.mp hn
  obtain ⟨hmem, hbelow, hfits⟩ := Document.mem_query.mp hquery
  obtain ⟨n₁, hn₁, hb₁⟩ := hd₁.find? (Document.find?_of_mem hmem)
  have hmem₁ := Document.mem_of_find? hn₁
  obtain ⟨n₂, hn₂, hb₂⟩ := h.evolves.find? (Document.find?_of_mem hmem₁)
  have hmem₂ := Document.mem_of_find? hn₂
  have hkind₁ : n₁.element.kind = .dropdown := by
    rw [hb₁.kind]
    exact of_decide_eq_true hkind
  have hbelow₂ : d.isBelow root n₂.id = true := by
    rw [hb₂.id, h.isBelow_eq hholds hmem₁ (by rw [hkind₁]; decide), hb₁.id,
      hd₁.isBelow_eq_of_not_refills (fun _ hfalse ↦ hfalse) (d₀.aged n hmem).1]
    exact hbelow
  have hname₂ : n₂.element.attribute? "name" = n.element.attribute? "name" := by
    rw [← hb₁.attributes "name" fun hfalse ↦ hfalse, ← Document.name?_of_mem hmem₂,
      ← Document.name?_of_mem hmem₁, hb₂.id]
    exact h.name?_eq hname hremain (Document.isSome_of_mem hmem₁)
  -- tag, name and classes are all that the selector asks for
  have hfits₂ : permissionFields.fits n₂.element = true := by
    simp only [Selector.fits, permissionFields, List.any_cons, List.all_cons, List.all_nil,
      List.any_nil, Bool.and_true, Bool.or_false, Bool.or_eq_true, Bool.and_eq_true,
      Condition.holds, List.contains_iff_mem, hname₂, hb₂.tag, hb₁.tag] at hfits ⊢
    exact hfits.imp_left fun hclass ↦ hb₂.classes _ (hb₁.classes _ hclass)
  have hfound : n₂.id ∈ d.queryKind root permissionFields (· = .dropdown) := by
    refine List.mem_map_of_mem (List.mem_filter.mpr ⟨?_, ?_⟩)
    · exact Document.mem_query.mpr ⟨hmem₂, hbelow₂, hfits₂⟩
    · rw [hb₂.kind, hkind₁]
      rfl
  exact List.ne_nil_of_mem hfound

end Left

private theorem Plans.holdsNothing (hplan : Plans d root plan)
    (h : d.HoldsNothing (provideDropdown d plan).2.1) :
    (provideDropdown d plan).1.HoldsNothing (provideDropdown d plan).2.1 := by
  cases hk : plan.dropdown with
  | some k =>
    rw [provideDropdown_of_some hk] at h ⊢
    exact h
  | none =>
    -- options of a generated dropdown would be younger than the youngest node
    obtain ⟨-, hid, hnext, -⟩ := hplan.generated hk
    intro o ho hopt
    rw [hid, Document.isOptionOf, Bool.and_eq_true, beq_iff_eq] at hopt
    have hlt := (provideDropdown d plan).1.aged o ho
    have hparent := hlt.2 d.next hopt.1
    rw [hnext] at hlt
    exact absurd hparent (Nat.not_lt.mpr (Nat.le_of_lt_succ hlt.1))

/-! ## The theorem -/

/-- A form that was bound, used and released, with no other form in it or around it, can be bound
again with the same fields, and without another dropdown, exactly if its fields are found again.

When its name for the argument asks for the elements with some name, this is so exactly if the two
fields have that name in spite of what the form did to their names, and no option that was taken out
held the text field or the last of the permission selectors. So where options hold nothing, as on
any page that a browser has read, it depends on the names alone. -/
theorem takes_again_iff {s : Site} (hs : s.Numbered) {root : NodeId}
    (hsecluded : s.Secluded root) {id : BindingId} (hbound : (s.bindForm root).answer = .ok id)
    {acts : List Act} (hacts : ∀ a ∈ acts, a.Inside (s.bindForm root).site.document root) :
    ∃ plan f g, planForm s.document root = .ok plan ∧
      (s.bindForm root).site.form? id = some f ∧
      ((s.bindForm root).site.actAll id acts).form? id = some g ∧
      ((s.leave root id acts).Takes root f.controller.layout.text f.controller.layout.dropdown ↔
        FieldsRemain (s.leave root id acts).document root plan.settings.argumentName
          f.controller.layout.text f.controller.layout.dropdown) ∧
      ∀ name, AsksFor plan.settings.argumentName name →
        ((s.leave root id acts).Takes root f.controller.layout.text f.controller.layout.dropdown ↔
          NamesRemain plan.settings g.controller name ∧
          (s.leave root id acts).document.isBelow root f.controller.layout.text = true ∧
          (s.leave root id acts).document.queryKind root permissionFields (· = .dropdown) ≠ []) ∧
        (s.document.HoldsNothing f.controller.layout.dropdown →
          ((s.leave root id acts).Takes root f.controller.layout.text
              f.controller.layout.dropdown ↔
            NamesRemain plan.settings g.controller name)) := by
  obtain ⟨plan, hplan, rfl⟩ := bindForm_answer_iff.mp hbound
  obtain ⟨f, hb⟩ := hplan.bound
  have hform := hb.form? hs
  have hsession : Session (s.bindForm root).site f (provideDropdown s.document plan).1
      ((s.bindForm root).site.actAll f.id acts) :=
    (hb.session hs).actAll (hb.seated hplan) (hb.heard hplan hs hsecluded) hacts
  obtain ⟨g, hg, hlayout, hleft⟩ := hsession.left hplan hb
  rw [hb.number] at hform hg hleft
  have hnumbered : (s.leave root s.next acts).Numbered := by
    refine numbered_releaseForm ?_ _
    rw [← hb.number]
    exact (hb.numbered hplan hs).of_stays hsession.stays
  have hlt : f.controller.layout.dropdown < (s.leave root s.next acts).document.next := by
    have hseated := (hplan.seated hb.text hb.dropdown).of_evolves hleft.evolves
    exact Document.lt_next_of_isSome hseated.dropdown
  have htakes : (s.leave root s.next acts).Takes root f.controller.layout.text
        f.controller.layout.dropdown ↔
      FieldsRemain (s.leave root s.next acts).document root plan.settings.argumentName
        f.controller.layout.text f.controller.layout.dropdown :=
    (takes_iff hnumbered hlt).trans hleft.plans_iff
  refine ⟨plan, f, g, planForm_eq_ok_iff.mpr hplan, hform, hg, htakes, fun name hname ↦ ?_⟩
  have hfields := hleft.fieldsRemain_iff hname
  rw [hlayout] at hfields
  refine ⟨htakes.trans hfields, fun hholds ↦ (htakes.trans hfields).trans ?_⟩
  refine ⟨fun h ↦ h.1, fun hremain ↦ ⟨hremain, ?_⟩⟩
  rw [hb.dropdown] at hholds
  have hholds₁ := hplan.holdsNothing hholds
  rw [← hleft.dropdown] at hholds₁
  exact ⟨hlayout ▸ hleft.isBelow_text hholds₁, hleft.permission_ne_nil hname hremain hholds₁⟩

/-- A page with one form that renames the unused field. Its permission selector offers a permission
for which any text is accepted, and it has no dropdown for the argument. -/
def sample : Site where
  document :=
    let form : Element := { tag := "form" }
    let select : Element := { tag := "select" }
    let input : Element := { tag := "input" }
    { nodes :=
        [⟨0, none, (form.setAttribute tableAttribute "\x7b\"edit\": [\"*\"]\x7d").setAttribute
            methodAttribute "rename"⟩,
          ⟨1, some 0, select.setAttribute "name" "permission_name"⟩,
          ⟨2, some 1, { Element.newOption "" with chosen := true }⟩,
          ⟨3, some 1, .newOption "edit"⟩,
          ⟨4, some 0, input.setAttribute "name" "argument"⟩]
      next := 5
      distinct := by decide +kernel
      aged := by decide +kernel }

/-- The user selects the permission and submits the form. -/
def sampleActs : List Act := [.choose 1 "edit", .dispatch 0 "submit"]

/-- The dropdown that was generated for the sample form is named as an ignored field when the form
is released, so it is not found again. -/
theorem takes_again_iff_sample :
    (sample.bindForm 0).answer = .ok 0 ∧ ¬ (sample.leave 0 0 sampleActs).Takes 0 4 5 := by
  have hs : sample.Numbered := numbered_open _
  have hbound : (sample.bindForm 0).answer = .ok 0 := by decide +kernel
  have hacts : ∀ a ∈ sampleActs, a.Inside (sample.bindForm 0).site.document 0 := by
    decide +kernel
  have hsecluded : sample.Secluded 0 := fun l hl ↦ absurd hl List.not_mem_nil
  obtain ⟨plan, f, g, hplan, hf, hg, -, h⟩ :=
    takes_again_iff hs hsecluded hbound hacts
  have hsettings : (planForm sample.document 0).map (·.settings) = .ok { method := .rename } := by
    decide +kernel
  have hfields : ((sample.bindForm 0).site.form? 0).map
      (fun f ↦ (f.controller.layout.text, f.controller.layout.dropdown)) = some (4, 5) := by
    decide +kernel
  have hstate : (((sample.bindForm 0).site.actAll 0 sampleActs).form? 0).map
      (fun g ↦ decide (NamesRemain { method := .rename } g.controller defaultArgumentName)) =
        some false := by
    decide +kernel
  rw [hplan] at hsettings
  rw [hf] at hfields
  rw [hg] at hstate
  obtain ⟨htext, hdropdown⟩ := Prod.mk.inj (Option.some.inj hfields)
  have hplanned : plan.settings = { method := .rename } := Except.ok.inj hsettings
  rw [htext, hdropdown] at h
  refine ⟨hbound, fun htakes ↦ ?_⟩
  have hasks : AsksFor plan.settings.argumentName defaultArgumentName := by
    rw [hplanned]
    exact asksFor_self (by decide)
  have hremain : NamesRemain plan.settings g.controller defaultArgumentName :=
    ((h _ hasks).1.mp htakes).1
  rw [hplanned] at hremain
  exact of_decide_eq_false (Option.some.inj hstate) hremain

end Site

end AccessForm
