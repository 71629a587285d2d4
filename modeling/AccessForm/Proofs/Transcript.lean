import AccessForm.Proofs.Depiction
import AccessForm.Proofs.Locality

/-!
# Forms taken down in memory

The form in memory that stands for a planned form of a page (`FormPlan.setup`). It has the table and
the exclusion of the plan, and its controls are portraits of the fields, taken before the form is
bound. Where the form gets a dropdown, the one in memory begins empty, with the name of the text
field.

When both are taken over, the panel depicts the page (`PlainForm.opening_matches`). This is so for
plain forms only. The dropdown that a form gets is a new child of the parent of the text field, and
a dropdown that gets a child selects one of its options. So the text field must not be a child of a
selector in which nothing is selected.
-/

namespace AccessForm

namespace Site

/-! ## Plain forms -/

/-- Forms whose elements are what they seem. The text field, the dropdown and the selectors are by
themselves of the right kinds, so nothing has to be said about these. -/
structure PlainForm (s : Site) (root : NodeId) (plan : FormPlan) : Prop where
  /-- Reasons are typed. -/
  reason (k : NodeId) : k ∈ (plannedLayout s.document root plan).reason →
    ((provideDropdown s.document plan).1.kind k).isTyped = true
  /-- No field is a section as well. -/
  sections (i : NodeId) : i ∈ (plannedLayout s.document root plan).sections →
    i ∉ (plannedLayout s.document root plan).fields
  /-- No guard has a field for its control. -/
  guards (g : BoundGuard) : g ∈ s.guards →
    g.latch.control ∉ (plannedLayout s.document root plan).fields
  /-- No permission selector lies in another one. -/
  flat (j k : NodeId) : j ∈ plan.permission → k ∈ plan.permission →
    j ∈ s.document.lineage k → j = k
  /-- If a selector gets a child with the dropdown of the form, its selection is steady. -/
  steady (k : NodeId) : plan.dropdown = none →
    k ∈ (plannedLayout s.document root plan).permission ++
      (plannedLayout s.document root plan).group.toList →
    (s.document.find? plan.text).bind (·.parent) = some k → s.document.Steady k

variable {d : Document} {s : Site} {root : NodeId} {plan : FormPlan} {f : BoundForm}

theorem Bound.controller_eq (hb : Bound s root plan f (s.bindForm root).site)
    (hplan : Plans s.document root plan) :
    f.controller = (opening s.document root plan).controller := by
  have hforms := hplan.opened.1
  rw [hb.forms] at hforms
  rw [List.singleton_inj.mp (List.append_cancel_left hforms)]

theorem Bound.layout_eq (hb : Bound s root plan f (s.bindForm root).site)
    (hplan : Plans s.document root plan) :
    f.controller.layout = plannedLayout s.document root plan := by
  obtain ⟨mode, primed, hc⟩ := exists_controller_opening s.document root plan
  rw [hb.controller_eq hplan, hc]

theorem Bound.mem_controls_of_locked (hb : Bound s root plan f (s.bindForm root).site)
    (hplan : Plans s.document root plan) {k : NodeId} (hk : k ∈ f.controller.locked) :
    k ∈ f.controller.layout.controls := by
  obtain ⟨mode, primed, hc⟩ := exists_controller_opening s.document root plan
  rw [hb.controller_eq hplan, hc] at hk
  rw [hb.layout_eq hplan]
  exact Layout.mem_controls_of_selector (List.mem_filter.mp hk).1

private theorem Plans.kind_text (h : Plans d root plan) :
    (provideDropdown d plan).1.kind plan.text = .input := by
  obtain ⟨n, hn, hid, -, hkind⟩ := exists_of_locateText h.text
  rw [h.provided.evolves.kind_eq_of_lt h.text_lt, Document.kind, Document.element?, ← hid,
    Document.find?_of_mem hn]
  exact hkind

theorem Plans.kind_dropdowns (h : Plans d root plan) {k : NodeId}
    (hk : k ∈ (plannedLayout d root plan).dropdowns) :
    (provideDropdown d plan).1.kind k = .dropdown := by
  simp only [Layout.dropdowns, List.mem_cons, List.mem_append, Option.mem_toList] at hk
  rcases hk with rfl | hk | hk
  · obtain ⟨n, hn, hid, hkind⟩ := h.provided.found
    show (provideDropdown d plan).1.kind (provideDropdown d plan).2.1 = .dropdown
    rw [← hid, Document.kind, Document.element?, Document.find?_of_mem hn]
    exact hkind
  · replace hk : k ∈ plan.permission := hk
    rw [h.permission] at hk
    rw [h.provided.evolves.kind_eq_of_lt (lt_of_mem_queryKind hk)]
    exact of_decide_eq_true (kind_of_mem_queryKind hk)
  · obtain ⟨n, hn, hkind⟩ := Option.bind_eq_some_iff.mp hk
    split at hkind
    · next hdropdown =>
      cases hkind
      have hmem := (Document.mem_query.mp (Document.mem_query_of_queryFirst? hn)).1
      rw [Document.kind, Document.element?, Document.find?_of_mem hmem]
      exact hdropdown
    · cases hkind

/-- A panel can stand for a plain form. -/
theorem PlainForm.suits (h : PlainForm s root plan) (hplan : Plans s.document root plan) :
    (plannedLayout s.document root plan).Suits (provideDropdown s.document plan).1 where
  typed k hk := by
    rcases List.mem_cons.mp hk with rfl | hk
    · exact congrArg ElementKind.isTyped hplan.kind_text
    · exact h.reason k hk
  dropdown k hk := hplan.kind_dropdowns hk
  present i hi := by
    obtain ⟨sel, hsel⟩ : ∃ sel, i ∈ (provideDropdown s.document plan).1.queryKind root sel
        (·.isShowable) := by
      rcases List.mem_append.mp hi with hi | hi
      · exact ⟨_, hi⟩
      · exact ⟨_, hi⟩
    obtain ⟨n, hn, rfl⟩ := List.mem_map.mp hsel
    exact Document.isSome_of_mem (Document.mem_query.mp (List.mem_filter.mp hn).1).1
  apart := h.sections

theorem PlainForm.lt_of_typed (h : PlainForm s root plan) (hplan : Plans s.document root plan)
    {k : NodeId} (hk : k ∈ (plannedLayout s.document root plan).typed) :
    k < s.document.next := by
  have htyped := (h.suits hplan).typed k hk
  have hsome := (h.suits hplan).isSome (Layout.mem_fields_iff.mpr (.inl hk))
  have hlt := Document.lt_next_of_isSome hsome
  cases hdropdown : plan.dropdown with
  | some _ =>
    rw [provideDropdown_of_some hdropdown] at hlt
    exact hlt
  | none =>
    obtain ⟨-, hnew, hnext, -⟩ := hplan.generated hdropdown
    rw [hnext] at hlt
    refine Nat.lt_of_le_of_ne (Nat.le_of_lt_succ hlt) fun heq ↦ ?_
    have hkind := hplan.kind_dropdowns (k := k) (by
      rw [heq, ← hnew]
      exact List.mem_cons_self)
    rw [hkind] at htyped
    cases htyped

/-! ## The form in memory -/

/-- The controls and sections of a page as a planned form finds them. A dropdown that the form is
going to get is empty and has the name of the text field. -/
def FormPlan.panel (plan : FormPlan) (d : Document) : Panel :=
  match plan.dropdown with
  | some _ => d.panel
  | none => d.panel.modify (.select d.next) fun _ ↦ { name := (d.portrait plan.text).name }

/-- The form in memory that stands for a planned form. -/
def FormPlan.setup (plan : FormPlan) (d : Document) (root : NodeId) : Setup where
  table := plan.table
  exclusion := .ofSettings plan.settings
  seating := (plannedLayout d root plan).seating
  panel := plan.panel d

/-- A generated dropdown is empty, and has no more than a name. -/
theorem portrait_dropdownLike (e : Element) :
    (dropdownLike e).portrait [] = { name := e.attributeText "name" } := by
  have hname : (dropdownLike e).attributeText "name" = e.attributeText "name" := by
    rw [Element.attributeText, attribute?_name_dropdownLike]
    rfl
  have hother : ∀ a, a ≠ "name" → a ≠ "class" → (dropdownLike e).hasAttribute a = false := by
    intro a hname hclass
    rw [Element.hasAttribute, Element.attribute?, dropdownLike, Directory.find?_insert,
      if_neg hclass, Directory.find?_insert, if_neg hname, Directory.find?_empty]
    rfl
  rw [Element.portrait, hname, hother _ (by decide) (by decide), hother _ (by decide) (by decide)]
  rfl

private theorem PlainForm.portrait_generated (h : PlainForm s root plan)
    (hplan : Plans s.document root plan) (hnone : plan.dropdown = none) :
    (provideDropdown s.document plan).1.portrait s.document.next =
        { name := (s.document.portrait plan.text).name } ∧
      (∀ k < s.document.next, k ∈ (plannedLayout s.document root plan).fields →
        (provideDropdown s.document plan).1.portrait k = s.document.portrait k) ∧
      ∀ i < s.document.next,
        (provideDropdown s.document plan).1.isShown i = s.document.isShown i := by
  have hsuits := h.suits hplan
  have hold : ∀ k < s.document.next,
      (provideDropdown s.document plan).1.kind k = s.document.kind k := fun k hk ↦
    hplan.provided.evolves.kind_eq_of_lt hk
  have hdropdown : (provideDropdown s.document plan).2.1 = s.document.next :=
    (hplan.generated hnone).2.1
  obtain ⟨t, p, ht, hp, -⟩ := Document.exists_parent_of_isBelow hplan.isBelow_text
  have hlt : p < s.document.next :=
    Nat.lt_trans (Document.parent_lt_of_find? ht hp) hplan.text_lt
  have hprovided : (provideDropdown s.document plan).1 =
      (s.document.insert p plan.text (dropdownLike t.element)).settle p := by
    rw [provideDropdown_of_none hnone ht hp]
  have hnew : (s.document.insert p plan.text (dropdownLike t.element)).element? s.document.next =
      some (dropdownLike t.element) := by
    rw [Document.element?, Document.find?_of_mem (Document.mem_insert hlt _ _)]
    rfl
  have hkind : (dropdownLike t.element).kind ≠ .option := by
    intro hoption
    cases hoption
  rw [hprovided]
  refine ⟨?_, fun k hk hfield ↦ ?_, fun i hi ↦ ?_⟩
  · have hoptions : s.document.options s.document.next = [] := by
      refine List.filter_eq_nil_iff.mpr fun n hn hopt ↦ ?_
      obtain ⟨hid, hparent⟩ := s.document.aged n hn
      simp only [Document.isOptionOf, Bool.and_eq_true, beq_iff_eq] at hopt
      exact absurd (hparent _ hopt.1) (Nat.not_lt.mpr (Nat.le_of_lt hid))
    rw [Document.portrait_settle fun _ heq ↦ absurd heq (Nat.ne_of_gt hlt),
      Document.portrait_of_some hnew, Document.offers, Document.options_insert_of_kind hkind,
      hoptions, List.map_nil, portrait_dropdownLike]
    have htext : s.document.element? plan.text = some t.element := by
      rw [Document.element?, ht]
      rfl
    rw [Document.portrait_of_some htext]
    rfl
  · have hsteady : s.document.kind k = .dropdown → k = p → s.document.Steady p := by
      rintro hk' rfl
      rcases Layout.mem_fields_iff.mp hfield with htyped | hmem
      · have hfalse := hsuits.typed k htyped
        rw [hold k hk, hk'] at hfalse
        cases hfalse
      · rcases List.mem_cons.mp hmem with rfl | hmem
        · exact absurd hdropdown (Nat.ne_of_lt hk)
        · refine h.steady k hnone hmem ?_
          rw [ht, Option.bind_some, hp]
    have hinsert : (s.document.insert p plan.text (dropdownLike t.element)).kind k =
        s.document.kind k := Document.kind_of_element? (Document.element?_insert_of_lt hk _ _)
    have hsteady' : s.document.kind k = .dropdown → k = p →
        (s.document.insert p plan.text (dropdownLike t.element)).Steady p := by
      rw [Document.Steady, Document.options_insert_of_kind hkind]
      exact hsteady
    rw [Document.portrait_settle fun heq ↦ hsteady' (hinsert.symm.trans heq),
      Document.portrait_insert hk hkind]
  · rw [Document.isShown_settle, Document.isShown, Document.element?_insert_of_lt hi,
      Document.isShown]

/-- The panel depicts the page once the form has a dropdown. -/
theorem PlainForm.depicts (h : PlainForm s root plan) (hplan : Plans s.document root plan) :
    Depicts (provideDropdown s.document plan).1.ref (plannedLayout s.document root plan)
      (provideDropdown s.document plan).1 (plan.panel s.document) := by
  have hsuits := h.suits hplan
  cases hdropdown : plan.dropdown with
  | some k =>
    have hsame : (provideDropdown s.document plan).1 = s.document := by
      rw [provideDropdown_of_some hdropdown]
    have hpanel : plan.panel s.document = s.document.panel := by
      rw [FormPlan.panel, hdropdown]
    rw [hsame] at hsuits ⊢
    rw [hpanel]
    exact ⟨hsuits, fun _ _ ↦ rfl, fun k _ ↦ s.document.control_panel _ k, fun _ _ ↦ rfl⟩
  | none =>
    obtain ⟨-, hnew, hnext, -⟩ := hplan.generated hdropdown
    obtain ⟨hself, hothers, hshown⟩ := h.portrait_generated hplan hdropdown
    have hpanel : plan.panel s.document = s.document.panel.modify (.select s.document.next)
        fun _ ↦ { name := (s.document.portrait plan.text).name } := by
      rw [FormPlan.panel, hdropdown]
    have hlt : ∀ k, ((provideDropdown s.document plan).1.element? k).isSome = true →
        k ≠ s.document.next → k < s.document.next := by
      intro k hsome hne
      have hlt := Document.lt_next_of_isSome hsome
      rw [hnext] at hlt
      exact Nat.lt_of_le_of_ne (Nat.le_of_lt_succ hlt) hne
    have hhandle : (provideDropdown s.document plan).1.ref s.document.next =
        .select s.document.next := by
      rw [← hnew]
      exact hsuits.ref_dropdown List.mem_cons_self
    rw [hpanel]
    refine ⟨hsuits, fun _ _ ↦ rfl, fun k hk ↦ ?_, fun i hi ↦ ?_⟩
    · rw [Panel.control_modify, ← hhandle, s.document.control_panel]
      split
      · next heq => rw [Document.eq_of_ref heq, hself]
      · next hne =>
        have hold := hlt k (hsuits.isSome hk) fun heq ↦ hne (heq ▸ rfl)
        rw [hothers k hold hk]
    · refine (hshown i (hlt i (hsuits.present i hi) fun heq ↦ ?_)).symm
      refine h.sections i hi (Layout.mem_fields_iff.mpr (.inr ?_))
      rw [heq, ← hnew]
      exact List.mem_cons_self

/-- Both forms are taken over in the same way, and the panel goes on depicting the page. -/
theorem PlainForm.opening_matches (h : PlainForm s root plan)
    (hplan : Plans s.document root plan) :
    Turn.Matches (provideDropdown s.document plan).1.ref id
      (Depicts (provideDropdown s.document plan).1.ref (plannedLayout s.document root plan))
      (opening s.document root plan) (plan.setup s.document root).begin := by
  have hstart := (concord_depicts (provideDropdown s.document plan).1.ref
    (plannedLayout s.document root plan)).toAccord.start plan.table (.ofSettings plan.settings)
    (h.depicts hplan)
  rw [(h.suits hplan).map_ref] at hstart
  exact hstart

end Site

end AccessForm
