import AccessForm.Proofs.Comparison
import AccessForm.Proofs.Registry

/-!
# Pages bound in one go

The forms and guards of a page are looked for twice, and each one that is found is bound if it can
be bound at that time. When no flagged element lies in another one, the outcome can be told from the
page as it was (`Apart.bindPage_eq`): a form is bound exactly if it could be bound alone, and a
guard exactly if it could be bound alone after the form of the same element (`bindings`). The same
bindings can be made in any other order, and so can some of them (`Apart.operateAll`).
-/

namespace AccessForm

namespace Site

open Document (homeIn SameAttribute)

variable {d : Document} {s : Site} {top r : NodeId}

/-! ## Flagged elements -/

/-- Whether an element below the top of a page says that it has a form or a guard. -/
def flagged (d : Document) (top r : NodeId) : Bool :=
  d.isBelow top r && (d.element? r).any fun e ↦
    e.hasAttribute tableAttribute || e.hasAttribute guardAttribute

/-- No flagged element of a page lies in another one. -/
def Apart (d : Document) (top : NodeId) : Prop :=
  ∀ m ∈ d.nodes, ∀ n ∈ d.nodes, flagged d top m.id = true → flagged d top n.id = true →
    d.isBelow m.id n.id = false

instance (d : Document) (top : NodeId) : Decidable (Apart d top) :=
  inferInstanceAs (Decidable (∀ m ∈ d.nodes, ∀ n ∈ d.nodes, _))

theorem isSome_of_flagged (h : flagged d top r = true) : (d.element? r).isSome = true := by
  rw [flagged, Bool.and_eq_true] at h
  cases he : d.element? r with
  | none => simp [he] at h
  | some e => rfl

/-- Flagged elements that are apart share out the page. -/
theorem Apart.sharedOut (h : Apart d top) : SharedOut (flagged d top) d where
  housed := by
    refine Document.housed_homeIn (fun r hr ↦ isSome_of_flagged hr) fun r hr ↦ ?_
    by_contra hsome
    obtain ⟨p, hp⟩ := Option.ne_none_iff_exists'.mp hsome
    have hp' : flagged d top p = true := List.find?_some hp
    have hmem := List.mem_of_find?_eq_some hp
    have hnode : ∀ {id}, flagged d top id = true → ∃ n ∈ d.nodes, n.id = id := by
      intro id hid
      have hfound := isSome_of_flagged hid
      rw [Document.element?, Option.isSome_map] at hfound
      obtain ⟨n, hn⟩ := Option.isSome_iff_exists.mp hfound
      exact ⟨n, Document.mem_of_find? hn, Document.id_of_find? hn⟩
    obtain ⟨n, hn, rfl⟩ := hnode hr
    obtain ⟨m, hm, rfl⟩ := hnode hp'
    rw [Document.lineage_eq, Document.find?_of_mem hn] at hmem
    cases hparent : n.parent with
    | none => simp [hparent] at hmem
    | some q =>
      -- the flagged element is on the way up from the parent, so it is further up
      have hup : m.id ∈ d.lineage q := by simpa [hparent] using hmem
      have hlt : m.id < n.id := Nat.lt_of_le_of_lt (Document.le_of_mem_lineage hup)
        ((d.aged n hn).2 q hparent)
      have hbelow := Document.isBelow_of_parent hn hparent hup (Nat.ne_of_gt hlt)
      rw [h m hm n hn hp' hr] at hbelow
      cases hbelow
  found r hr := by
    have hfound := isSome_of_flagged hr
    rwa [Document.element?, Option.isSome_map] at hfound

/-! ## What is waiting -/

private theorem fits_unbound (name marker : String) (e : Element) :
    (unbound name marker).fits e = (e.hasAttribute name && !e.hasAttribute marker) := by
  simp [unbound, Selector.fits, Condition.holds]

theorem mem_waiting {name marker : String} : r ∈ waiting d top name marker ↔
    ∃ n ∈ d.nodes, n.id = r ∧ d.isBelow top r = true ∧ n.element.hasAttribute name = true ∧
      n.element.hasAttribute marker = false := by
  rw [waiting, List.mem_map]
  constructor
  · rintro ⟨n, hn, rfl⟩
    obtain ⟨hmem, hbelow, hfits⟩ := Document.mem_query.mp hn
    rw [fits_unbound, Bool.and_eq_true, Bool.not_eq_true'] at hfits
    exact ⟨n, hmem, rfl, hbelow, hfits⟩
  · rintro ⟨n, hmem, rfl, hbelow, hfits⟩
    refine ⟨n, Document.mem_query.mpr ⟨hmem, hbelow, ?_⟩, rfl⟩
    rwa [fits_unbound, Bool.and_eq_true, Bool.not_eq_true']

private theorem nodup_waiting (d : Document) (top : NodeId) (name marker : String) :
    (waiting d top name marker).Nodup :=
  List.pairwise_map.mpr ((d.distinct.filter _).filter _)

theorem flagged_of_mem_waiting {name marker : String}
    (hname : name = tableAttribute ∨ name = guardAttribute) (h : r ∈ waiting d top name marker) :
    flagged d top r = true := by
  obtain ⟨n, hn, rfl, hbelow, hattribute, -⟩ := mem_waiting.mp h
  have helement : d.element? n.id = some n.element := by
    rw [Document.element?, Document.find?_of_mem hn]
    rfl
  rw [flagged, hbelow, helement, Option.any_some, Bool.true_and, Bool.or_eq_true]
  rcases hname with rfl | rfl
  · exact .inl hattribute
  · exact .inr hattribute

/-- What a site still has in common with the document that it was opened with. -/
structure OpenedWith (d : Document) (s : Site) : Prop where
  /-- The document evolved. -/
  document : d.Evolves .any s.document
  /-- Nobody changed what the page says. -/
  attributes (name : String) : Spared name → name ∉ markers → SameAttribute name d s.document

private theorem kept_openedWith (d : Document) : Kept (OpenedWith d) where
  persists _ h hs := {
    document := h.document.trans hs.document
    attributes := fun name hname hmarker ↦
      (Document.frame_sameAttribute name).trans (h.attributes name hname hmarker)
        (hs.attributes name hname) }
  enters {s s' p} _ h hs := {
    document := by
      obtain ⟨d', hd, hd', -⟩ := hs.document
      exact h.document.trans (hd.trans hd')
    attributes := fun name hname hmarker ↦ by
      have hne : name ≠ p.marker := fun heq ↦
        hmarker (heq ▸ marker_mem_markers (hs.posts.mem_iff.mpr List.mem_cons_self))
      exact (Document.frame_sameAttribute name).trans (h.attributes name hname hmarker)
        (hs.attributes name hname hne) }
  leaves {s s' p} _ h hs := {
    document := h.document.trans hs.document
    attributes := fun name hname hmarker ↦ by
      have hne : name ≠ p.marker := fun heq ↦ hmarker (heq ▸ marker_mem_markers hs.live)
      exact (Document.frame_sameAttribute name).trans (h.attributes name hname hmarker)
        (hs.attributes name hname hne) }

private theorem OpenedWith.flagged (h : OpenedWith d s) {n : Node} (hn : n ∈ s.document.nodes)
    (hbelow : s.document.isBelow top n.id = true) {name : String}
    (hname : name = tableAttribute ∨ name = guardAttribute)
    (hattribute : n.element.hasAttribute name = true) : flagged d top n.id = true := by
  have hspared : Spared name ∧ name ∉ markers := by
    rcases hname with rfl | rfl
    · exact ⟨by decide, by decide⟩
    · exact ⟨by decide, by decide⟩
  have hsame := h.attributes name hspared.1 hspared.2 n.id
  rw [Document.attribute?, Document.element?, Document.find?_of_mem hn] at hsame
  obtain ⟨v, hv⟩ := Option.isSome_iff_exists.mp hattribute
  have hold : d.attribute? n.id name = some v := by rw [← hsame]; exact hv
  obtain ⟨e, he, hev⟩ := Option.bind_eq_some_iff.mp hold
  have hlt := Document.lt_next_of_attribute? hold
  have hattribute : e.hasAttribute name = true := by rw [Element.hasAttribute, hev]; rfl
  rw [Site.flagged, h.document.isBelow_of_isBelow hlt hbelow, he, Option.any_some, Bool.true_and,
    Bool.or_eq_true]
  rcases hname with rfl | rfl
  · exact .inl hattribute
  · exact .inr hattribute

private theorem hasAttribute_stamp_form (form guard : Bool) (e : Element) :
    (stamp form guard e).hasAttribute formMarker = (form || e.hasAttribute formMarker) := by
  cases form with
  | false =>
    have hkept : (stamp false guard e).attribute? formMarker = e.attribute? formMarker :=
      attribute?_stamp (by simp) (fun _ ↦ by decide) e
    rw [Element.hasAttribute, hkept]
    rfl
  | true =>
    cases guard with
    | false => exact Element.hasAttribute_toggleAttribute e formMarker true
    | true =>
      have hsame := Element.attribute?_toggleAttribute_of_ne
        (show formMarker ≠ guardMarker by decide) (e.toggleAttribute formMarker true) true
      rw [stamp, if_pos rfl, if_pos rfl, Element.hasAttribute, hsame]
      exact Element.hasAttribute_toggleAttribute e formMarker true

private theorem hasAttribute_stamp_guard (form guard : Bool) (e : Element) :
    (stamp form guard e).hasAttribute guardMarker = (guard || e.hasAttribute guardMarker) := by
  cases guard with
  | false =>
    have hkept : (stamp form false e).attribute? guardMarker = e.attribute? guardMarker :=
      attribute?_stamp (fun _ ↦ by decide) (by simp) e
    rw [Element.hasAttribute, hkept]
    rfl
  | true => exact Element.hasAttribute_toggleAttribute _ guardMarker true

section

variable {home : NodeId → Option NodeId} {distance : NodeId → NodeId}
  (h₀ : SharedOut (flagged d top) d) (h : Composed (flagged d top) d s home distance)
  (hd : OpenedWith d s)
include h₀ h hd

/-- On a page that is composed of its parts, those are waiting that were in the beginning and are
not bound. -/
theorem Composed.waiting_eq {name marker : String} {roots : List NodeId}
    (hname : name = tableAttribute ∨ name = guardAttribute)
    (hstamped : ∀ n : Node, (unbound name marker).fits (s.stamped n).element =
      ((unbound name marker).fits n.element && decide (n.id ∉ roots))) :
    waiting s.document top name marker = (waiting d top name marker).filter (· ∉ roots) := by
  -- whatever waits is flagged, so it can be looked for among what is at home nowhere
  have hloose : ∀ {d' : Document} {home'}, d'.Housed (flagged d top) home' →
      (∀ n ∈ d'.nodes, d'.isBelow top n.id = true → n.element.hasAttribute name = true →
        flagged d top n.id = true) →
      d'.query top (unbound name marker) = (Site.loose d' home').filter fun n ↦
        d'.isBelow top n.id && (unbound name marker).fits n.element := by
    intro d' home' hhoused hflagged
    rw [Document.query, Document.descendants, Site.loose, List.filter_filter, List.filter_filter]
    refine List.filter_congr fun n hn ↦ ?_
    rw [fits_unbound]
    by_cases hfits : d'.isBelow top n.id = true ∧ n.element.hasAttribute name = true
    · have hnone := hhoused.head n.id (hflagged n hn hfits.1 hfits.2)
      simp [hfits.1, hfits.2, hnone]
    · rcases not_and_or.mp hfits with hnot | hnot
      · simp [hnot]
      · simp [hnot]
  have hquery := hloose h₀.housed fun n hn hbelow hattribute ↦
    OpenedWith.flagged (d := d) (s := { document := d }) ⟨.refl d, fun _ _ _ _ ↦ rfl⟩ hn hbelow
      hname hattribute
  have hquery' := hloose h.housed fun n hn hbelow hattribute ↦
    hd.flagged hn hbelow hname hattribute
  rw [waiting, hquery', h.loose, waiting, hquery, List.filter_map, List.map_map, List.filter_map,
    List.filter_filter]
  have hkept : ((fun n : Node ↦ n.id) ∘ s.stamped) = fun n : Node ↦ n.id := rfl
  rw [hkept]
  refine congrArg _ (List.filter_congr fun n hn ↦ ?_)
  obtain ⟨hmem, hnone⟩ := List.mem_filter.mp hn
  -- such a node lies where it lay, and all that it may have got is a marker
  have hlineage := h.lineage_of_loose h₀ (d.aged n hmem).1 (beq_iff_eq.mp hnone)
  have hbelow : s.document.isBelow top (s.stamped n).id = d.isBelow top n.id := by
    rw [Document.isBelow, Document.isBelow]
    exact congrArg (n.id != top && List.contains · top) hlineage
  rw [Function.comp_apply, Function.comp_apply, hbelow, hstamped, ← Bool.and_assoc, Bool.and_comm]

theorem Composed.waiting_forms : waiting s.document top tableAttribute formMarker =
    (waiting d top tableAttribute formMarker).filter (· ∉ s.formRoots) := by
  refine h.waiting_eq h₀ hd (.inl rfl) fun n ↦ ?_
  have hattribute : (s.stamped n).element.hasAttribute tableAttribute =
      n.element.hasAttribute tableAttribute :=
    congrArg Option.isSome (attribute?_stamp (fun _ ↦ by decide) (fun _ ↦ by decide) n.element)
  rw [fits_unbound, fits_unbound, hattribute, stamped, hasAttribute_stamp_form]
  by_cases hn : n.id ∈ s.formRoots <;> simp [hn]

theorem Composed.waiting_guards : waiting s.document top guardAttribute guardMarker =
    (waiting d top guardAttribute guardMarker).filter (· ∉ s.guardRoots) := by
  refine h.waiting_eq h₀ hd (.inr rfl) fun n ↦ ?_
  have hattribute : (s.stamped n).element.hasAttribute guardAttribute =
      n.element.hasAttribute guardAttribute :=
    congrArg Option.isSome (attribute?_stamp (fun _ ↦ by decide) (fun _ ↦ by decide) n.element)
  rw [fits_unbound, fits_unbound, hattribute, stamped, hasAttribute_stamp_guard]
  by_cases hn : n.id ∈ s.guardRoots <;> simp [hn]

end

/-! ## Bindings one at a time -/

/-- Whether the form of an element could be bound alone. -/
def takesForm (d : Document) (r : NodeId) : Bool := (bindForm { document := d } r).answer.isOk

/-- Whether the guard of an element could be bound alone after the form. -/
def takesGuard (d : Document) (r : NodeId) : Bool :=
  (bindGuard (bindForm { document := d } r).site r).answer.isOk

theorem isOk_bindForm_iff : (s.bindForm r).answer.isOk = true ↔
    ∃ plan, Plans s.document r plan := by
  cases hplan : planForm s.document r with
  | error e =>
    rw [bindForm, hplan]
    refine iff_of_false (by simp [Except.isOk, Except.toBool]) ?_
    rintro ⟨plan, h⟩
    rw [planForm_eq_ok_iff.mpr h] at hplan
    cases hplan
  | ok plan =>
    rw [bindForm, hplan]
    exact iff_of_true rfl ⟨plan, planForm_eq_ok_iff.mp hplan⟩

theorem isOk_bindGuard_iff : (s.bindGuard r).answer.isOk = true ↔
    ∃ latch, planGuard s.document r = .ok latch := by
  cases hplan : planGuard s.document r with
  | error e =>
    rw [bindGuard, hplan]
    exact iff_of_false (by simp [Except.isOk, Except.toBool]) (by simp)
  | ok latch =>
    rw [bindGuard, hplan]
    exact iff_of_true rfl ⟨latch, rfl⟩

theorem site_bindForm_of_not (h : ¬ ∃ plan, Plans s.document r plan) :
    (s.bindForm r).site = s := by
  cases hplan : planForm s.document r with
  | error e => rw [bindForm, hplan]
  | ok plan => exact absurd ⟨plan, planForm_eq_ok_iff.mp hplan⟩ h

theorem site_bindGuard_of_not (h : ¬ ∃ latch, planGuard s.document r = .ok latch) :
    (s.bindGuard r).site = s := by
  cases hplan : planGuard s.document r with
  | error e => rw [bindGuard, hplan]
  | ok latch => exact absurd ⟨latch, hplan⟩ h

/-- The element whose form is bound. -/
def Operation.form? : Operation → Option NodeId
  | .bindForm r => some r
  | _ => none

/-- The element whose guard is bound. -/
def Operation.guard? : Operation → Option NodeId
  | .bindGuard r => some r
  | _ => none

/-- A binding of a flagged element that could be made alone. -/
def Feasible (d : Document) (top : NodeId) : Operation → Prop
  | .bindForm r => flagged d top r = true ∧ takesForm d r = true
  | .bindGuard r => flagged d top r = true ∧ takesGuard d r = true
  | _ => False

section

variable {home : NodeId → Option NodeId} {distance : NodeId → NodeId} {heads : NodeId → Bool}

/-- A guard that could be bound alone after the form could be bound alone without it, too. -/
theorem exists_planGuard_of_takesGuard (h : takesGuard d r = true) :
    ∃ latch, planGuard d r = .ok latch := by
  have hafter := isOk_bindGuard_iff.mp h
  by_cases hplan : ∃ plan, Plans d r plan
  · obtain ⟨plan, hplan⟩ := hplan
    exact Plans.exists_planGuard (s := { document := d }) hplan hafter
  · rwa [site_bindForm_of_not (s := { document := d }) hplan] at hafter

private theorem exists_planGuard_alone (h : takesGuard d r = true) :
    ∃ latch, planGuard (alone d s r).document r = .ok latch := by
  rw [alone]
  split
  · exact isOk_bindGuard_iff.mp h
  · exact exists_planGuard_of_takesGuard h

/-- Feasible bindings can be made in any order. -/
theorem Composed.operateAll (h₀ : SharedOut (flagged d top) d)
    (h : Composed (flagged d top) d s home distance) (ops : List Operation)
    (hops : ∀ op ∈ ops, Feasible d top op)
    (hforms : (s.formRoots ++ ops.filterMap Operation.form?).Nodup)
    (hguards : (s.guardRoots ++ ops.filterMap Operation.guard?).Nodup) :
    (s.operateAll ops).formRoots = s.formRoots ++ ops.filterMap Operation.form? ∧
      (s.operateAll ops).guardRoots = s.guardRoots ++ ops.filterMap Operation.guard? ∧
      ∃ home' distance', Composed (flagged d top) d (s.operateAll ops) home' distance' := by
  -- what has been bound so far and what is still to come are kept free of duplicates, so that the
  -- next operation finds its element as it was in the beginning
  induction ops generalizing s home distance with
  | nil => exact ⟨(List.append_nil _).symm, (List.append_nil _).symm, home, distance, h⟩
  | cons op ops ih =>
    obtain ⟨hop, hrest⟩ := List.forall_mem_cons.mp hops
    cases op with
    | bindForm r =>
      obtain ⟨hr, htakes⟩ := hop
      obtain ⟨plan, hplan⟩ := isOk_bindForm_iff.mp htakes
      rw [List.filterMap_cons_some (show Operation.form? (.bindForm r) = some r from rfl)]
        at hforms ⊢
      rw [List.filterMap_cons_none (show Operation.guard? (.bindForm r) = none from rfl)]
        at hguards ⊢
      have hnew : r ∉ s.formRoots := fun hmem ↦
        (List.nodup_append.mp hforms).2.2 r hmem r List.mem_cons_self rfl
      have hplan' := (h.plans_iff h₀ hr hnew).mpr hplan
      have hnext := ih (h.bindForm h₀ hr hnew hplan) hrest
        (by rwa [hplan'.formRoots_bindForm, List.append_assoc])
        (by rwa [hplan'.guardRoots_bindForm])
      rwa [hplan'.formRoots_bindForm, hplan'.guardRoots_bindForm, List.append_assoc] at hnext
    | bindGuard r =>
      obtain ⟨hr, htakes⟩ := hop
      rw [List.filterMap_cons_none (show Operation.form? (.bindGuard r) = none from rfl)]
        at hforms ⊢
      rw [List.filterMap_cons_some (show Operation.guard? (.bindGuard r) = some r from rfl)]
        at hguards ⊢
      have hnew : r ∉ s.guardRoots := fun hmem ↦
        (List.nodup_append.mp hguards).2.2 r hmem r List.mem_cons_self rfl
      obtain ⟨latch, hplan⟩ :=
        (h.exists_planGuard_iff_alone h₀ hr hnew).mpr (exists_planGuard_alone htakes)
      obtain ⟨-, hroots, hroots'⟩ := bindGuard_eq hplan
      have hnext := ih (h.bindGuard h₀ hr hplan) hrest (by rwa [hroots])
        (by rwa [hroots', List.append_assoc])
      rwa [hroots, hroots', List.append_assoc] at hnext
    | _ => exact hop.elim

end

/-! ## The whole page -/

/-- The elements whose forms are bound for a page, in document order. -/
def boundForms (d : Document) (top : NodeId) : List NodeId :=
  (waiting d top tableAttribute formMarker).filter (takesForm d)

/-- The elements whose guards are bound for a page, in document order. -/
def boundGuards (d : Document) (top : NodeId) : List NodeId :=
  (waiting d top guardAttribute guardMarker).filter (takesGuard d)

/-- The bindings that are made for a page, in the order in which they are made. -/
def bindings (d : Document) (top : NodeId) : List Operation :=
  (boundForms d top).map .bindForm ++ (boundGuards d top).map .bindGuard

section

variable {home : NodeId → Option NodeId} {distance : NodeId → NodeId}
  (h₀ : SharedOut (flagged d top) d) (h : Composed (flagged d top) d s home distance)
include h₀ h

private theorem Composed.bindEach_bindForm (widget : String) (ws : List NodeId)
    (hws : ∀ r ∈ ws, flagged d top r = true) (hnodup : (s.formRoots ++ ws).Nodup) :
    (bindEach widget Site.bindForm s ws).site =
      s.operateAll ((ws.filter (takesForm d)).map .bindForm) := by
  induction ws generalizing s home distance with
  | nil => rfl
  | cons r ws ih =>
    obtain ⟨hr, hrest⟩ := List.forall_mem_cons.mp hws
    have hnew : r ∉ s.formRoots := fun hmem ↦
      (List.nodup_append.mp hnodup).2.2 r hmem r List.mem_cons_self rfl
    by_cases htakes : takesForm d r = true
    · obtain ⟨plan, hplan⟩ := isOk_bindForm_iff.mp htakes
      have hroots := ((h.plans_iff h₀ hr hnew).mpr hplan).formRoots_bindForm
      rw [List.filter_cons_of_pos htakes]
      exact ih (h.bindForm h₀ hr hnew hplan) hrest (by rwa [hroots, List.append_assoc])
    · -- a form that can not be bound alone can not be bound now
      have hnot : ¬ ∃ plan, Plans s.document r plan := by
        rintro ⟨plan, hplan⟩
        exact htakes (isOk_bindForm_iff.mpr ⟨plan, (h.plans_iff h₀ hr hnew).mp hplan⟩)
      rw [List.filter_cons_of_neg htakes, bindEach, site_bindForm_of_not hnot]
      exact ih h hrest (hnodup.sublist ((List.sublist_cons_self r ws).append_left _))

private theorem Composed.bindEach_bindGuard (widget : String) (ws : List NodeId)
    (hws : ∀ r ∈ ws, flagged d top r = true) (hnodup : (s.guardRoots ++ ws).Nodup)
    (halone : ∀ r ∈ ws, alone d s r = (Site.bindForm { document := d } r).site) :
    (bindEach widget Site.bindGuard s ws).site =
      s.operateAll ((ws.filter (takesGuard d)).map .bindGuard) := by
  induction ws generalizing s home distance with
  | nil => rfl
  | cons r ws ih =>
    obtain ⟨hr, hrest⟩ := List.forall_mem_cons.mp hws
    have hnew : r ∉ s.guardRoots := fun hmem ↦
      (List.nodup_append.mp hnodup).2.2 r hmem r List.mem_cons_self rfl
    have hiff : (∃ latch, planGuard s.document r = .ok latch) ↔ takesGuard d r = true := by
      rw [h.exists_planGuard_iff_alone h₀ hr hnew, halone r List.mem_cons_self]
      exact isOk_bindGuard_iff.symm
    have haloneRest := fun b hb ↦ halone b (List.mem_cons_of_mem r hb)
    by_cases htakes : takesGuard d r = true
    · obtain ⟨latch, hplan⟩ := hiff.mpr htakes
      obtain ⟨-, hforms, hguards⟩ := bindGuard_eq hplan
      rw [List.filter_cons_of_pos htakes]
      refine ih (h.bindGuard h₀ hr hplan) hrest (by rwa [hguards, List.append_assoc]) ?_
      intro b hb
      rw [alone, hforms]
      exact haloneRest b hb
    · rw [List.filter_cons_of_neg htakes, bindEach, site_bindGuard_of_not (mt hiff.mp htakes)]
      exact ih h hrest (hnodup.sublist ((List.sublist_cons_self r ws).append_left _)) haloneRest

end

/-- What is bound one after the other is what is reported, and nothing else is bound. -/
theorem ids_bindEach {α : Type} {bind : Site → NodeId → Reply (Except BindError BindingId)}
    (ids : Site → List BindingId) (rest : Site → α)
    (hok : ∀ s r id, (bind s r).answer = .ok id →
      ids (bind s r).site = ids s ++ [id] ∧ rest (bind s r).site = rest s)
    (herror : ∀ s r e, (bind s r).answer = .error e → (bind s r).site = s)
    (widget : String) (s : Site) (ws : List NodeId) :
    ids (bindEach widget bind s ws).site = ids s ++ (bindEach widget bind s ws).answer ∧
      rest (bindEach widget bind s ws).site = rest s := by
  induction ws generalizing s with
  | nil => exact ⟨(List.append_nil _).symm, rfl⟩
  | cons r ws ih =>
    obtain ⟨hids, hrest⟩ := ih (bind s r).site
    cases hanswer : (bind s r).answer with
    | error e =>
      have hsite := herror s r e hanswer
      rw [hsite] at hids hrest
      rw [bindEach, hanswer, hsite]
      exact ⟨hids, hrest⟩
    | ok id =>
      obtain ⟨hnew, hkept⟩ := hok s r id hanswer
      rw [hnew, List.append_assoc] at hids
      rw [bindEach, hanswer]
      exact ⟨hids, hrest.trans hkept⟩

private theorem ids_bindForm {id : BindingId} (h : (s.bindForm r).answer = .ok id) :
    (s.bindForm r).site.forms.map (·.id) = s.forms.map (·.id) ++ [id] ∧
      (s.bindForm r).site.guards = s.guards := by
  obtain ⟨plan, hplan, rfl⟩ := bindForm_answer_iff.mp h
  refine ⟨?_, by rw [bindForm_eq hplan]; rfl⟩
  rw [hplan.opened.1, List.map_append]
  rfl

private theorem ids_bindGuard {id : BindingId} (h : (s.bindGuard r).answer = .ok id) :
    (s.bindGuard r).site.guards.map (·.id) = s.guards.map (·.id) ++ [id] ∧
      (s.bindGuard r).site.forms = s.forms := by
  cases hplan : planGuard s.document r with
  | error e =>
    rw [bindGuard, hplan] at h
    cases h
  | ok latch =>
    rw [bindGuard, hplan] at h ⊢
    cases h
    exact ⟨List.map_append, rfl⟩

theorem ids_bindPage (s : Site) (top : NodeId) : ∃ fs gs,
    (bindPage s (some top)).answer = .ok ⟨fs, gs⟩ ∧
      (bindPage s (some top)).site.forms.map (·.id) = s.forms.map (·.id) ++ fs ∧
      (bindPage s (some top)).site.guards.map (·.id) = s.guards.map (·.id) ++ gs := by
  have hform : ∀ s r e, (bindForm s r).answer = .error e → (bindForm s r).site = s :=
    fun s r e he ↦ site_bindForm_of_not (mt isOk_bindForm_iff.mpr (he ▸ nofun))
  have hguard : ∀ s r e, (bindGuard s r).answer = .error e → (bindGuard s r).site = s :=
    fun s r e he ↦ site_bindGuard_of_not (mt isOk_bindGuard_iff.mpr (he ▸ nofun))
  obtain ⟨hforms, hkept⟩ := ids_bindEach (·.forms.map (·.id)) Site.guards
    (fun _ _ _ ↦ ids_bindForm) hform "permission request form" s
    (waiting s.document top tableAttribute formMarker)
  obtain ⟨hguards, hkept'⟩ := ids_bindEach (·.guards.map (·.id)) Site.forms
    (fun _ _ _ ↦ ids_bindGuard) hguard "single submit form"
    (bindEach "permission request form" bindForm s
      (waiting s.document top tableAttribute formMarker)).site
    (waiting (bindEach "permission request form" bindForm s
      (waiting s.document top tableAttribute formMarker)).site.document top
      guardAttribute guardMarker)
  refine ⟨_, _, rfl, ?_, ?_⟩
  · rw [← hforms]
    exact congrArg _ hkept'
  · rw [← hkept]
    exact hguards

/-- What is known of the outcome of binding a page. -/
structure Outcome (d : Document) (top : NodeId) (s : Site) : Prop where
  /-- The bindings are made one at a time. -/
  site : s = operateAll { document := d } (bindings d top)
  /-- The forms that could be bound alone are bound. -/
  forms : s.formRoots = boundForms d top
  /-- The guards that could be bound alone after the forms are bound. -/
  guards : s.guardRoots = boundGuards d top
  /-- The page is composed of its parts. -/
  composed : ∃ home distance, Composed (flagged d top) d s home distance
  /-- It still has what the page says. -/
  opened : OpenedWith d s

private theorem filterMap_form?_map_bindForm (rs : List NodeId) :
    (rs.map Operation.bindForm).filterMap Operation.form? = rs := by
  rw [List.filterMap_map]
  exact List.filterMap_some

private theorem filterMap_form?_map_bindGuard (rs : List NodeId) :
    (rs.map Operation.bindGuard).filterMap Operation.form? = [] := by
  rw [List.filterMap_map, List.filterMap_eq_nil_iff]
  exact fun _ _ ↦ rfl

private theorem filterMap_guard?_map_bindForm (rs : List NodeId) :
    (rs.map Operation.bindForm).filterMap Operation.guard? = [] := by
  rw [List.filterMap_map, List.filterMap_eq_nil_iff]
  exact fun _ _ ↦ rfl

private theorem filterMap_guard?_map_bindGuard (rs : List NodeId) :
    (rs.map Operation.bindGuard).filterMap Operation.guard? = rs := by
  rw [List.filterMap_map]
  exact List.filterMap_some

theorem filterMap_form?_bindings (d : Document) (top : NodeId) :
    (bindings d top).filterMap Operation.form? = boundForms d top := by
  rw [bindings, List.filterMap_append, filterMap_form?_map_bindForm,
    filterMap_form?_map_bindGuard, List.append_nil]

theorem filterMap_guard?_bindings (d : Document) (top : NodeId) :
    (bindings d top).filterMap Operation.guard? = boundGuards d top := by
  rw [bindings, List.filterMap_append, filterMap_guard?_map_bindForm,
    filterMap_guard?_map_bindGuard, List.nil_append]

theorem feasible_of_mem_bindings {op : Operation} (h : op ∈ bindings d top) :
    Feasible d top op := by
  rcases List.mem_append.mp h with h | h
  · obtain ⟨r, hr, rfl⟩ := List.mem_map.mp h
    obtain ⟨hwaiting, htakes⟩ := List.mem_filter.mp hr
    exact ⟨flagged_of_mem_waiting (.inl rfl) hwaiting, htakes⟩
  · obtain ⟨r, hr, rfl⟩ := List.mem_map.mp h
    obtain ⟨hwaiting, htakes⟩ := List.mem_filter.mp hr
    exact ⟨flagged_of_mem_waiting (.inr rfl) hwaiting, htakes⟩

theorem mem_boundForms_iff (hr : flagged d top r = true) :
    r ∈ boundForms d top ↔ ∃ plan, Plans d r plan := by
  rw [boundForms, List.mem_filter]
  refine ⟨fun h ↦ isOk_bindForm_iff.mp h.2, fun ⟨plan, hplan⟩ ↦ ?_⟩
  refine ⟨?_, isOk_bindForm_iff.mpr ⟨plan, hplan⟩⟩
  have hroot := hplan.isSome_root
  have htable := Plans.enters (s := { document := d }) hplan |>.table rfl
  rw [flagged, Bool.and_eq_true] at hr
  rw [Document.element?, Option.isSome_map] at hroot
  obtain ⟨n, hn⟩ := Option.isSome_iff_exists.mp hroot
  have helement : d.element? r = some n.element := by rw [Document.element?, hn]; rfl
  refine mem_waiting.mpr ⟨n, Document.mem_of_find? hn, Document.id_of_find? hn, hr.1, ?_, ?_⟩
  · have hsome : (d.attribute? r tableAttribute).isSome = true := htable
    rwa [Document.attribute?, helement] at hsome
  · have hunmarked := hplan.unmarked
    rwa [rootElement, helement] at hunmarked

/-- When the forms of a page are bound, what was done to an element alone is what binding its form
alone does to it, whether that succeeds or not. -/
theorem alone_eq (hr : flagged d top r = true) (hforms : s.formRoots = boundForms d top) :
    alone d s r = (bindForm { document := d } r).site := by
  rw [alone, hforms]
  split
  · rfl
  · next hnot =>
    exact (site_bindForm_of_not (s := { document := d }) (mt (mem_boundForms_iff hr).mpr hnot)).symm

private theorem openedWith_operateAll (d : Document) (ops : List Operation) :
    OpenedWith d (operateAll { document := d } ops) :=
  ((kept_openedWith d).operateAll ops (orderly_open d) ⟨.refl d, fun _ _ _ _ ↦ rfl⟩).2

section

variable {ops : List Operation}

theorem mem_filterMap_form? : r ∈ ops.filterMap Operation.form? ↔ .bindForm r ∈ ops := by
  rw [List.mem_filterMap]
  constructor
  · rintro ⟨op, hop, hform⟩
    cases op with
    | bindForm r' => exact Option.some.inj hform ▸ hop
    | _ => cases hform
  · exact fun hop ↦ ⟨_, hop, rfl⟩

theorem mem_filterMap_guard? : r ∈ ops.filterMap Operation.guard? ↔ .bindGuard r ∈ ops := by
  rw [List.mem_filterMap]
  constructor
  · rintro ⟨op, hop, hguard⟩
    cases op with
    | bindGuard r' => exact Option.some.inj hguard ▸ hop
    | _ => cases hguard
  · exact fun hop ↦ ⟨_, hop, rfl⟩

theorem nodup_bindings (d : Document) (top : NodeId) : (bindings d top).Nodup := by
  refine List.nodup_append.mpr ⟨?_, ?_, ?_⟩
  · exact ((nodup_waiting _ _ _ _).filter _).map fun _ _ heq ↦ Operation.bindForm.inj heq
  · exact ((nodup_waiting _ _ _ _).filter _).map fun _ _ heq ↦ Operation.bindGuard.inj heq
  · rintro op hform op' hguard rfl
    obtain ⟨r, -, rfl⟩ := List.mem_map.mp hform
    obtain ⟨r', -, heq⟩ := List.mem_map.mp hguard
    cases heq

/-- When its flagged elements are apart, any of the bindings for a page can be made in any order. -/
theorem Apart.operateAll (h : Apart d top) (hops : ∀ op ∈ ops, op ∈ bindings d top)
    (hnodup : ops.Nodup) :
    (Site.operateAll { document := d } ops).formRoots = ops.filterMap Operation.form? ∧
      (Site.operateAll { document := d } ops).guardRoots = ops.filterMap Operation.guard? ∧
      ∃ home distance, Composed (flagged d top) d (Site.operateAll { document := d } ops)
        home distance := by
  refine (composed_open h.sharedOut).operateAll h.sharedOut ops
    (fun op hop ↦ feasible_of_mem_bindings (hops op hop)) ?_ ?_
  · refine hnodup.filterMap fun op op' r hop hop' ↦ ?_
    cases op <;> cases hop
    cases op' <;> cases hop'
    rfl
  · refine hnodup.filterMap fun op op' r hop hop' ↦ ?_
    cases op <;> cases hop
    cases op' <;> cases hop'
    rfl

end

/-- When its flagged elements are apart, binding a page comes down to the bindings that could be
made alone. -/
theorem Apart.bindPage_eq (h : Apart d top) :
    (bindPage { document := d } top).site = Site.operateAll { document := d } (bindings d top) := by
  have h₀ := h.sharedOut
  have hforms := (composed_open h₀).bindEach_bindForm h₀ "permission request form"
    (waiting d top tableAttribute formMarker)
    (fun r hr ↦ flagged_of_mem_waiting (.inl rfl) hr) (nodup_waiting _ _ _ _)
  obtain ⟨hroots, hnone, home, distance, hcomposed⟩ := h.operateAll
    (fun op hop ↦ List.mem_append_left _ hop) (List.nodup_append.mp (nodup_bindings d top)).1
  have hopened := openedWith_operateAll d ((boundForms d top).map .bindForm)
  rw [filterMap_form?_map_bindForm] at hroots
  rw [filterMap_guard?_map_bindForm] at hnone
  -- no guard is bound yet, so those that wait are those that waited in the beginning
  have hwaiting := hcomposed.waiting_guards h₀ hopened
  simp only [hnone, List.not_mem_nil, not_false_eq_true, decide_true, List.filter_true] at hwaiting
  have hguards := hcomposed.bindEach_bindGuard h₀ "single submit form"
    (waiting d top guardAttribute guardMarker)
    (fun r hr ↦ flagged_of_mem_waiting (.inr rfl) hr)
    (by rw [hnone]; exact nodup_waiting _ _ _ _)
    (fun r hr ↦ alone_eq (flagged_of_mem_waiting (.inr rfl) hr) hroots)
  rw [bindings, operateAll_append, bindPage]
  rw [boundForms] at hwaiting hguards
  rw [hforms, hwaiting, hguards]
  rfl

/-- The outcome of binding a page in which flagged elements are apart. -/
theorem Apart.outcome (h : Apart d top) :
    Outcome d top (bindPage { document := d } top).site := by
  obtain ⟨hforms, hguards, hcomposed⟩ := h.operateAll (fun _ hop ↦ hop) (nodup_bindings d top)
  rw [filterMap_form?_bindings] at hforms
  rw [filterMap_guard?_bindings] at hguards
  rw [h.bindPage_eq]
  exact {
    site := rfl
    forms := hforms
    guards := hguards
    composed := hcomposed
    opened := openedWith_operateAll d _ }

end Site

end AccessForm
