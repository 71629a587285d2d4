import AccessForm.Proofs.Evolution
import AccessForm.Proofs.Panel

/-!
# Portraits

What a field of a document shows, as the state of a control in memory. A dropdown of a document is
made of nodes, and how one of them is selected depends on all of them; its portrait is a list of
values and the selected one. The lemmas of this module say what each write to a document does to the
portraits of all its elements: to the one that is written to it does what the write to a control in
memory does, and to no other one anything (`Repaints`).

The two kinds of dropdowns differ in one point. When an option is added, a dropdown of a document
that has no selection selects its first option, and one in memory does so only if it has no option
yet. The difference shows only where a selection was taken away and no options with it. A dropdown
that is refilled from scratch always has its first option selected (`repaints_refill`).
-/

namespace AccessForm

/-! ## Portraits of elements -/

namespace Element

/-- Whether the element is shown. -/
def isShown (e : Element) : Bool := e.display != some "none"

/-- The state of an element as a control. A dropdown offers values, of which the first chosen one is
its own. -/
def portrait (e : Element) (offers : List (String × Bool)) : Control where
  value :=
    if e.kind.isTyped then e.typedText
    else if e.kind = .dropdown then ((offers.find? (·.2)).map (·.1)).getD "" else ""
  name := e.attributeText "name"
  required := e.hasAttribute "required"
  disabled := e.hasAttribute "disabled"
  visible := e.isShown
  options := if e.kind = .dropdown then offers.map (·.1) else []

/-- A change of an element that leaves it what it is: its kind, and its part in a dropdown if it is
an option. -/
structure Calm (g : Element → Element) : Prop where
  /-- The tag stays. -/
  tag (e : Element) : (g e).tag = e.tag
  /-- The value as an option stays. -/
  optionValue (e : Element) : (g e).optionValue = e.optionValue
  /-- The selection stays. -/
  chosen (e : Element) : (g e).chosen = e.chosen

theorem Calm.kind {g : Element → Element} (h : Calm g) (e : Element) : (g e).kind = e.kind := by
  rw [Element.kind, Element.kind, h.tag]

theorem calm_setAttribute {name : String} (h : name ≠ "value") (v : String) :
    Calm (·.setAttribute name v) where
  tag _ := rfl
  optionValue e := by rw [optionValue, attribute?_setAttribute, if_neg h.symm]; rfl
  chosen _ := rfl

theorem calm_toggleAttribute {name : String} (h : name ≠ "value") (b : Bool) :
    Calm (·.toggleAttribute name b) where
  tag e := tag_toggleAttribute e name b
  optionValue e := by
    have hlabel : (e.toggleAttribute name b).label = e.label := by
      rw [toggleAttribute]
      split
      · split <;> rfl
      · rfl
    rw [optionValue, attribute?_toggleAttribute_of_ne h.symm, hlabel]
    rfl
  chosen e := by
    rw [toggleAttribute]
    split
    · split <;> rfl
    · rfl

theorem calm_addClass (token : String) : Calm (·.addClass token) :=
  ⟨fun _ ↦ rfl, fun e ↦ (calm_setAttribute (by decide) _).optionValue e, fun _ ↦ rfl⟩

theorem calm_setShown (b : Bool) : Calm (·.setShown b) := ⟨fun _ ↦ rfl, fun _ ↦ rfl, fun _ ↦ rfl⟩

theorem calm_enter (v : String) : Calm ({ · with entered := some v }) :=
  ⟨fun _ ↦ rfl, fun _ ↦ rfl, fun _ ↦ rfl⟩

private theorem optionValue_newOption (v : String) : (newOption v).optionValue = v := by
  rw [optionValue, newOption, attribute?, Directory.find?_insert, if_pos rfl]
  rfl

/-! ### What writes to an element show -/

theorem isShown_setShown (e : Element) (b : Bool) : (e.setShown b).isShown = b := by
  cases b <;> rfl

theorem isShown_toggleAttribute (e : Element) (name : String) (b : Bool) :
    (e.toggleAttribute name b).isShown = e.isShown := by
  rw [toggleAttribute]
  split
  · split <;> rfl
  · rfl

private theorem typedText_toggleAttribute {name : String} (h : name ≠ "value") (e : Element)
    (b : Bool) : (e.toggleAttribute name b).typedText = e.typedText := by
  have hentered : (e.toggleAttribute name b).entered = e.entered := by
    rw [toggleAttribute]
    split
    · split <;> rfl
    · rfl
  rw [typedText, typedText, hentered, attributeText, attribute?_toggleAttribute_of_ne h.symm]
  rfl

theorem portrait_setShown (e : Element) (b : Bool) (offers : List (String × Bool)) :
    (e.setShown b).portrait offers = { e.portrait offers with visible := b } := by
  rw [portrait, isShown_setShown]
  rfl

theorem portrait_setName (e : Element) (n : String) (offers : List (String × Bool)) :
    (e.setAttribute "name" n).portrait offers = { e.portrait offers with name := n } := by
  have hvalue : (e.setAttribute "name" n).typedText = e.typedText := by
    rw [typedText, typedText, attributeText, attribute?_setAttribute, if_neg (by decide)]
    rfl
  have hother : ∀ a, a ≠ "name" → (e.setAttribute "name" n).hasAttribute a = e.hasAttribute a := by
    intro a ha
    rw [hasAttribute, attribute?_setAttribute, if_neg ha]
    rfl
  have hname : (e.setAttribute "name" n).attributeText "name" = n := by
    rw [attributeText, attribute?_setAttribute, if_pos rfl]
    rfl
  rw [portrait, hvalue, hname, hother _ (by decide), hother _ (by decide)]
  rfl

/-- What a flag does to a portrait: it is raised or lowered, whichever it is. -/
theorem portrait_toggleAttribute {name : String} (hvalue : name ≠ "value") (hname : name ≠ "name")
    (e : Element) (b : Bool) (offers : List (String × Bool)) :
    (e.toggleAttribute name b).portrait offers =
      { e.portrait offers with
        required := if "required" = name then b else e.hasAttribute "required"
        disabled := if "disabled" = name then b else e.hasAttribute "disabled" } := by
  have hflag : ∀ a, (e.toggleAttribute name b).hasAttribute a =
      if a = name then b else e.hasAttribute a := by
    intro a
    split
    · next ha =>
      subst ha
      exact hasAttribute_toggleAttribute e a b
    · next ha => rw [hasAttribute, attribute?_toggleAttribute_of_ne ha, hasAttribute]
  have hkind := (calm_toggleAttribute hvalue b).kind e
  rw [portrait, hkind, typedText_toggleAttribute hvalue, isShown_toggleAttribute, hflag, hflag,
    attributeText, attribute?_toggleAttribute_of_ne hname.symm]
  rfl

private theorem portrait_enter {e : Element} (h : e.kind.isTyped = true) (v : String)
    (offers : List (String × Bool)) :
    ({ e with entered := some v } : Element).portrait offers =
      { e.portrait offers with value := v } := by
  have hkind : ({ e with entered := some v } : Element).kind = e.kind := rfl
  have htext : ({ e with entered := some v } : Element).typedText = v := rfl
  rw [portrait, hkind, htext, if_pos h]
  rfl

end Element

/-! ## Portraits of documents -/

namespace Document

variable {d d' d'' : Document}

/-- What a dropdown offers: the values of its options, and which of them are chosen. -/
def offers (d : Document) (k : NodeId) : List (String × Bool) :=
  (d.options k).map fun n ↦ (n.element.optionValue, n.element.chosen)

/-- The state of an element as a control. -/
def portrait (d : Document) (k : NodeId) : Control :=
  ((d.element? k).map (·.portrait (d.offers k))).getD {}

/-- Whether an element is shown. -/
def isShown (d : Document) (i : NodeId) : Bool := ((d.element? i).map (·.isShown)).getD true

theorem portrait_of_some {k : NodeId} {e : Element} (h : d.element? k = some e) :
    d.portrait k = e.portrait (d.offers k) := by
  rw [portrait, h]
  rfl

theorem exists_of_kind_ne {k : NodeId} (h : d.kind k ≠ .plain) :
    ∃ e, d.element? k = some e ∧ e.kind = d.kind k := by
  rw [kind] at h ⊢
  cases he : d.element? k with
  | none =>
    rw [he] at h
    exact absurd rfl h
  | some e => exact ⟨e, rfl, by simp⟩

theorem lt_next_of_dropdown {k : NodeId} (h : d.kind k = .dropdown) : k < d.next := by
  obtain ⟨e, he, -⟩ := exists_of_kind_ne (d := d) (k := k) (by rw [h]; decide)
  exact lt_next_of_isSome (by rw [he]; rfl)

theorem value_portrait (d : Document) (k : NodeId) : (d.portrait k).value = d.value k := by
  rw [value, portrait]
  cases d.element? k with
  | none => rfl
  | some e =>
    simp only [Option.map_some, Option.getD_some, Element.portrait, offers, List.find?_map,
      Option.map_map]
    rfl

theorem options_portrait {k : NodeId} (h : d.kind k = .dropdown) :
    (d.portrait k).options = (d.options k).map (·.element.optionValue) := by
  obtain ⟨e, he, hkind⟩ := exists_of_kind_ne (d := d) (k := k) (by rw [h]; decide)
  rw [portrait_of_some he, Element.portrait, offers, List.map_map]
  exact if_pos (hkind.trans h)

/-- A write that is seen in one portrait, where it does what is said. -/
structure Repaints (d d' : Document) (k : NodeId) (F : Control → Control) : Prop where
  /-- Every element is still there and of its kind. -/
  kept (j : NodeId) (e : Element) : d.element? j = some e →
    ∃ e', d'.element? j = some e' ∧ e'.kind = e.kind
  /-- The portrait is changed. -/
  self : d'.portrait k = F (d.portrait k)
  /-- All others are as they were. -/
  other (j : NodeId) : j ≠ k → (d.element? j).isSome = true → d'.portrait j = d.portrait j
  /-- So is what else is shown. -/
  shown (i : NodeId) : i ≠ k → (d.element? i).isSome = true → d'.isShown i = d.isShown i

namespace Repaints

variable {k : NodeId} {F G : Control → Control}

private theorem isSome (h : Repaints d d' k F) {j : NodeId} (hj : (d.element? j).isSome = true) :
    (d'.element? j).isSome = true := by
  obtain ⟨e, he⟩ := Option.isSome_iff_exists.mp hj
  obtain ⟨e', he', -⟩ := h.kept j e he
  rw [he']
  rfl

private theorem kind (h : Repaints d d' k F) {j : NodeId} (hj : (d.element? j).isSome = true) :
    d'.kind j = d.kind j := by
  obtain ⟨e, he⟩ := Option.isSome_iff_exists.mp hj
  obtain ⟨e', he', hkind⟩ := h.kept j e he
  rw [Document.kind, Document.kind, he, he']
  exact hkind

private theorem refl (d : Document) (k : NodeId) : Repaints d d k id :=
  ⟨fun _ e he ↦ ⟨e, he, rfl⟩, rfl, fun _ _ _ ↦ rfl, fun _ _ _ ↦ rfl⟩

private theorem trans (h : Repaints d d' k F) (h' : Repaints d' d'' k G) :
    Repaints d d'' k (G ∘ F) where
  kept j e he := by
    obtain ⟨e', he', hkind⟩ := h.kept j e he
    obtain ⟨e'', he'', hkind'⟩ := h'.kept j e' he'
    exact ⟨e'', he'', hkind'.trans hkind⟩
  self := by rw [h'.self, h.self, Function.comp_apply]
  other j hj hsome := by rw [h'.other j hj (h.isSome hsome), h.other j hj hsome]
  shown i hi hsome := by rw [h'.shown i hi (h.isSome hsome), h.shown i hi hsome]

theorem congr (h : Repaints d d' k F) (hFG : G (d.portrait k) = F (d.portrait k)) :
    Repaints d d' k G :=
  ⟨h.kept, h.self.trans hFG.symm, h.other, h.shown⟩

end Repaints

/-! ### Changes of one element -/

theorem options_mapElements {f : Node → Element}
    (hkind : ∀ n ∈ d.nodes, (f n).kind = n.element.kind) (k : NodeId) :
    (d.mapElements f).options k = (d.options k).map fun n ↦ { n with element := f n } := by
  rw [options, mapElements, List.filter_map, options]
  refine congrArg _ (List.filter_congr fun n hn ↦ ?_)
  rw [Function.comp_apply, isOptionOf, isOptionOf, hkind n hn]

private theorem offers_mapElements {f : Node → Element} {k : NodeId}
    (hkind : ∀ n ∈ d.nodes, (f n).kind = n.element.kind)
    (hkept : ∀ n ∈ d.options k, (f n).optionValue = n.element.optionValue ∧
      (f n).chosen = n.element.chosen) : (d.mapElements f).offers k = d.offers k := by
  rw [offers, options_mapElements hkind, List.map_map, offers]
  refine List.map_congr_left fun n hn ↦ ?_
  rw [Function.comp_apply, (hkept n hn).1, (hkept n hn).2]

section Modify

variable {g : Element → Element} (hg : Element.Calm g)
include hg

theorem offers_modify (j k : NodeId) : (d.modify j g).offers k = d.offers k := by
  refine offers_mapElements (fun n _ ↦ ?_) fun n _ ↦ ?_
  · split
    · exact hg.kind _
    · rfl
  · split
    · exact ⟨hg.optionValue _, hg.chosen _⟩
    · exact ⟨rfl, rfl⟩

theorem portrait_modify_of_ne {j k : NodeId} (h : k ≠ j) :
    (d.modify j g).portrait k = d.portrait k := by
  rw [portrait, offers_modify hg, element?_modify, if_neg h, portrait]

private theorem portrait_modify_self {k : NodeId} {e : Element} (he : d.element? k = some e) :
    (d.modify k g).portrait k = (g e).portrait (d.offers k) := by
  rw [portrait, offers_modify hg, element?_modify, if_pos rfl, he]
  rfl

theorem kept_modify (i j : NodeId) (e : Element) (he : d.element? j = some e) :
    ∃ e', (d.modify i g).element? j = some e' ∧ e'.kind = e.kind := by
  rw [element?_modify, he]
  split
  · exact ⟨g e, rfl, hg.kind e⟩
  · exact ⟨e, rfl, rfl⟩

theorem repaints_modify {k : NodeId} {e : Element} {F : Control → Control}
    (he : d.element? k = some e)
    (hF : (g e).portrait (d.offers k) = F (e.portrait (d.offers k))) :
    Repaints d (d.modify k g) k F where
  kept := kept_modify hg k
  self := by rw [portrait_modify_self hg he, hF, portrait_of_some he]
  other j hj _ := portrait_modify_of_ne hg hj
  shown i hi _ := by rw [isShown, element?_modify, if_neg hi, isShown]

end Modify

theorem isShown_modify (d : Document) (g : Element → Element) (i j : NodeId) :
    (d.modify i g).isShown j =
      if j = i then ((d.element? j).map fun e ↦ (g e).isShown).getD true else d.isShown j := by
  rw [isShown, element?_modify]
  split
  · rw [Option.map_map]
    rfl
  · rfl

/-! ### Changes of a selection -/

theorem element?_mark (d : Document) (k : NodeId) (option : Option Node) (j : NodeId) :
    ∃ m : Element → Bool, (d.mark k option).element? j =
      (d.element? j).map fun e ↦ { e with chosen := m e } := by
  rw [mark, element?, element?, find?_mapElements]
  cases d.find? j with
  | none => exact ⟨fun _ ↦ false, rfl⟩
  | some n =>
    by_cases hn : isOptionOf k n
    · exact ⟨fun _ ↦ some n.id == option.map (·.id), by simp [hn]⟩
    · exact ⟨(·.chosen), by simp [hn]⟩

theorem kind_mark_element (k : NodeId) (option : Option Node) (n : Node) :
    (if isOptionOf k n then { n.element with chosen := some n.id == option.map (·.id) }
      else n.element : Element).kind = n.element.kind := by
  split <;> rfl

theorem offers_mark_of_ne {j k : NodeId} (h : j ≠ k) (d : Document) (option : Option Node) :
    (d.mark k option).offers j = d.offers j := by
  refine offers_mapElements (fun n _ ↦ kind_mark_element k option n) fun n hn ↦ ?_
  -- an option of one dropdown is none of another
  have hnot : isOptionOf k n = false := by
    have hparent := (Bool.and_eq_true_iff.mp (List.mem_filter.mp hn).2).1
    rw [isOptionOf, beq_iff_eq.mp hparent]
    simp [h]
  rw [if_neg (by simp [hnot])]
  exact ⟨rfl, rfl⟩

theorem offers_mark (d : Document) (k : NodeId) (option : Option Node) :
    (d.mark k option).offers k = (d.options k).map fun n ↦
      (n.element.optionValue, some n.id == option.map (·.id)) := by
  rw [mark, offers, options_mapElements fun n _ ↦ kind_mark_element k option n, List.map_map]
  refine List.map_congr_left fun n hn ↦ ?_
  rw [Function.comp_apply, if_pos (List.mem_filter.mp hn).2]
  rfl

/-- A selection is seen in no portrait but that of its dropdown. -/
theorem portrait_mark_of_ne {j k : NodeId} (h : j ≠ k) (d : Document) (option : Option Node) :
    (d.mark k option).portrait j = d.portrait j := by
  obtain ⟨m, hm⟩ := d.element?_mark k option j
  rw [portrait, hm, offers_mark_of_ne h, Option.map_map]
  rfl

private theorem isShown_mark (d : Document) (k : NodeId) (option : Option Node) (i : NodeId) :
    (d.mark k option).isShown i = d.isShown i := by
  obtain ⟨m, hm⟩ := d.element?_mark k option i
  rw [isShown, hm, Option.map_map]
  rfl

/-- An option of a dropdown is selected and no other one, or there is none to select. -/
def Steady (d : Document) (k : NodeId) : Prop :=
  d.options k = [] ∨ ((d.options k).filter (·.element.chosen)).length = 1

instance (d : Document) (k : NodeId) : Decidable (d.Steady k) :=
  inferInstanceAs (Decidable (_ ∨ _))

private theorem Steady.offers_mark {k : NodeId} (h : d.Steady k) :
    (d.mark k (d.favourite? k)).offers k = d.offers k := by
  rw [Document.offers_mark, offers, favourite?]
  rcases h with hnil | hone
  · rw [hnil]
    rfl
  · obtain ⟨n, hn⟩ := List.length_eq_one_iff.mp hone
    have hmem : n ∈ d.options k ∧ n.element.chosen = true :=
      List.mem_filter.mp (hn ▸ List.mem_singleton.mpr rfl)
    rw [hn]
    refine List.map_congr_left fun m hm ↦ Prod.ext rfl ?_
    show (some m.id == some n.id) = m.element.chosen
    cases hchosen : m.element.chosen with
    | true =>
      have hsame : m ∈ [n] := hn ▸ List.mem_filter.mpr ⟨hm, hchosen⟩
      rw [List.mem_singleton.mp hsame]
      exact beq_self_eq_true _
    | false =>
      refine beq_eq_false_iff_ne.mpr fun heq ↦ ?_
      have hsame := eq_of_id (List.mem_filter.mp hm).1 (List.mem_filter.mp hmem.1).1
        (Option.some.inj heq)
      rw [hsame, hmem.2] at hchosen
      cases hchosen

/-- When the children of a node have changed, no other element is affected. Neither is the node
itself if it is no dropdown, or a steady one. -/
theorem portrait_settle {j k : NodeId} (h : d.kind j = .dropdown → j = k → d.Steady k) :
    (d.settle k).portrait j = d.portrait j := by
  rw [settle]
  split
  · next hk =>
    by_cases hjk : j = k
    · subst hjk
      obtain ⟨m, hm⟩ := d.element?_mark j (d.favourite? j) j
      rw [portrait, hm, (h hk rfl).offers_mark, Option.map_map]
      rfl
    · exact portrait_mark_of_ne hjk d _
  · rfl

theorem isShown_settle (d : Document) (k i : NodeId) :
    (d.settle k).isShown i = d.isShown i := by
  rw [settle]
  split
  · exact isShown_mark d k _ i
  · rfl

theorem repaints_mark {k : NodeId} {option : Option Node} {e : Element} {F : Control → Control}
    (he : d.element? k = some e)
    (hF : e.portrait ((d.mark k option).offers k) = F (e.portrait (d.offers k))) :
    Repaints d (d.mark k option) k F where
  kept j e he := by
    obtain ⟨m, hm⟩ := d.element?_mark k option j
    rw [hm, he]
    exact ⟨_, rfl, rfl⟩
  self := by
    obtain ⟨m, hm⟩ := d.element?_mark k option k
    rw [portrait, hm, he, portrait_of_some he, ← hF]
    rfl
  other j hj _ := portrait_mark_of_ne hj d option
  shown i _ _ := isShown_mark d k option i

private theorem id_ne_of_mem_options {k : NodeId} {n : Node} {ns ms : List Node}
    (h : d.options k = ns ++ n :: ms) : (∀ m ∈ ns, m.id ≠ n.id) ∧ ∀ m ∈ ms, m.id ≠ n.id := by
  have hdistinct : (ns ++ n :: ms).Pairwise (·.id ≠ ·.id) := h ▸ d.distinct.filter _
  obtain ⟨-, htail, hcross⟩ := List.pairwise_append.mp hdistinct
  refine ⟨fun m hm ↦ hcross m hm n List.mem_cons_self, fun m hm ↦ ?_⟩
  exact ((List.pairwise_cons.mp htail).1 m hm).symm

/-- A value that is chosen is the value if it is offered, and otherwise there is none. -/
theorem find?_offers_choose (d : Document) (k : NodeId) (v : String) :
    ((((d.choose k v).offers k).find? (·.2)).map (·.1)).getD "" =
      if v ∈ (d.offers k).map (·.1) then v else "" := by
  have hvalues : (d.offers k).map (·.1) = (d.options k).map (·.element.optionValue) := by
    rw [offers, List.map_map]
    rfl
  rw [choose, offers_mark, hvalues, List.find?_map, Option.map_map]
  cases hfound : (d.options k).find? (·.element.optionValue == v) with
  | none =>
    have hnot : v ∉ (d.options k).map (·.element.optionValue) := by
      intro hmem
      obtain ⟨n, hn, hvalue⟩ := List.mem_map.mp hmem
      have hne := List.find?_eq_none.mp hfound n hn
      exact hne (beq_iff_eq.mpr hvalue)
    have hnone : (d.options k).find? ((·.2) ∘ fun n ↦
        (n.element.optionValue, some n.id == (none : Option Node).map (·.id))) = none :=
      List.find?_eq_none.mpr fun n _ ↦ by simp
    rw [if_neg hnot, hnone]
    rfl
  | some n =>
    obtain ⟨hvalue, before, after, heq, -⟩ := List.find?_eq_some_iff_append.mp hfound
    have hvalue : n.element.optionValue = v := beq_iff_eq.mp hvalue
    have hmem : v ∈ (d.options k).map (·.element.optionValue) := by
      rw [heq, ← hvalue]
      exact List.mem_map_of_mem (List.mem_append_right _ List.mem_cons_self)
    have hfirst : (d.options k).find? ((·.2) ∘ fun m ↦
        (m.element.optionValue, some m.id == (some n).map (·.id))) = some n := by
      rw [heq, List.find?_append, List.find?_eq_none.mpr, Option.none_or,
        List.find?_cons_of_pos (by simp)]
      intro m hm
      simpa using (id_ne_of_mem_options heq).1 m hm
    rw [if_pos hmem, hfirst]
    exact hvalue

theorem repaints_setValue_typed {k : NodeId} (h : (d.kind k).isTyped = true) (v : String) :
    Repaints d (d.setValue k v) k (·.enter v) := by
  obtain ⟨e, he, hkind⟩ : ∃ e, d.element? k = some e ∧ e.kind = d.kind k :=
    exists_of_kind_ne fun hplain ↦ by rw [hplain] at h; cases h
  rw [setValue, if_pos h]
  exact repaints_modify (Element.calm_enter v) he (Element.portrait_enter (hkind ▸ h) v _)

theorem repaints_setValue_dropdown {k : NodeId} (h : d.kind k = .dropdown) (v : String) :
    Repaints d (d.setValue k v) k (·.choose v) := by
  obtain ⟨e, he, hkind⟩ := exists_of_kind_ne (d := d) (k := k) (by rw [h]; decide)
  rw [setValue, if_neg (by rw [h]; decide), if_pos h]
  refine repaints_mark he ?_
  have hdropdown : e.kind = .dropdown := hkind.trans h
  have hvalues : ((d.choose k v).offers k).map (·.1) = (d.offers k).map (·.1) := by
    rw [choose, offers_mark, offers, List.map_map, List.map_map]
    rfl
  have hvalue := d.find?_offers_choose k v
  rw [choose] at hvalues hvalue
  simp only [Element.portrait, hdropdown, ElementKind.isTyped, Bool.false_eq_true, if_false,
    if_true, hvalue, hvalues, Control.choose]

/-! ### Refilling -/

theorem element?_detach (d : Document) (out : Node → Bool) (j : NodeId) :
    (d.detach out).element? j = d.element? j := by
  have hid : ((fun n : Node ↦ n.id == j) ∘ fun n : Node ↦
      if out n then { n with parent := none } else n) = fun n ↦ n.id == j := by
    funext n
    rw [Function.comp_apply]
    split <;> rfl
  rw [element?, find?, detach, List.find?_map, hid, Option.map_map, element?, find?]
  refine congrArg (Option.map · _) (funext fun n ↦ ?_)
  rw [Function.comp_apply]
  split <;> rfl

private theorem offers_detach_self (d : Document) (k : NodeId) :
    (d.detach (isOptionOf k)).offers k = [] := by
  refine List.map_eq_nil_iff.mpr (List.filter_eq_nil_iff.mpr fun n hn ↦ ?_)
  obtain ⟨m, -, rfl⟩ := List.mem_map.mp hn
  by_cases hm : isOptionOf k m
  · rw [if_pos hm]
    simp [isOptionOf]
  · rwa [if_neg hm]

theorem offers_detach_of_ne {j k : NodeId} (h : j ≠ k) (d : Document) :
    (d.detach (isOptionOf k)).offers j = d.offers j := by
  have hsame : (isOptionOf j ∘ fun n : Node ↦
      if isOptionOf k n then { n with parent := none } else n) = isOptionOf j := by
    funext n
    rw [Function.comp_apply]
    split
    · next hn =>
      have hparent : n.parent = some k := beq_iff_eq.mp (Bool.and_eq_true_iff.mp hn).1
      simp [isOptionOf, hparent, h.symm]
    · rfl
  rw [offers, options, detach, List.filter_map, List.map_map, hsame, offers, options]
  refine List.map_congr_left fun n _ ↦ ?_
  rw [Function.comp_apply]
  split <;> rfl

private theorem repaints_clear (d : Document) (k : NodeId) (h : d.kind k = .dropdown) :
    Repaints d (d.detach (isOptionOf k)) k Control.clear := by
  obtain ⟨e, he, hkind⟩ := exists_of_kind_ne (d := d) (k := k) (by rw [h]; decide)
  refine ⟨fun j e he ↦ ⟨e, by rw [element?_detach, he], rfl⟩, ?_, fun j hj _ ↦ ?_, fun i _ _ ↦ ?_⟩
  · have hdropdown : e.kind = .dropdown := hkind.trans h
    rw [portrait, element?_detach, he, offers_detach_self, portrait_of_some he]
    simp [Element.portrait, hdropdown, ElementKind.isTyped, Control.clear]
  · rw [portrait, element?_detach, offers_detach_of_ne hj, portrait]
  · rw [isShown, element?_detach, isShown]

private theorem filter_insertBehindLast_concat {new : Node} {p q : Node → Bool} {ns : List Node}
    (hnew : q new = true) (h : ∀ n ∈ ns, q n = true → p n = true) :
    (insertBehindLast new p ns).filter q = ns.filter q ++ [new] := by
  induction ns with
  | nil => simp [insertBehindLast, hnew]
  | cons n ns ih =>
    obtain ⟨hn, hns⟩ := List.forall_mem_cons.mp h
    rw [insertBehindLast]
    split
    · next hlast =>
      -- behind the last node of the kind there is none of the part
      have hnone : ns.filter q = [] := by
        refine List.filter_eq_nil_iff.mpr fun m hm hq ↦ ?_
        have hany := (Bool.and_eq_true_iff.mp hlast).2
        rw [Bool.not_eq_true', List.any_eq_false] at hany
        exact hany m hm (hns m hm hq)
      simp [List.filter_cons, hnone, hnew]
      split <;> rfl
    · rw [List.filter_cons, List.filter_cons, ih hns]
      split <;> rfl

section Insert

variable {k : NodeId} {e : Element}

private theorem options_appendChild_self (hk : (d.find? k).isSome = true) (he : e.kind = .option) :
    (d.appendChild k e).options k = d.options k ++ [⟨d.next, some k, e⟩] := by
  obtain ⟨n, hn⟩ := Option.isSome_iff_exists.mp hk
  have hlt : k < d.next := lt_next_of_find? hn
  rw [appendChild, options, insert, dif_pos hlt]
  refine filter_insertBehindLast_concat (by simp [isOptionOf, he]) fun m hm hopt ↦ ?_
  have hparent : m.parent = some k := beq_iff_eq.mp (Bool.and_eq_true_iff.mp hopt).1
  rw [List.contains_iff_mem]
  refine mem_lineage_iff.mpr ⟨m, find?_of_mem hm, .inr ⟨k, hparent, ?_⟩⟩
  exact mem_lineage_iff.mpr ⟨n, hn, .inl rfl⟩

theorem options_insert_of_ne {j parent : NodeId} (h : j ≠ parent) (behind : NodeId) :
    (d.insert parent behind e).options j = d.options j := by
  rw [insert]
  split
  · exact filter_insertBehindLast (by simp [isOptionOf, h.symm]) _ _
  · rfl

theorem options_insert_of_kind {j : NodeId} (h : e.kind ≠ .option) (parent behind : NodeId) :
    (d.insert parent behind e).options j = d.options j := by
  rw [insert]
  split
  · exact filter_insertBehindLast (by simp [isOptionOf, h]) _ _
  · rfl

theorem element?_insert_of_lt {j : NodeId} (h : j < d.next) (parent behind : NodeId) :
    (d.insert parent behind e).element? j = d.element? j := by
  rw [element?, find?_insert_of_lt h, element?]

theorem portrait_insert {j : NodeId} (h : j < d.next) (he : e.kind ≠ .option)
    (parent behind : NodeId) : (d.insert parent behind e).portrait j = d.portrait j := by
  rw [portrait, element?_insert_of_lt h, offers, options_insert_of_kind he, ← offers, portrait]

end Insert

theorem kind_of_element? {d d' : Document} {k : NodeId} (h : d'.element? k = d.element? k) :
    d'.kind k = d.kind k := by
  rw [kind, h, kind]

/-- The first option of a dropdown is its only selected one, if it has options. -/
def Led (d : Document) (k : NodeId) : Prop :=
  ∀ o os, d.offers k = o :: os → o.2 = true ∧ ∀ p ∈ os, p.2 = false

private theorem find?_of_led {k : NodeId} (h : d.Led k) :
    (((d.offers k).find? (·.2)).map (·.1)).getD "" = ((d.offers k).map (·.1)).headD "" := by
  cases ho : d.offers k with
  | nil => rfl
  | cons o os =>
    rw [List.find?_cons_of_pos (h o os ho).1]
    rfl

private theorem Led.of_options {k : NodeId} (h : d.Led k) {n : Node} {ns : List Node}
    (ho : d.options k = n :: ns) :
    n.element.chosen = true ∧ ∀ m ∈ ns, m.element.chosen = false := by
  have hoffers : d.offers k = (n.element.optionValue, n.element.chosen) ::
      ns.map fun m ↦ (m.element.optionValue, m.element.chosen) := by
    rw [offers, ho]
    rfl
  obtain ⟨hn, hns⟩ := h _ _ hoffers
  exact ⟨hn, fun m hm ↦ hns _ (List.mem_map_of_mem hm)⟩

/-- The option that is selected when a dropdown gets one more: the first of all. -/
theorem favourite?_of_led {k : NodeId} {new : Node} (hled : d.Led k)
    (hoptions : d'.options k = d.options k ++ [new]) (hnew : new.element.chosen = false) :
    d'.favourite? k = (d.options k ++ [new]).head? := by
  rw [favourite?, hoptions]
  cases ho : d.options k with
  | nil => simp [hnew]
  | cons n ns =>
    obtain ⟨hn, hns⟩ := hled.of_options ho
    have hnone : ns.filter (·.element.chosen) = [] :=
      List.filter_eq_nil_iff.mpr fun m hm ↦ by simp [hns m hm]
    simp [hn, hnone, hnew]

/-- A dropdown whose first option is selected, and one without options, gets a further option and
has its first option selected. -/
theorem offers_addChild {k : NodeId} (hkind : d.kind k = .dropdown) (hled : d.Led k) (v : String) :
    (d.addChild k (.newOption v)).offers k = d.offers k ++ [(v, (d.offers k).isEmpty)] := by
  obtain ⟨e, he, -⟩ := exists_of_kind_ne (d := d) (k := k) (by rw [hkind]; decide)
  have hsome : (d.find? k).isSome = true := by
    rw [← Option.isSome_map, ← element?, he]
    rfl
  obtain ⟨n, hn⟩ := Option.isSome_iff_exists.mp hsome
  have hoptions := options_appendChild_self (e := .newOption v) hsome rfl
  have hkind' : (d.appendChild k (.newOption v)).kind k = .dropdown :=
    (kind_of_element? (element?_insert_of_lt (lt_next_of_find? hn) k k)).trans hkind
  rw [addChild, settle, if_pos hkind', offers_mark, favourite?_of_led hled hoptions rfl, hoptions]
  have hvalue := Element.optionValue_newOption v
  cases ho : d.options k with
  | nil => simp [offers, ho, hvalue]
  | cons m ms =>
    obtain ⟨hm, hms⟩ := hled.of_options ho
    rw [ho] at hoptions
    have happend : (d.appendChild k (.newOption v)).options k =
        [] ++ m :: (ms ++ [⟨d.next, some k, .newOption v⟩]) := hoptions
    have hids := (id_ne_of_mem_options happend).2
    have hrest : ∀ x ∈ ms, (x.id == m.id) = x.element.chosen := by
      intro x hx
      rw [hms x hx]
      simpa using hids x (List.mem_append_left _ hx)
    have hlast : d.next ≠ m.id := hids ⟨d.next, some k, .newOption v⟩ (by simp)
    simp [offers, ho, hvalue, hm, hlast]
    exact hrest

private theorem led_addChild {k : NodeId} (hkind : d.kind k = .dropdown) (hled : d.Led k)
    (v : String) : (d.addChild k (.newOption v)).Led k := by
  intro o os heq
  rw [offers_addChild hkind hled] at heq
  cases ho : d.offers k with
  | nil =>
    rw [ho] at heq
    cases heq
    exact ⟨rfl, by simp⟩
  | cons o' os' =>
    rw [ho] at heq
    obtain ⟨rfl, rfl⟩ := List.cons_eq_cons.mp heq
    obtain ⟨hfirst, hothers⟩ := hled _ _ ho
    exact ⟨hfirst, List.forall_mem_append.mpr ⟨hothers, by simp⟩⟩

private theorem repaints_appendChild {k : NodeId} (hkind : d.kind k = .dropdown) (v : String) :
    Repaints d (d.appendChild k (.newOption v)) k
      fun c ↦ { c with options := c.options ++ [v] } := by
  obtain ⟨e, he, hdropdown⟩ := exists_of_kind_ne (d := d) (k := k) (by rw [hkind]; decide)
  replace hdropdown : e.kind = .dropdown := hdropdown.trans hkind
  have hold : ∀ {j}, (d.element? j).isSome = true →
      (d.appendChild k (.newOption v)).element? j = d.element? j := fun hj ↦
    element?_insert_of_lt (lt_next_of_isSome hj) k k
  refine ⟨fun j e' he' ↦ ⟨e', ?_, rfl⟩, ?_, fun j hj hsome ↦ ?_, fun i _ hsome ↦ ?_⟩
  · rw [hold (by rw [he']; rfl), he']
  · have hsome : (d.find? k).isSome = true := by
      rw [← Option.isSome_map, ← element?, he]
      rfl
    have hoffers : (d.appendChild k (.newOption v)).offers k = d.offers k ++ [(v, false)] := by
      rw [offers, options_appendChild_self hsome rfl, List.map_append, List.map_singleton,
        Element.optionValue_newOption]
      rfl
    rw [portrait_of_some ((hold (by rw [he]; rfl)).trans he), hoffers, portrait_of_some he]
    simp [Element.portrait, hdropdown, ElementKind.isTyped, List.find?_append]
  · rw [portrait, hold hsome, offers, appendChild, options_insert_of_ne hj, ← offers, portrait]
  · rw [isShown, hold hsome, isShown]

/-- A further option is selected if it is the first one. -/
theorem repaints_addChild {k : NodeId} (hkind : d.kind k = .dropdown) (hled : d.Led k)
    (v : String) : Repaints d (d.addChild k (.newOption v)) k (·.append v) := by
  obtain ⟨e, he, hdropdown⟩ := exists_of_kind_ne (d := d) (k := k) (by rw [hkind]; decide)
  replace hdropdown : e.kind = .dropdown := hdropdown.trans hkind
  have hinsert := repaints_appendChild hkind v
  obtain ⟨e', he', hkind'⟩ := hinsert.kept k e he
  have hsame : e' = e := by
    have hlt : k < d.next := lt_next_of_isSome (by rw [he]; rfl)
    rw [appendChild, element?_insert_of_lt hlt, he] at he'
    exact (Option.some.inj he').symm
  subst hsame
  have hoffers := offers_addChild hkind hled v
  have hsettle : d.addChild k (.newOption v) = (d.appendChild k (.newOption v)).mark k
      ((d.appendChild k (.newOption v)).favourite? k) := by
    rw [addChild, settle, if_pos]
    rw [hinsert.kind (by rw [he]; rfl), hkind]
  rw [hsettle] at hoffers ⊢
  refine (hinsert.trans (repaints_mark he' (F := fun _ ↦ _) rfl)).congr ?_
  rw [Function.comp_apply, hoffers, portrait_of_some he]
  have hvalue := find?_of_led hled
  simp only [Element.portrait, Control.append, hdropdown, ElementKind.isTyped, Bool.false_eq_true,
    if_false, if_true, hvalue, List.find?_append, List.map_append]
  cases ho : d.offers k with
  | nil => rfl
  | cons o os => simp [(hled o os ho).1]

/-- A dropdown that gets new options holds the first of them, as one in memory does. -/
theorem repaints_refill {k : NodeId} (hkind : d.kind k = .dropdown) (vs : List String) :
    Repaints d (vs.foldl (fun d v ↦ d.addChild k (.newOption v)) (d.detach (isOptionOf k))) k
      fun c ↦ vs.foldl Control.append c.clear := by
  have hclear := repaints_clear d k hkind
  have hled : (d.detach (isOptionOf k)).Led k := by
    intro o os heq
    rw [offers_detach_self] at heq
    cases heq
  have hkind' : (d.detach (isOptionOf k)).kind k = .dropdown :=
    (kind_of_element? (element?_detach d _ k)).trans hkind
  generalize d.detach (isOptionOf k) = d' at hclear hled hkind'
  suffices h : Repaints d' (vs.foldl (fun d v ↦ d.addChild k (.newOption v)) d') k
      fun c ↦ vs.foldl Control.append c from hclear.trans h
  clear hclear
  induction vs generalizing d' with
  | nil => exact .refl d' k
  | cons v vs ih =>
    have hfirst := repaints_addChild hkind' hled v
    obtain ⟨e, he, -⟩ := exists_of_kind_ne (d := d') (k := k) (by rw [hkind']; decide)
    have hsome : (d'.element? k).isSome = true := by
      rw [he]
      rfl
    exact hfirst.trans (ih _ (led_addChild hkind' hled v) ((hfirst.kind hsome).trans hkind'))

end Document

end AccessForm
