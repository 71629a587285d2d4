import AccessForm.Proofs.Mirror
import AccessForm.Proofs.Missing
import AccessForm.Proofs.Portrait

/-!
# Selections that do not show

A dropdown may offer a value more than once, and then its value does not tell which of its options
is selected. A user who chooses the value selects the first of them; a controller that publishes the
value leaves a copy alone that has it already. The two documents are the same but for the selection
in one dropdown (`SameBut`), and when the dropdown has the same value in both, they look the same
(`Alike`).

A controller reads values and never the selection itself, and most of what it writes ignores the
selection in a given copy (`Ignores`). So from documents that look the same it goes on to documents
that look the same (`accord_alike`), and it makes no difference whether a permission is chosen in a
copy of the selector or selected from outside (`matches_choose`).
-/

namespace AccessForm

/-! ## Elements without their selection -/

/-- A change of an element that has nothing to do with its selection. -/
structure Element.Aloof (g : Element → Element) : Prop extends Calm g where
  /-- It does the same to the element with another selection. -/
  comm (e : Element) (b : Bool) : g { e with chosen := b } = { g e with chosen := b }

namespace Element

private theorem aloof_setAttribute {name : String} (h : name ≠ "value") (v : String) :
    Aloof (·.setAttribute name v) := ⟨calm_setAttribute h v, fun _ _ ↦ rfl⟩

private theorem aloof_toggleAttribute {name : String} (h : name ≠ "value") (present : Bool) :
    Aloof (·.toggleAttribute name present) where
  toCalm := calm_toggleAttribute h present
  comm e b := by
    have hsame : ({ e with chosen := b } : Element).hasAttribute name = e.hasAttribute name := rfl
    rw [toggleAttribute, toggleAttribute, hsame]
    split
    · split
      · rfl
      · rfl
    · rfl

private theorem aloof_setShown (shown : Bool) : Aloof (·.setShown shown) :=
  ⟨calm_setShown shown, fun _ _ ↦ rfl⟩

private theorem aloof_enter (v : String) : Aloof ({ · with entered := some v }) :=
  ⟨calm_enter v, fun _ _ ↦ rfl⟩

end Element

/-- A node that is not selected in a dropdown. -/
def Node.deselected (k : NodeId) (n : Node) : Node :=
  if Document.isOptionOf k n then { n with element := { n.element with chosen := false } } else n

namespace Node

variable {k : NodeId} {n : Node}

@[simp] theorem id_deselected (k : NodeId) (n : Node) : (n.deselected k).id = n.id := by
  rw [deselected]
  split <;> rfl

@[simp] theorem isOptionOf_deselected (k j : NodeId) (n : Node) :
    Document.isOptionOf j (n.deselected k) = Document.isOptionOf j n := by
  rw [deselected]
  split <;> rfl

private theorem deselected_of_not (h : Document.isOptionOf k n = false) : n.deselected k = n := by
  rw [deselected, if_neg (by simp [h])]

private theorem isOptionOf_eq_false_of_ne {j : NodeId} (h : j ≠ k)
    (hn : Document.isOptionOf j n = true) : Document.isOptionOf k n = false := by
  have hparent : n.parent = some j := beq_iff_eq.mp (Bool.and_eq_true_iff.mp hn).1
  simp [Document.isOptionOf, hparent, h]

end Node

namespace Document

variable {d d' d'' : Document} {j k : NodeId}

private theorem eq_of_nodes (hnodes : d'.nodes = d.nodes) (hnext : d'.next = d.next) : d' = d := by
  cases d
  cases d'
  cases hnodes
  cases hnext
  rfl

/-- The document without a selection in a dropdown. -/
def deselect (d : Document) (k : NodeId) : Document := d.mark k none

private theorem nodes_deselect (d : Document) (k : NodeId) :
    (d.deselect k).nodes = d.nodes.map (·.deselected k) := by
  rw [deselect, mark, mapElements]
  refine List.map_congr_left fun n _ ↦ ?_
  rw [Node.deselected]
  split <;> rfl

private theorem lineage_deselect (d : Document) (k id : NodeId) :
    (d.deselect k).lineage id = d.lineage id := d.lineage_mapElements _ id

private theorem map_element?_deselect {α : Type} {read : Element → α}
    (hread : ∀ e b, read { e with chosen := b } = read e) (d : Document) (k j : NodeId) :
    ((d.deselect k).element? j).map read = (d.element? j).map read := by
  obtain ⟨m, hm⟩ := d.element?_mark k none j
  rw [deselect, hm, Option.map_map]
  exact congrArg (Option.map · _) (funext fun e ↦ hread e _)

private theorem kind_deselect (d : Document) (k j : NodeId) : (d.deselect k).kind j = d.kind j := by
  rw [kind, map_element?_deselect fun _ _ ↦ rfl, kind]

private theorem options_deselect_of_ne (h : j ≠ k) (d : Document) :
    (d.deselect k).options j = d.options j := by
  rw [options, nodes_deselect, List.filter_map, options]
  have hcomp : isOptionOf j ∘ (·.deselected k) = isOptionOf j :=
    funext fun n ↦ Node.isOptionOf_deselected k j n
  rw [hcomp, List.map_congr_left fun n hn ↦ ?_, List.map_id']
  exact Node.deselected_of_not (Node.isOptionOf_eq_false_of_ne h (List.mem_filter.mp hn).2)

/-- What is done to each node by itself can be done without the selection as well. -/
theorem deselect_map {F F' : Node → Node} (hnodes : d'.nodes = d.nodes.map F)
    (hnodes' : d''.nodes = (d.deselect k).nodes.map F') (hnext : d'.next = d.next)
    (hnext' : d''.next = d.next)
    (h : ∀ n ∈ d.nodes, (F n).deselected k = F' (n.deselected k)) : d'.deselect k = d'' := by
  refine eq_of_nodes ?_ (hnext.trans hnext'.symm)
  rw [nodes_deselect, hnodes, hnodes', nodes_deselect, List.map_map, List.map_map]
  exact List.map_congr_left h

/-! ## Changes that ignore a selection -/

/-- A change of documents that neither looks at the selection in a dropdown nor touches it. -/
structure Ignores (k : NodeId) (op : Document → Document) : Prop where
  /-- It does the same to the document without the selection. -/
  deselect (d : Document) : (op d).deselect k = op (d.deselect k)
  /-- The dropdown offers the same. -/
  offers (d : Document) : (op d).offers k = d.offers k
  /-- It is still a dropdown. -/
  kind (d : Document) : d.kind k = .dropdown → (op d).kind k = .dropdown

namespace Ignores

variable {op op' : Document → Document}

private theorem id : Ignores k fun d ↦ d := ⟨fun _ ↦ rfl, fun _ ↦ rfl, fun _ hd ↦ hd⟩

private theorem comp (h : Ignores k op) (h' : Ignores k op') : Ignores k (op' ∘ op) where
  deselect d := by rw [Function.comp_apply, h'.deselect, h.deselect, Function.comp_apply]
  offers d := by rw [Function.comp_apply, h'.offers, h.offers]
  kind d hd := h'.kind _ (h.kind d hd)

private theorem foldl {α : Type} {op : Document → α → Document} (h : ∀ a, Ignores k (op · a))
    (as : List α) : Ignores k (as.foldl op ·) := by
  induction as with
  | nil => exact id
  | cons a as ih => exact (h a).comp ih

private theorem modify {g : Element → Element} (hg : Element.Aloof g) (j : NodeId) :
    Ignores k (·.modify j g) where
  deselect d := by
    refine deselect_map rfl rfl rfl rfl fun n _ ↦ ?_
    dsimp only
    rw [Node.id_deselected, Node.deselected, Node.deselected]
    have hoption : ∀ e : Element, e.kind = n.element.kind →
        isOptionOf k { n with element := e } = isOptionOf k n := fun e he ↦ by
      rw [isOptionOf, isOptionOf, he]
    by_cases hj : n.id = j
    · rw [if_pos hj, if_pos hj, hoption _ (hg.kind _)]
      split
      · exact congrArg (Node.mk n.id n.parent) (hg.comm n.element false).symm
      · rfl
    · rw [if_neg hj, if_neg hj]
      split
      · rfl
      · rfl
  offers d := offers_modify hg.toCalm j k
  kind d hd := by
    obtain ⟨e, he, hkind⟩ := exists_of_kind_ne (d := d) (k := k) (by rw [hd]; decide)
    obtain ⟨e', he', hkind'⟩ := kept_modify hg.toCalm j k e he
    rw [Document.kind, he']
    exact (hkind'.trans hkind).trans hd

private theorem mark (h : j ≠ k) (f : Document → Option Node) (hf : ∀ d, f (d.deselect k) = f d) :
    Ignores k fun d ↦ d.mark j (f d) where
  deselect d := by
    refine deselect_map rfl rfl rfl rfl fun n _ ↦ ?_
    dsimp only
    rw [hf, Node.isOptionOf_deselected, Node.id_deselected]
    by_cases hn : isOptionOf j n = true
    · have hnot := Node.isOptionOf_eq_false_of_ne h hn
      rw [if_pos hn, if_pos hn, Node.deselected_of_not hnot]
      exact Node.deselected_of_not hnot
    · rw [if_neg hn, if_neg hn, Node.deselected]
      split
      · rfl
      · rfl
  offers d := offers_mark_of_ne h.symm d (f d)
  kind d hd := by
    obtain ⟨m, hm⟩ := d.element?_mark j (f d) k
    rw [Document.kind, hm, Option.map_map]
    exact hd

/-- Kinds of elements do not depend on a selection, and so one may ask for them first. -/
theorem ite (p : ElementKind → Prop) [DecidablePred p] (j : NodeId) (h : Ignores k op)
    (h' : Ignores k op') : Ignores k fun d ↦ if p (d.kind j) then op d else op' d where
  deselect d := by
    rw [kind_deselect]
    split
    · exact h.deselect d
    · exact h'.deselect d
  offers d := by
    split
    · exact h.offers d
    · exact h'.offers d
  kind d hd := by
    split
    · exact h.kind d hd
    · exact h'.kind d hd

private theorem settle (h : j ≠ k) : Ignores k (·.settle j) := by
  have hfavourite : ∀ d : Document, (d.deselect k).favourite? j = d.favourite? j := fun d ↦ by
    rw [favourite?, favourite?, options_deselect_of_ne h]
  exact ite (· = .dropdown) j (mark h (·.favourite? j) hfavourite) id

private theorem setValue (h : j ≠ k) (v : String) : Ignores k (·.setValue j v) := by
  have hchoose : Ignores k (·.choose j v) := mark h _ fun d ↦ by rw [options_deselect_of_ne h]
  exact ite (·.isTyped) j (modify (Element.aloof_enter v) j) (ite (· = .dropdown) j hchoose id)

private theorem clearOptions (h : j ≠ k) : Ignores k (·.detach (isOptionOf j)) where
  deselect d := by
    refine deselect_map rfl rfl rfl rfl fun n _ ↦ ?_
    rw [Node.isOptionOf_deselected]
    by_cases hn : isOptionOf j n = true
    · rw [if_pos hn, if_pos hn, Node.deselected_of_not (Node.isOptionOf_eq_false_of_ne h hn)]
      exact Node.deselected_of_not rfl
    · rw [if_neg hn, if_neg hn]
  offers d := offers_detach_of_ne h.symm d
  kind d hd := (kind_of_element? (element?_detach d _ k)).trans hd

private theorem appendChild (h : j ≠ k) (e : Element) : Ignores k (·.appendChild j e) where
  deselect d := by
    rw [Document.appendChild, Document.appendChild]
    by_cases hlt : j < d.next
    · rw [insert, dif_pos hlt, insert, dif_pos (show j < (d.deselect k).next from hlt)]
      refine eq_of_nodes ?_ rfl
      have hnew : Node.deselected k ⟨d.next, some j, e⟩ = ⟨d.next, some j, e⟩ :=
        Node.deselected_of_not (by simp [isOptionOf, h])
      rw [nodes_deselect]
      dsimp only
      rw [map_insertBehindLast (q := fun n ↦ ((d.deselect k).lineage n.id).contains j)
        fun n _ ↦ by rw [Node.id_deselected, lineage_deselect], hnew, nodes_deselect]
      rfl
    · rw [insert, dif_neg hlt, insert, dif_neg (show ¬ j < (d.deselect k).next from hlt)]
  offers d := by
    rw [Document.offers, Document.appendChild, options_insert_of_ne h.symm, ← Document.offers]
  kind d hd :=
    (kind_of_element? (element?_insert_of_lt (lt_next_of_dropdown hd) j j)).trans hd

private theorem refill (h : j ≠ k) (vs : List String) :
    Ignores k fun d ↦ vs.foldl (fun d v ↦ d.addChild j (.newOption v)) (d.detach (isOptionOf j)) :=
  (clearOptions h).comp (foldl (fun v ↦ (appendChild h (.newOption v)).comp (settle h)) vs)

end Ignores

/-! ## Documents that look the same -/

/-- Two documents that are the same but for the selection in a dropdown. -/
structure SameBut (k : NodeId) (d d' : Document) : Prop where
  /-- It is a dropdown. -/
  kind : d.kind k = .dropdown
  /-- The rest is the same. -/
  rest : d'.deselect k = d.deselect k

/-- Two such documents in which the dropdown has the same value. -/
structure Alike (k : NodeId) (d d' : Document) : Prop extends SameBut k d d' where
  /-- The value is the same. -/
  value : d'.value k = d.value k

namespace SameBut

variable (h : SameBut k d d')
include h

private theorem map_element?_eq {α : Type} {read : Element → α}
    (hread : ∀ e b, read { e with chosen := b } = read e) (j : NodeId) :
    (d'.element? j).map read = (d.element? j).map read := by
  rw [← map_element?_deselect hread d' k, h.rest, map_element?_deselect hread]

private theorem kind_eq (j : NodeId) : d'.kind j = d.kind j := by
  rw [Document.kind, h.map_element?_eq fun _ _ ↦ rfl, Document.kind]

theorem lineage_eq (id : NodeId) : d'.lineage id = d.lineage id := by
  rw [← lineage_deselect d' k, h.rest, lineage_deselect]

private theorem map {op : Document → Document} (hop : Ignores k op) : SameBut k (op d) (op d') :=
  ⟨hop.kind d h.kind, by rw [hop.deselect, hop.deselect, h.rest]⟩

private theorem portrait_of_ne (hj : j ≠ k) : d'.portrait j = d.portrait j := by
  rw [← portrait_mark_of_ne hj d' none, ← deselect, h.rest, deselect, portrait_mark_of_ne hj]

private theorem options_eq (j : NodeId) : Surface.options d' j = Surface.options d j := by
  have hvalues : ∀ d : Document, Surface.options (d.deselect k) j = Surface.options d j := by
    intro d
    show ((d.deselect k).options j).map (·.element.optionValue) = _
    rw [deselect, Document.mark, options_mapElements fun n _ ↦ kind_mark_element k none n,
      List.map_map]
    refine List.map_congr_left fun n _ ↦ ?_
    rw [Function.comp_apply]
    split
    · rfl
    · rfl
  rw [← hvalues d', h.rest, hvalues]

end SameBut

/-! ### Values -/

theorem Alike.value_eq (h : Alike k d d') (j : NodeId) : d'.value j = d.value j := by
  by_cases hj : j = k
  · rw [hj]
    exact h.value
  · rw [← value_portrait, h.portrait_of_ne hj, value_portrait]

private theorem value_of_dropdown (h : d.kind k = .dropdown) :
    d.value k = (((d.offers k).find? (·.2)).map (·.1)).getD "" := by
  obtain ⟨e, he, hkind⟩ := exists_of_kind_ne (d := d) (k := k) (by rw [h]; decide)
  rw [← value_portrait, portrait_of_some he, Element.portrait, hkind, h]
  rfl

private theorem coherent_portrait (h : d.kind k = .dropdown) : (d.portrait k).Coherent := by
  rw [Control.Coherent, value_portrait, value_of_dropdown h, options_portrait h]
  cases hfound : (d.offers k).find? (·.2) with
  | none => exact .inl rfl
  | some o =>
    have hmem := List.mem_map_of_mem (f := (·.1)) (List.mem_of_find?_eq_some hfound)
    rw [offers, List.map_map] at hmem
    exact .inr hmem

private theorem Alike.map {op : Document → Document} (h : Alike k d d') (hop : Ignores k op) :
    Alike k (op d) (op d') where
  toSameBut := h.toSameBut.map hop
  value := by
    have hkind' : d'.kind k = .dropdown := (h.kind_eq k).trans h.kind
    rw [value_of_dropdown (hop.kind d' hkind'), hop.offers, ← value_of_dropdown hkind', h.value,
      value_of_dropdown h.kind, ← hop.offers, ← value_of_dropdown (hop.kind d h.kind)]

private theorem portrait_deselect (h : d.kind k = .dropdown) :
    (d.deselect k).portrait k = { d.portrait k with value := "" } := by
  obtain ⟨e, he, hkind⟩ := exists_of_kind_ne (d := d) (k := k) (by rw [h]; decide)
  have hdropdown : e.kind = .dropdown := hkind.trans h
  have hvalues : ((d.mark k none).offers k).map (·.1) = (d.offers k).map (·.1) := by
    rw [offers_mark, offers, List.map_map, List.map_map]
    rfl
  have hnone : ((d.mark k none).offers k).find? (·.2) = none := by
    rw [offers_mark, List.find?_map, List.find?_eq_none.mpr fun n _ ↦ by simp]
    rfl
  refine (repaints_mark he (F := ({ · with value := "" })) ?_).self
  simp only [Element.portrait, hdropdown, ElementKind.isTyped, Bool.false_eq_true, if_false,
    if_true, hvalues, hnone]
  rfl

/-- Documents that look the same have the same portraits. -/
theorem Alike.portrait_eq (h : Alike k d d') (j : NodeId) : d'.portrait j = d.portrait j := by
  by_cases hj : j = k
  · subst hj
    have hrest : { d'.portrait j with value := "" } = { d.portrait j with value := "" } := by
      rw [← portrait_deselect ((h.kind_eq j).trans h.kind), h.rest, portrait_deselect h.kind]
    have hvalue : (d'.portrait j).value = (d.portrait j).value := by
      rw [value_portrait, h.value, value_portrait]
    calc d'.portrait j
        = { { d'.portrait j with value := "" } with value := (d'.portrait j).value } := rfl
      _ = d.portrait j := by rw [hrest, hvalue]
  · exact h.portrait_of_ne hj

private theorem deselect_mark (d : Document) (k : NodeId) (option : Option Node) :
    (d.mark k option).deselect k = d.deselect k := by
  refine eq_of_nodes ?_ rfl
  rw [nodes_deselect, nodes_deselect, mark, mapElements, List.map_map]
  refine List.map_congr_left fun n _ ↦ ?_
  rw [Function.comp_apply, Node.deselected, Node.deselected]
  by_cases hn : isOptionOf k n = true
  · rw [if_pos hn, if_pos hn]
    exact if_pos hn
  · rw [if_neg hn, if_neg hn]

/-- A value that is set in the dropdown makes no difference elsewhere. -/
theorem sameBut_setValue (h : d.kind k = .dropdown) (v : String) :
    SameBut k d (d.setValue k v) := by
  refine ⟨h, ?_⟩
  rw [setValue, if_neg (by rw [h]; decide), if_pos h, choose, deselect_mark]

private theorem value_setValue (h : d.kind k = .dropdown) (v : String) :
    (d.setValue k v).value k = if v ∈ Surface.options d k then v else "" := by
  rw [← value_portrait, (repaints_setValue_dropdown h v).self, Control.choose, options_portrait h]
  rfl

private theorem Alike.setValue (h : Alike k d d') (j : NodeId) (v : String) :
    Alike k (d.setValue j v) (d'.setValue j v) := by
  by_cases hj : j = k
  · subst hj
    have hkind' : d'.kind j = .dropdown := (h.kind_eq j).trans h.kind
    have hset := sameBut_setValue h.kind v
    refine ⟨⟨(hset.kind_eq j).trans h.kind, ?_⟩, ?_⟩
    · rw [(sameBut_setValue hkind' v).rest, h.rest, hset.rest]
    · rw [value_setValue hkind', value_setValue h.kind, h.options_eq]
  · exact h.map (.setValue hj v)

/-! ## Publishing -/

private theorem SameBut.update (h : SameBut k d d') (j : NodeId) (v : String) :
    SameBut k (Copies.update v d j) (Copies.update v d' j) := by
  by_cases hj : j = k
  · subst hj
    have hupdate : ∀ {d : Document}, d.kind j = .dropdown → SameBut j d (Copies.update v d j) := by
      intro d hd
      rw [Copies.update]
      split
      · exact ⟨hd, rfl⟩
      · exact sameBut_setValue hd v
    have hfirst := hupdate h.kind
    have hsecond := hupdate ((h.kind_eq j).trans h.kind)
    exact ⟨(hfirst.kind_eq j).trans h.kind, by rw [hsecond.rest, h.rest, hfirst.rest]⟩
  · have hvalue : Surface.value d' j = Surface.value d j := by
      show d'.value j = d.value j
      rw [← value_portrait, h.portrait_of_ne hj, value_portrait]
    rw [Copies.update, Copies.update, hvalue]
    split
    · exact h
    · exact h.map (.setValue hj v)

private theorem SameBut.publish (h : SameBut k d d') (copies : List NodeId) (v : String) :
    SameBut k (Copies.publish d copies v) (Copies.publish d' copies v) := by
  induction copies generalizing d d' with
  | nil => exact h
  | cons j copies ih => exact ih (h.update j v)

/-- Bringing a copy to a value chooses it in this dropdown and in no other one. -/
theorem portrait_update (h : d.kind k = .dropdown) (j : NodeId) (v : String) :
    (Copies.update v d j).portrait k =
      if k = j then (d.portrait k).choose v else d.portrait k := by
  rw [Copies.update]
  by_cases hk : k = j
  · subst hk
    rw [if_pos rfl]
    split
    · next hv =>
      have hvalue : (d.portrait k).value = v := (value_portrait d k).trans hv
      rw [← hvalue, Control.choose_value (coherent_portrait h)]
    · exact (repaints_setValue_dropdown h v).self
  · rw [if_neg hk]
    split
    · rfl
    · show (d.setValue j v).portrait k = d.portrait k
      rw [setValue]
      split
      · exact portrait_modify_of_ne (Element.calm_enter v) hk
      · split
        · exact portrait_mark_of_ne hk d _
        · rfl

private theorem portrait_publish (h : d.kind k = .dropdown) (copies : List NodeId) (v : String) :
    (Copies.publish d copies v).portrait k =
      if k ∈ copies then (d.portrait k).choose v else d.portrait k := by
  induction copies generalizing d with
  | nil => rfl
  | cons j copies ih =>
    have hkind : (Copies.update v d j).kind k = .dropdown := by
      rw [Copies.update]
      split
      · exact h
      · have hset : d.Evolves .slight (d.setValue j v) := .setValue d j v
        exact (hset.kind_eq_of_lt (lt_next_of_dropdown h)).trans h
    rw [Copies.publish, List.foldl_cons, ← Copies.publish, ih hkind, portrait_update h]
    by_cases hk : k = j
    · simp [hk, Control.choose]
    · simp [hk]

/-- What a copy holds when a value was published: the value if it is offered. -/
theorem value_publish (h : d.kind k = .dropdown) {copies : List NodeId} (hk : k ∈ copies)
    (v : String) :
    (Copies.publish d copies v).value k = if v ∈ Surface.options d k then v else "" := by
  rw [← value_portrait, portrait_publish h, if_pos hk, Control.choose, options_portrait h]
  rfl

/-! ## Forms -/

theorem accord_alike {l : Layout NodeId NodeId} (h : l.dropdown ≠ k) :
    Accord id id l (Alike k) where
  value hst j _ := hst.value_eq j
  name {s _} hst j _ := by
    show ((Document.element? _ j).map (·.attributeText "name")).getD "" = Surface.name s j
    rw [hst.map_element?_eq fun _ _ ↦ rfl]
    rfl
  isDisabled {s _} hst j _ := by
    show ((Document.element? _ j).map (·.hasAttribute "disabled")).getD false =
      Surface.isDisabled s j
    rw [hst.map_element?_eq fun _ _ ↦ rfl]
    rfl
  options hst j _ := hst.options_eq j
  setValue hst j _ v := hst.setValue j v
  setName hst j _ n := hst.map (.modify (Element.aloof_setAttribute (by decide) n) j)
  setRequired hst j _ b := hst.map (.modify (Element.aloof_toggleAttribute (by decide) b) j)
  setDisabled hst j _ b := hst.map (.modify (Element.aloof_toggleAttribute (by decide) b) j)
  setVisible hst j _ b := hst.map (.modify (Element.aloof_setShown b) j)
  refill hst vs := hst.map (.refill h vs)
  showSection hst i _ b := hst.map (.modify (Element.aloof_setShown b) i)

end Document

namespace Controller

theorem map_id {κ ς : Type} (c : Controller κ ς) : c.map id id = c := by
  have hlayout : c.layout.map id id = c.layout := by
    simp [Layout.map]
  rw [Controller.map, hlayout, List.map_id]

/-- Choosing an offered permission in a copy of the selector comes down to selecting it. -/
theorem matches_choose {c : Controller NodeId NodeId} {d : Document} {copy : NodeId} {v : String}
    (hcopy : copy ∈ c.layout.permission) (hkind : d.kind copy = .dropdown)
    (hdropdown : c.layout.dropdown ≠ copy) (hv : v ∈ Surface.options d copy) :
    Turn.Matches id id (Document.Alike copy) (c.select d v) (c.handle d (.choose copy v)) := by
  have hset := Document.sameBut_setValue hkind v
  have hvalue : (d.setValue copy v).value copy = v := by
    rw [Document.value_setValue hkind, if_pos hv]
  have hchoose : c.handle d (.choose copy v) = c.select (d.setValue copy v) v := by
    show c.select (d.setValue copy v) ((d.setValue copy v).value copy) = _
    rw [hvalue]
  have halike : Document.Alike copy (Copies.publish d c.layout.permission v)
      (Copies.publish (d.setValue copy v) c.layout.permission v) := by
    refine ⟨hset.publish c.layout.permission v, ?_⟩
    rw [Document.value_publish hkind hcopy, Document.value_publish
      ((hset.kind_eq copy).trans hkind) hcopy, hset.options_eq]
  have hmatches := (Document.accord_alike hdropdown).derive (c := c) rfl halike
  rwa [map_id, ← select, ← select, ← hchoose] at hmatches

end Controller

end AccessForm
