import AccessForm.Document.Fields
import AccessForm.Document.Selector
import AccessForm.Proofs.Classes
import AccessForm.Proofs.Frame
import Mathlib.Data.List.Forall2

/-!
# Evolution of documents

What a page still has in common with an earlier one after forms and guards worked on it. No node is
ever given up, and the old nodes keep their order. A node keeps its tag, its classes and all
attributes that are not left free, and it stays where it is unless it is an option of a dropdown
that may be refilled. A `Leeway` says which attributes and which dropdowns that are, and what kinds
of nodes may be new.

Two consequences matter for finding elements again. The way up from an old node can only get
shorter (`lineage_prefix`), so nothing comes below a root that was not there. And when a selector
asks for nothing that is left free, its first match remains the first one as long as it is a match
at all (`queryFirst?_of_mem`).
-/

namespace AccessForm

open Document (isOptionOf)

/-- What is left free in an evolution. -/
structure Leeway where
  /-- The attributes that may change, for each node. -/
  free : NodeId → String → Prop
  /-- The dropdowns that may lose their options. -/
  refills : NodeId → Prop
  /-- The kinds of new elements. -/
  creates : ElementKind → Prop

/-- The leeway of those who only set values, disable or enable elements, and add classes. -/
def Leeway.slight : Leeway :=
  ⟨fun _ a ↦ a = "disabled" ∨ a = "class", fun _ ↦ False, fun _ ↦ False⟩

theorem Leeway.slight_disabled (id : NodeId) : Leeway.slight.free id "disabled" := .inl rfl

theorem Leeway.slight_class (id : NodeId) : Leeway.slight.free id "class" := .inr rfl

/-- What a node may become. -/
structure Node.Becomes (l : Leeway) (n n' : Node) : Prop where
  /-- It keeps its number. -/
  id : n'.id = n.id
  /-- It keeps its tag. -/
  tag : n'.element.tag = n.element.tag
  /-- It keeps the attributes that are not left free. -/
  attributes (a : String) : ¬ l.free n.id a →
    n'.element.attribute? a = n.element.attribute? a
  /-- It keeps its classes and may get more. -/
  classes (token : String) : token ∈ n.element.classes → token ∈ n'.element.classes
  /-- It keeps its place, or is an option that was taken out. -/
  parent : n'.parent = n.parent ∨ n'.parent = none ∧ ∃ k, l.refills k ∧ isOptionOf k n

/-- What a document may become. -/
structure Document.Evolves (l : Leeway) (d d' : Document) : Prop where
  /-- Numbers are only used up. -/
  next_le : d.next ≤ d'.next
  /-- The old nodes are still there, in order. -/
  old : List.Forall₂ (Node.Becomes l) d.nodes (d'.nodes.filter (·.id < d.next))
  /-- The new nodes are of the kinds that may be new. -/
  new (n : Node) : n ∈ d'.nodes → d.next ≤ n.id → l.creates n.element.kind

/-! ## Nodes -/

namespace Node.Becomes

variable {l l' : Leeway} {n n' n'' : Node}

theorem refl (n : Node) : n.Becomes l n :=
  ⟨rfl, rfl, fun _ _ ↦ rfl, fun _ h ↦ h, .inl rfl⟩

theorem kind (h : n.Becomes l n') : n'.element.kind = n.element.kind := by
  rw [Element.kind, Element.kind, h.tag]

private theorem isOptionOf_of_parent (h : n.Becomes l n') (hp : n'.parent = n.parent) (k : NodeId) :
    isOptionOf k n' = isOptionOf k n := by
  rw [isOptionOf, isOptionOf, hp, h.kind]

theorem trans (h : n.Becomes l n') (h' : n'.Becomes l n'') : n.Becomes l n'' where
  id := h'.id.trans h.id
  tag := h'.tag.trans h.tag
  attributes a ha := by rw [h'.attributes a (by rwa [h.id]), h.attributes a ha]
  classes token ht := h'.classes token (h.classes token ht)
  parent := by
    rcases h'.parent with hp' | ⟨hp', k, hk, ho⟩
    · rw [hp']
      exact h.parent
    · rcases h.parent with hp | ⟨-, hout⟩
      · exact .inr ⟨hp', k, hk, by rwa [← h.isOptionOf_of_parent hp k]⟩
      · exact .inr ⟨hp', hout⟩

theorem mono (h : n.Becomes l n') (hfree : ∀ id a, l.free id a → l'.free id a)
    (hrefills : ∀ k, l.refills k → l'.refills k) : n.Becomes l' n' where
  id := h.id
  tag := h.tag
  attributes a ha := h.attributes a fun h' ↦ ha (hfree _ _ h')
  classes := h.classes
  parent := h.parent.imp_right fun ⟨hp, k, hk, ho⟩ ↦ ⟨hp, k, hrefills k hk, ho⟩

private theorem of_element {e : Element} (htag : e.tag = n.element.tag)
    (hattr : ∀ a, ¬ l.free n.id a → e.attribute? a = n.element.attribute? a)
    (hclasses : ∀ token ∈ n.element.classes, token ∈ e.classes) :
    n.Becomes l { n with element := e } :=
  ⟨rfl, htag, hattr, hclasses, .inl rfl⟩

private theorem of_attributes {e : Element} (htag : e.tag = n.element.tag)
    (hattr : e.attributes = n.element.attributes) : n.Becomes l { n with element := e } := by
  have hsame : ∀ a, e.attribute? a = n.element.attribute? a := by
    intro a
    rw [Element.attribute?, hattr, Element.attribute?]
  refine of_element htag (fun a _ ↦ hsame a) fun token ht ↦ ?_
  rwa [Element.classes, Element.attributeText, hsame]

end Node.Becomes

namespace Element

private theorem classes_setAttribute {name : String} (hname : name ≠ "class") (e : Element)
    (v : String) : (e.setAttribute name v).classes = e.classes := by
  rw [classes, attributeText, attribute?_setAttribute, if_neg hname.symm]
  rfl

theorem tag_toggleAttribute (e : Element) (name : String) (b : Bool) :
    (e.toggleAttribute name b).tag = e.tag := by
  rw [toggleAttribute]
  split
  · split
    · rfl
    · rfl
  · rfl

theorem attribute?_toggleAttribute_of_ne {name other : String} (h : other ≠ name) (e : Element)
    (b : Bool) : (e.toggleAttribute name b).attribute? other = e.attribute? other := by
  rw [toggleAttribute]
  split
  · split
    · rfl
    · rw [attribute?_setAttribute, if_neg h]
  · rw [attribute?_removeAttribute, if_neg h]

private theorem classes_toggleAttribute {name : String} (hname : name ≠ "class") (e : Element)
    (b : Bool) : (e.toggleAttribute name b).classes = e.classes := by
  rw [classes, attributeText, attribute?_toggleAttribute_of_ne hname.symm]
  rfl

end Element

/-! ## Documents -/

namespace Document

variable {l l' : Leeway} {d d' d'' : Document}

private theorem find?_id_of_mem {ns : List Node} (hns : ns.Pairwise (·.id ≠ ·.id)) {n : Node}
    (h : n ∈ ns) : ns.find? (·.id == n.id) = some n := by
  induction ns with
  | nil => cases h
  | cons m ms ih =>
    obtain ⟨hhead, htail⟩ := List.pairwise_cons.mp hns
    rcases List.mem_cons.mp h with rfl | h
    · rw [List.find?_cons_of_pos (by simp)]
    · rw [List.find?_cons_of_neg (by simpa using hhead n h)]
      exact ih htail h

theorem find?_of_mem {n : Node} (h : n ∈ d.nodes) : d.find? n.id = some n :=
  find?_id_of_mem d.distinct h

theorem lt_next_of_find? {id : NodeId} {n : Node} (h : d.find? id = some n) : id < d.next := by
  have hlt := (d.aged n (mem_of_find? h)).1
  rwa [id_of_find? h] at hlt

theorem eq_of_id {m n : Node} (hm : m ∈ d.nodes) (hn : n ∈ d.nodes) (h : m.id = n.id) : m = n := by
  have hsame : some m = some n := by rw [← find?_of_mem hm, ← find?_of_mem hn, h]
  exact Option.some.inj hsame

theorem parent_lt_of_find? {id p : NodeId} {n : Node} (h : d.find? id = some n)
    (hp : n.parent = some p) : p < id := by
  have hlt := (d.aged n (mem_of_find? h)).2 p hp
  rwa [id_of_find? h] at hlt

theorem lt_next_of_isSome {id : NodeId} (h : (d.element? id).isSome = true) : id < d.next := by
  rw [element?, Option.isSome_map] at h
  obtain ⟨n, hn⟩ := Option.isSome_iff_exists.mp h
  exact lt_next_of_find? hn

theorem isSome_of_mem {n : Node} (h : n ∈ d.nodes) : (d.element? n.id).isSome = true := by
  rw [element?, find?_of_mem h]
  rfl

theorem mem_query {root : NodeId} {s : Selector} {n : Node} :
    n ∈ d.query root s ↔ n ∈ d.nodes ∧ d.isBelow root n.id = true ∧ s.fits n.element = true := by
  rw [query, List.mem_filter, descendants, List.mem_filter, and_assoc]

theorem mem_query_of_queryFirst? {root : NodeId} {s : Selector} {n : Node}
    (h : d.queryFirst? root s = some n) : n ∈ d.query root s :=
  List.mem_of_mem_head? h

theorem mem_lineage_iff {a id : NodeId} : a ∈ d.lineage id ↔
    ∃ n, d.find? id = some n ∧ (a = id ∨ ∃ p, n.parent = some p ∧ a ∈ d.lineage p) := by
  rw [lineage_eq]
  cases hn : d.find? id with
  | none => simp
  | some n => cases hp : n.parent <;> simp [hp]

/-- The way up is made for inductions that go from a node to its parent. -/
theorem lineage_induction {P : NodeId → Prop} {a id : NodeId} (h : a ∈ d.lineage id)
    (hself : (d.find? a).isSome = true → P a)
    (hparent : ∀ i n p, d.find? i = some n → n.parent = some p → P p → P i) : P id := by
  induction id using Nat.strongRecOn with
  | ind id ih =>
    obtain ⟨n, hn, rfl | ⟨p, hp, hmem⟩⟩ := mem_lineage_iff.mp h
    · exact hself (by rw [hn]; rfl)
    · exact hparent id n p hn hp (ih p (parent_lt_of_find? hn hp) hmem)

private theorem lt_next_of_mem_lineage {a id : NodeId} (h : a ∈ d.lineage id) : a < d.next := by
  refine lineage_induction (P := fun _ ↦ a < d.next) h (fun hsome ↦ ?_) fun _ _ _ _ _ ih ↦ ih
  obtain ⟨n, hn⟩ := Option.isSome_iff_exists.mp hsome
  exact lt_next_of_find? hn

theorem le_of_mem_lineage {a id : NodeId} (h : a ∈ d.lineage id) : a ≤ id :=
  lineage_induction (P := fun i ↦ a ≤ i) h (fun _ ↦ Nat.le_refl a)
    fun _ _ _ hn hp ih ↦ Nat.le_trans ih (Nat.le_of_lt (parent_lt_of_find? hn hp))

theorem exists_child_of_mem_lineage {a id : NodeId} (h : a ∈ d.lineage id) :
    a = id ∨ ∃ n ∈ d.nodes, n.parent = some a := by
  refine lineage_induction (P := fun i ↦ a = i ∨ ∃ n ∈ d.nodes, n.parent = some a) h
    (fun _ ↦ .inl rfl) fun i n p hn hp ih ↦ ?_
  rcases ih with rfl | hchild
  · exact .inr ⟨n, mem_of_find? hn, hp⟩
  · exact .inr hchild

theorem mem_lineage_trans {a b id : NodeId} (h : a ∈ d.lineage b) (h' : b ∈ d.lineage id) :
    a ∈ d.lineage id :=
  lineage_induction (P := fun i ↦ a ∈ d.lineage i) h' (fun _ ↦ h)
    fun _ n p hn hp ih ↦ mem_lineage_iff.mpr ⟨n, hn, .inr ⟨p, hp, ih⟩⟩

/-- Of two nodes on the way up from a third, one is on the way up from the other. -/
theorem mem_lineage_or_mem_lineage {a b id : NodeId} (ha : a ∈ d.lineage id)
    (hb : b ∈ d.lineage id) : a ∈ d.lineage b ∨ b ∈ d.lineage a := by
  induction id using Nat.strongRecOn with
  | ind id ih =>
    obtain ⟨n, hn, rfl | ⟨p, hp, hap⟩⟩ := mem_lineage_iff.mp ha
    · exact .inr hb
    · obtain ⟨m, hm, rfl | ⟨q, hq, hbq⟩⟩ := mem_lineage_iff.mp hb
      · exact .inl ha
      · have hnode : n = m := Option.some.inj (hn.symm.trans hm)
        have hparent : p = q := Option.some.inj (hp.symm.trans (hnode ▸ hq))
        exact ih p (parent_lt_of_find? hn hp) hap (hparent ▸ hbq)

theorem root_lt_of_isBelow {root id : NodeId} (h : d.isBelow root id = true) : root < d.next := by
  rw [isBelow, Bool.and_eq_true, List.contains_iff_mem] at h
  exact lt_next_of_mem_lineage h.2

theorem exists_parent_of_isBelow {root id : NodeId} (h : d.isBelow root id = true) :
    ∃ n p, d.find? id = some n ∧ n.parent = some p ∧ root ∈ d.lineage p := by
  rw [isBelow, Bool.and_eq_true, bne_iff_ne, List.contains_iff_mem] at h
  obtain ⟨n, hn, heq | ⟨p, hp, hmem⟩⟩ := mem_lineage_iff.mp h.2
  · exact absurd heq.symm h.1
  · exact ⟨n, p, hn, hp, hmem⟩

theorem isBelow_of_parent {root : NodeId} {n : Node} (hn : n ∈ d.nodes) {p : NodeId}
    (hp : n.parent = some p) (hroot : root ∈ d.lineage p) (hne : n.id ≠ root) :
    d.isBelow root n.id = true := by
  rw [isBelow, Bool.and_eq_true, bne_iff_ne, List.contains_iff_mem]
  exact ⟨hne, mem_lineage_iff.mpr ⟨n, find?_of_mem hn, .inr ⟨p, hp, hroot⟩⟩⟩

theorem forall₂_trans {α : Type} {R : α → α → Prop} (h : ∀ {a b c}, R a b → R b c → R a c)
    {as bs cs : List α} (h₁ : List.Forall₂ R as bs) (h₂ : List.Forall₂ R bs cs) :
    List.Forall₂ R as cs := by
  induction h₁ generalizing cs with
  | nil => exact h₂
  | cons hab _ ih =>
    obtain ⟨c, cs', hbc, hrest, rfl⟩ := List.forall₂_cons_left_iff.mp h₂
    exact .cons (h hab hbc) (ih hrest)

private theorem exists_of_mem_right {α : Type} {R : α → α → Prop} {as bs : List α}
    (h : List.Forall₂ R as bs) {b : α} (hb : b ∈ bs) : ∃ a ∈ as, R a b := by
  induction h with
  | nil => cases hb
  | @cons a _ as _ hab _ ih =>
    rcases List.mem_cons.mp hb with rfl | hb
    · exact ⟨a, List.mem_cons_self, hab⟩
    · obtain ⟨a', ha', hr⟩ := ih hb
      exact ⟨a', List.mem_cons_of_mem _ ha', hr⟩

private theorem exists_of_mem_left {α : Type} {R : α → α → Prop} {as bs : List α}
    (h : List.Forall₂ R as bs) {a : α} (ha : a ∈ as) : ∃ b ∈ bs, R a b :=
  exists_of_mem_right h.flip ha

private theorem filter_old (d : Document) : d.nodes.filter (·.id < d.next) = d.nodes :=
  List.filter_eq_self.mpr fun n hn ↦ decide_eq_true (d.aged n hn).1

theorem mem_insert {parent : NodeId} (h : parent < d.next) (behind : NodeId) (e : Element) :
    ⟨d.next, some parent, e⟩ ∈ (d.insert parent behind e).nodes := by
  rw [insert, dif_pos h]
  exact (perm_insertBehindLast _ _ _).mem_iff.mpr List.mem_cons_self

theorem filter_insertBehindLast {new : Node} {q : Node → Bool} (h : q new = false)
    (p : Node → Bool) (ns : List Node) : (insertBehindLast new p ns).filter q = ns.filter q := by
  fun_induction insertBehindLast new p ns with
  | case1 => simp [h]
  | case2 n ns => simp [List.filter_cons, h]
  | case3 n ns _ ih => simp only [List.filter_cons, ih]

namespace Evolves

theorem refl (d : Document) : d.Evolves l d where
  next_le := Nat.le_refl _
  old := by
    rw [filter_old]
    exact List.forall₂_same.mpr fun n _ ↦ .refl n
  new n hn hle := absurd (d.aged n hn).1 (Nat.not_lt.mpr hle)

theorem trans (h : d.Evolves l d') (h' : d'.Evolves l d'') : d.Evolves l d'' where
  next_le := Nat.le_trans h.next_le h'.next_le
  old := by
    have hfilter : (d''.nodes.filter (·.id < d'.next)).filter (·.id < d.next) =
        d''.nodes.filter (·.id < d.next) := by
      rw [List.filter_filter]
      refine List.filter_congr fun n _ ↦ ?_
      by_cases hn : n.id < d.next
      · simp [hn, Nat.lt_of_lt_of_le hn h.next_le]
      · simp [hn]
    have hold : List.Forall₂ (Node.Becomes l) (d'.nodes.filter (·.id < d.next))
        (d''.nodes.filter (·.id < d.next)) := by
      rw [← hfilter]
      refine List.rel_filter (fun n n' hn ↦ ?_) h'.old
      show decide (n.id < d.next) = true ↔ decide (n'.id < d.next) = true
      rw [hn.id]
    exact forall₂_trans .trans h.old hold
  new n hn hle := by
    by_cases hlt : n.id < d'.next
    · obtain ⟨n', hn', hb⟩ := exists_of_mem_right h'.old
        (List.mem_filter.mpr ⟨hn, decide_eq_true hlt⟩)
      rw [hb.kind]
      exact h.new n' hn' (by rwa [← hb.id])
    · exact h'.new n hn (Nat.not_lt.mp hlt)

theorem mono (h : d.Evolves l d') (hfree : ∀ id a, l.free id a → l'.free id a)
    (hrefills : ∀ k, l.refills k → l'.refills k)
    (hcreates : ∀ k, l.creates k → l'.creates k) : d.Evolves l' d' where
  next_le := h.next_le
  old := h.old.imp fun _ _ hn ↦ hn.mono hfree hrefills
  new n hn hle := hcreates _ (h.new n hn hle)

private theorem mapElements {f : Node → Element}
    (h : ∀ n ∈ d.nodes, n.Becomes l { n with element := f n }) : d.Evolves l (d.mapElements f) where
  next_le := Nat.le_refl _
  old := by
    have hold : (d.mapElements f).nodes.filter (·.id < d.next) = (d.mapElements f).nodes :=
      filter_old (d.mapElements f)
    rw [hold]
    refine List.forall₂_map_right_iff.mpr (List.forall₂_same.mpr fun n hn ↦ h n hn)
  new n hn hle := absurd ((d.mapElements f).aged n hn).1 (Nat.not_lt.mpr hle)

private theorem modify {id : NodeId} {f : Element → Element}
    (h : ∀ n ∈ d.nodes, n.id = id → n.Becomes l { n with element := f n.element }) :
    d.Evolves l (d.modify id f) := by
  refine mapElements fun n hn ↦ ?_
  split
  · next hid => exact h n hn hid
  · exact .refl n

theorem detach {out : Node → Bool}
    (h : ∀ n ∈ d.nodes, out n = true → ∃ k, l.refills k ∧ isOptionOf k n) :
    d.Evolves l (d.detach out) where
  next_le := Nat.le_refl _
  old := by
    have hold : (d.detach out).nodes.filter (·.id < d.next) = (d.detach out).nodes :=
      filter_old (d.detach out)
    rw [hold]
    refine List.forall₂_map_right_iff.mpr (List.forall₂_same.mpr fun n hn ↦ ?_)
    split
    · next ho => exact ⟨rfl, rfl, fun _ _ ↦ rfl, fun _ ht ↦ ht, .inr ⟨rfl, h n hn ho⟩⟩
    · exact .refl n
  new n hn hle := absurd ((d.detach out).aged n hn).1 (Nat.not_lt.mpr hle)

theorem insert {e : Element} (he : l.creates e.kind) (d : Document) (parent behind : NodeId) :
    d.Evolves l (d.insert parent behind e) := by
  rw [Document.insert]
  split
  · refine ⟨Nat.le_succ _, ?_, ?_⟩
    · dsimp only
      rw [filter_insertBehindLast (by simp), filter_old]
      exact List.forall₂_same.mpr fun n _ ↦ .refl n
    · intro n hn hle
      rcases List.mem_cons.mp ((perm_insertBehindLast _ _ _).mem_iff.mp hn) with rfl | hn
      · exact he
      · exact absurd (d.aged n hn).1 (Nat.not_lt.mpr hle)
  · exact .refl d

private theorem mark (d : Document) (dropdown : NodeId) (option : Option Node) :
    d.Evolves l (d.mark dropdown option) := by
  refine mapElements fun n _ ↦ ?_
  split
  · exact .of_attributes rfl rfl
  · exact .refl n

theorem settle (d : Document) (id : NodeId) : d.Evolves l (d.settle id) := by
  rw [Document.settle]
  split
  · exact mark _ _ _
  · exact .refl d

theorem setValue (d : Document) (id : NodeId) (v : String) : d.Evolves l (d.setValue id v) := by
  rw [Document.setValue]
  split
  · exact modify fun n _ _ ↦ .of_attributes rfl rfl
  · split
    · exact mark _ _ _
    · exact .refl d

theorem setShown (d : Document) (id : NodeId) (b : Bool) :
    d.Evolves l (d.modify id (·.setShown b)) :=
  modify fun _ _ _ ↦ .of_attributes rfl rfl

theorem toggleAttribute {id : NodeId} {name : String} (hfree : l.free id name)
    (hclass : name ≠ "class") (d : Document) (b : Bool) :
    d.Evolves l (d.modify id (·.toggleAttribute name b)) := by
  refine modify fun n _ hn ↦ .of_element (Element.tag_toggleAttribute _ _ _) ?_ ?_
  · intro a ha
    refine Element.attribute?_toggleAttribute_of_ne ?_ _ _
    rintro rfl
    exact ha (hn ▸ hfree)
  · intro token ht
    rwa [Element.classes_toggleAttribute hclass]

theorem setAttribute {id : NodeId} {name : String} (hfree : l.free id name)
    (hclass : name ≠ "class") (d : Document) (v : String) :
    d.Evolves l (d.modify id (·.setAttribute name v)) := by
  refine modify fun n _ hn ↦ .of_element rfl ?_ ?_
  · intro a ha
    rw [Element.attribute?_setAttribute, if_neg]
    rintro rfl
    exact ha (hn ▸ hfree)
  · intro token ht
    rwa [Element.classes_setAttribute hclass]

end Evolves

theorem Evolves.addClass {token : String} (hword : Text.IsWord token.toList) {id : NodeId}
    (hfree : l.free id "class") (d : Document) : d.Evolves l (d.modify id (·.addClass token)) := by
  refine modify fun n _ hn ↦ .of_element rfl (fun a ha ↦ ?_) fun t ht ↦ ?_
  · refine Element.attribute?_addClass_of_ne ?_ _ _
    rintro rfl
    exact ha (hn ▸ hfree)
  · exact Element.mem_classes_addClass hword ht

theorem Evolves.submit {latch : Latch NodeId} (hdisabled : l.free latch.control "disabled")
    (hclass : l.free latch.control "class") (d : Document) :
    d.Evolves l (latch.submit d).surface := by
  rw [Latch.submit]
  split
  · exact .refl d
  · have hfirst : d.Evolves l (d.modify latch.control (·.toggleAttribute "disabled" true)) :=
      .toggleAttribute hdisabled (by decide) d true
    refine hfirst.trans ?_
    simp only [SubmitSurface.setDisabled, SubmitSurface.addClass]
    split
    · exact .refl _
    · next hfault =>
      exact .addClass (isWord_of_classFault? hfault) hclass _

/-! ## Finding elements again -/

namespace Evolves

/-- The nodes of a sort that neither gets new members nor loses any. -/
theorem forall₂_filter (h : d.Evolves l d') {p : Node → Bool}
    (hold : ∀ n n' : Node, n.Becomes l n' → p n' = p n)
    (hnew : ∀ n : Node, l.creates n.element.kind → p n = false) :
    List.Forall₂ (Node.Becomes l) (d.nodes.filter p) (d'.nodes.filter p) := by
  have hfilter : d'.nodes.filter p = (d'.nodes.filter (·.id < d.next)).filter p := by
    rw [List.filter_filter]
    refine List.filter_congr fun n hn ↦ ?_
    by_cases hlt : n.id < d.next
    · simp [hlt]
    · simp [hlt, hnew n (h.new n hn (Nat.not_lt.mp hlt))]
  rw [hfilter]
  refine List.rel_filter (fun n n' hn ↦ ?_) h.old
  show p n = true ↔ p n' = true
  rw [hold n n' hn]

/-- A dropdown keeps the number of its options where options neither come nor go. -/
theorem length_options (h : d.Evolves l d') (hrefills : ∀ j, ¬ l.refills j)
    (hcreates : ¬ l.creates .option) (k : NodeId) :
    (d'.options k).length = (d.options k).length := by
  refine (h.forall₂_filter (fun n n' hn ↦ ?_) fun n hn ↦ ?_).length_eq.symm
  · refine hn.isOptionOf_of_parent (hn.parent.resolve_right ?_) k
    rintro ⟨-, j, hj, -⟩
    exact hrefills j hj
  · by_contra hoption
    simp only [isOptionOf, Bool.not_eq_false, Bool.and_eq_true, beq_iff_eq] at hoption
    exact hcreates (hoption.2 ▸ hn)

theorem find? (h : d.Evolves l d') {id : NodeId} {n : Node} (hn : d.find? id = some n) :
    ∃ n', d'.find? id = some n' ∧ n.Becomes l n' := by
  obtain ⟨n', hn', hb⟩ := exists_of_mem_left h.old (mem_of_find? hn)
  have hid : n'.id = id := by rw [hb.id, id_of_find? hn]
  refine ⟨n', ?_, hb⟩
  rw [← hid]
  exact find?_of_mem (List.mem_filter.mp hn').1

theorem exists_find? (h : d.Evolves l d') {id : NodeId} (hid : id < d.next) {n' : Node}
    (hn' : d'.find? id = some n') : ∃ n, d.find? id = some n ∧ n.Becomes l n' := by
  have hmem : n' ∈ d'.nodes.filter (·.id < d.next) := by
    refine List.mem_filter.mpr ⟨mem_of_find? hn', decide_eq_true ?_⟩
    rwa [id_of_find? hn']
  obtain ⟨n, hn, hb⟩ := exists_of_mem_right h.old hmem
  refine ⟨n, ?_, hb⟩
  rw [← id_of_find? hn', hb.id]
  exact find?_of_mem hn

theorem kind_eq_of_lt (h : d.Evolves l d') {id : NodeId} (hid : id < d.next) :
    d'.kind id = d.kind id := by
  rw [kind, kind, element?, element?]
  cases hn' : d'.find? id with
  | some n' =>
    obtain ⟨n, hn, hb⟩ := h.exists_find? hid hn'
    rw [hn]
    exact hb.kind
  | none =>
    cases hn : d.find? id with
    | none => rfl
    | some n =>
      obtain ⟨n', hsome, -⟩ := h.find? hn
      rw [hn'] at hsome
      cases hsome

/-- The way up from an old node gets no longer. -/
theorem lineage_prefix (h : d.Evolves l d') {id : NodeId} (hid : id < d.next) :
    d'.lineage id <+: d.lineage id := by
  induction id using Nat.strongRecOn with
  | ind id ih =>
    cases hn' : d'.find? id with
    | none =>
      rw [lineage_eq d', hn']
      exact List.nil_prefix
    | some n' =>
      obtain ⟨n, hn, hb⟩ := h.exists_find? hid hn'
      rw [lineage_eq d', lineage_eq d, hn', hn]
      dsimp only
      refine (List.prefix_cons_inj id).mpr ?_
      -- a node that was taken out ends the way, and any other goes on to the same parent
      rcases hb.parent with hp | ⟨hp, -⟩
      · rw [hp]
        cases hparent : n.parent with
        | none => exact List.prefix_rfl
        | some p =>
          have hlt : p < id := parent_lt_of_find? hn hparent
          exact ih p hlt (Nat.lt_trans hlt hid)
      · rw [hp]
        exact List.nil_prefix

/-- The way up from an old node is the same when no option of a refilled dropdown lies on it. -/
theorem lineage_of_kept (h : d.Evolves l d') {id : NodeId} (hid : id < d.next)
    (hkept : ∀ n ∈ d.nodes, n.id ∈ d.lineage id → ∀ k, l.refills k → isOptionOf k n = false) :
    d'.lineage id = d.lineage id := by
  induction id using Nat.strongRecOn with
  | ind id ih =>
    cases hn : d.find? id with
    | none =>
      have hn' : d'.find? id = none := by
        by_contra hsome
        obtain ⟨n', hn'⟩ := Option.ne_none_iff_exists'.mp hsome
        obtain ⟨n, hn₀, -⟩ := h.exists_find? hid hn'
        rw [hn] at hn₀
        cases hn₀
      rw [lineage_eq d', lineage_eq d, hn, hn']
    | some n =>
      obtain ⟨n', hn', hb⟩ := h.find? hn
      have hlineage : d.lineage id = id :: (n.parent.map d.lineage).getD [] := by
        rw [lineage_eq, hn]
      have hstays : n'.parent = n.parent := by
        rcases hb.parent with hp | ⟨-, k, hk, ho⟩
        · exact hp
        · have hself : n.id ∈ d.lineage id := by
            rw [id_of_find? hn, hlineage]
            exact List.mem_cons_self
          rw [hkept n (mem_of_find? hn) hself k hk] at ho
          cases ho
      rw [lineage_eq d', hn', hlineage]
      dsimp only
      rw [hstays]
      cases hp : n.parent with
      | none => rfl
      | some p =>
        have hlt : p < id := parent_lt_of_find? hn hp
        rw [Option.map_some, Option.map_some, ih p hlt (Nat.lt_trans hlt hid)]
        intro m hm hmem
        refine hkept m hm ?_
        rw [hlineage, hp]
        exact List.mem_cons_of_mem _ hmem

theorem lineage_eq_of_not_refills (h : d.Evolves l d') (hl : ∀ k, ¬ l.refills k) {id : NodeId}
    (hid : id < d.next) : d'.lineage id = d.lineage id :=
  h.lineage_of_kept hid fun _ _ _ k hk ↦ absurd hk (hl k)

theorem isBelow_eq_of_not_refills (h : d.Evolves l d') (hl : ∀ k, ¬ l.refills k)
    {root id : NodeId} (hid : id < d.next) : d'.isBelow root id = d.isBelow root id := by
  rw [isBelow, isBelow, h.lineage_eq_of_not_refills hl hid]

/-- The old nodes on the way up from any node lie on one earlier way up. -/
theorem exists_lineage (h : d.Evolves l d') (t : NodeId) :
    ∃ u, ∀ a ∈ d'.lineage t, a < d.next → a ∈ d.lineage u := by
  induction t using Nat.strongRecOn with
  | ind t ih =>
    rcases Nat.lt_or_ge t d.next with hlt | hge
    · exact ⟨t, fun a ha _ ↦ (h.lineage_prefix hlt).subset ha⟩
    · -- a new node is itself none of the old ones, so only its parent matters
      by_cases hp : ∃ n p, d'.find? t = some n ∧ n.parent = some p
      · obtain ⟨n, p, hn, hp⟩ := hp
        obtain ⟨u, hu⟩ := ih p (parent_lt_of_find? hn hp)
        refine ⟨u, fun a ha hlt ↦ ?_⟩
        obtain ⟨m, hm, rfl | ⟨q, hq, hmem⟩⟩ := mem_lineage_iff.mp ha
        · exact absurd hlt (Nat.not_lt.mpr hge)
        · cases hn.symm.trans hm
          cases hp.symm.trans hq
          exact hu a hmem hlt
      · refine ⟨t, fun a ha hlt ↦ ?_⟩
        obtain ⟨m, hm, rfl | ⟨q, hq, -⟩⟩ := mem_lineage_iff.mp ha
        · exact absurd hlt (Nat.not_lt.mpr hge)
        · exact absurd ⟨m, q, hm, hq⟩ hp

/-- Elements that no way up has in common have none in common later on. -/
theorem notMem_lineage (h : d.Evolves l d') {root a : NodeId} (hroot : root < d.next)
    (ha : a < d.next) (hapart : ∀ t, root ∈ d.lineage t → a ∉ d.lineage t) (t : NodeId) :
    root ∈ d'.lineage t → a ∉ d'.lineage t := by
  obtain ⟨u, hu⟩ := h.exists_lineage t
  exact fun hr hm ↦ hapart u (hu root hr hroot) (hu a hm ha)

theorem isSome_element? (h : d.Evolves l d') {id : NodeId} (hid : (d.element? id).isSome = true) :
    (d'.element? id).isSome = true := by
  rw [element?, Option.isSome_map] at hid ⊢
  obtain ⟨n, hn⟩ := Option.isSome_iff_exists.mp hid
  obtain ⟨n', hn', -⟩ := h.find? hn
  rw [hn']
  rfl

theorem attribute?_eq (h : d.Evolves l d') {id : NodeId} (hid : (d.element? id).isSome = true)
    {name : String} (hname : ¬ l.free id name) :
    (d'.element? id).bind (·.attribute? name) = (d.element? id).bind (·.attribute? name) := by
  rw [element?, Option.isSome_map] at hid
  obtain ⟨n, hn⟩ := Option.isSome_iff_exists.mp hid
  obtain ⟨n', hn', hb⟩ := h.find? hn
  rw [element?, element?, hn, hn', Option.map_some, Option.map_some, Option.bind_some,
    Option.bind_some]
  exact hb.attributes name (by rwa [id_of_find? hn])

theorem isBelow_of_isBelow (h : d.Evolves l d') {root id : NodeId} (hid : id < d.next)
    (hbelow : d'.isBelow root id = true) : d.isBelow root id = true := by
  rw [isBelow, Bool.and_eq_true] at hbelow ⊢
  refine ⟨hbelow.1, ?_⟩
  rw [List.contains_iff_mem] at hbelow ⊢
  exact (h.lineage_prefix hid).subset hbelow.2

private theorem sublist_of_becomes {p p' : Node → Bool} {ns ns' : List Node}
    (hns : List.Forall₂ (Node.Becomes l) ns ns')
    (hp : ∀ n ∈ ns, ∀ n' : Node, n.Becomes l n' → p' n' = true → p n = true) :
    ((ns'.filter p').map (·.id)).Sublist ((ns.filter p).map (·.id)) := by
  induction hns with
  | nil => exact .slnil
  | @cons n n' ns ns' hn _ ih =>
    have hrest : ((ns'.filter p').map (·.id)).Sublist ((ns.filter p).map (·.id)) :=
      ih fun m hm ↦ hp m (List.mem_cons_of_mem _ hm)
    rw [List.filter_cons, List.filter_cons]
    by_cases hfound : p' n' = true
    · rw [if_pos hfound, if_pos (hp n List.mem_cons_self n' hn hfound), List.map_cons,
        List.map_cons, hn.id]
      exact hrest.cons_cons _
    · rw [if_neg hfound]
      split
      · exact hrest.cons _
      · exact hrest

/-- When a selector finds no new nodes, and no old node that it did not find before, then all
that it finds are earlier finds in the earlier order. -/
theorem query_sublist (h : d.Evolves l d') {s : Selector} (root : NodeId)
    (hnew : ∀ e : Element, l.creates e.kind → s.fits e = false)
    (hold : ∀ n ∈ d.nodes, ∀ n' : Node, n.Becomes l n' → s.fits n'.element = true →
      s.fits n.element = true) :
    ((d'.query root s).map (·.id)).Sublist ((d.query root s).map (·.id)) := by
  have hfilter : d'.query root s = (d'.nodes.filter (·.id < d.next)).filter
      fun n ↦ d'.isBelow root n.id && s.fits n.element := by
    rw [query, descendants, List.filter_filter, List.filter_filter]
    refine List.filter_congr fun n hn ↦ ?_
    by_cases hlt : n.id < d.next
    · simp [hlt, Bool.and_comm]
    · simp [hlt, hnew n.element (h.new n hn (Nat.not_lt.mp hlt))]
  have hquery : d.query root s =
      d.nodes.filter fun n ↦ d.isBelow root n.id && s.fits n.element := by
    rw [query, descendants, List.filter_filter]
    exact List.filter_congr fun n _ ↦ Bool.and_comm _ _
  rw [hfilter, hquery]
  refine sublist_of_becomes h.old fun n hn n' hb hfound ↦ ?_
  rw [Bool.and_eq_true] at hfound ⊢
  refine ⟨?_, hold n hn n' hb hfound.2⟩
  rw [hb.id] at hfound
  exact h.isBelow_of_isBelow (d.aged n hn).1 hfound.1

private theorem head?_of_sublist {α : Type} {a : α} {as bs : List α} (h : bs.Sublist (a :: as))
    (hnodup : (a :: as).Nodup) (ha : a ∈ bs) : bs.head? = some a := by
  cases h with
  | cons _ h => exact absurd (h.subset ha) (List.nodup_cons.mp hnodup).1
  | cons_cons _ h => rfl

/-- What was found first is found first again if it is found at all. -/
theorem queryFirst?_of_mem (h : d.Evolves l d') {s : Selector} {root : NodeId}
    (hnew : ∀ e : Element, l.creates e.kind → s.fits e = false)
    (hold : ∀ n ∈ d.nodes, ∀ n' : Node, n.Becomes l n' → s.fits n'.element = true →
      s.fits n.element = true)
    {n n' : Node} (hn : d.queryFirst? root s = some n) (hn' : n' ∈ d'.query root s)
    (hid : n'.id = n.id) : d'.queryFirst? root s = some n' := by
  obtain ⟨ns, hns⟩ : ∃ ns, d.query root s = n :: ns := List.head?_eq_some_iff.mp hn
  have hnodup : (n.id :: ns.map (·.id)).Nodup := by
    have hpair : (d.query root s).Pairwise (·.id ≠ ·.id) := (d.distinct.filter _).filter _
    rw [hns] at hpair
    exact List.pairwise_map.mpr hpair
  have hsub : ((d'.query root s).map (·.id)).Sublist (n.id :: ns.map (·.id)) := by
    have hsub' := h.query_sublist root hnew hold
    rwa [hns] at hsub'
  have hhead := head?_of_sublist hsub hnodup (List.mem_map.mpr ⟨n', hn', hid⟩)
  rw [List.head?_map, Option.map_eq_some_iff] at hhead
  obtain ⟨m, hm, hmid⟩ := hhead
  rw [queryFirst?, hm, eq_of_id (mem_query.mp (mem_query_of_queryFirst? hm)).1
    (mem_query.mp hn').1 (hmid.trans hid.symm)]

end Evolves

theorem frame_evolves (l : Leeway) : Frame (Evolves l) := ⟨.refl, .trans⟩

end Document

/-! ## Forms -/

namespace Controller

variable (c : Controller NodeId NodeId)

/-- What a form with its guards leaves free: whether elements are required and disabled, their
further classes, and the names of the argument fields if this is how one of them is excluded. -/
def leeway : Leeway where
  free id a := a = "required" ∨ a = "disabled" ∨ a = "class" ∨
    a = "name" ∧ c.exclusion ≠ .disabling ∧ id ∈ [c.layout.text, c.layout.dropdown]
  refills k := k = c.layout.dropdown
  creates k := k = .option

private theorem free_required (id : NodeId) : c.leeway.free id "required" := .inl rfl

theorem free_disabled (id : NodeId) : c.leeway.free id "disabled" := .inr (.inl rfl)

theorem free_class (id : NodeId) : c.leeway.free id "class" := .inr (.inr (.inl rfl))

private theorem free_name {id : NodeId} (he : c.exclusion ≠ .disabling)
    (hid : id ∈ [c.layout.text, c.layout.dropdown]) : c.leeway.free id "name" :=
  .inr (.inr (.inr ⟨rfl, he, hid⟩))

/-- A form does no more to its document. -/
theorem within_evolves : c.Within (Document.Evolves c.leeway) where
  toFrame := Document.frame_evolves _
  setValue d id v _ := .setValue d id v
  lock d id b _ := .toggleAttribute (c.free_disabled id) (by decide) d b
  setName d id n he hid := .setAttribute (c.free_name he hid) (by decide) d n
  setDisabled d id b _ _ := .toggleAttribute (c.free_disabled id) (by decide) d b
  setRequired d id b _ := .toggleAttribute (c.free_required id) (by decide) d b
  setVisible d id b _ := .setShown d id b
  clearOptions d := .detach fun _ _ ho ↦ ⟨_, rfl, ho⟩
  appendOption d v := (Document.Evolves.insert rfl d _ _).trans (.settle _ _)
  showSection d id b _ := .setShown d id b

theorem evolves_handle (d : Document) (e : Event NodeId) :
    d.Evolves c.leeway (c.handle d e).surface :=
  c.within_evolves.handle (fun t k _ v ↦ .setValue t k v) d

theorem evolves_start (table : Table) (exclusion : Exclusion) (layout : Layout NodeId NodeId)
    (d : Document) : d.Evolves (start table exclusion layout d).controller.leeway
      (start table exclusion layout d).surface := by
  obtain ⟨mode, primed, hc⟩ := exists_controller_start table exclusion layout d
  rw [hc]
  exact (within_evolves
    { table, exclusion, layout, locked := prefilled layout d : Controller NodeId NodeId }).start

end Controller

end AccessForm
