import AccessForm.Document.Element

/-!
# Documents

The elements of a page with their places. A document is a list of nodes in document order; the tree
is given by the parents. An element that is taken out of the tree stays in the list without a
parent, because scripts may still hold it.

Nodes are numbered in the order of their creation, so the number of a parent is smaller than those
of its children. This is what makes the way from a node up to its root finite.
-/

namespace AccessForm

/-- The number of a node. -/
abbrev NodeId := Nat

/-- An element with its place in the tree. -/
structure Node where
  /-- The number. -/
  id : NodeId
  /-- The node that this one is a child of. -/
  parent : Option NodeId
  /-- The element. -/
  element : Element
  deriving DecidableEq, Repr

/-- The nodes of a page. -/
structure Document where
  /-- The nodes in document order. -/
  nodes : List Node
  /-- The number of the next node. -/
  next : NodeId
  /-- No number is given twice. -/
  distinct : nodes.Pairwise (·.id ≠ ·.id)
  /-- Every node is older than the next one, and younger than its parent. -/
  aged : ∀ n ∈ nodes, n.id < next ∧ ∀ p ∈ n.parent, p < n.id
  deriving DecidableEq, Repr

namespace Document

/-- The document of one element. -/
def ofRoot (e : Element) : Document where
  nodes := [⟨0, none, e⟩]
  next := 1
  distinct := List.pairwise_singleton _ _
  aged := by simp

/-! ## Looking up -/

/-- The node with a number. -/
def find? (d : Document) (id : NodeId) : Option Node := d.nodes.find? (·.id == id)

/-- The element with a number. -/
def element? (d : Document) (id : NodeId) : Option Element := (d.find? id).map (·.element)

/-- The oldest node whose element has a key. -/
def findKey? (d : Document) (key : String) : Option NodeId :=
  ((d.nodes.filter (·.element.key == some key)).map (·.id)).min?

/-- What an element is used for. A number without element stands for nothing in particular. -/
def kind (d : Document) (id : NodeId) : ElementKind := ((d.element? id).map (·.kind)).getD .plain

/-- The children of a node, in order. -/
def children (d : Document) (id : NodeId) : List Node := d.nodes.filter (·.parent == some id)

/-- The sibling behind a node. -/
def nextSibling? (d : Document) (id : NodeId) : Option NodeId :=
  match (d.find? id).bind (·.parent) with
  | none => none
  | some p =>
    -- Siblings follow each other in document order, with everything below the first in between.
    ((((d.nodes.dropWhile (·.id != id)).drop 1).find? (·.parent == some p))).map (·.id)

theorem id_of_find? {d : Document} {id : NodeId} {n : Node} (h : d.find? id = some n) :
    n.id = id := by
  simpa using List.find?_some h

theorem mem_of_find? {d : Document} {id : NodeId} {n : Node} (h : d.find? id = some n) :
    n ∈ d.nodes := List.mem_of_find?_eq_some h

/-- The way from a node up to its root, both included. -/
def lineage (d : Document) (id : NodeId) : List NodeId :=
  match _h : d.find? id with
  | none => []
  | some n =>
    match _hp : n.parent with
    | none => [id]
    | some p => id :: d.lineage p
termination_by id
decreasing_by
  have := (d.aged n (mem_of_find? _h)).2 p _hp
  rwa [id_of_find? _h] at this

theorem lineage_eq (d : Document) (id : NodeId) :
    d.lineage id = match d.find? id with
      | none => []
      | some n => id :: (n.parent.map d.lineage).getD [] := by
  rw [lineage]
  split
  · next h => rw [h]
  · next n h =>
    rw [h]
    split
    · next hp => simp [hp]
    · next p hp => simp [hp]

/-- Whether a node is below another one. -/
def isBelow (d : Document) (root id : NodeId) : Bool := id != root && (d.lineage id).contains root

/-- The nodes below a node, in document order. -/
def descendants (d : Document) (root : NodeId) : List Node :=
  d.nodes.filter fun n ↦ d.isBelow root n.id

/-! ## Changing elements -/

/-- The document with other elements in the same places. -/
def mapElements (d : Document) (f : Node → Element) : Document where
  nodes := d.nodes.map fun n ↦ { n with element := f n }
  next := d.next
  distinct := List.pairwise_map.mpr d.distinct
  aged := by
    simp only [List.mem_map, forall_exists_index, and_imp]
    rintro _ n hn rfl
    exact d.aged n hn

/-- The document with one element changed. -/
def modify (d : Document) (id : NodeId) (f : Element → Element) : Document :=
  d.mapElements fun n ↦ if n.id = id then f n.element else n.element

@[simp] theorem find?_mapElements (d : Document) (f : Node → Element) (id : NodeId) :
    (d.mapElements f).find? id = (d.find? id).map fun n ↦ { n with element := f n } := by
  simp only [find?, mapElements, List.find?_map]
  rfl

@[simp] theorem lineage_mapElements (d : Document) (f : Node → Element) (id : NodeId) :
    (d.mapElements f).lineage id = d.lineage id := by
  fun_induction d.lineage id with
  | case1 id h =>
    rw [lineage_eq, find?_mapElements, h]
    rfl
  | case2 id n h hp =>
    rw [lineage_eq, find?_mapElements, h]
    simp [hp]
  | case3 id n h p hp ih =>
    rw [lineage_eq, find?_mapElements, h]
    simp [hp, ih]

/-- A changed element is the one with its number, and no other. -/
theorem element?_modify (d : Document) (id other : NodeId) (f : Element → Element) :
    (d.modify id f).element? other =
      if other = id then (d.element? other).map f else d.element? other := by
  unfold element? modify
  rw [find?_mapElements]
  cases h : d.find? other with
  | none => simp
  | some n =>
    have hn : n.id = other := id_of_find? h
    by_cases ho : other = id
    · simp [hn, ho]
    · simp [hn, ho]

@[simp] theorem lineage_modify (d : Document) (id other : NodeId) (f : Element → Element) :
    (d.modify id f).lineage other = d.lineage other := d.lineage_mapElements _ other

/-! ## Changing the tree -/

/-- Puts a node behind the last one of a kind, or at the end. -/
def insertBehindLast (new : Node) (p : Node → Bool) : List Node → List Node
  | [] => [new]
  | n :: ns => if p n && !ns.any p then n :: new :: ns else n :: insertBehindLast new p ns

theorem perm_insertBehindLast (new : Node) (p : Node → Bool) (ns : List Node) :
    (insertBehindLast new p ns).Perm (new :: ns) := by
  fun_induction insertBehindLast new p ns with
  | case1 => exact .refl _
  | case2 n ns => exact .swap _ _ _
  | case3 n ns _ ih => exact (ih.cons n).trans (.swap _ _ _)

theorem find?_insertBehindLast_of_ne {new : Node} {id : NodeId} (h : new.id ≠ id)
    (p : Node → Bool) (ns : List Node) :
    (insertBehindLast new p ns).find? (·.id == id) = ns.find? (·.id == id) := by
  have hnew : (new.id == id) = false := beq_eq_false_iff_ne.mpr h
  fun_induction insertBehindLast new p ns with
  | case1 => simp [hnew]
  | case2 n ns => simp only [List.find?_cons, hnew]
  | case3 n ns _ ih => simp only [List.find?_cons, ih]

/-- A new node with a parent in the document, behind everything in and below another node. -/
def insert (d : Document) (parent behind : NodeId) (e : Element) : Document :=
  if h : parent < d.next then
    have perm := perm_insertBehindLast ⟨d.next, some parent, e⟩
      (fun n ↦ (d.lineage n.id).contains behind) d.nodes
    { nodes := insertBehindLast ⟨d.next, some parent, e⟩
        (fun n ↦ (d.lineage n.id).contains behind) d.nodes
      next := d.next + 1
      distinct := by
        refine (perm.pairwise_iff fun h ↦ Ne.symm h).mpr (List.pairwise_cons.mpr ⟨?_, d.distinct⟩)
        intro n hn
        exact Nat.ne_of_gt (d.aged n hn).1
      aged := by
        intro n hn
        rcases List.mem_cons.mp (perm.mem_iff.mp hn) with rfl | hn
        · exact ⟨Nat.lt_succ_self _, fun p hp ↦ Option.some.inj hp ▸ h⟩
        · exact ⟨Nat.lt_succ_of_lt (d.aged n hn).1, (d.aged n hn).2⟩ }
  else d

theorem find?_insert_of_lt {d : Document} {id : NodeId} (h : id < d.next)
    (parent behind : NodeId) (e : Element) : (d.insert parent behind e).find? id = d.find? id := by
  unfold insert
  split
  · exact find?_insertBehindLast_of_ne (Nat.ne_of_gt h) _ _
  · rfl

/-- A new last child of a node. -/
def appendChild (d : Document) (parent : NodeId) (e : Element) : Document :=
  d.insert parent parent e

/-- A new sibling right behind a node. -/
def insertAfter (d : Document) (sibling : NodeId) (e : Element) : Document :=
  match (d.find? sibling).bind (·.parent) with
  | some parent => d.insert parent sibling e
  | none => d

/-- Takes nodes out of the tree, with everything below them. -/
def detach (d : Document) (out : Node → Bool) : Document where
  nodes := d.nodes.map fun n ↦ if out n then { n with parent := none } else n
  next := d.next
  distinct := by
    refine List.pairwise_map.mpr (d.distinct.imp fun {a b} h ↦ ?_)
    split <;> split <;> exact h
  aged := by
    simp only [List.mem_map, forall_exists_index, and_imp]
    rintro _ n hn rfl
    have := d.aged n hn
    split
    · exact ⟨this.1, nofun⟩
    · exact this

end Document

end AccessForm
