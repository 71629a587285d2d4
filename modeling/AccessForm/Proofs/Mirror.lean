import AccessForm.Proofs.Household
import Mathlib.Data.List.Find
import Mathlib.Order.Monotone.Basic

/-!
# Mirrored households

Two documents that may have nothing in common but the household of one head, and even there the
numbers of the nodes may differ: the one household is the other one under other numbers. Whatever
is found in the one is found in the other, and a write to both leaves them mirrored. New nodes get
the next number on both sides, so the renumbering is the same from the beginning to the end; it
leaves the old nodes alone and moves all new ones by the same distance.

Hence the binding of a form does not depend on the rest of the page (`lockstep_inStep`): documents
with mirrored households are surfaces in lockstep for every form in the household.
-/

namespace AccessForm

/-- A node under other numbers. -/
def Node.renumber (φ : NodeId → NodeId) (n : Node) : Node :=
  ⟨φ n.id, n.parent.map φ, n.element⟩

namespace Document

/-- The nodes that are at home with a head, in document order. -/
def household (d : Document) (home : NodeId → Option NodeId) (r : NodeId) : List Node :=
  d.nodes.filter (home ·.id == some r)

theorem mem_household {d : Document} {home : NodeId → Option NodeId} {r : NodeId} {n : Node} :
    n ∈ d.household home r ↔ n ∈ d.nodes ∧ home n.id = some r := by
  rw [household, List.mem_filter, beq_iff_eq]

theorem household_mapElements (d : Document) (home : NodeId → Option NodeId) (r : NodeId)
    (f : Node → Element) : (d.mapElements f).household home r =
      (d.household home r).map fun n ↦ { n with element := f n } :=
  filter_mapElements (home · == some r) d f

private theorem household_detach (d : Document) (home : NodeId → Option NodeId) (r : NodeId)
    (out : Node → Bool) : (d.detach out).household home r =
      (d.household home r).map fun n ↦ if out n then { n with parent := none } else n :=
  filter_detach (home · == some r) d out

private theorem filter_insertBehindLast_of_mem {new : Node} {p q : Node → Bool} {ns : List Node}
    (hnew : q new = true) (hp : ∀ n ∈ ns, p n = true → q n = true) :
    (insertBehindLast new p ns).filter q = insertBehindLast new p (ns.filter q) := by
  induction ns with
  | nil => simp [insertBehindLast, hnew]
  | cons n ns ih =>
    obtain ⟨hn, hns⟩ := List.forall_mem_cons.mp hp
    have hany : (ns.filter q).any p = ns.any p := by
      rw [List.any_filter, Bool.eq_iff_iff, List.any_eq_true, List.any_eq_true]
      refine exists_congr fun m ↦ and_congr_right fun hm ↦ ?_
      simpa using hns m hm
    rw [insertBehindLast]
    split
    · next hlast =>
      have hq : q n = true := hn (Bool.and_eq_true_iff.mp hlast).1
      rw [List.filter_cons_of_pos hq, List.filter_cons_of_pos hnew, List.filter_cons_of_pos hq,
        insertBehindLast, hany, if_pos hlast]
    · next hlast =>
      by_cases hq : q n = true
      · rw [List.filter_cons_of_pos hq, List.filter_cons_of_pos hq, insertBehindLast, hany,
          if_neg hlast, ih hns]
      · rw [List.filter_cons_of_neg hq, List.filter_cons_of_neg hq, ih hns]

theorem map_insertBehindLast {new : Node} {p q : Node → Bool} {f : Node → Node} {ns : List Node}
    (hp : ∀ n ∈ ns, q (f n) = p n) :
    (insertBehindLast new p ns).map f = insertBehindLast (f new) q (ns.map f) := by
  induction ns with
  | nil => rfl
  | cons n ns ih =>
    obtain ⟨hn, hns⟩ := List.forall_mem_cons.mp hp
    have hany : (ns.map f).any q = ns.any p := by
      rw [List.any_map, Bool.eq_iff_iff, List.any_eq_true, List.any_eq_true]
      refine exists_congr fun m ↦ and_congr_right fun hm ↦ ?_
      rw [Function.comp_apply, hns m hm]
    rw [insertBehindLast, List.map_cons, insertBehindLast, hn, hany]
    split
    · rfl
    · rw [List.map_cons, ih hns]

/-- A new node takes its place in the household behind the last one below the given node. -/
theorem household_insert {heads : NodeId → Bool} {home : NodeId → Option NodeId} {r : NodeId}
    {d : Document} (hd : d.Housed heads home) (hnew : home d.next = some r)
    {parent behind : NodeId} (hbehind : home behind = some r) (hlt : parent < d.next)
    (e : Element) : (d.insert parent behind e).household home r =
      insertBehindLast ⟨d.next, some parent, e⟩ (fun n ↦ (d.lineage n.id).contains behind)
        (d.household home r) := by
  rw [household, Document.insert, dif_pos hlt]
  refine filter_insertBehindLast_of_mem (by simp [hnew]) fun n _ hn ↦ ?_
  rw [List.contains_iff_mem] at hn
  rw [hd.home_of_mem_lineage hbehind hn, beq_self_eq_true]

/-- Numbers from a limit on are moved up. -/
def shift (limit distance id : Nat) : Nat := if id < limit then id else id + distance

theorem shift_of_lt {limit distance id : Nat} (h : id < limit) : shift limit distance id = id :=
  if_pos h

theorem shift_of_le {limit distance id : Nat} (h : limit ≤ id) :
    shift limit distance id = id + distance :=
  if_neg (Nat.not_lt.mpr h)

theorem strictMono_shift (limit distance : Nat) : StrictMono (shift limit distance) := by
  intro a b hab
  unfold shift
  split <;> split <;> omega

/-- The household of a head is the same in two documents, under other numbers. -/
structure Mirrors (heads : NodeId → Bool) (r : NodeId) (φ : NodeId → NodeId)
    (home : NodeId → Option NodeId) (d : Document) (home' : NodeId → Option NodeId)
    (d' : Document) : Prop where
  /-- The nodes of the one document are shared out. -/
  housed : d.Housed heads home
  /-- So are those of the other. -/
  housed' : d'.Housed heads home'
  /-- The households are the same. -/
  household : d'.household home' r = (d.household home r).map (·.renumber φ)
  /-- The order of the numbers is the same. -/
  mono : StrictMono φ
  /-- The head is one. -/
  isHead : heads r = true
  /-- It is the same in both documents. -/
  head : φ r = r

namespace Mirrors

variable {heads : NodeId → Bool} {r : NodeId} {φ : NodeId → NodeId}
  {home home' : NodeId → Option NodeId} {d d' : Document}

/-! ## What is found -/

section

variable (h : Mirrors heads r φ home d home' d')
include h

private theorem beq_eq (a b : NodeId) : (φ a == φ b) = (a == b) := by
  by_cases hab : a = b
  · simp [hab]
  · simp [hab, h.mono.injective.ne hab]

private theorem find? {k : NodeId} (hk : home k = some r) (hk' : home' (φ k) = some r) :
    d'.find? (φ k) = (d.find? k).map (·.renumber φ) := by
  have hleft : d.find? k = (d.household home r).find? (·.id == k) := by
    rw [Document.find?, Document.household, List.find?_filter]
    refine List.find?_congr fun n _ ↦ ?_
    by_cases hn : n.id = k <;> simp [hn, hk]
  have hright : d'.find? (φ k) = (d'.household home' r).find? (·.id == φ k) := by
    rw [Document.find?, Document.household, List.find?_filter]
    refine List.find?_congr fun n _ ↦ ?_
    by_cases hn : n.id = φ k <;> simp [hn, hk']
  rw [hleft, hright, h.household, List.find?_map]
  refine congrArg _ (List.find?_congr fun n _ ↦ ?_)
  exact h.beq_eq n.id k

theorem element? {k : NodeId} (hk : home k = some r) (hk' : home' (φ k) = some r) :
    d'.element? (φ k) = d.element? k := by
  rw [Document.element?, h.find? hk hk', Document.element?, Option.map_map]
  rfl

private theorem kind {k : NodeId} (hk : home k = some r) (hk' : home' (φ k) = some r) :
    d'.kind (φ k) = d.kind k := by
  rw [Document.kind, h.element? hk hk', Document.kind]

private theorem filter_parent {k : NodeId} (hk : Belongs heads home r k)
    (hk' : Belongs heads home' r (φ k)) {p q : Node → Bool}
    (hp : ∀ n : Node, q (n.renumber φ) = p n) :
    d'.nodes.filter (fun n ↦ n.parent == some (φ k) && q n) =
      (d.nodes.filter fun n ↦ n.parent == some k && p n).map (·.renumber φ) := by
  have hleft : d.nodes.filter (fun n ↦ n.parent == some k && p n) =
      (d.household home r).filter fun n ↦ n.parent == some k && p n := by
    rw [Document.household, List.filter_filter]
    refine List.filter_congr fun n hn ↦ ?_
    by_cases hparent : n.parent = some k
    · simp [hparent, h.housed.home_of_parent hn hparent hk]
    · simp [hparent]
  have hright : d'.nodes.filter (fun n ↦ n.parent == some (φ k) && q n) =
      (d'.household home' r).filter fun n ↦ n.parent == some (φ k) && q n := by
    rw [Document.household, List.filter_filter]
    refine List.filter_congr fun n hn ↦ ?_
    by_cases hparent : n.parent = some (φ k)
    · simp [hparent, h.housed'.home_of_parent hn hparent hk']
    · simp [hparent]
  rw [hleft, hright, h.household, List.filter_map]
  refine congrArg _ (List.filter_congr fun n _ ↦ ?_)
  rw [Function.comp_apply, hp]
  cases hparent : n.parent with
  | none => simp [Node.renumber, hparent]
  | some i => simp [Node.renumber, hparent, h.beq_eq]

theorem children {k : NodeId} (hk : Belongs heads home r k) (hk' : Belongs heads home' r (φ k)) :
    d'.children (φ k) = (d.children k).map (·.renumber φ) := by
  have hall := h.filter_parent (p := fun _ ↦ true) (q := fun _ ↦ true) hk hk' fun _ ↦ rfl
  simp only [Bool.and_true] at hall
  exact hall

private theorem options {k : NodeId} (hk : Belongs heads home r k)
    (hk' : Belongs heads home' r (φ k)) : d'.options (φ k) = (d.options k).map (·.renumber φ) :=
  h.filter_parent hk hk' fun _ ↦ rfl

private theorem isOptionOf (k : NodeId) (n : Node) :
    Document.isOptionOf (φ k) (n.renumber φ) = Document.isOptionOf k n := by
  rw [Document.isOptionOf, Document.isOptionOf]
  cases hparent : n.parent with
  | none => simp [Node.renumber, hparent]
  | some q => simp [Node.renumber, hparent, h.beq_eq]

theorem value {k : NodeId} (hk : home k = some r) (hk' : home' (φ k) = some r) :
    d'.value (φ k) = d.value k := by
  rw [Document.value, Document.value, h.element? hk hk', h.options (.inl hk) (.inl hk'),
    List.find?_map, Option.map_map]
  rfl

private theorem favourite? {k : NodeId} (hk : Belongs heads home r k)
    (hk' : Belongs heads home' r (φ k)) :
    d'.favourite? (φ k) = (d.favourite? k).map (·.renumber φ) := by
  have hchosen : ((d.options k).map (·.renumber φ)).filter (·.element.chosen) =
      ((d.options k).filter (·.element.chosen)).map (·.renumber φ) := by
    rw [List.filter_map]
    rfl
  rw [Document.favourite?, Document.favourite?, h.options hk hk', hchosen, List.getLast?_map,
    List.head?_map, Option.map_or]

/-- Ways up from nodes of the household agree about a node if those from the head do. -/
theorem contains_lineage {a : NodeId}
    (ha : (d'.lineage r).contains (φ a) = (d.lineage r).contains a)
    {n : Node} (hn : n ∈ d.household home r) :
    (d'.lineage (φ n.id)).contains (φ a) = (d.lineage n.id).contains a := by
  generalize hid : n.id = id
  induction id using Nat.strongRecOn generalizing n with
  | ind id ih =>
    obtain ⟨hmem, hhome⟩ := mem_household.mp hn
    have hn' : n.renumber φ ∈ d'.household home' r := h.household ▸ List.mem_map_of_mem hn
    obtain ⟨hmem', hhome'⟩ := mem_household.mp hn'
    rw [← hid, lineage_eq, lineage_eq, find?_of_mem hmem,
      show d'.find? (φ n.id) = some (n.renumber φ) from find?_of_mem hmem']
    cases hparent : n.parent with
    | none => simp [Node.renumber, hparent, h.mono.injective.eq_iff]
    | some p =>
      have hparent' : (n.renumber φ).parent = some (φ p) := by rw [Node.renumber, hparent]; rfl
      have hrest : (d'.lineage (φ p)).contains (φ a) = (d.lineage p).contains a := by
        rcases h.housed.belongs_parent hmem hparent hhome with hp | ⟨rfl, -⟩
        · have hp' : home' (φ p) = some r := by
            rcases h.housed'.belongs_parent hmem' hparent' hhome' with hp' | ⟨heq, -⟩
            · exact hp'
            · -- then the parent would be the head, which is not at home anywhere
              rw [h.mono.injective (heq.trans h.head.symm), h.housed.head r h.isHead] at hp
              cases hp
          cases hfind : d.find? p with
          | none =>
            rw [lineage_eq, lineage_eq, h.find? hp hp', hfind]
            rfl
          | some m =>
            have hm : m ∈ d.household home r :=
              mem_household.mpr ⟨mem_of_find? hfind, by rwa [id_of_find? hfind]⟩
            refine ih p ?_ hm (id_of_find? hfind)
            rw [← hid]
            exact (d.aged n hmem).2 p hparent
        · rwa [h.head]
      simp only [hparent, hparent', Option.map_some, Option.getD_some, List.contains_cons, hrest,
        h.beq_eq]

private theorem contains_lineage_head {a : NodeId} (ha : home a = some r)
    (ha' : home' (φ a) = some r) : (d'.lineage r).contains (φ a) = (d.lineage r).contains a := by
  have hnone : ∀ {home d b}, Document.Housed heads home d → home b = some r →
      (d.lineage r).contains b = false := by
    intro home d b hd hb
    rw [← Bool.not_eq_true, List.contains_iff_mem]
    intro hmem
    have hhead := hd.home_of_mem_lineage hb hmem
    rw [hd.head r h.isHead] at hhead
    cases hhead
  rw [hnone h.housed ha, hnone h.housed' ha']

theorem descendants (hroot : (d.find? r).isSome = true) (hroot' : (d'.find? r).isSome = true) :
    d'.descendants r = (d.descendants r).map (·.renumber φ) := by
  have hself : ∀ {d : Document}, (d.find? r).isSome = true → (d.lineage r).contains r = true := by
    intro d hsome
    obtain ⟨n, hn⟩ := Option.isSome_iff_exists.mp hsome
    exact List.contains_iff_mem.mpr (mem_lineage_iff.mpr ⟨n, hn, .inl rfl⟩)
  have hhead : (d'.lineage r).contains (φ r) = (d.lineage r).contains r := by
    rw [h.head, hself hroot, hself hroot']
  have hbelow : ∀ {home d}, Document.Housed heads home d →
      d.descendants r = (d.household home r).filter fun n ↦ d.isBelow r n.id := by
    intro home d hd
    rw [Document.descendants, Document.household, List.filter_filter]
    refine List.filter_congr fun n _ ↦ ?_
    by_cases hbelow : d.isBelow r n.id = true
    · simp [hbelow, hd.home_of_isBelow h.isHead hbelow]
    · simp [hbelow]
  rw [hbelow h.housed, hbelow h.housed', h.household, List.filter_map]
  refine congrArg _ (List.filter_congr fun n hn ↦ ?_)
  have hlineage := h.contains_lineage hhead hn
  have hid := h.beq_eq n.id r
  rw [h.head] at hlineage hid
  show d'.isBelow r (φ n.id) = d.isBelow r n.id
  rw [isBelow, isBelow, hlineage, bne, bne, hid]

/-- What is found below the head is the same. -/
theorem query (hroot : (d.find? r).isSome = true) (hroot' : (d'.find? r).isSome = true)
    (s : Selector) : d'.query r s = (d.query r s).map (·.renumber φ) := by
  rw [Document.query, h.descendants hroot hroot', List.filter_map]
  rfl

theorem queryFirst? (hroot : (d.find? r).isSome = true) (hroot' : (d'.find? r).isSome = true)
    (s : Selector) : d'.queryFirst? r s = (d.queryFirst? r s).map (·.renumber φ) := by
  rw [Document.queryFirst?, h.query hroot hroot', List.head?_map, Document.queryFirst?]

theorem queryKind (hroot : (d.find? r).isSome = true) (hroot' : (d'.find? r).isSome = true)
    (s : Selector) (p : ElementKind → Bool) :
    d'.queryKind r s p = (d.queryKind r s p).map φ := by
  rw [Document.queryKind, h.query hroot hroot', List.filter_map, List.map_map, Document.queryKind,
    List.map_map]
  rfl

end

end Mirrors

/-! ## What is written -/

/-- Mirrored households of which the next node will be the same as well. -/
structure InStep (heads : NodeId → Bool) (r : NodeId) (φ : NodeId → NodeId)
    (home : NodeId → Option NodeId) (home' : NodeId → Option NodeId) (d d' : Document) : Prop
    extends Mirrors heads r φ home d home' d' where
  /-- What is at home with the head has a counterpart that is. -/
  owner (k : NodeId) : home k = some r → home' (φ k) = some r
  /-- The next numbers are counterparts. -/
  next : d'.next = φ d.next
  /-- So are all later ones. -/
  succ (id : NodeId) : d.next ≤ id → φ (id + 1) = φ id + 1
  /-- What is new belongs to the household. -/
  new (id : NodeId) : d.next ≤ id → home id = some r
  /-- On both sides. -/
  new' (id : NodeId) : d'.next ≤ id → home' id = some r

namespace InStep

variable {heads : NodeId → Bool} {r : NodeId} {φ : NodeId → NodeId}
  {home home' : NodeId → Option NodeId} {d d' : Document}
  (h : InStep heads r φ home home' d d')
include h

private theorem belongs {k : NodeId} (hk : Belongs heads home r k) :
    Belongs heads home' r (φ k) := by
  rcases hk with hk | ⟨rfl, hr⟩
  · exact .inl (h.owner k hk)
  · exact .inr ⟨h.head, hr⟩

private theorem mapElements {f f' : Node → Element}
    (hf : ∀ n ∈ d.household home r, f' (n.renumber φ) = f n) :
    InStep heads r φ home home' (d.mapElements f) (d'.mapElements f') := by
  refine { h with
    housed := h.housed.mapElements f
    housed' := h.housed'.mapElements f'
    household := ?_ }
  rw [household_mapElements, household_mapElements, h.household, List.map_map, List.map_map]
  refine List.map_congr_left fun n hn ↦ ?_
  rw [Function.comp_apply, Function.comp_apply, hf n hn]
  rfl

theorem modify (k : NodeId) (f : Element → Element) :
    InStep heads r φ home home' (d.modify k f) (d'.modify (φ k) f) := by
  refine h.mapElements fun n _ ↦ ?_
  by_cases hn : n.id = k
  · simp [Node.renumber, hn]
  · simp [Node.renumber, hn, h.mono.injective.eq_iff]

private theorem mark (k : NodeId) (option : Option Node) : InStep heads r φ home home'
    (d.mark k option) (d'.mark (φ k) (option.map (·.renumber φ))) := by
  refine h.mapElements fun n _ ↦ ?_
  rw [h.isOptionOf]
  split
  · have hsame : (some (φ n.id) == (option.map (·.renumber φ)).map (·.id)) =
        (some n.id == option.map (·.id)) := by
      cases option with
      | none => rfl
      | some o => exact h.beq_eq n.id o.id
    exact congrArg (fun b ↦ { n.element with chosen := b }) hsame
  · rfl

private theorem settle {k : NodeId} (hk : Belongs heads home r k)
    (hkind : d'.kind (φ k) = d.kind k) :
    InStep heads r φ home home' (d.settle k) (d'.settle (φ k)) := by
  rw [Document.settle, Document.settle, hkind, h.favourite? hk (h.belongs hk)]
  split
  · exact h.mark k _
  · exact h

private theorem choose {k : NodeId} (hk : home k = some r) (v : String) :
    InStep heads r φ home home' (d.choose k v) (d'.choose (φ k) v) := by
  have hfound : (d'.options (φ k)).find? (·.element.optionValue == v) =
      ((d.options k).find? (·.element.optionValue == v)).map (·.renumber φ) := by
    rw [h.options (.inl hk) (.inl (h.owner k hk)), List.find?_map]
    rfl
  rw [Document.choose, Document.choose, hfound]
  exact h.mark k _

private theorem setValue {k : NodeId} (hk : home k = some r) (v : String) :
    InStep heads r φ home home' (d.setValue k v) (d'.setValue (φ k) v) := by
  rw [Document.setValue, Document.setValue, h.kind hk (h.owner k hk)]
  split
  · exact h.modify k _
  · split
    · exact h.choose hk v
    · exact h

private theorem clearOptions (k : NodeId) : InStep heads r φ home home'
    (d.detach (isOptionOf k)) (d'.detach (isOptionOf (φ k))) := by
  refine { h with
    housed := h.housed.detach _
    housed' := h.housed'.detach _
    household := ?_ }
  rw [household_detach, household_detach, h.household, List.map_map, List.map_map]
  refine List.map_congr_left fun n _ ↦ ?_
  rw [Function.comp_apply, Function.comp_apply, h.isOptionOf]
  split
  · rfl
  · rfl

private theorem insert {parent behind : NodeId} (hparent : Belongs heads home r parent)
    (hbehind : home behind = some r) (e : Element) : InStep heads r φ home home'
      (d.insert parent behind e) (d'.insert (φ parent) (φ behind) e) := by
  have hnew := h.new d.next (Nat.le_refl _)
  have hnew' := h.new' d'.next (Nat.le_refl _)
  by_cases hlt : parent < d.next
  · have hlt' : φ parent < d'.next := by rw [h.next]; exact h.mono hlt
    have hnext : (d.insert parent behind e).next = d.next + 1 := by
      rw [Document.insert, dif_pos hlt]
    have hnext' : (d'.insert (φ parent) (φ behind) e).next = d'.next + 1 := by
      rw [Document.insert, dif_pos hlt']
    have hle : d.next ≤ (d.insert parent behind e).next := hnext ▸ Nat.le_succ _
    have hle' : d'.next ≤ (d'.insert (φ parent) (φ behind) e).next := hnext' ▸ Nat.le_succ _
    refine { h with
      housed := h.housed.insert hnew hparent behind e
      housed' := h.housed'.insert hnew' (h.belongs hparent) (φ behind) e
      household := ?_
      next := ?_
      succ := fun id hid ↦ h.succ id (Nat.le_trans hle hid)
      new := fun id hid ↦ h.new id (Nat.le_trans hle hid)
      new' := fun id hid ↦ h.new' id (Nat.le_trans hle' hid) }
    · rw [household_insert h.housed hnew hbehind hlt,
        household_insert h.housed' hnew' (h.owner behind hbehind) hlt', h.household]
      have hlineage : ∀ n ∈ d.household home r, (d'.lineage (n.renumber φ).id).contains (φ behind) =
          (d.lineage n.id).contains behind := fun n hn ↦
        h.contains_lineage (h.contains_lineage_head hbehind (h.owner behind hbehind)) hn
      rw [map_insertBehindLast (q := fun n ↦ (d'.lineage n.id).contains (φ behind)) hlineage,
        Node.renumber, h.next]
      rfl
    · rw [hnext, hnext', h.succ d.next (Nat.le_refl _), h.next]
  · have hlt' : ¬ φ parent < d'.next := by rwa [h.next, h.mono.lt_iff_lt]
    rw [Document.insert, dif_neg hlt, Document.insert, dif_neg hlt']
    exact h

private theorem addChild {k : NodeId} (hk : home k = some r) (e : Element) :
    InStep heads r φ home home' (d.addChild k e) (d'.addChild (φ k) e) := by
  have hinsert := h.insert (.inl hk) hk e
  exact hinsert.settle (.inl hk) (hinsert.kind hk (h.owner k hk))

/-- A new sibling. Its parent may be the head itself, which is of the same kind on both sides. -/
theorem addSibling {k : NodeId} (hk : home k = some r) (hr : r < d.next) (hr' : r < d'.next)
    (hkind : d'.kind r = d.kind r) (e : Element) :
    InStep heads r φ home home' (d.addSibling k e) (d'.addSibling (φ k) e) := by
  have hparents : (d'.find? (φ k)).bind (·.parent) = ((d.find? k).bind (·.parent)).map φ := by
    rw [h.find? hk (h.owner k hk)]
    cases d.find? k <;> rfl
  cases hfind : (d.find? k).bind (·.parent) with
  | none =>
    simp only [Document.addSibling, hparents, hfind, Option.map_none]
    exact h
  | some p =>
    obtain ⟨n, hn, hparent⟩ := Option.bind_eq_some_iff.mp hfind
    have hp : Belongs heads home r p :=
      h.housed.belongs_parent (mem_of_find? hn) hparent (by rwa [id_of_find? hn])
    have hinsert := h.insert hp hk e
    simp only [Document.addSibling, Document.insertAfter, hparents, hfind, Option.map_some]
    refine hinsert.settle hp ?_
    rcases hp with hp | ⟨rfl, -⟩
    · exact hinsert.kind hp (h.owner p hp)
    · rw [h.head, Document.kind, Document.element?, find?_insert_of_lt hr', Document.kind,
        Document.element?, find?_insert_of_lt hr]
      exact hkind

end InStep

/-- For a form in the household, two mirrored documents are surfaces in lockstep. -/
theorem lockstep_inStep {heads : NodeId → Bool} {r : NodeId} {φ : NodeId → NodeId}
    {home home' : NodeId → Option NodeId} {l : Layout NodeId NodeId}
    (hcontrols : ∀ k ∈ l.controls, home k = some r) :
    Lockstep φ φ l (InStep heads r φ home home') where
  value h k hk := h.value (hcontrols k hk) (h.owner k (hcontrols k hk))
  name h k hk := by
    simp only [Surface.name]
    rw [h.element? (hcontrols k hk) (h.owner k (hcontrols k hk))]
  isDisabled h k hk := by
    simp only [Surface.isDisabled]
    rw [h.element? (hcontrols k hk) (h.owner k (hcontrols k hk))]
  options h k hk := by
    simp only [Surface.options]
    rw [h.options (.inl (hcontrols k hk)) (.inl (h.owner k (hcontrols k hk))), List.map_map]
    rfl
  setValue h k hk v := h.setValue (hcontrols k hk) v
  setName h k _ n := h.modify k (·.setAttribute "name" n)
  setRequired h k _ b := h.modify k (·.toggleAttribute "required" b)
  setDisabled h k _ b := h.modify k (·.toggleAttribute "disabled" b)
  setVisible h k _ b := h.modify k (·.setShown b)
  clearOptions h := h.clearOptions l.dropdown
  appendOption h v := h.addChild (hcontrols l.dropdown (by simp [Layout.controls])) (.newOption v)
  showSection h i _ b := h.modify i (·.setShown b)

end Document

end AccessForm
