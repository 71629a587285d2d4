import AccessForm.Proofs.Lockstep
import AccessForm.Proofs.Operations

/-!
# Households

The nodes of a document are shared out among some of its elements, the heads: every node is at home
with the nearest head above it, if there is one. A node that is taken out of the tree stays at home
where it was, and so do the nodes below it, so the way up from a node does not tell its home for
ever. What can be told from the tree is that a child of a head is at home with the head, and that
any other child is at home where its parent is (`Housed`).

A form writes to elements that are at home with its own element, and the elements that it creates
are at home there as well. Whatever it does keeps to this household (`within_keepsTo`): all other
nodes are the same, and in the same order.
-/

namespace AccessForm

namespace Document

/-! ## Homes -/

/-- Every node with a parent is at home where its parent says. -/
structure Housed (heads : NodeId → Bool) (home : NodeId → Option NodeId) (d : Document) : Prop where
  /-- A head is not at home with another head. -/
  head (r : NodeId) : heads r = true → home r = none
  /-- A child of a head is at home with the head, any other child where its parent is. -/
  child (n : Node) : n ∈ d.nodes → ∀ p ∈ n.parent, home n.id = if heads p then some p else home p

/-- The nearest head above a node. -/
def homeIn (heads : NodeId → Bool) (d : Document) (id : NodeId) : Option NodeId :=
  ((d.lineage id).drop 1).find? heads

variable {heads : NodeId → Bool} {home : NodeId → Option NodeId} {d d' : Document} {r : NodeId}

/-- Where heads are not below each other, all nodes are at home with the nearest head. -/
theorem housed_homeIn (hheads : ∀ r, heads r = true → (d.element? r).isSome = true)
    (hapart : ∀ r, heads r = true → homeIn heads d r = none) : d.Housed heads (homeIn heads d) where
  head := hapart
  child n hn p hp := by
    rw [homeIn, lineage_eq, find?_of_mem hn]
    simp only [Option.mem_def.mp hp, Option.map_some, Option.getD_some, List.drop_succ_cons,
      List.drop_zero]
    rw [homeIn, lineage_eq]
    cases hfind : d.find? p with
    | none =>
      have hp : heads p = false := by
        by_contra hp
        have hsome := hheads p (by simpa using hp)
        rw [element?, hfind] at hsome
        cases hsome
      simp [hp]
    | some m => rw [List.find?_cons, List.drop_succ_cons, List.drop_zero]; split <;> simp [*]

/-- The homes when one head gets all nodes that are still to come. -/
def withNew (home : NodeId → Option NodeId) (next r : NodeId) (id : NodeId) : Option NodeId :=
  if next ≤ id then some r else home id

theorem withNew_of_lt {next id : NodeId} (h : id < next) : withNew home next r id = home id :=
  if_neg (Nat.not_le.mpr h)

theorem withNew_of_le {next id : NodeId} (h : next ≤ id) : withNew home next r id = some r :=
  if_pos h

theorem withNew_of_ne {next r id : NodeId} (h : withNew home next r id ≠ some r) :
    withNew home next r id = home id := by
  refine withNew_of_lt (Nat.lt_of_not_le fun hle ↦ h ?_)
  exact withNew_of_le hle

/-- A node is a head or at home with it. -/
def Belongs (heads : NodeId → Bool) (home : NodeId → Option NodeId) (r k : NodeId) : Prop :=
  home k = some r ∨ k = r ∧ heads r = true

namespace Housed

theorem withNew (h : d.Housed heads home) (hheads : ∀ r, heads r = true → r < d.next) (r : NodeId) :
    d.Housed heads (withNew home d.next r) where
  head r' hr' := by
    rw [withNew_of_lt (hheads r' hr')]
    exact h.head r' hr'
  child n hn p hp := by
    obtain ⟨hlt, hparent⟩ := d.aged n hn
    rw [withNew_of_lt hlt, withNew_of_lt (Nat.lt_trans (hparent p hp) hlt)]
    exact h.child n hn p hp

theorem mapElements (h : d.Housed heads home) (f : Node → Element) :
    (d.mapElements f).Housed heads home where
  head := h.head
  child n hn p hp := by
    obtain ⟨m, hm, rfl⟩ := List.mem_map.mp hn
    exact h.child m hm p hp

theorem detach (h : d.Housed heads home) (out : Node → Bool) :
    (d.detach out).Housed heads home where
  head := h.head
  child n hn p hp := by
    obtain ⟨m, hm, rfl⟩ := List.mem_map.mp hn
    split at hp
    · cases hp
    · next hout =>
      rw [if_neg hout]
      exact h.child m hm p hp

private theorem not_head (h : d.Housed heads home) {k : NodeId} (hk : home k = some r) :
    heads k = false := by
  by_contra hhead
  rw [h.head k (by simpa using hhead)] at hk
  cases hk

theorem insert (h : d.Housed heads home) (hnew : home d.next = some r) {parent : NodeId}
    (hparent : Belongs heads home r parent) (behind : NodeId) (e : Element) :
    (d.insert parent behind e).Housed heads home where
  head := h.head
  child n hn p hp := by
    rw [Document.insert] at hn
    split at hn
    · rcases List.mem_cons.mp ((perm_insertBehindLast _ _ _).mem_iff.mp hn) with rfl | hn
      · cases hp
        rcases hparent with hparent | ⟨rfl, hr⟩
        · simp [hnew, h.not_head hparent, hparent]
        · simp [hnew, hr]
      · exact h.child n hn p hp
    · exact h.child n hn p hp

theorem home_of_parent (h : d.Housed heads home) {n : Node} (hn : n ∈ d.nodes) {p : NodeId}
    (hparent : n.parent = some p) (hp : Belongs heads home r p) : home n.id = some r := by
  rw [h.child n hn p hparent]
  rcases hp with hp | ⟨rfl, hr⟩
  · simp [h.not_head hp, hp]
  · simp [hr]

theorem belongs_parent (h : d.Housed heads home) {n : Node} (hn : n ∈ d.nodes) {p : NodeId}
    (hparent : n.parent = some p) (hhome : home n.id = some r) : Belongs heads home r p := by
  have hchild := h.child n hn p hparent
  rw [hhome] at hchild
  split at hchild
  · next hr =>
    cases hchild
    exact .inr ⟨rfl, hr⟩
  · exact .inl hchild.symm

private theorem home_of_isOptionOf (h : d.Housed heads home) {k : NodeId}
    (hk : Belongs heads home r k)
    {n : Node} (hn : n ∈ d.nodes) (hopt : isOptionOf k n = true) : home n.id = some r := by
  rw [isOptionOf, Bool.and_eq_true, beq_iff_eq] at hopt
  exact h.home_of_parent hn hopt.1 hk

theorem home_of_mem_lineage (h : d.Housed heads home) {a id : NodeId} (ha : home a = some r)
    (hmem : a ∈ d.lineage id) : home id = some r := by
  refine lineage_induction (P := fun i ↦ home i = some r) hmem (fun _ ↦ ha) ?_
  intro i n p hn hp ih
  have hhome := h.home_of_parent (mem_of_find? hn) hp (.inl ih)
  rwa [id_of_find? hn] at hhome

theorem belongs_of_mem_lineage (h : d.Housed heads home) (hr : heads r = true) {id : NodeId}
    (hmem : r ∈ d.lineage id) : Belongs heads home r id := by
  refine lineage_induction (P := Belongs heads home r) hmem (fun _ ↦ .inr ⟨rfl, hr⟩) ?_
  intro i n p hn hp ih
  have hhome := h.home_of_parent (mem_of_find? hn) hp ih
  rw [id_of_find? hn] at hhome
  exact .inl hhome

theorem home_of_isBelow (h : d.Housed heads home) (hr : heads r = true) {id : NodeId}
    (hbelow : d.isBelow r id = true) : home id = some r := by
  rw [isBelow, Bool.and_eq_true, bne_iff_ne, List.contains_iff_mem] at hbelow
  rcases h.belongs_of_mem_lineage hr hbelow.2 with hhome | ⟨heq, -⟩
  · exact hhome
  · exact absurd heq hbelow.1

end Housed

/-! ## Writes within a household -/

theorem filter_mapElements (q : NodeId → Bool) (d : Document) (f : Node → Element) :
    (d.mapElements f).nodes.filter (q ·.id) =
      (d.nodes.filter (q ·.id)).map fun n ↦ { n with element := f n } := by
  rw [Document.mapElements, List.filter_map]
  rfl

theorem filter_detach (q : NodeId → Bool) (d : Document) (out : Node → Bool) :
    (d.detach out).nodes.filter (q ·.id) =
      (d.nodes.filter (q ·.id)).map fun n ↦ if out n then { n with parent := none } else n := by
  rw [Document.detach, List.filter_map]
  refine congrArg _ (List.filter_congr fun n _ ↦ ?_)
  rw [Function.comp_apply]
  split <;> rfl

/-- At home with a head. -/
def inside (home : NodeId → Option NodeId) (r id : NodeId) : Bool := home id == some r

/-- A head, or at home with it. -/
def around (home : NodeId → Option NodeId) (r id : NodeId) : Bool := home id == some r || id == r

theorem inside_eq_true {id : NodeId} : inside home r id = true ↔ home id = some r := by
  simp [inside]

theorem around_self : around home r r = true := by
  simp [around]

theorem around_of_inside {id : NodeId} (h : inside home r id = true) :
    around home r id = true := by
  simp [around, inside_eq_true.mp h]

/-- The writes of someone who keeps to some nodes of a document, as long as all that is new is at
home with one head. -/
def KeepsTo (heads : NodeId → Bool) (home : NodeId → Option NodeId) (r : NodeId)
    (m : NodeId → Bool) (d d' : Document) : Prop :=
  d.Housed heads home → (∀ id, d.next ≤ id → home id = some r) →
    d'.Housed heads home ∧ d.next ≤ d'.next ∧
      d'.nodes.filter (!m ·.id) = d.nodes.filter (!m ·.id)

variable {m m' : NodeId → Bool}

theorem frame_keepsTo : Frame (KeepsTo heads home r m) where
  refl d h _ := ⟨h, Nat.le_refl _, rfl⟩
  trans {d d' d''} h h' hd hnew := by
    obtain ⟨hd', hle, heq⟩ := h hd hnew
    obtain ⟨hd'', hle', heq'⟩ := h' hd' fun id hid ↦ hnew id (Nat.le_trans hle hid)
    exact ⟨hd'', Nat.le_trans hle hle', heq'.trans heq⟩

namespace KeepsTo

/-- What is not changed is what is found outside of the nodes that may be. -/
theorem filter_eq {q : NodeId → Bool} {ns ns' : List Node} (hq : ∀ id, q id = true → m id = false)
    (h : ns'.filter (!m ·.id) = ns.filter (!m ·.id)) :
    ns'.filter (q ·.id) = ns.filter (q ·.id) := by
  have hfilter : ∀ ns : List Node, ns.filter (q ·.id) = (ns.filter (!m ·.id)).filter (q ·.id) := by
    intro ns
    rw [List.filter_filter]
    refine List.filter_congr fun n _ ↦ ?_
    by_cases hn : q n.id = true
    · simp [hn, hq n.id hn]
    · simp [hn]
  rw [hfilter ns', h, ← hfilter]

theorem mono (h : KeepsTo heads home r m d d') (hm : ∀ id, m id = true → m' id = true) :
    KeepsTo heads home r m' d d' := by
  intro hd hnew
  obtain ⟨hd', hle, heq⟩ := h hd hnew
  refine ⟨hd', hle, filter_eq (q := fun id ↦ !m' id) (fun id hid ↦ ?_) heq⟩
  by_contra hmid
  rw [hm id (by simpa using hmid)] at hid
  cases hid

private theorem mapElements {f : Node → Element} (hf : d.Housed heads home →
      ∀ n ∈ d.nodes, m n.id = false → f n = n.element) :
    KeepsTo heads home r m d (d.mapElements f) := by
  intro hd _
  refine ⟨hd.mapElements f, Nat.le_refl _, ?_⟩
  rw [filter_mapElements (fun id ↦ !m id), ← List.map_id (d.nodes.filter _), List.map_map]
  refine List.map_congr_left fun n hn ↦ ?_
  obtain ⟨hmem, hout⟩ := List.mem_filter.mp hn
  rw [Function.comp_apply, id, hf hd n hmem (by simpa using hout)]

theorem modify {k : NodeId} (hk : m k = true) (d : Document) (f : Element → Element) :
    KeepsTo heads home r m d (d.modify k f) := by
  refine mapElements fun _ n _ hout ↦ if_neg ?_
  rintro rfl
  rw [hk] at hout
  cases hout

private theorem detach {out : Node → Bool}
    (hout : d.Housed heads home → ∀ n ∈ d.nodes, out n = true → m n.id = true) :
    KeepsTo heads home r m d (d.detach out) := by
  intro hd _
  refine ⟨hd.detach out, Nat.le_refl _, ?_⟩
  rw [filter_detach (fun id ↦ !m id), ← List.map_id (d.nodes.filter _), List.map_map]
  refine List.map_congr_left fun n hn ↦ ?_
  obtain ⟨hmem, hkept⟩ := List.mem_filter.mp hn
  rw [Function.comp_apply, id, if_neg]
  intro hn'
  rw [hout hd n hmem hn'] at hkept
  cases hkept

variable (hm : ∀ id, home id = some r → m id = true)
include hm

theorem insert {parent : NodeId} (hparent : Belongs heads home r parent) (d : Document)
    (behind : NodeId) (e : Element) :
    KeepsTo heads home r m d (d.insert parent behind e) := by
  intro hd hnew
  have hnext : home d.next = some r := hnew d.next (Nat.le_refl _)
  refine ⟨hd.insert hnext hparent behind e, ?_, ?_⟩
  · rw [Document.insert]
    split
    · exact Nat.le_succ _
    · exact Nat.le_refl _
  · rw [Document.insert]
    split
    · exact filter_insertBehindLast (by simp [hm _ hnext]) _ _
    · rfl

private theorem mark {k : NodeId} (hk : Belongs heads home r k) (d : Document)
    (option : Option Node) : KeepsTo heads home r m d (d.mark k option) := by
  refine mapElements fun hd n hn hout ↦ if_neg fun hopt ↦ ?_
  rw [hm _ (hd.home_of_isOptionOf hk hn hopt)] at hout
  cases hout

theorem settle {k : NodeId} (hk : Belongs heads home r k) (d : Document) :
    KeepsTo heads home r m d (d.settle k) := by
  rw [Document.settle]
  split
  · exact mark hm hk _ _
  · exact frame_keepsTo.refl d

theorem setValue {k : NodeId} (hk : Belongs heads home r k) (hmk : m k = true) (d : Document)
    (v : String) : KeepsTo heads home r m d (d.setValue k v) := by
  rw [Document.setValue]
  split
  · exact modify hmk d _
  · split
    · exact mark hm hk _ _
    · exact frame_keepsTo.refl d

private theorem addChild {k : NodeId} (hk : Belongs heads home r k) (d : Document) (e : Element) :
    KeepsTo heads home r m d (d.addChild k e) :=
  frame_keepsTo.trans (insert hm hk d k e) (settle hm hk _)

theorem submit {latch : Latch NodeId} (hlatch : home latch.control = some r) (d : Document) :
    KeepsTo heads home r m d (latch.submit d).surface := by
  have hcontrol := hm _ hlatch
  rw [Latch.submit]
  split
  · exact frame_keepsTo.refl d
  · refine frame_keepsTo.trans (modify hcontrol d (·.toggleAttribute "disabled" true)) ?_
    simp only [SubmitSurface.setDisabled, SubmitSurface.addClass]
    split
    · exact frame_keepsTo.refl _
    · exact modify hcontrol _ (·.addClass latch.busyClass)

end KeepsTo

end Document

/-! ## Forms -/

/-- All elements of a form. -/
def Layout.elements {κ : Type} (l : Layout κ κ) : List κ :=
  l.controls ++ l.reason ++ l.argumentSections ++ l.reasonSections

theorem Layout.mem_elements_of_prefilled {σ κ : Type} [Surface σ κ κ] {l : Layout κ κ} {s : σ}
    {k : κ} (h : k ∈ Controller.prefilled l s) : k ∈ l.elements := by
  have hcontrol := mem_controls_of_selector (List.mem_filter.mp h).1
  simp [elements, hcontrol]

/-- All elements that a controller may write to. -/
def Controller.elements {κ : Type} (c : Controller κ κ) : List κ := c.layout.elements ++ c.locked

open Document in
/-- A form keeps to the household in which its elements are at home. -/
theorem Controller.within_keepsTo {c : Controller NodeId NodeId} {heads : NodeId → Bool}
    {home : NodeId → Option NodeId} {r : NodeId} (hc : ∀ k ∈ c.elements, home k = some r) :
    c.Within (KeepsTo heads home r (inside home r)) := by
  have hm : ∀ id, home id = some r → inside home r id = true := fun _ hid ↦ inside_eq_true.mpr hid
  have hfields : ∀ k ∈ [c.layout.text, c.layout.dropdown], home k = some r := by
    intro k hk
    refine hc k ?_
    rcases List.mem_pair.mp hk with rfl | rfl <;>
      simp [elements, Layout.elements, Layout.controls]
  have hmodify : ∀ {k}, home k = some r → ∀ (d : Document) f,
      KeepsTo heads home r (inside home r) d (d.modify k f) := fun hk d f ↦ .modify (hm _ hk) d f
  have hvalue : ∀ {k}, home k = some r → ∀ (d : Document) v,
      KeepsTo heads home r (inside home r) d (d.setValue k v) := fun hk d v ↦
    .setValue hm (.inl hk) (hm _ hk) d v
  exact {
    toFrame := frame_keepsTo
    setValue := fun d k v hk ↦ hvalue (hc k (by
      simp only [elements, Layout.elements, Layout.controls, List.mem_cons, List.mem_append] at hk ⊢
      tauto)) d v
    lock := fun d k b hk ↦ hmodify (hc k (by simp [elements, hk])) d _
    setName := fun d k n _ hk ↦ hmodify (hfields k hk) d _
    setDisabled := fun d k b _ hk ↦ hmodify (hfields k hk) d _
    setRequired := fun d k b hk ↦ hmodify (hfields k hk) d _
    setVisible := fun d k b hk ↦ hmodify (hfields k hk) d _
    clearOptions := fun d ↦ .detach fun hd n hn hopt ↦
      hm _ (hd.home_of_isOptionOf (.inl (hfields _ (by simp))) hn hopt)
    appendOption := fun d v ↦ .addChild hm (.inl (hfields _ (by simp))) d _
    showSection := fun d i b hi ↦ hmodify (hc i (by
      simp only [elements, Layout.elements, List.mem_append] at hi ⊢
      tauto)) d _ }

end AccessForm
