import AccessForm.Proofs.Mirror

/-!
# Outlines

A site as those see it who do not know the numbers of the nodes: a tree of elements, each with what
is registered on it. Two sites on which the same was done in a different order number their new
nodes differently, but they have the same outline.

On an element the order of the registrations counts, with one exception: a guard may have come to
hear of submissions before the form of the same element or after it. So latches are only counted.
-/

namespace AccessForm

/-- An element with its listeners and everything below it. -/
inductive Outline where
  | node (element : Option Element) (heard : List Reaction) (latches : Nat) (inner : List Outline)

namespace Site

/-- The reactions that some listeners have on a node, in the order of their registration. -/
def reactionsAt (ls : List Listener) (id : NodeId) : List Reaction :=
  (ls.filter (·.target == id)).map (·.reaction)

/-- The reactions that are registered on a node. -/
def hears (s : Site) (id : NodeId) : List Reaction := reactionsAt s.listeners id

/-- The outline of a node. -/
def outline (s : Site) (id : NodeId) : Outline :=
  .node (s.document.element? id) ((s.hears id).filter (· != .latch)) ((s.hears id).count .latch)
    ((s.document.children id).attach.map fun n ↦ s.outline n.1.id)
termination_by s.document.next - id
decreasing_by
  -- a child has a higher number, and no number is higher than the next one
  obtain ⟨hmem, hparent⟩ := List.mem_filter.mp n.2
  obtain ⟨hlt, hage⟩ := s.document.aged n.1 hmem
  have hid : id < n.1.id := hage id (by simpa using hparent)
  exact Nat.sub_lt_sub_left (Nat.lt_trans hid hlt) hid

theorem outline_eq (s : Site) (id : NodeId) : s.outline id =
    .node (s.document.element? id) ((s.hears id).filter (· != .latch))
      ((s.hears id).count .latch) ((s.document.children id).map fun n ↦ s.outline n.id) := by
  rw [outline, List.attach_map_val (f := fun n : Node ↦ s.outline n.id)]

/-- Nodes have the same outline if they are alike and have children with the same outlines. -/
theorem outline_congr {s s' : Site} {id id' : NodeId}
    (helement : s'.document.element? id' = s.document.element? id)
    (hheard : (s'.hears id').filter (· != .latch) = (s.hears id).filter (· != .latch))
    (hlatches : (s'.hears id').count .latch = (s.hears id).count .latch)
    (hinner : (s'.document.children id').map (fun n ↦ s'.outline n.id) =
      (s.document.children id).map fun n ↦ s.outline n.id) : s'.outline id' = s.outline id := by
  rw [outline_eq, outline_eq, helement, hheard, hlatches, hinner]

theorem reactionsAt_append (ls ls' : List Listener) (id : NodeId) :
    reactionsAt (ls ++ ls') id = reactionsAt ls id ++ reactionsAt ls' id := by
  rw [reactionsAt, List.filter_append, List.map_append, reactionsAt, reactionsAt]

theorem reactionsAt_eq_nil {ls : List Listener} {id : NodeId} (h : ∀ l ∈ ls, l.target ≠ id) :
    reactionsAt ls id = [] := by
  rw [reactionsAt, List.map_eq_nil_iff, List.filter_eq_nil_iff]
  exact fun l hl ↦ by simpa using h l hl

open Document (Mirrors Belongs)

variable {heads : NodeId → Bool} {r : NodeId} {φ : NodeId → NodeId}
  {home home' : NodeId → Option NodeId} {s s' : Site}

/-- Mirrored households have the same outlines, if the same is heard there. -/
theorem outline_of_mirrors (h : Mirrors heads r φ home s.document home' s'.document)
    (hhears : ∀ k, home k = some r → home' (φ k) = some r → s'.hears (φ k) = s.hears k)
    {k : NodeId} (hk : home k = some r) (hk' : home' (φ k) = some r) :
    s'.outline (φ k) = s.outline k := by
  induction hdepth : s.document.next - k using Nat.strongRecOn generalizing k with
  | ind depth ih =>
    refine outline_congr (h.element? hk hk') (by rw [hhears k hk hk']) (by rw [hhears k hk hk']) ?_
    rw [h.children (.inl hk) (.inl hk'), List.map_map]
    refine List.map_congr_left fun n hn ↦ ?_
    have hn' : n.renumber φ ∈ s'.document.children (φ k) := by
      rw [h.children (.inl hk) (.inl hk')]
      exact List.mem_map_of_mem hn
    obtain ⟨hmem, hparent⟩ := List.mem_filter.mp hn
    obtain ⟨hmem', hparent'⟩ := List.mem_filter.mp hn'
    rw [beq_iff_eq] at hparent hparent'
    have hage : k < n.id := (s.document.aged n hmem).2 k hparent
    have hlt : n.id < s.document.next := (s.document.aged n hmem).1
    refine ih (s.document.next - n.id) ?_ (h.housed.home_of_parent hmem hparent (.inl hk))
      (h.housed'.home_of_parent hmem' hparent' (.inl hk')) rfl
    rw [← hdepth]
    exact Nat.sub_lt_sub_left (Nat.lt_trans hage hlt) hage

end Site

end AccessForm
