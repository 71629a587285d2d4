import AccessForm.Proofs.Hearing
import AccessForm.Proofs.Portrait
import AccessForm.Proofs.Registry

/-!
# Who hears a choice

A user who chooses a permission does so in one copy of the selector, and the event goes on to
everything around it. Whoever listens there was bound to an element around the place where it
listens, at the time when it was bound. The ways up get shorter as a page evolves and never longer,
so at any time the elements of all forms that listen on the same way up lie on one way up of the
page (`OneWay`). When no form lies in the element of another one on the page, these are listeners of
one form, and when the copy lies in no other copy, it alone hears the choice
(`Attended.audience_change`).

This is known of whatever users and scripts do with a page, bindings and releases included
(`attended_operateAll`). Nothing needs to be known of the markers that the page came with.
-/

namespace AccessForm

namespace Site

open Document (SameAttribute)

variable {s s' : Site} {p : Post} {d d' d'' : Document} {ps qs : List Post}

/-! ## One step at a time -/

/-- What each single step keeps is kept by all operations. -/
theorem operateAll_keeps {P : Site → Prop} (hform : ∀ s r, P s → P (s.bindForm r).site)
    (hguard : ∀ s r, P s → P (s.bindGuard r).site)
    (hreleaseForm : ∀ s id, P s → P (s.releaseForm id))
    (hreleaseGuard : ∀ s id, P s → P (s.releaseGuard id))
    (hact : ∀ s id a, P s → P (s.act id a)) (h : P s) (ops : List Operation) :
    P (s.operateAll ops) := by
  refine foldl_keeps (fun t op ht ↦ ?_) h ops
  cases op with
  | bindForm root => exact hform t root ht
  | bindGuard root => exact hguard t root ht
  | bindPage root =>
    cases root with
    | none => exact ht
    | some root => exact bindEach_keeps hguard (bindEach_keeps hform ht _) _
  | releaseForm id => exact hreleaseForm t id ht
  | releaseGuard id => exact hreleaseGuard t id ht
  | releasePage page => exact foldl_keeps hreleaseGuard (foldl_keeps hreleaseForm ht _) _
  | act id a => exact hact t id a ht

/-! ## Copies are dropdowns -/

/-- Permissions are selected in dropdowns. -/
structure Dropdowns (s : Site) : Prop where
  /-- Numbers of bindings are in order. -/
  orderly : s.Orderly
  /-- The elements whose choices are heard are dropdowns. -/
  kind (l : Listener) : l ∈ s.listeners → l.reaction = .select →
    s.document.kind l.target = .dropdown

private theorem Dropdowns.evolves (h : s.Dropdowns) (ho : s'.Orderly)
    (hs : s.document.Evolves .any s'.document)
    (hl : ∀ l ∈ s'.listeners, l ∉ s.listeners → l.reaction = .select →
      s.document.kind l.target = .dropdown) : s'.Dropdowns where
  orderly := ho
  kind l hmem hselect := by
    have hkind : s.document.kind l.target = .dropdown := by
      by_cases hold : l ∈ s.listeners
      · exact h.kind l hold hselect
      · exact hl l hmem hold hselect
    exact (hs.kind_eq_of_lt (Document.lt_next_of_dropdown hkind)).trans hkind

private theorem Persists.dropdowns (hs : s.Persists s') (h : s.Dropdowns) : s'.Dropdowns :=
  h.evolves (h.orderly.persists hs) hs.document fun _ hl hnot ↦ absurd (hs.listeners ▸ hl) hnot

private theorem Leaves.dropdowns (hs : s.Leaves p s') (h : s.Dropdowns) : s'.Dropdowns := by
  refine h.evolves (h.orderly.leaves hs) hs.document fun l hl hnot ↦ ?_
  rw [hs.listeners] at hl
  exact absurd (List.mem_filter.mp hl).1 hnot

private theorem Enters.dropdowns (hs : s.Enters p s') (h : s.Dropdowns)
    (hp : ∀ l ∈ p.listeners, l.reaction = .select → s.document.kind l.target = .dropdown) :
    s'.Dropdowns := by
  obtain ⟨d, hd, hd', -⟩ := hs.document
  refine h.evolves (h.orderly.enters hs) (hd.trans hd') fun l hl hnot ↦ ?_
  rw [hs.listeners] at hl
  exact hp l ((List.mem_append.mp hl).resolve_left hnot)

private theorem Plans.kind_select {root : NodeId} {plan : FormPlan} (h : Plans s.document root plan)
    {l : Listener} (hl : l ∈ (s.plannedPost root plan).listeners) (hselect : l.reaction = .select) :
    s.document.kind l.target = .dropdown := by
  rw [plannedPost, formListeners, List.mem_append, List.mem_append] at hl
  rcases hl with (hl | hl) | hl
  · obtain ⟨k, hk, rfl⟩ := List.mem_map.mp hl
    replace hk : k ∈ plan.permission := hk
    rw [h.permission] at hk
    exact of_decide_eq_true (kind_of_mem_queryKind hk)
  · obtain ⟨k, -, rfl⟩ := List.mem_map.mp hl
    cases hselect
  · rw [List.mem_singleton.mp hl] at hselect
    cases hselect

theorem dropdowns_operateAll (d : Document) (ops : List Operation) :
    (operateAll { document := d } ops).Dropdowns := by
  refine operateAll_keeps (P := Dropdowns) (fun s r h ↦ ?_) (fun s r h ↦ ?_) (fun s id h ↦ ?_)
    (fun s id h ↦ ?_) (fun s id a h ↦ (h.orderly.act id a).dropdowns h)
    ⟨orderly_open d, fun _ hl ↦ absurd hl List.not_mem_nil⟩ ops
  · cases hplan : planForm s.document r with
    | error e =>
      rw [bindForm, hplan]
      exact h
    | ok plan =>
      have hplans := planForm_eq_ok_iff.mp hplan
      exact hplans.enters.dropdowns h fun _ hl hselect ↦ hplans.kind_select hl hselect
  · cases hplan : planGuard s.document r with
    | error e =>
      rw [bindGuard, hplan]
      exact h
    | ok latch =>
      refine (enters_bindGuard hplan).dropdowns h fun l hl hselect ↦ ?_
      rw [List.mem_singleton.mp hl] at hselect
      cases hselect
  · rcases h.orderly.releaseForm id with heq | ⟨f, -, -, hs⟩
    · rwa [heq]
    · exact hs.dropdowns h
  · rcases h.orderly.releaseGuard id with heq | ⟨g, -, -, hs⟩
    · rwa [heq]
    · exact hs.dropdowns h

/-! ## Ways up -/

/-- Of what is on one way up, all that was on the page was on one way up there, and so were the
elements of the bindings that listen there. -/
def OneWay (d : Document) (ps : List Post) (d' : Document) : Prop :=
  ∀ t, ∃ u, (∀ a ∈ d'.lineage t, a < d.next → a ∈ d.lineage u) ∧
    ∀ p ∈ ps, p.root < d.next → (∃ l ∈ p.listeners, l.target ∈ d'.lineage t) →
      p.root ∈ d.lineage u

namespace OneWay

private theorem nil (d : Document) : OneWay d [] d :=
  fun t ↦ ⟨t, fun _ ha _ ↦ ha, fun _ hp ↦ absurd hp List.not_mem_nil⟩

private theorem evolves (h : OneWay d ps d') (hd : d'.Evolves .any d'') (hnext : d.next ≤ d'.next)
    (htargets : ∀ p ∈ ps, ∀ l ∈ p.listeners, l.target < d'.next) : OneWay d ps d'' := by
  intro t
  obtain ⟨t', ht'⟩ := hd.exists_lineage t
  obtain ⟨u, hpage, hroots⟩ := h t'
  refine ⟨u, fun a ha hlt ↦ hpage a (ht' a ha (Nat.lt_of_lt_of_le hlt hnext)) hlt, ?_⟩
  rintro p hp hlt ⟨l, hl, hmem⟩
  exact hroots p hp hlt ⟨l, hl, ht' _ hmem (htargets p hp l hl)⟩

private theorem cons (h : OneWay d ps d') (hp : ∀ l ∈ p.listeners, p.root ∈ d'.lineage l.target) :
    OneWay d (p :: ps) d' := by
  intro t
  obtain ⟨u, hpage, hroots⟩ := h t
  refine ⟨u, hpage, fun q hq hlt hex ↦ ?_⟩
  rcases List.mem_cons.mp hq with rfl | hq
  · obtain ⟨l, hl, hmem⟩ := hex
    exact hpage _ (Document.mem_lineage_trans (hp l hl) hmem) hlt
  · exact hroots q hq hlt hex

private theorem subset (h : OneWay d ps d') (hsub : ∀ p ∈ qs, p ∈ ps) : OneWay d qs d' := by
  intro t
  obtain ⟨u, hpage, hroots⟩ := h t
  exact ⟨u, hpage, fun p hp ↦ hroots p (hsub p hp)⟩

end OneWay

/-! ## Attendance -/

/-- Who listens on a site that began with a page. -/
structure Attended (d : Document) (s : Site) : Prop extends Grounded d s where
  /-- The listeners are those of the bindings. -/
  listeners : s.listeners.Perm (s.posts.flatMap (·.listeners))
  /-- No element has two bindings of a kind. -/
  places : (s.posts.map (·.place)).Nodup
  /-- The elements of bindings carry their markers. -/
  marked : ∀ p ∈ s.posts, Marked s.document p.marker p.root
  /-- Forms that listen on one way up are in or around each other. -/
  oneWay : OneWay d s.posts s.document

private theorem attended_open (d : Document) : Attended d { document := d } where
  toGrounded := grounded_open d
  listeners := .refl _
  places := List.nodup_nil
  marked _ hp := absurd hp List.not_mem_nil
  oneWay := .nil d

namespace Attended

theorem persists (h : Attended d s) (hs : s.Persists s') : Attended d s' where
  toGrounded := h.toGrounded.persists hs
  listeners := by
    rw [hs.listeners, hs.posts]
    exact h.listeners
  places := by
    rw [hs.posts]
    exact h.places
  marked := by
    rw [hs.posts]
    intro p hp
    have hspared := spared_of_mem_markers (marker_mem_markers hp)
    exact (marked_congr (hs.attributes p.marker hspared) p.root).mpr (h.marked p hp)
  oneWay := by
    rw [hs.posts]
    exact h.oneWay.evolves hs.document h.rooted.document.next_le h.rooted.targets

private theorem enters (h : Attended d s) (hs : s.Enters p s') : Attended d s' where
  toGrounded := h.toGrounded.enters hs
  listeners := by
    have hposts : (s'.posts.flatMap (·.listeners)).Perm
        (p.listeners ++ s.posts.flatMap (·.listeners)) := hs.posts.flatMap_right _
    rw [hs.listeners]
    exact (List.perm_append_comm.trans (h.listeners.append_left _)).trans hposts.symm
  places := by
    refine (hs.posts.map (·.place)).nodup_iff.mpr (List.nodup_cons.mpr ⟨fun hmem ↦ ?_, h.places⟩)
    obtain ⟨q, hq, heq⟩ := List.mem_map.mp hmem
    obtain ⟨hmarker, hroot⟩ := Prod.mk.inj heq
    exact hs.unmarked (hmarker ▸ hroot ▸ h.marked q hq)
  marked := by
    intro q hq
    rcases List.mem_cons.mp (hs.posts.mem_iff.mp hq) with rfl | hold
    · exact (hs.marked q.root).mpr (.inl rfl)
    · by_cases heq : q.marker = p.marker
      · rw [heq]
        exact (hs.marked q.root).mpr (.inr (heq ▸ h.marked q hold))
      · have hspared := spared_of_mem_markers (marker_mem_markers hold)
        exact (marked_congr (hs.attributes q.marker hspared heq) q.root).mpr (h.marked q hold)
  oneWay := by
    obtain ⟨d₁, hd₁, hd₂, hlineage⟩ := hs.document
    have hnext := h.rooted.document.next_le
    have hfirst := h.oneWay.evolves hd₁ hnext h.rooted.targets
    refine ((hfirst.cons hlineage).evolves hd₂ (Nat.le_trans hnext hd₁.next_le) ?_).subset
      fun q hq ↦ hs.posts.mem_iff.mp hq
    exact List.forall_mem_cons.mpr ⟨fun l hl ↦ Document.lt_next_of_lineage (hlineage l hl),
      fun q hq l hl ↦ Nat.lt_of_lt_of_le (h.rooted.targets q hq l hl) hd₁.next_le⟩

private theorem leaves (h : Attended d s) (hs : s.Leaves p s') : Attended d s' where
  toGrounded := h.toGrounded.leaves hs
  listeners := by
    rw [hs.listeners, hs.posts,
      ← filter_flatMap_listeners (fun q hq l hl ↦ owner_of_mem_post hq hl)]
    exact h.listeners.filter _
  places := by
    rw [hs.posts]
    exact h.places.sublist (List.filter_sublist.map _)
  marked := by
    intro q hq
    rw [hs.posts] at hq
    obtain ⟨hq, hid⟩ := List.mem_filter.mp hq
    by_cases heq : q.marker = p.marker
    · rw [heq]
      refine (hs.marked q.root).mpr ⟨fun hroot ↦ ?_, heq ▸ h.marked q hq⟩
      have hplace : q.place = p.place := Prod.ext heq hroot
      have hsame := List.inj_on_of_nodup_map h.places hq hs.live hplace
      exact bne_iff_ne.mp hid (congrArg Post.id hsame)
    · have hspared := spared_of_mem_markers (marker_mem_markers hq)
      exact (marked_congr (hs.attributes q.marker hspared heq) q.root).mpr (h.marked q hq)
  oneWay := by
    have hnext := h.rooted.document.next_le
    refine (h.oneWay.evolves hs.document hnext h.rooted.targets).subset fun q hq ↦ ?_
    rw [hs.posts] at hq
    exact (List.mem_filter.mp hq).1

end Attended

private theorem kept_attended (d : Document) : Kept (Attended d) where
  persists _ h hs := h.persists hs
  enters _ h hs := h.enters hs
  leaves _ h hs := h.leaves hs

theorem attended_operateAll (d : Document) (ops : List Operation) :
    (operateAll { document := d } ops).Orderly ∧ Attended d (operateAll { document := d } ops) :=
  (kept_attended d).operateAll ops (orderly_open d) (attended_open d)

/-! ## The audience of a choice -/

/-- When only one listener on the way up from an element answers to an event, and it listens at the
element, it hears the event once and alone. -/
theorem audience_eq_singleton {l : Listener} (hnodup : s.listeners.Nodup) (hl : l ∈ s.listeners)
    (hsome : (s.document.element? l.target).isSome = true)
    (honly : ∀ m ∈ s.listeners, m.target ∈ s.document.lineage l.target →
      m.reaction.event = l.reaction.event → m = l) :
    s.audience l.target l.reaction.event = [l] := by
  obtain ⟨as, has, holder⟩ := Document.exists_lineage_eq_cons hsome
  have hself := Document.mem_lineage_self hsome
  have hfirst : s.listeners.filter
      (fun m ↦ m.target == l.target && m.reaction.event == l.reaction.event) = [l] := by
    have hsame : ∀ m ∈ s.listeners,
        (m.target == l.target && m.reaction.event == l.reaction.event) = (m == l) := by
      intro m hm
      rw [Bool.eq_iff_iff, Bool.and_eq_true, beq_iff_eq, beq_iff_eq, beq_iff_eq]
      constructor
      · rintro ⟨htarget, hevent⟩
        exact honly m hm (htarget ▸ hself) hevent
      · rintro rfl
        exact ⟨rfl, rfl⟩
    rw [List.filter_congr hsame, List.filter_beq, List.count_eq_one_of_mem hnodup hl,
      List.replicate_one]
  -- nobody listens further up, since a way up never returns to an element
  have hothers : as.flatMap (fun id ↦ s.listeners.filter
      fun m ↦ m.target == id && m.reaction.event == l.reaction.event) = [] := by
    refine List.flatMap_eq_nil_iff.mpr fun id hid ↦ List.filter_eq_nil_iff.mpr fun m hm hcond ↦ ?_
    rw [Bool.and_eq_true, beq_iff_eq, beq_iff_eq] at hcond
    obtain ⟨htarget, hevent⟩ := hcond
    have hmem : m.target ∈ s.document.lineage l.target := by
      rw [htarget, has]
      exact List.mem_cons_of_mem _ hid
    have hlt : m.target < l.target := htarget ▸ holder id hid
    rw [honly m hm hmem hevent] at hlt
    exact Nat.lt_irrefl _ hlt
  rw [audience, has, List.flatMap_cons, hfirst, hothers, List.append_nil]

section Audience

variable (h : Attended d s) (ho : s.Orderly)
include h ho

theorem Attended.nodup_listeners : s.listeners.Nodup := by
  have hids : s.posts.Pairwise (·.id ≠ ·.id) := List.pairwise_map.mp ho.distinct
  refine h.listeners.nodup_iff.mpr
    (List.nodup_flatMap.mpr ⟨fun p hp ↦ (h.distinct p hp).of_map, ?_⟩)
  refine hids.imp_of_mem fun hp hq hne ↦ List.disjoint_left.mpr fun l hl hl' ↦ hne ?_
  rw [← owner_of_mem_post hp hl, owner_of_mem_post hq hl']

variable {f : BoundForm} (hf : f ∈ s.forms)
  (hapart : ∀ f ∈ s.forms, ∀ g ∈ s.forms, f.root ≠ g.root → f.root ∉ d.lineage g.root)
include hf hapart

omit ho hapart in
theorem Attended.select_mem_listeners {k : NodeId} (hk : k ∈ f.controller.layout.permission) :
    ⟨k, f.id, .select⟩ ∈ s.listeners := by
  have hpost : f.post ∈ s.posts := mem_posts.mpr (.inl ⟨f, hf, rfl⟩)
  refine h.listeners.mem_iff.mpr (List.mem_flatMap.mpr ⟨f.post, hpost, ?_⟩)
  exact List.mem_append_left _ (List.mem_append_left _ (List.mem_map_of_mem hk))

omit ho in
private theorem Attended.post_of_change {copy : NodeId}
    (hcopy : copy ∈ f.controller.layout.permission)
    (hsome : (s.document.element? copy).isSome = true) {l : Listener} (hl : l ∈ s.listeners)
    (htarget : l.target ∈ s.document.lineage copy) (hevent : l.reaction.event = "change") :
    l ∈ f.post.listeners := by
  obtain ⟨q, hq, hlq⟩ := List.mem_flatMap.mp (h.listeners.mem_iff.mp hl)
  have hfpost : f.post ∈ s.posts := mem_posts.mpr (.inl ⟨f, hf, rfl⟩)
  rcases mem_posts.mp hq with ⟨g, hg, rfl⟩ | ⟨g, -, rfl⟩
  · -- the elements of both forms are on one way up of the page
    obtain ⟨u, -, hroots⟩ := h.oneWay copy
    have hown : ⟨copy, f.id, .select⟩ ∈ f.post.listeners :=
      List.mem_append_left _ (List.mem_append_left _ (List.mem_map_of_mem hcopy))
    have hfu := hroots f.post hfpost (h.form _ hfpost rfl)
      ⟨_, hown, Document.mem_lineage_self hsome⟩
    have hgu := hroots g.post hq (h.form _ hq rfl) ⟨l, hlq, htarget⟩
    have hroot : g.root = f.root := by
      by_contra hne
      rcases Document.mem_lineage_or_mem_lineage hfu hgu with hmem | hmem
      · exact hapart f hf g hg (Ne.symm hne) hmem
      · exact hapart g hg f hf hne hmem
    have hpost : g.post = f.post :=
      List.inj_on_of_nodup_map h.places hq hfpost (congrArg (formMarker, ·) hroot)
    rwa [← hpost]
  · rw [List.mem_singleton.mp hlq] at hevent
    exact absurd hevent (by simp [Reaction.event])

/-- A copy of the permission selector that lies in no other one hears alone what is chosen in it,
when no form lies in the element of another one. -/
theorem Attended.audience_change {copy : NodeId} (hcopy : copy ∈ f.controller.layout.permission)
    (hflat : ∀ j ∈ f.controller.layout.permission, j ∈ s.document.lineage copy → j = copy)
    (hsome : (s.document.element? copy).isSome = true) :
    s.audience copy "change" = [⟨copy, f.id, .select⟩] := by
  refine audience_eq_singleton (h.nodup_listeners ho) (h.select_mem_listeners hf hcopy) hsome
    fun l hl htarget hevent ↦ ?_
  have hpost := h.post_of_change hf hapart hcopy hsome hl htarget hevent
  rw [BoundForm.post, formListeners, List.mem_append, List.mem_append] at hpost
  rcases hpost with (hl | hl) | hl
  · obtain ⟨k, hk, rfl⟩ := List.mem_map.mp hl
    rw [hflat k hk htarget]
  · obtain ⟨k, -, rfl⟩ := List.mem_map.mp hl
    exact absurd hevent (by simp [Reaction.event])
  · rw [List.mem_singleton.mp hl] at hevent
    exact absurd hevent (by simp [Reaction.event])

end Audience

end Site

end AccessForm
