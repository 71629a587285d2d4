import AccessForm.Proofs.Operations

/-!
# Bindings, markers and listeners

That a form is bound is recorded in three places: in the list of bindings, by the marker on its
element, and by the listeners that were registered for it. They always say the same. An element
carries the marker of a kind exactly if there is a binding of that kind for it, and there is never a
second one; the listeners are those of the bindings that there are, and nobody else's. A binding
that was released is gone for good, because its number is not given again.

When no form is bound in the element of another one, no element has two listeners for the same
thing. The elements of forms may come to lie elsewhere only by being taken out of the document, so
what is apart on the page remains apart.
-/

namespace AccessForm

namespace Site

open Document (SameAttribute)

variable {s s' : Site} {p q : Post} {d : Document}

/-- The attributes that mark elements. -/
def markers : List String := [formMarker, guardMarker]

theorem marker_mem_markers (h : p ∈ s.posts) : p.marker ∈ markers := by
  rcases mem_posts.mp h with ⟨f, -, rfl⟩ | ⟨g, -, rfl⟩
  · exact List.mem_cons_self
  · exact List.mem_cons_of_mem _ List.mem_cons_self

theorem spared_of_mem_markers {marker : String} (h : marker ∈ markers) : Spared marker := by
  rcases List.mem_pair.mp h with rfl | rfl
  · decide
  · decide

/-- All listeners of a binding are its own. -/
theorem owner_of_mem_post (h : p ∈ s.posts) {l : Listener} (hl : l ∈ p.listeners) :
    l.owner = p.id := by
  rcases mem_posts.mp h with ⟨f, -, rfl⟩ | ⟨g, -, rfl⟩
  · exact (of_mem_formListeners hl).1
  · rw [List.mem_singleton.mp hl]
    rfl

/-! ## The records agree -/

/-- Bindings, markers and listeners say the same. -/
structure Registered (s : Site) : Prop where
  /-- The listeners are those of the bindings. -/
  listeners : s.listeners.Perm (s.posts.flatMap (·.listeners))
  /-- No element has two bindings of a kind. -/
  distinct : (s.posts.map (·.place)).Nodup
  /-- The elements with a marker are those with a binding of its kind. -/
  marked (marker : String) (id : NodeId) : marker ∈ markers →
    (Marked s.document marker id ↔ (marker, id) ∈ s.posts.map (·.place))

private theorem registered_open (hd : ∀ marker ∈ markers, ∀ id, ¬ Marked d marker id) :
    Registered { document := d } where
  listeners := .refl _
  distinct := List.nodup_nil
  marked marker id hmarker := iff_of_false (hd marker hmarker id) List.not_mem_nil

private theorem Registered.persists (h : s.Registered) (hs : s.Persists s') : s'.Registered where
  listeners := by
    rw [hs.listeners, hs.posts]
    exact h.listeners
  distinct := by
    rw [hs.posts]
    exact h.distinct
  marked marker id hmarker := by
    rw [hs.posts, marked_congr (hs.attributes marker (spared_of_mem_markers hmarker))]
    exact h.marked marker id hmarker

private theorem Registered.enters (h : s.Registered) (hs : s.Enters p s') : s'.Registered := by
  have hmarker : p.marker ∈ markers :=
    marker_mem_markers (hs.posts.mem_iff.mpr List.mem_cons_self)
  have hplaces := hs.posts.map (·.place)
  have hfree : p.place ∉ s.posts.map (·.place) := fun hmem ↦
    hs.unmarked ((h.marked p.marker p.root hmarker).mpr hmem)
  refine ⟨?_, ?_, fun marker id hmem ↦ ?_⟩
  · have hposts : (s'.posts.flatMap (·.listeners)).Perm
        (p.listeners ++ s.posts.flatMap (·.listeners)) := hs.posts.flatMap_right _
    rw [hs.listeners]
    exact (List.perm_append_comm.trans (h.listeners.append_left _)).trans hposts.symm
  · exact hplaces.nodup_iff.mpr (List.nodup_cons.mpr ⟨hfree, h.distinct⟩)
  · rw [hplaces.mem_iff, List.map_cons, List.mem_cons, Post.place]
    by_cases heq : marker = p.marker
    · subst heq
      rw [hs.marked, h.marked _ id hmem, Prod.mk.injEq, eq_self, true_and]
    · rw [marked_congr (hs.attributes marker (spared_of_mem_markers hmem) heq),
        h.marked _ id hmem, Prod.mk.injEq]
      simp [heq]

theorem filter_flatMap_listeners {ps : List Post} (h : ∀ p ∈ ps, ∀ l ∈ p.listeners, l.owner = p.id)
    (id : BindingId) : (ps.flatMap (·.listeners)).filter (·.owner != id) =
      (ps.filter (·.id != id)).flatMap (·.listeners) := by
  induction ps with
  | nil => rfl
  | cons p ps ih =>
    have hown : ∀ l ∈ p.listeners, (l.owner != id) = (p.id != id) := fun l hl ↦ by
      rw [h p List.mem_cons_self l hl]
    have hrest := ih fun q hq ↦ h q (List.mem_cons_of_mem _ hq)
    rw [List.flatMap_cons, List.filter_append, hrest, List.filter_congr hown]
    by_cases hid : (p.id != id) = true
    · rw [List.filter_cons_of_pos (by exact hid), List.flatMap_cons, hid]
      simp
    · rw [List.filter_cons_of_neg (by exact hid), Bool.eq_false_iff.mpr hid]
      simp

private theorem Registered.leaves (h : s.Registered) (ho : s.Orderly) (hs : s.Leaves p s') :
    s'.Registered := by
  have hplace : ∀ q ∈ s.posts, q.id = p.id ↔ q.place = p.place := by
    intro q hq
    constructor
    · exact fun hid ↦ congrArg Post.place (ho.eq_of_id hq hs.live hid)
    · exact fun heq ↦ congrArg Post.id (List.inj_on_of_nodup_map h.distinct hq hs.live heq)
  refine ⟨?_, ?_, fun marker id hmem ↦ ?_⟩
  · rw [hs.listeners, hs.posts,
      ← filter_flatMap_listeners (fun q hq l hl ↦ owner_of_mem_post hq hl)]
    exact h.listeners.filter _
  · rw [hs.posts]
    exact h.distinct.sublist (List.filter_sublist.map _)
  · have hrest : (marker, id) ∈ s'.posts.map (·.place) ↔
        (marker, id) ≠ p.place ∧ (marker, id) ∈ s.posts.map (·.place) := by
      simp only [hs.posts, List.mem_map, List.mem_filter, bne_iff_ne]
      constructor
      · rintro ⟨q, ⟨hq, hne⟩, heq⟩
        exact ⟨heq ▸ fun hsame ↦ hne ((hplace q hq).mpr hsame), q, hq, heq⟩
      · rintro ⟨hne, q, hq, heq⟩
        exact ⟨q, ⟨hq, fun hid ↦ hne (heq ▸ (hplace q hq).mp hid)⟩, heq⟩
    rw [hrest, Post.place, Ne, Prod.mk.injEq]
    by_cases heq : marker = p.marker
    · subst heq
      rw [hs.marked, h.marked _ id hmem]
      simp
    · rw [marked_congr (hs.attributes marker (spared_of_mem_markers hmem) heq),
        h.marked _ id hmem]
      simp [heq]

private theorem kept_registered : Kept Registered where
  persists _ h hs := h.persists hs
  enters _ h hs := h.enters hs
  leaves ho h hs := h.leaves ho hs

/-! ## Gone for good -/

/-- There is no binding with a number, and there will not be one. -/
structure Gone (id : BindingId) (s : Site) : Prop where
  /-- The number was given. -/
  given : id < s.next
  /-- No binding has it. -/
  absent : ∀ p ∈ s.posts, p.id ≠ id

private theorem kept_gone (id : BindingId) : Kept (Gone id) where
  persists _ h hs := by
    refine ⟨hs.next ▸ h.given, ?_⟩
    rw [hs.posts]
    exact h.absent
  enters _ h hs := by
    refine ⟨hs.next ▸ Nat.lt_succ_of_lt h.given, fun q hq ↦ ?_⟩
    rcases List.mem_cons.mp (hs.posts.mem_iff.mp hq) with rfl | hq
    · rw [hs.id]
      exact Nat.ne_of_gt h.given
    · exact h.absent q hq
  leaves _ h hs := by
    refine ⟨hs.next ▸ h.given, fun q hq ↦ ?_⟩
    rw [hs.posts] at hq
    exact h.absent q (List.mem_filter.mp hq).1

private theorem Registered.owner_ne (h : s.Registered) {id : BindingId} (hgone : Gone id s)
    {l : Listener} (hl : l ∈ s.listeners) : l.owner ≠ id := by
  obtain ⟨p, hp, hlp⟩ := List.mem_flatMap.mp (h.listeners.mem_iff.mp hl)
  rw [owner_of_mem_post hp hlp]
  exact hgone.absent p hp

theorem forms_releaseForm (s : Site) (id : BindingId) :
    (s.releaseForm id).forms = s.forms.filter (·.id != id) := by
  rw [releaseForm]
  split
  · next hnone =>
    refine (List.filter_eq_self.mpr fun f hf ↦ ?_).symm
    exact bne_iff_ne.mpr (by simpa using List.find?_eq_none.mp hnone f hf)
  · rfl

theorem guards_releaseGuard (s : Site) (id : BindingId) :
    (s.releaseGuard id).guards = s.guards.filter (·.id != id) := by
  rw [releaseGuard]
  split
  · next hnone =>
    refine (List.filter_eq_self.mpr fun g hg ↦ ?_).symm
    exact bne_iff_ne.mpr (by simpa using List.find?_eq_none.mp hnone g hg)
  · rfl

theorem others_releaseForm (s : Site) (id : BindingId) :
    (s.releaseForm id).guards = s.guards ∧ (s.releaseForm id).next = s.next := by
  rw [releaseForm]
  split
  · exact ⟨rfl, rfl⟩
  · exact ⟨rfl, rfl⟩

theorem others_releaseGuard (s : Site) (id : BindingId) :
    (s.releaseGuard id).forms = s.forms ∧ (s.releaseGuard id).next = s.next := by
  rw [releaseGuard]
  split
  · exact ⟨rfl, rfl⟩
  · exact ⟨rfl, rfl⟩

private theorem foldl_releaseForm (s : Site) (ids : List BindingId) :
    (ids.foldl releaseForm s).forms = s.forms.filter (·.id ∉ ids) ∧
      (ids.foldl releaseForm s).guards = s.guards ∧ (ids.foldl releaseForm s).next = s.next := by
  induction ids generalizing s with
  | nil => simp
  | cons id ids ih =>
    obtain ⟨hforms, hguards, hnext⟩ := ih (s.releaseForm id)
    obtain ⟨hguards', hnext'⟩ := s.others_releaseForm id
    refine ⟨?_, hguards.trans hguards', hnext.trans hnext'⟩
    rw [List.foldl_cons, hforms, forms_releaseForm, List.filter_filter]
    exact List.filter_congr fun f _ ↦ by rw [Bool.eq_iff_iff]; simp [and_comm]

private theorem foldl_releaseGuard (s : Site) (ids : List BindingId) :
    (ids.foldl releaseGuard s).guards = s.guards.filter (·.id ∉ ids) ∧
      (ids.foldl releaseGuard s).forms = s.forms ∧ (ids.foldl releaseGuard s).next = s.next := by
  induction ids generalizing s with
  | nil => simp
  | cons id ids ih =>
    obtain ⟨hguards, hforms, hnext⟩ := ih (s.releaseGuard id)
    obtain ⟨hforms', hnext'⟩ := s.others_releaseGuard id
    refine ⟨?_, hforms.trans hforms', hnext.trans hnext'⟩
    rw [List.foldl_cons, hguards, guards_releaseGuard, List.filter_filter]
    exact List.filter_congr fun g _ ↦ by rw [Bool.eq_iff_iff]; simp [and_comm]

private theorem releasePage_eq (s : Site) (page : Page) :
    (s.releasePage page).forms = s.forms.filter (·.id ∉ page.forms) ∧
      (s.releasePage page).guards = s.guards.filter (·.id ∉ page.guards) ∧
      (s.releasePage page).next = s.next := by
  obtain ⟨hforms, hguards, hnext⟩ := s.foldl_releaseForm page.forms
  obtain ⟨hguards', hforms', hnext'⟩ :=
    (page.forms.foldl releaseForm s).foldl_releaseGuard page.guards
  exact ⟨hforms'.trans hforms, hguards'.trans (by rw [hguards]), hnext'.trans hnext⟩

/-- Whether an operation releases the form with a number. -/
def Operation.DropsForm (id : BindingId) : Operation → Prop
  | releaseForm other => other = id
  | releasePage page => id ∈ page.forms
  | bindForm _ | bindGuard _ | bindPage _ | releaseGuard _ | act _ _ => False

/-- Whether an operation releases the guard with a number. -/
def Operation.DropsGuard (id : BindingId) : Operation → Prop
  | releaseGuard other => other = id
  | releasePage page => id ∈ page.guards
  | bindForm _ | bindGuard _ | bindPage _ | releaseForm _ | act _ _ => False

private theorem Orderly.gone_of_dropsForm (h : s.Orderly) {f : BoundForm} (hf : f ∈ s.forms)
    {op : Operation} (hop : op.DropsForm f.id) : Gone f.id (s.operate op) := by
  have hlive : f.post ∈ s.posts := mem_posts.mpr (.inl ⟨f, hf, rfl⟩)
  have hdrop : (∀ g ∈ (s.operate op).forms, g.id ≠ f.id) ∧
      (∀ g ∈ (s.operate op).guards, g ∈ s.guards) ∧ (s.operate op).next = s.next := by
    cases op with
    | releaseForm id =>
      obtain rfl : id = f.id := hop
      obtain ⟨hguards, hnext⟩ := s.others_releaseForm f.id
      refine ⟨fun g hg ↦ ?_, fun g hg ↦ hguards ▸ hg, hnext⟩
      rw [operate, forms_releaseForm] at hg
      exact bne_iff_ne.mp (List.mem_filter.mp hg).2
    | releasePage page =>
      obtain ⟨hforms, hguards, hnext⟩ := s.releasePage_eq page
      refine ⟨fun g hg heq ↦ ?_, fun g hg ↦ ?_, hnext⟩
      · rw [operate, hforms] at hg
        exact of_decide_eq_true (List.mem_filter.mp hg).2 (heq ▸ hop)
      · rw [operate, hguards] at hg
        exact (List.mem_filter.mp hg).1
    | _ => exact hop.elim
  refine ⟨?_, fun q hq hid ↦ ?_⟩
  · rw [hdrop.2.2]
    exact h.young _ hlive
  · rcases mem_posts.mp hq with ⟨g, hg, rfl⟩ | ⟨g, hg, rfl⟩
    · exact hdrop.1 g hg hid
    · have hguard : g.post ∈ s.posts := mem_posts.mpr (.inr ⟨g, hdrop.2.1 g hg, rfl⟩)
      exact marker_ne f g (congrArg Post.marker (h.eq_of_id hlive hguard hid.symm))

private theorem Orderly.gone_of_dropsGuard (h : s.Orderly) {g : BoundGuard} (hg : g ∈ s.guards)
    {op : Operation} (hop : op.DropsGuard g.id) : Gone g.id (s.operate op) := by
  have hlive : g.post ∈ s.posts := mem_posts.mpr (.inr ⟨g, hg, rfl⟩)
  have hdrop : (∀ k ∈ (s.operate op).guards, k.id ≠ g.id) ∧
      (∀ f ∈ (s.operate op).forms, f ∈ s.forms) ∧ (s.operate op).next = s.next := by
    cases op with
    | releaseGuard id =>
      obtain rfl : id = g.id := hop
      obtain ⟨hforms, hnext⟩ := s.others_releaseGuard g.id
      refine ⟨fun k hk ↦ ?_, fun f hf ↦ hforms ▸ hf, hnext⟩
      rw [operate, guards_releaseGuard] at hk
      exact bne_iff_ne.mp (List.mem_filter.mp hk).2
    | releasePage page =>
      obtain ⟨hforms, hguards, hnext⟩ := s.releasePage_eq page
      refine ⟨fun k hk heq ↦ ?_, fun f hf ↦ ?_, hnext⟩
      · rw [operate, hguards] at hk
        exact of_decide_eq_true (List.mem_filter.mp hk).2 (heq ▸ hop)
      · rw [operate, hforms] at hf
        exact (List.mem_filter.mp hf).1
    | _ => exact hop.elim
  refine ⟨?_, fun q hq hid ↦ ?_⟩
  · rw [hdrop.2.2]
    exact h.young _ hlive
  · rcases mem_posts.mp hq with ⟨f, hf, rfl⟩ | ⟨k, hk, rfl⟩
    · have hform : f.post ∈ s.posts := mem_posts.mpr (.inl ⟨f, hdrop.2.1 f hf, rfl⟩)
      exact marker_ne f g (congrArg Post.marker (h.eq_of_id hform hlive hid))
    · exact hdrop.1 k hk hid

/-! ## Elements apart -/

/-- What the listeners of some bindings have to do with a page. On the way up from an element to
which several bindings listen, their elements lie on one way up of the page. -/
structure Rooted (d : Document) (ps : List Post) (d' : Document) : Prop where
  /-- The document evolved from the page. -/
  document : d.Evolves .any d'
  /-- The listeners hear elements that are there. -/
  targets : ∀ p ∈ ps, ∀ l ∈ p.listeners, l.target < d'.next
  /-- All that lies on the way up now, and the elements of those that listen, is on one way up. -/
  shared (t : NodeId) : ∃ u,
    (∀ p ∈ ps, p.root < d.next → (∃ l ∈ p.listeners, l.target = t) → p.root ∈ d.lineage u) ∧
      ∀ a ∈ d'.lineage t, a < d.next → a ∈ d.lineage u

namespace Rooted

variable {ps qs : List Post} {d' d'' : Document}

private theorem nil (d : Document) : Rooted d [] d where
  document := .refl d
  targets _ h := absurd h List.not_mem_nil
  shared t := ⟨t, fun _ h ↦ absurd h List.not_mem_nil, fun _ ha _ ↦ ha⟩

private theorem evolves (h : Rooted d ps d') (hd : d'.Evolves .any d'') : Rooted d ps d'' where
  document := h.document.trans hd
  targets p hp l hl := Nat.lt_of_lt_of_le (h.targets p hp l hl) hd.next_le
  shared t := by
    rcases Nat.lt_or_ge t d'.next with hlt | hge
    · obtain ⟨u, hroots, hlineage⟩ := h.shared t
      exact ⟨u, hroots, fun a ha ↦ hlineage a ((hd.lineage_prefix hlt).subset ha)⟩
    · -- nobody listens to what has only just come to be
      obtain ⟨u, hlineage⟩ := (h.document.trans hd).exists_lineage t
      refine ⟨u, fun p hp _ ⟨l, hl, heq⟩ ↦ ?_, hlineage⟩
      have hlt : t < d'.next := heq ▸ h.targets p hp l hl
      exact absurd hlt (Nat.not_lt.mpr hge)

private theorem cons (h : Rooted d ps d') (hp : ∀ l ∈ p.listeners, p.root ∈ d'.lineage l.target) :
    Rooted d (p :: ps) d' where
  document := h.document
  targets q hq l hl := by
    rcases List.mem_cons.mp hq with rfl | hq
    · obtain ⟨n, hn, -⟩ := Document.mem_lineage_iff.mp (hp l hl)
      exact Document.lt_next_of_find? hn
    · exact h.targets q hq l hl
  shared t := by
    obtain ⟨u, hroots, hlineage⟩ := h.shared t
    refine ⟨u, fun q hq hlt hex ↦ ?_, hlineage⟩
    rcases List.mem_cons.mp hq with rfl | hq
    · obtain ⟨l, hl, rfl⟩ := hex
      exact hlineage _ (hp l hl) hlt
    · exact hroots q hq hlt hex

private theorem subset (h : Rooted d ps d') (hsub : ∀ p ∈ qs, p ∈ ps) : Rooted d qs d' where
  document := h.document
  targets p hp := h.targets p (hsub p hp)
  shared t := by
    obtain ⟨u, hroots, hlineage⟩ := h.shared t
    exact ⟨u, fun p hp ↦ hroots p (hsub p hp), hlineage⟩

end Rooted

/-- What the bindings of a site have to do with the page. -/
structure Grounded (d : Document) (s : Site) : Prop where
  /-- Tables are where the page has them. -/
  tables : SameAttribute tableAttribute d s.document
  /-- The elements of forms are elements of the page. -/
  form : ∀ p ∈ s.posts, p.marker = formMarker → p.root < d.next
  /-- No binding listens to the same thing twice. -/
  distinct : ∀ p ∈ s.posts, (p.listeners.map (·.spot)).Nodup
  /-- The listeners are in the elements of the bindings. -/
  rooted : Rooted d s.posts s.document

theorem grounded_open (d : Document) : Grounded d { document := d } where
  tables := (Document.frame_sameAttribute _).refl d
  form _ h := absurd h List.not_mem_nil
  distinct _ h := absurd h List.not_mem_nil
  rooted := .nil d

private theorem tableAttribute_ne_marker (h : p ∈ s.posts) : tableAttribute ≠ p.marker := by
  rcases List.mem_pair.mp (marker_mem_markers h) with heq | heq
  · rw [heq]
    decide
  · rw [heq]
    decide

theorem Grounded.persists (h : Grounded d s) (hs : s.Persists s') : Grounded d s' := by
  have htables := hs.attributes tableAttribute (by decide)
  refine ⟨(Document.frame_sameAttribute _).trans h.tables htables, ?_, ?_, ?_⟩
  · rw [hs.posts]
    exact h.form
  · rw [hs.posts]
    exact h.distinct
  · rw [hs.posts]
    exact h.rooted.evolves hs.document

theorem Grounded.enters (h : Grounded d s) (hs : s.Enters p s') : Grounded d s' := by
  have hmem : ∀ q ∈ s'.posts, q = p ∨ q ∈ s.posts := fun q hq ↦
    List.mem_cons.mp (hs.posts.mem_iff.mp hq)
  have hlive : p ∈ s'.posts := hs.posts.mem_iff.mpr List.mem_cons_self
  have htables := hs.attributes tableAttribute (by decide) (tableAttribute_ne_marker hlive)
  obtain ⟨d₁, hd₁, hd₂, hlineage⟩ := hs.document
  refine ⟨(Document.frame_sameAttribute _).trans h.tables htables, fun q hq hform ↦ ?_,
    fun q hq ↦ ?_, ?_⟩
  · rcases hmem q hq with rfl | hq
    · -- only elements of the page have tables
      have htable := hs.table hform
      rw [h.tables] at htable
      obtain ⟨v, hv⟩ := Option.isSome_iff_exists.mp htable
      exact Document.lt_next_of_attribute? hv
    · exact h.form q hq hform
  · rcases hmem q hq with rfl | hq
    · exact hs.distinct
    · exact h.distinct q hq
  · have hrooted : Rooted d (p :: s.posts) s'.document :=
      ((h.rooted.evolves hd₁).cons hlineage).evolves hd₂
    exact hrooted.subset fun q hq ↦ hs.posts.mem_iff.mp hq

theorem Grounded.leaves (h : Grounded d s) (hs : s.Leaves p s') : Grounded d s' := by
  have hsub : ∀ q ∈ s'.posts, q ∈ s.posts := by
    intro q hq
    rw [hs.posts] at hq
    exact (List.mem_filter.mp hq).1
  have htables := hs.attributes tableAttribute (by decide) (tableAttribute_ne_marker hs.live)
  exact ⟨(Document.frame_sameAttribute _).trans h.tables htables,
    fun q hq ↦ h.form q (hsub q hq), fun q hq ↦ h.distinct q (hsub q hq),
    (h.rooted.evolves hs.document).subset hsub⟩

private theorem kept_grounded (d : Document) : Kept (Grounded d) where
  persists _ h hs := h.persists hs
  enters _ h hs := h.enters hs
  leaves _ h hs := h.leaves hs

/-- Forms whose elements are apart on the page listen to different elements, and guards listen to
different elements anyway. -/
theorem Grounded.nodup_spots (h : Grounded d s) (hr : s.Registered)
    (hapart : ∀ f ∈ s.forms, ∀ g ∈ s.forms, f.root ≠ g.root → f.root ∉ d.lineage g.root) :
    (s.listeners.map (·.spot)).Nodup := by
  have hclash : ∀ p ∈ s.posts, ∀ q ∈ s.posts, ∀ l ∈ p.listeners, ∀ k ∈ q.listeners,
      l.spot = k.spot → p.place = q.place := by
    intro p hp q hq l hl k hk heq
    obtain ⟨htarget, hreaction⟩ := Prod.mk.inj heq
    obtain ⟨u, hroots, -⟩ := h.rooted.shared l.target
    rcases mem_posts.mp hp with ⟨f, hf, rfl⟩ | ⟨f, hf, rfl⟩ <;>
      rcases mem_posts.mp hq with ⟨g, hg, rfl⟩ | ⟨g, hg, rfl⟩
    · -- two forms: both elements are on one way up of the page
      have hfu := hroots _ hp (h.form _ hp rfl) ⟨l, hl, rfl⟩
      have hgu := hroots _ hq (h.form _ hq rfl) ⟨k, hk, htarget.symm⟩
      have hroot : f.root = g.root := by
        by_contra hne
        rcases Document.mem_lineage_or_mem_lineage hfu hgu with hmem | hmem
        · exact hapart f hf g hg hne hmem
        · exact hapart g hg f hf (Ne.symm hne) hmem
      exact congrArg (formMarker, ·) hroot
    · rw [List.mem_singleton.mp hk] at hreaction
      exact absurd hreaction (of_mem_formListeners hl).2.1
    · rw [List.mem_singleton.mp hl] at hreaction
      exact absurd hreaction.symm (of_mem_formListeners hk).2.1
    · rw [List.mem_singleton.mp hl, List.mem_singleton.mp hk] at htarget
      exact congrArg (guardMarker, ·) htarget
  have hplaces : s.posts.Pairwise fun p q ↦ p.place ≠ q.place := List.pairwise_map.mp hr.distinct
  rw [(hr.listeners.map (·.spot)).nodup_iff, List.map_flatMap, List.nodup_flatMap]
  refine ⟨h.distinct, hplaces.imp_of_mem fun hp hq hne ↦ ?_⟩
  refine List.disjoint_left.mpr fun spot hspot hspot' ↦ ?_
  obtain ⟨l, hl, rfl⟩ := List.mem_map.mp hspot
  obtain ⟨k, hk, heq⟩ := List.mem_map.mp hspot'
  exact hne (hclash _ hp _ hq l hl k hk heq.symm)

/-! ## The theorem -/

private theorem not_marked
    (hd : ∀ n ∈ d.nodes, ∀ marker ∈ markers, n.element.hasAttribute marker = false) :
    ∀ marker ∈ markers, ∀ id, ¬ Marked d marker id := by
  intro marker hmarker id hmarked
  rw [Marked, Document.attribute?, Document.element?] at hmarked
  cases hn : d.find? id with
  | none =>
    rw [hn] at hmarked
    cases hmarked
  | some n =>
    rw [hn] at hmarked
    have habsent := hd n (Document.mem_of_find? hn) marker hmarker
    rw [Element.hasAttribute] at habsent
    rw [Option.map_some, Option.bind_some, habsent] at hmarked
    cases hmarked

private theorem mem_places_iff {id : NodeId} :
    ((formMarker, id) ∈ s.posts.map (·.place) ↔ id ∈ s.forms.map (·.root)) ∧
      ((guardMarker, id) ∈ s.posts.map (·.place) ↔ id ∈ s.guards.map (·.root)) := by
  have hne : formMarker ≠ guardMarker := by decide
  simp only [posts, List.map_append, List.map_map, List.mem_append, List.mem_map,
    Function.comp_apply, Post.place, BoundForm.post, BoundGuard.post, Prod.mk.injEq]
  simp [hne, hne.symm]

private theorem Registered.nodup_roots (h : s.Registered) :
    (s.forms.map (·.root)).Nodup ∧ (s.guards.map (·.root)).Nodup := by
  have hdistinct := h.distinct
  rw [posts, List.map_append, List.map_map, List.map_map] at hdistinct
  obtain ⟨hforms, hguards, -⟩ := List.nodup_append.mp hdistinct
  have hform : s.forms.map (Post.place ∘ BoundForm.post) =
      (s.forms.map (·.root)).map (formMarker, ·) := by
    rw [List.map_map]
    rfl
  have hguard : s.guards.map (Post.place ∘ BoundGuard.post) =
      (s.guards.map (·.root)).map (guardMarker, ·) := by
    rw [List.map_map]
    rfl
  rw [hform] at hforms
  rw [hguard] at hguards
  exact ⟨hforms.of_map, hguards.of_map⟩

private theorem flatMap_listeners_posts (s : Site) : s.posts.flatMap (·.listeners) =
    s.forms.flatMap (fun f ↦
        f.controller.layout.permission.map (⟨·, f.id, .select⟩) ++
          f.controller.layout.reason.map (⟨·, f.id, .noteReason⟩) ++ [⟨f.root, f.id, .release⟩]) ++
      s.guards.map fun g ↦ ⟨g.root, g.id, .latch⟩ := by
  rw [posts, List.flatMap_append, List.flatMap_map, List.flatMap_map]
  exact congrArg (_ ++ ·) List.map_eq_flatMap.symm

/-- Whatever is done to a page without bindings, its bindings, markers and listeners say the same.

- An element carries the marker of forms exactly if it is the element of a form, and there are never
  two forms for one element; the same holds for guards.
- The listeners are those of the forms and guards that there are, each once: a form listens to
  choices in all its permission selectors, to what is typed into all its reason fields, and to
  submissions at its element, and a guard to submissions at its element.
- When no form lies in the element of another one on the page, no element has two listeners for the
  same thing.
- From the moment it is released, a form or guard hears nothing, whatever else is done. -/
theorem registry_agrees (d : Document)
    (hd : ∀ n ∈ d.nodes, ∀ marker ∈ markers, n.element.hasAttribute marker = false)
    (ops : List Operation) :
    let s := Site.operateAll { document := d } ops
    (∀ root, Marked s.document formMarker root ↔ root ∈ s.forms.map (·.root)) ∧
    (s.forms.map (·.root)).Nodup ∧
    (∀ root, Marked s.document guardMarker root ↔ root ∈ s.guards.map (·.root)) ∧
    (s.guards.map (·.root)).Nodup ∧
    s.listeners.Perm (s.forms.flatMap (fun f ↦
        f.controller.layout.permission.map (⟨·, f.id, .select⟩) ++
          f.controller.layout.reason.map (⟨·, f.id, .noteReason⟩) ++ [⟨f.root, f.id, .release⟩]) ++
      s.guards.map fun g ↦ ⟨g.root, g.id, .latch⟩) ∧
    ((∀ f ∈ s.forms, ∀ g ∈ s.forms, f.root ≠ g.root → f.root ∉ d.lineage g.root) →
      (s.listeners.map fun l ↦ (l.target, l.reaction)).Nodup) ∧
    (∀ f ∈ s.forms, ∀ op : Operation, op.DropsForm f.id → ∀ later : List Operation,
      f.id ∉ ((s.operate op).operateAll later).forms.map (·.id) ∧
        ∀ l ∈ ((s.operate op).operateAll later).listeners, l.owner ≠ f.id) ∧
    ∀ g ∈ s.guards, ∀ op : Operation, op.DropsGuard g.id → ∀ later : List Operation,
      g.id ∉ ((s.operate op).operateAll later).guards.map (·.id) ∧
        ∀ l ∈ ((s.operate op).operateAll later).listeners, l.owner ≠ g.id := by
  intro s
  obtain ⟨ho, hr⟩ :=
    kept_registered.operateAll ops (orderly_open d) (registered_open (not_marked hd))
  obtain ⟨-, hg⟩ := (kept_grounded d).operateAll ops (orderly_open d) (grounded_open d)
  have hgone : ∀ id op, Gone id (s.operate op) → ∀ later : List Operation,
      Gone id ((s.operate op).operateAll later) ∧
        ∀ l ∈ ((s.operate op).operateAll later).listeners, l.owner ≠ id := by
    intro id op hgone later
    obtain ⟨hop, hrop⟩ := kept_registered.operate op ho hr
    have hlater := ((kept_gone id).operateAll later hop hgone).2
    exact ⟨hlater, fun l hl ↦ (kept_registered.operateAll later hop hrop).2.owner_ne hlater hl⟩
  refine ⟨fun root ↦ ?_, hr.nodup_roots.1, fun root ↦ ?_, hr.nodup_roots.2, ?_,
    hg.nodup_spots hr, fun f hf op hop later ↦ ?_, fun g hg op hop later ↦ ?_⟩
  · exact (hr.marked formMarker root List.mem_cons_self).trans mem_places_iff.1
  · exact (hr.marked guardMarker root (List.mem_cons_of_mem _ List.mem_cons_self)).trans
      mem_places_iff.2
  · rw [← flatMap_listeners_posts]
    exact hr.listeners
  · obtain ⟨hlater, howner⟩ := hgone f.id op (ho.gone_of_dropsForm hf hop) later
    refine ⟨fun hmem ↦ ?_, howner⟩
    obtain ⟨g, hg, heq⟩ := List.mem_map.mp hmem
    exact hlater.absent g.post (mem_posts.mpr (.inl ⟨g, hg, rfl⟩)) heq
  · obtain ⟨hlater, howner⟩ := hgone g.id op (ho.gone_of_dropsGuard hg hop) later
    refine ⟨fun hmem ↦ ?_, howner⟩
    obtain ⟨k, hk, heq⟩ := List.mem_map.mp hmem
    exact hlater.absent k.post (mem_posts.mpr (.inr ⟨k, hk, rfl⟩)) heq

/-- A page with two forms, of which the second one asks for a reason and may be submitted once. -/
def twoForms : Document :=
  let form : Element := { tag := "form" }
  let table := form.setAttribute tableAttribute "\x7b\"edit\": [\"*\"]\x7d"
  let select := Element.setAttribute { tag := "select" } "name" "permission_name"
  let input := Element.setAttribute { tag := "input" } "name" "argument"
  { nodes :=
      [⟨0, none, { tag := "html" }⟩, ⟨1, some 0, table⟩, ⟨2, some 1, select⟩,
        ⟨3, some 2, .newOption "edit"⟩, ⟨4, some 1, input⟩,
        ⟨5, some 0, table.setAttribute guardAttribute ""⟩, ⟨6, some 5, select⟩,
        ⟨7, some 6, .newOption "edit"⟩, ⟨8, some 5, input⟩, ⟨9, some 5, { tag := "button" }⟩,
        ⟨10, some 5, Element.setAttribute { tag := "textarea" } "name" "reason"⟩]
    next := 11
    distinct := by decide +kernel
    aged := by decide +kernel }

/-- Both forms are bound in one go, one is submitted, and the other one is released and bound
again. -/
def twoFormsOperations : List Operation :=
  [.bindPage (some 0), .act 0 (.dispatch 9 "submit"), .releaseForm 0, .bindForm 1]

/-- After that the form that was released is marked once more, and both forms and the guard listen
to their own elements, where nothing is heard twice. -/
theorem registry_agrees_sample :
    let s := Site.operateAll { document := twoForms } twoFormsOperations
    s.forms.map (·.root) = [5, 1] ∧ Marked s.document formMarker 1 ∧
      s.listeners.Perm [⟨6, 1, .select⟩, ⟨10, 1, .noteReason⟩, ⟨5, 1, .release⟩, ⟨2, 3, .select⟩,
        ⟨1, 3, .release⟩, ⟨5, 2, .latch⟩] ∧
      (s.listeners.map fun l ↦ (l.target, l.reaction)).Nodup := by
  intro s
  have hclean : ∀ n ∈ twoForms.nodes, ∀ marker ∈ markers,
      n.element.hasAttribute marker = false := by decide +kernel
  have hroots : s.forms.map (·.root) = [5, 1] := by decide +kernel
  obtain ⟨hmarked, -, -, -, hlisteners, hnodup, -, -⟩ :=
    registry_agrees twoForms hclean twoFormsOperations
  have hown : s.forms.flatMap (fun f ↦ f.controller.layout.permission.map (⟨·, f.id, .select⟩) ++
      f.controller.layout.reason.map (⟨·, f.id, .noteReason⟩) ++ [⟨f.root, f.id, .release⟩]) ++
        s.guards.map (fun g ↦ ⟨g.root, g.id, .latch⟩) =
      ([⟨6, 1, .select⟩, ⟨10, 1, .noteReason⟩, ⟨5, 1, .release⟩, ⟨2, 3, .select⟩,
        ⟨1, 3, .release⟩, ⟨5, 2, .latch⟩] : List Listener) := by decide +kernel
  refine ⟨hroots, (hmarked 1).mpr ?_, hown ▸ hlisteners, hnodup fun f hf g hg hne ↦ ?_⟩
  · show 1 ∈ s.forms.map (·.root)
    rw [hroots]
    decide
  · have hapart : ∀ a ∈ [5, 1], ∀ b ∈ [5, 1], a ≠ b → a ∉ twoForms.lineage b := by decide +kernel
    exact hapart f.root (hroots ▸ List.mem_map_of_mem hf) g.root (hroots ▸ List.mem_map_of_mem hg)
      hne

end Site

end AccessForm
