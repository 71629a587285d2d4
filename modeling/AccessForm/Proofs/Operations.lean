import AccessForm.Proofs.Attributes
import AccessForm.Proofs.Rebinding
import AccessForm.Site.Page
import Mathlib.Data.List.Nodup

/-!
# Operations on a site

Forms and guards are bound one by one or for a whole page, users and scripts do things, and bindings
are released one by one or for a whole page. Whatever is done comes down to three kinds of steps. A
site may persist: its bindings and listeners stay as they are, and the document evolves. A binding
may enter, or it may leave. What all three kinds of steps keep is kept by every operation
(`Kept.operateAll`), so nothing that follows has to look into bindings and pages again.

For this purpose forms and guards are alike. A `Post` is what a binding of either kind is for as
long as it lives.
-/

namespace AccessForm

/-! ## Posts -/

/-- What a listener hears, and where. -/
def Listener.spot (l : Listener) : NodeId × Reaction := (l.target, l.reaction)

/-- What a binding is for as long as it lives. -/
structure Post where
  /-- The number of the binding. -/
  id : BindingId
  /-- The attribute that marks its element. -/
  marker : String
  /-- Its element. -/
  root : NodeId
  /-- Its listeners. -/
  listeners : List Listener

/-- What no two bindings have in common: the marker and the element. -/
def Post.place (p : Post) : String × NodeId := (p.marker, p.root)

/-- The post of a form. -/
def BoundForm.post (f : BoundForm) : Post where
  id := f.id
  marker := Site.formMarker
  root := f.root
  listeners := Site.formListeners f.root f.controller.layout f.id

/-- The post of a guard. -/
def BoundGuard.post (g : BoundGuard) : Post where
  id := g.id
  marker := Site.guardMarker
  root := g.root
  listeners := [⟨g.root, g.id, .latch⟩]

/-- The leeway of those who may do anything that any form or guard may do. -/
def Leeway.any : Leeway := ⟨fun _ _ ↦ True, fun _ ↦ True, fun _ ↦ True⟩

theorem Document.Evolves.any {l : Leeway} {d d' : Document} (h : d.Evolves l d') :
    d.Evolves .any d' :=
  h.mono (fun _ _ _ ↦ trivial) (fun _ _ ↦ trivial) fun _ _ ↦ trivial

theorem Document.mem_lineage_self {d : Document} {id : NodeId}
    (h : (d.element? id).isSome = true) : id ∈ d.lineage id := by
  rw [element?, Option.isSome_map] at h
  obtain ⟨n, hn⟩ := Option.isSome_iff_exists.mp h
  exact mem_lineage_iff.mpr ⟨n, hn, .inl rfl⟩

private theorem Document.isSome_of_mem_lineage {d : Document} {a id : NodeId}
    (h : a ∈ d.lineage id) : (d.element? a).isSome = true := by
  refine lineage_induction (P := fun _ ↦ (d.element? a).isSome = true) h (fun hsome ↦ ?_)
    fun _ _ _ _ _ ih ↦ ih
  rwa [element?, Option.isSome_map]

theorem Document.nodup_queryKind (d : Document) (root : NodeId) (sel : Selector)
    (p : ElementKind → Bool) : (d.queryKind root sel p).Nodup :=
  List.pairwise_map.mpr (((d.distinct.filter _).filter _).filter _)

namespace Site

open Document (SameAttribute)

variable {s s' s'' : Site} {p : Post} {root : NodeId}

/-- The posts of all bindings. -/
def posts (s : Site) : List Post := s.forms.map (·.post) ++ s.guards.map (·.post)

theorem mem_posts : p ∈ s.posts ↔ (∃ f ∈ s.forms, f.post = p) ∨ ∃ g ∈ s.guards, g.post = p := by
  rw [posts, List.mem_append, List.mem_map, List.mem_map]

theorem marker_ne (f : BoundForm) (g : BoundGuard) : f.post.marker ≠ g.post.marker := by
  show formMarker ≠ guardMarker
  decide

/-- Bindings have different numbers, none of which will be given again. -/
structure Orderly (s : Site) : Prop where
  /-- No two bindings have the same number. -/
  distinct : (s.posts.map (·.id)).Nodup
  /-- No binding has a number yet to come. -/
  young : ∀ p ∈ s.posts, p.id < s.next

theorem Orderly.eq_of_id (h : s.Orderly) {q : Post} (hp : p ∈ s.posts) (hq : q ∈ s.posts)
    (hid : p.id = q.id) : p = q :=
  List.inj_on_of_nodup_map h.distinct hp hq hid

theorem orderly_open (d : Document) : Orderly { document := d } :=
  ⟨List.nodup_nil, fun _ h ↦ absurd h List.not_mem_nil⟩

/-! ## Kinds of steps -/

/-- Bindings and listeners are the same, and the document evolved. -/
structure Persists (s s' : Site) : Prop where
  /-- No number was given. -/
  next : s'.next = s.next
  /-- The listeners are the same. -/
  listeners : s'.listeners = s.listeners
  /-- The posts are the same. -/
  posts : s'.posts = s.posts
  /-- Spared attributes are the same. -/
  attributes (name : String) : Spared name → SameAttribute name s.document s'.document
  /-- The document evolved. -/
  document : s.document.Evolves .any s'.document

/-- A binding is new. -/
structure Enters (s : Site) (p : Post) (s' : Site) : Prop where
  /-- It has the next number. -/
  id : p.id = s.next
  /-- The number is used up. -/
  next : s'.next = s.next + 1
  /-- Its post is there, with the earlier ones. -/
  posts : s'.posts.Perm (p :: s.posts)
  /-- Its listeners are there, behind the earlier ones. -/
  listeners : s'.listeners = s.listeners ++ p.listeners
  /-- Its element did not carry the marker. -/
  unmarked : ¬ Marked s.document p.marker p.root
  /-- Now it does. -/
  marked (id : NodeId) : Marked s'.document p.marker id ↔
    id = p.root ∨ Marked s.document p.marker id
  /-- Other spared attributes are the same. -/
  attributes (name : String) : Spared name → name ≠ p.marker →
    SameAttribute name s.document s'.document
  /-- The listeners are in its element, before the document goes on to evolve. -/
  document : ∃ d, s.document.Evolves .any d ∧ d.Evolves .any s'.document ∧
    ∀ l ∈ p.listeners, p.root ∈ d.lineage l.target
  /-- Nothing is heard twice. -/
  distinct : (p.listeners.map (·.spot)).Nodup
  /-- The element of a form has a table. -/
  table : p.marker = formMarker → (s.document.attribute? p.root tableAttribute).isSome = true

/-- A binding is released. -/
structure Leaves (s : Site) (p : Post) (s' : Site) : Prop where
  /-- It was there. -/
  live : p ∈ s.posts
  /-- No number was given. -/
  next : s'.next = s.next
  /-- The other posts are there. -/
  posts : s'.posts = s.posts.filter (·.id != p.id)
  /-- The listeners of others are there. -/
  listeners : s'.listeners = s.listeners.filter (·.owner != p.id)
  /-- The marker is gone from the element. -/
  marked (id : NodeId) : Marked s'.document p.marker id ↔
    id ≠ p.root ∧ Marked s.document p.marker id
  /-- Other spared attributes are the same. -/
  attributes (name : String) : Spared name → name ≠ p.marker →
    SameAttribute name s.document s'.document
  /-- The document evolved. -/
  document : s.document.Evolves .any s'.document

/-! ## Numbers stay in order -/

namespace Persists

theorem refl (s : Site) : s.Persists s where
  next := rfl
  listeners := rfl
  posts := rfl
  attributes name _ := (Document.frame_sameAttribute name).refl _
  document := .refl _

theorem trans (h : s.Persists s') (h' : s'.Persists s'') : s.Persists s'' where
  next := h'.next.trans h.next
  listeners := h'.listeners.trans h.listeners
  posts := h'.posts.trans h.posts
  attributes name hname :=
    (Document.frame_sameAttribute name).trans (h.attributes name hname) (h'.attributes name hname)
  document := h.document.trans h'.document

end Persists

theorem Orderly.persists (h : s.Orderly) (hs : s.Persists s') : s'.Orderly := by
  refine ⟨?_, ?_⟩
  · rw [hs.posts]
    exact h.distinct
  · rw [hs.posts, hs.next]
    exact h.young

theorem Orderly.enters (h : s.Orderly) (hs : s.Enters p s') : s'.Orderly := by
  have hnew : p.id ∉ s.posts.map (·.id) := by
    intro hmem
    obtain ⟨q, hq, heq⟩ := List.mem_map.mp hmem
    have hlt := h.young q hq
    rw [heq, hs.id] at hlt
    exact Nat.lt_irrefl _ hlt
  refine ⟨?_, fun q hq ↦ ?_⟩
  · exact ((hs.posts.map _).nodup_iff).mpr (List.nodup_cons.mpr ⟨hnew, h.distinct⟩)
  · rw [hs.next]
    rcases List.mem_cons.mp (hs.posts.mem_iff.mp hq) with rfl | hq
    · exact hs.id ▸ Nat.lt_succ_self _
    · exact Nat.lt_succ_of_lt (h.young q hq)

theorem Orderly.leaves (h : s.Orderly) (hs : s.Leaves p s') : s'.Orderly := by
  refine ⟨?_, fun q hq ↦ ?_⟩
  · rw [hs.posts]
    exact h.distinct.sublist (List.filter_sublist.map _)
  · rw [hs.posts] at hq
    rw [hs.next]
    exact h.young q (List.mem_filter.mp hq).1

/-! ## Acts -/

theorem Orderly.nodup_forms (h : s.Orderly) : (s.forms.map (·.id)).Nodup := by
  have hdistinct := h.distinct
  rw [posts, List.map_append, List.map_map] at hdistinct
  exact (List.nodup_append.mp hdistinct).1

theorem Orderly.nodup_guards (h : s.Orderly) : (s.guards.map (·.id)).Nodup := by
  have hdistinct := h.distinct
  rw [posts, List.map_append, List.map_map, List.map_map] at hdistinct
  exact (List.nodup_append.mp hdistinct).2.1

theorem Orderly.call (h : s.Orderly) (id : BindingId) (e : Controller.Event NodeId) :
    s.Persists (s.call id e).site := by
  by_cases hnone : s.form? id = none
  · rw [Site.call, hnone]
    exact .refl s
  obtain ⟨f, hf⟩ := Option.ne_none_iff_exists'.mp hnone
  have hmem : f ∈ s.forms := List.mem_of_find?_eq_some hf
  have hfid : f.id = id := by simpa using List.find?_some hf
  obtain ⟨mode, primed, hc⟩ := Controller.exists_controller_move f.controller s.document (.event e)
  rw [Controller.move] at hc
  rw [call_of_some hf]
  refine ⟨rfl, rfl, ?_, ?_, ?_⟩
  · rw [posts, posts, List.map_map]
    refine congrArg (· ++ s.guards.map (·.post)) (List.map_congr_left fun g hg ↦ ?_)
    rw [Function.comp_apply]
    split
    · next hid =>
      obtain rfl : g = f := List.inj_on_of_nodup_map h.nodup_forms hg hmem (hid.trans hfid.symm)
      rw [BoundForm.post, BoundForm.post, hc]
    · rfl
  · exact fun name hname ↦ f.controller.sameAttribute_handle hname s.document e
  · exact (f.controller.evolves_handle s.document e).any

theorem persists_judge (s : Site) (id : BindingId) : s.Persists (s.judge id).site := by
  by_cases hnone : s.guard? id = none
  · rw [Site.judge, hnone]
    exact .refl s
  obtain ⟨g, hg⟩ := Option.ne_none_iff_exists'.mp hnone
  rw [Site.judge, hg]
  refine ⟨rfl, rfl, ?_, fun name hname ↦ .submit hname g.latch s.document,
    Document.Evolves.submit trivial trivial s.document⟩
  rw [posts, posts, List.map_map]
  refine congrArg (s.forms.map (·.post) ++ ·) (List.map_congr_left fun k _ ↦ ?_)
  rw [Function.comp_apply]
  split
  · rfl
  · rfl

theorem Orderly.react (h : s.Orderly) (l : Listener) : s.Persists (s.react l).site := by
  rw [Site.react]
  split
  · exact h.call _ _
  · exact h.call _ _
  · exact h.call _ _
  · exact s.persists_judge _

theorem persists_setValue (s : Site) (id : NodeId) (v : String) :
    s.Persists (s.edit (·.setValue id v)) where
  next := rfl
  listeners := rfl
  posts := rfl
  attributes _ _ := .setValue s.document id v
  document := .setValue s.document id v

private theorem Orderly.dispatch (h : s.Orderly) (target : NodeId) (event : String) :
    s.Persists (s.dispatch target event).site := by
  refine reactAll_keeps (P := fun t ↦ s.Persists t) (fun t ht l _ ↦ ?_) (.refl s)
  exact ht.trans ((h.persists ht).react l)

/-- Whatever users and scripts do, the bindings persist. -/
theorem Orderly.act (h : s.Orderly) (id : BindingId) (a : Act) : s.Persists (s.act id a) := by
  have hset : ∀ target v event,
      s.Persists ((s.edit (·.setValue target v)).dispatch target event).site := fun target v event ↦
    (s.persists_setValue target v).trans
      ((h.persists (s.persists_setValue target v)).dispatch target event)
  cases a with
  | select _ => exact h.call _ _
  | derive => exact h.call _ _
  | choose target v => exact hset target v "change"
  | typeText target v => exact hset target v "input"
  | dispatch target event => exact h.dispatch target event

/-! ## Bindings -/

/-- The post of a form that is about to be bound. -/
def plannedPost (s : Site) (root : NodeId) (plan : FormPlan) : Post where
  id := s.next
  marker := formMarker
  root := root
  listeners := formListeners root (plannedLayout s.document root plan) s.next

theorem lineage_of_mem_queryKind {d : Document} {sel : Selector} {q : ElementKind → Bool}
    {k : NodeId} (h : k ∈ d.queryKind root sel q) : root ∈ d.lineage k := by
  obtain ⟨n, hn, rfl⟩ := List.mem_map.mp h
  have hbelow := (Document.mem_query.mp (List.mem_filter.mp hn).1).2.1
  rw [Document.isBelow, Bool.and_eq_true, List.contains_iff_mem] at hbelow
  exact hbelow.2

variable {plan : FormPlan}

/-- All that a form will listen to is in its element when it is taken over. -/
theorem Plans.lineage_target (h : Plans s.document root plan) {l : Listener}
    (hl : l ∈ (s.plannedPost root plan).listeners) :
    root ∈ (provideDropdown s.document plan).1.lineage l.target := by
  have hevolves := h.provided.evolves
  rw [plannedPost, formListeners, List.mem_append, List.mem_append] at hl
  rcases hl with (hl | hl) | hl
  · obtain ⟨k, hk, rfl⟩ := List.mem_map.mp hl
    replace hk : k ∈ plan.permission := hk
    rw [h.permission] at hk
    rw [hevolves.lineage_eq_of_not_refills (fun _ hfalse ↦ hfalse) (lt_of_mem_queryKind hk)]
    exact lineage_of_mem_queryKind hk
  · obtain ⟨k, hk, rfl⟩ := List.mem_map.mp hl
    exact lineage_of_mem_queryKind hk
  · rw [List.mem_singleton.mp hl]
    exact Document.mem_lineage_self (hevolves.isSome_element? h.isSome_root)

/-- A form does not listen to the same thing twice. -/
theorem Plans.nodup_spots (h : Plans s.document root plan) :
    ((s.plannedPost root plan).listeners.map (·.spot)).Nodup := by
  have hpermission : (plannedLayout s.document root plan).permission.Nodup := by
    show plan.permission.Nodup
    rw [h.permission]
    exact s.document.nodup_queryKind _ _ _
  have hreason : (plannedLayout s.document root plan).reason.Nodup :=
    Document.nodup_queryKind _ _ _ _
  have hspots : (s.plannedPost root plan).listeners.map (·.spot) =
      (plannedLayout s.document root plan).permission.map (·, .select) ++
        (plannedLayout s.document root plan).reason.map (·, .noteReason) ++ [(root, .release)] := by
    rw [plannedPost, formListeners, List.map_append, List.map_append, List.map_map, List.map_map]
    rfl
  rw [hspots]
  refine List.Nodup.append (List.Nodup.append (hpermission.map ?_) (hreason.map ?_) ?_)
    (List.nodup_singleton _) ?_
  · exact fun _ _ heq ↦ (Prod.mk.inj heq).1
  · exact fun _ _ heq ↦ (Prod.mk.inj heq).1
  · simp [List.disjoint_left]
  · simp

theorem Plans.enters (h : Plans s.document root plan) :
    s.Enters (s.plannedPost root plan) (s.bindForm root).site := by
  obtain ⟨mode, primed, hc⟩ := exists_controller_opening s.document root plan
  obtain ⟨hforms, hdocument⟩ := h.opened
  have hevolves := h.provided.evolves
  have hstart : (provideDropdown s.document plan).1.Evolves .any
      (opening s.document root plan).surface := (Controller.evolves_start _ _ _ _).any
  have hroot := hstart.isSome_element? (hevolves.isSome_element? h.isSome_root)
  have hspared : Spared formMarker := by decide
  have hmarker : (opening s.document root plan).surface.Evolves .any
      (setMarker (opening s.document root plan).surface root formMarker true) :=
    .toggleAttribute trivial (by decide) _ true
  exact {
    id := rfl
    next := by
      rw [bindForm_eq h]
      rfl
    posts := by
      have hguards : (s.bindForm root).site.guards = s.guards := by
        rw [bindForm_eq h]
        rfl
      rw [posts, posts, hforms, hguards, List.map_append, List.append_assoc]
      have hpost : BoundForm.post ⟨s.next, root, (opening s.document root plan).controller⟩ =
          s.plannedPost root plan := by
        simp only [BoundForm.post, hc]
        rfl
      rw [List.map_singleton, hpost]
      exact List.perm_middle
    listeners := by
      rw [bindForm_eq h]
      rfl
    unmarked := by
      rw [marked_iff_rootElement]
      exact Bool.eq_false_iff.mp h.unmarked
    marked := by
      intro id
      rw [hdocument]
      exact (marked_setMarker_true hroot id).trans
        (or_congr_right (marked_congr (h.sameAttribute_opening hspared) id))
    attributes := by
      intro name hname hne
      rw [hdocument]
      exact (Document.frame_sameAttribute name).trans (h.sameAttribute_opening hname)
        (.toggleAttribute hne _ root true)
    document := by
      rw [hdocument]
      exact ⟨_, hevolves.any, hstart.trans hmarker, fun l hl ↦ h.lineage_target hl⟩
    distinct := h.nodup_spots
    table := by
      intro _
      have htable := h.table
      rw [readTable, attribute?_rootElement h.isSome_root] at htable
      split at htable
      · cases htable
      · next hjson =>
        rw [plannedPost, Document.attribute?, hjson]
        rfl }

theorem planGuard_eq_ok {d : Document} {latch : Latch NodeId} (h : planGuard d root = .ok latch) :
    (rootElement d root).hasAttribute guardMarker = false ∧ (d.element? root).isSome = true := by
  simp only [planGuard, bind_eq_ok_iff, refuseMarked_eq_ok_iff] at h
  obtain ⟨-, hunmarked, settings, -, hfound⟩ := h
  refine ⟨hunmarked, ?_⟩
  split at hfound
  · next n hn =>
    have hquery : d.isBelow root n.id = true := by
      rcases Option.or_eq_some_iff.mp hn with hn | ⟨-, hn⟩
      · exact (Document.mem_query.mp (Document.mem_query_of_queryFirst? hn)).2.1
      · exact (Document.mem_query.mp (Document.mem_query_of_queryFirst? hn)).2.1
    rw [Document.isBelow, Bool.and_eq_true, List.contains_iff_mem] at hquery
    exact Document.isSome_of_mem_lineage hquery.2
  · cases hfound

theorem enters_bindGuard {latch : Latch NodeId} (h : planGuard s.document root = .ok latch) :
    s.Enters (BoundGuard.post ⟨s.next, root, latch⟩) (s.bindGuard root).site := by
  obtain ⟨hunmarked, hroot⟩ := planGuard_eq_ok h
  have hother : (BoundGuard.post ⟨s.next, root, latch⟩).marker ≠ formMarker := by
    show guardMarker ≠ formMarker
    decide
  rw [bindGuard, h]
  exact {
    id := rfl
    next := rfl
    posts := by
      rw [posts, posts, List.map_append, ← List.append_assoc]
      exact List.perm_append_singleton _ _
    listeners := rfl
    unmarked := by
      rw [marked_iff_rootElement]
      exact Bool.eq_false_iff.mp hunmarked
    marked := fun id ↦ marked_setMarker_true hroot id
    attributes := fun name _ hne ↦ .toggleAttribute hne _ root true
    document := by
      refine ⟨s.document, .refl _, .toggleAttribute trivial (by decide) _ true, fun l hl ↦ ?_⟩
      rw [List.mem_singleton.mp hl]
      exact Document.mem_lineage_self hroot
    distinct := List.nodup_singleton _
    table := fun hmarker ↦ absurd hmarker hother }

/-! ## Releases -/

theorem Orderly.releaseForm (h : s.Orderly) (id : BindingId) :
    s.releaseForm id = s ∨ ∃ f ∈ s.forms, f.id = id ∧ s.Leaves f.post (s.releaseForm id) := by
  by_cases hnone : s.form? id = none
  · left
    rw [Site.releaseForm, hnone]
  obtain ⟨f, hf⟩ := Option.ne_none_iff_exists'.mp hnone
  have hmem : f ∈ s.forms := List.mem_of_find?_eq_some hf
  have hfid : f.id = id := by simpa using List.find?_some hf
  have hlive : f.post ∈ s.posts := mem_posts.mpr (.inl ⟨f, hmem, rfl⟩)
  -- no guard has the number of the form
  have hguards : (s.guards.map (·.post)).filter (·.id != id) = s.guards.map (·.post) := by
    refine List.filter_eq_self.mpr fun q hq ↦ ?_
    obtain ⟨g, hg, rfl⟩ := List.mem_map.mp hq
    refine bne_iff_ne.mpr fun heq ↦ ?_
    have hsame : g.post = f.post :=
      h.eq_of_id (mem_posts.mpr (.inr ⟨g, hg, rfl⟩)) hlive (heq.trans hfid.symm)
    exact marker_ne f g (congrArg Post.marker hsame).symm
  refine .inr ⟨f, hmem, hfid, ?_⟩
  rw [releaseForm_of_some hf]
  exact {
    live := hlive
    next := rfl
    posts := by
      have hpost : f.post.id = id := hfid
      rw [posts, posts, hpost, List.filter_append, hguards, List.filter_map]
      rfl
    listeners := by
      have hpost : f.post.id = id := hfid
      rw [hpost]
      rfl
    marked := fun id ↦ marked_setMarker_false id
    attributes := fun name _ hne ↦ .toggleAttribute hne _ f.root false
    document := .toggleAttribute trivial (by decide) _ false }

theorem Orderly.releaseGuard (h : s.Orderly) (id : BindingId) :
    s.releaseGuard id = s ∨ ∃ g ∈ s.guards, g.id = id ∧ s.Leaves g.post (s.releaseGuard id) := by
  by_cases hnone : s.guard? id = none
  · left
    rw [Site.releaseGuard, hnone]
  obtain ⟨g, hg⟩ := Option.ne_none_iff_exists'.mp hnone
  have hmem : g ∈ s.guards := List.mem_of_find?_eq_some hg
  have hgid : g.id = id := by simpa using List.find?_some hg
  have hlive : g.post ∈ s.posts := mem_posts.mpr (.inr ⟨g, hmem, rfl⟩)
  -- no form has the number of the guard
  have hforms : (s.forms.map (·.post)).filter (·.id != id) = s.forms.map (·.post) := by
    refine List.filter_eq_self.mpr fun q hq ↦ ?_
    obtain ⟨f, hf, rfl⟩ := List.mem_map.mp hq
    refine bne_iff_ne.mpr fun heq ↦ ?_
    have hsame : f.post = g.post :=
      h.eq_of_id (mem_posts.mpr (.inl ⟨f, hf, rfl⟩)) hlive (heq.trans hgid.symm)
    exact marker_ne f g (congrArg Post.marker hsame)
  refine .inr ⟨g, hmem, hgid, ?_⟩
  rw [Site.releaseGuard, hg]
  exact {
    live := hlive
    next := rfl
    posts := by
      have hpost : g.post.id = id := hgid
      rw [posts, posts, hpost, List.filter_append, hforms, List.filter_map]
      rfl
    listeners := by
      have hpost : g.post.id = id := hgid
      rw [hpost]
      rfl
    marked := fun id ↦ marked_setMarker_false id
    attributes := fun name _ hne ↦ .toggleAttribute hne _ g.root false
    document := .toggleAttribute trivial (by decide) _ false }

/-! ## Sequences of operations -/

/-- What can be done to a site. -/
inductive Operation where
  /-- A form is bound. -/
  | bindForm (root : NodeId)
  /-- A guard is bound. -/
  | bindGuard (root : NodeId)
  /-- All forms and guards below an element are bound. -/
  | bindPage (root : Option NodeId)
  /-- A form is released. -/
  | releaseForm (id : BindingId)
  /-- A guard is released. -/
  | releaseGuard (id : BindingId)
  /-- All that was bound in one go is released. -/
  | releasePage (page : Page)
  /-- Something happens to an element or to a form. -/
  | act (id : BindingId) (a : Act)
  deriving DecidableEq, Repr

/-- The site after an operation. -/
def operate (s : Site) : Operation → Site
  | .bindForm root => (s.bindForm root).site
  | .bindGuard root => (s.bindGuard root).site
  | .bindPage root => (s.bindPage root).site
  | .releaseForm id => s.releaseForm id
  | .releaseGuard id => s.releaseGuard id
  | .releasePage page => s.releasePage page
  | .act id a => s.act id a

/-- The site after several operations. -/
def operateAll (s : Site) (ops : List Operation) : Site := ops.foldl operate s

theorem operateAll_append (s : Site) (ops ops' : List Operation) :
    s.operateAll (ops ++ ops') = (s.operateAll ops).operateAll ops' := List.foldl_append

theorem bindEach_keeps {P : Site → Prop} {widget : String}
    {bind : Site → NodeId → Reply (Except BindError BindingId)}
    (h : ∀ s root, P s → P (bind s root).site) (hs : P s) (roots : List NodeId) :
    P (bindEach widget bind s roots).site := by
  induction roots generalizing s with
  | nil => exact hs
  | cons root roots ih => exact ih (h s root hs)

theorem foldl_keeps {α : Type} {P : Site → Prop} {op : Site → α → Site}
    (h : ∀ s a, P s → P (op s a)) (hs : P s) (as : List α) : P (as.foldl op s) := by
  induction as generalizing s with
  | nil => exact hs
  | cons a as ih => exact ih (h s a hs)

/-- What all three kinds of steps keep. -/
structure Kept (P : Site → Prop) : Prop where
  /-- It is kept where bindings persist. -/
  persists {s s' : Site} : s.Orderly → P s → s.Persists s' → P s'
  /-- It is kept where one enters. -/
  enters {s s' : Site} {p : Post} : s.Orderly → P s → s.Enters p s' → P s'
  /-- It is kept where one leaves. -/
  leaves {s s' : Site} {p : Post} : s.Orderly → P s → s.Leaves p s' → P s'

namespace Kept

variable {P : Site → Prop}

private theorem and_orderly (h : Kept P) : Kept fun s ↦ s.Orderly ∧ P s where
  persists ho hP hs := ⟨ho.persists hs, h.persists ho hP.2 hs⟩
  enters ho hP hs := ⟨ho.enters hs, h.enters ho hP.2 hs⟩
  leaves ho hP hs := ⟨ho.leaves hs, h.leaves ho hP.2 hs⟩

theorem bindForm (h : Kept P) (root : NodeId) (ho : s.Orderly) (hP : P s) :
    P (s.bindForm root).site := by
  cases hplan : planForm s.document root with
  | error e =>
    rw [Site.bindForm, hplan]
    exact hP
  | ok plan => exact h.enters ho hP (planForm_eq_ok_iff.mp hplan).enters

theorem bindGuard (h : Kept P) (root : NodeId) (ho : s.Orderly) (hP : P s) :
    P (s.bindGuard root).site := by
  cases hplan : planGuard s.document root with
  | error e =>
    rw [Site.bindGuard, hplan]
    exact hP
  | ok latch => exact h.enters ho hP (enters_bindGuard hplan)

private theorem releaseForm (h : Kept P) (id : BindingId) (ho : s.Orderly) (hP : P s) :
    P (s.releaseForm id) := by
  rcases ho.releaseForm id with heq | ⟨f, -, -, hs⟩
  · rwa [heq]
  · exact h.leaves ho hP hs

private theorem releaseGuard (h : Kept P) (id : BindingId) (ho : s.Orderly) (hP : P s) :
    P (s.releaseGuard id) := by
  rcases ho.releaseGuard id with heq | ⟨g, -, -, hs⟩
  · rwa [heq]
  · exact h.leaves ho hP hs

/-- What the three kinds of steps keep is kept by every operation. -/
theorem operate (h : Kept P) (op : Operation) (ho : s.Orderly) (hP : P s) :
    (s.operate op).Orderly ∧ P (s.operate op) := by
  have h' := h.and_orderly
  cases op with
  | bindForm root => exact h'.bindForm root ho ⟨ho, hP⟩
  | bindGuard root => exact h'.bindGuard root ho ⟨ho, hP⟩
  | bindPage root =>
    cases root with
    | none => exact ⟨ho, hP⟩
    | some root =>
      exact bindEach_keeps (P := fun t ↦ t.Orderly ∧ P t) (fun t r ht ↦ h'.bindGuard r ht.1 ht)
        (bindEach_keeps (P := fun t ↦ t.Orderly ∧ P t) (fun t r ht ↦ h'.bindForm r ht.1 ht)
          ⟨ho, hP⟩ _) _
  | releaseForm id => exact h'.releaseForm id ho ⟨ho, hP⟩
  | releaseGuard id => exact h'.releaseGuard id ho ⟨ho, hP⟩
  | releasePage page =>
    exact foldl_keeps (P := fun t ↦ t.Orderly ∧ P t) (fun t r ht ↦ h'.releaseGuard r ht.1 ht)
      (foldl_keeps (P := fun t ↦ t.Orderly ∧ P t) (fun t r ht ↦ h'.releaseForm r ht.1 ht)
        ⟨ho, hP⟩ _) _
  | act id a => exact h'.persists ho ⟨ho, hP⟩ (ho.act id a)

theorem operateAll (h : Kept P) (ops : List Operation) (ho : s.Orderly) (hP : P s) :
    (s.operateAll ops).Orderly ∧ P (s.operateAll ops) :=
  foldl_keeps (P := fun t ↦ t.Orderly ∧ P t) (fun _ op ht ↦ h.operate op ht.1 ht.2) ⟨ho, hP⟩ ops

end Kept

end Site

end AccessForm
