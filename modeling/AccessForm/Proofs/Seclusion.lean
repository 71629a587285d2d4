import AccessForm.Proofs.Paging

/-!
# Events stay inside

All elements that a form or guard works on are at home with the element that it is bound to
(`Settled`). An event on an element of one household is heard by the bindings of the head of this
household only, because listeners are in the households of their bindings. So whatever happens to a
head or in its household changes nothing but the head and the household (`Settled.act_on`), and the
other heads do not notice it (`Settled.others_undergo`).

What happens elsewhere is heard by nobody. In either case the page is settled again
(`Settled.act_cases`).
-/

namespace AccessForm

/-! ## Heirs -/

namespace Site

variable {s s' s'' : Site} {id : BindingId}

theorem Orderly.exists_form_call (h : s.Orderly) {e : Controller.Event NodeId} {f' : BoundForm}
    (hf' : f' ∈ (s.call id e).site.forms) : ∃ f ∈ s.forms, ∃ mode primed,
      f' = { f with controller := { f.controller with mode, primed } } := by
  by_cases hnone : s.form? id = none
  · rw [Site.call, hnone] at hf'
    exact ⟨f', hf', f'.controller.mode, f'.controller.primed, rfl⟩
  obtain ⟨f, hf⟩ := Option.ne_none_iff_exists'.mp hnone
  have hmem : f ∈ s.forms := List.mem_of_find?_eq_some hf
  have hfid : f.id = id := by simpa using List.find?_some hf
  obtain ⟨mode, primed, hc⟩ := Controller.exists_controller_move f.controller s.document (.event e)
  rw [Controller.move] at hc
  rw [call_of_some hf] at hf'
  obtain ⟨g, hg, rfl⟩ := List.mem_map.mp hf'
  by_cases hid : g.id = id
  · obtain rfl : g = f := List.inj_on_of_nodup_map h.nodup_forms hg hmem (hid.trans hfid.symm)
    exact ⟨g, hg, mode, primed, by rw [if_pos hid, hc]⟩
  · exact ⟨g, hg, g.controller.mode, g.controller.primed, by rw [if_neg hid]⟩

theorem Orderly.exists_guard_judge (h : s.Orderly) {g' : BoundGuard}
    (hg' : g' ∈ (s.judge id).site.guards) : ∃ g ∈ s.guards, ∃ submitted,
      g' = { g with latch := { g.latch with submitted } } := by
  by_cases hnone : s.guard? id = none
  · rw [Site.judge, hnone] at hg'
    exact ⟨g', hg', g'.latch.submitted, rfl⟩
  obtain ⟨g, hg⟩ := Option.ne_none_iff_exists'.mp hnone
  have hmem : g ∈ s.guards := List.mem_of_find?_eq_some hg
  have hgid : g.id = id := by simpa using List.find?_some hg
  have hlatch : ∃ submitted, (g.latch.submit s.document).latch = { g.latch with submitted } := by
    rw [Latch.submit]
    split
    · exact ⟨g.latch.submitted, rfl⟩
    · exact ⟨true, rfl⟩
  obtain ⟨submitted, hlatch⟩ := hlatch
  rw [Site.judge, hg] at hg'
  obtain ⟨k, hk, rfl⟩ := List.mem_map.mp hg'
  by_cases hid : k.id = id
  · obtain rfl : k = g := List.inj_on_of_nodup_map h.nodup_guards hk hmem (hid.trans hgid.symm)
    exact ⟨k, hk, submitted, by rw [if_pos hid, hlatch]⟩
  · exact ⟨k, hk, k.latch.submitted, by rw [if_neg hid]⟩

theorem forms_judge (s : Site) (id : BindingId) : (s.judge id).site.forms = s.forms := by
  obtain ⟨d, guards, heq, -⟩ := s.exists_site_judge id
  rw [heq]

theorem guards_call (s : Site) (id : BindingId) (e : Controller.Event NodeId) :
    (s.call id e).site.guards = s.guards := by
  rw [call]
  split
  · rfl
  · rfl

/-- The bindings of a site work on what the bindings of an earlier one worked on. -/
structure Inherits (s s' : Site) : Prop where
  /-- Forms keep their elements. -/
  forms (f' : BoundForm) : f' ∈ s'.forms →
    ∃ f ∈ s.forms, f'.root = f.root ∧ f'.controller.elements = f.controller.elements
  /-- Guards keep their controls. -/
  guards (g' : BoundGuard) : g' ∈ s'.guards →
    ∃ g ∈ s.guards, g'.root = g.root ∧ g'.latch.control = g.latch.control

namespace Inherits

theorem refl (s : Site) : s.Inherits s where
  forms f hf := ⟨f, hf, rfl, rfl⟩
  guards g hg := ⟨g, hg, rfl, rfl⟩

theorem trans (h : s.Inherits s') (h' : s'.Inherits s'') : s.Inherits s'' where
  forms f hf := by
    obtain ⟨f', hf', hroot', helements'⟩ := h'.forms f hf
    obtain ⟨f, hf, hroot, helements⟩ := h.forms f' hf'
    exact ⟨f, hf, hroot'.trans hroot, helements'.trans helements⟩
  guards g hg := by
    obtain ⟨g', hg', hroot', hcontrol'⟩ := h'.guards g hg
    obtain ⟨g, hg, hroot, hcontrol⟩ := h.guards g' hg'
    exact ⟨g, hg, hroot'.trans hroot, hcontrol'.trans hcontrol⟩

theorem notMem_formRoots (h : s.Inherits s') {r : NodeId} (hr : r ∉ s.formRoots) :
    r ∉ s'.formRoots := by
  intro hmem
  obtain ⟨f', hf', rfl⟩ := List.mem_map.mp hmem
  obtain ⟨f, hf, hroot, -⟩ := h.forms f' hf'
  exact hr (hroot ▸ List.mem_map_of_mem hf)

end Inherits

private theorem Orderly.inherits_call (h : s.Orderly) (id : BindingId)
    (e : Controller.Event NodeId) : s.Inherits (s.call id e).site where
  forms f' hf' := by
    obtain ⟨f, hf, mode, primed, rfl⟩ := h.exists_form_call hf'
    exact ⟨f, hf, rfl, rfl⟩
  guards g' hg' := ⟨g', guards_call s id e ▸ hg', rfl, rfl⟩

private theorem Orderly.inherits_judge (h : s.Orderly) (id : BindingId) :
    s.Inherits (s.judge id).site where
  forms f' hf' := ⟨f', forms_judge s id ▸ hf', rfl, rfl⟩
  guards g' hg' := by
    obtain ⟨g, hg, submitted, rfl⟩ := h.exists_guard_judge hg'
    exact ⟨g, hg, rfl, rfl⟩

theorem inherits_setValue (s : Site) (target : NodeId) (v : String) :
    s.Inherits (s.edit (·.setValue target v)) where
  forms := (Inherits.refl s).forms
  guards := (Inherits.refl s).guards

/-! ## Settled pages -/

end Site

open Document (Belongs KeepsTo around inside withNew withNew_of_lt withNew_of_le)

private theorem Document.Housed.eq_of_belongs {heads : NodeId → Bool}
    {home : NodeId → Option NodeId}
    {d : Document} (h : d.Housed heads home) {a b k : NodeId} (ha : Belongs heads home a k)
    (hb : Belongs heads home b k) : a = b := by
  rcases ha with ha | ⟨rfl, ha⟩
  · rcases hb with hb | ⟨rfl, hb⟩
    · exact Option.some.inj (ha.symm.trans hb)
    · rw [h.head k hb] at ha
      cases ha
  · rcases hb with hb | ⟨rfl, -⟩
    · rw [h.head k ha] at hb
      cases hb
    · rfl

private theorem Document.Housed.setValue {heads : NodeId → Bool} {home : NodeId → Option NodeId}
    {d : Document} (h : d.Housed heads home) (id : NodeId) (v : String) :
    (d.setValue id v).Housed heads home := by
  rw [Document.setValue]
  split
  · exact h.mapElements _
  · split
    · exact h.mapElements _
    · exact h

namespace Site

/-- The bindings of a site work in the households of their elements. -/
structure Settled (heads : NodeId → Bool) (home : NodeId → Option NodeId) (s : Site) : Prop where
  /-- Numbers of bindings are in order. -/
  orderly : s.Orderly
  /-- All nodes are shared out. -/
  housed : s.document.Housed heads home
  /-- Only heads have households. -/
  head_of_home (id r : NodeId) : home id = some r → heads r = true
  /-- The heads are there. -/
  found (r : NodeId) : heads r = true → (s.document.element? r).isSome = true
  /-- The elements of a form are at home with its element. -/
  forms (f : BoundForm) : f ∈ s.forms → heads f.root = true ∧
    ∀ k ∈ f.controller.elements, k < s.document.next ∧ home k = some f.root
  /-- So is the control of a guard, which is not a dropdown. -/
  guards (g : BoundGuard) : g ∈ s.guards → heads g.root = true ∧
    g.latch.control < s.document.next ∧ home g.latch.control = some g.root ∧
    s.document.kind g.latch.control ≠ .dropdown
  /-- The listeners are those of bindings. -/
  owned (l : Listener) : l ∈ s.listeners → ∃ p ∈ s.posts, l ∈ p.listeners

variable {heads : NodeId → Bool} {home : NodeId → Option NodeId} {a r : NodeId} {s s' s'' : Site}
  {id : BindingId}

/-- The leeway of those who only let the guards of an element disable its control. -/
def guarding (s : Site) (r : NodeId) : Leeway where
  free id name := (∃ g ∈ s.guards, g.root = r ∧ g.latch.control = id) ∧
    (name = "disabled" ∨ name = "class")
  refills _ := False
  creates _ := False

theorem Inherits.guarding_le (h : s.Inherits s') (r : NodeId) (id : NodeId) (name : String)
    (hfree : (s'.guarding r).free id name) : (s.guarding r).free id name := by
  obtain ⟨⟨g', hg', hroot', hcontrol'⟩, hname⟩ := hfree
  obtain ⟨g, hg, hroot, hcontrol⟩ := h.guards g' hg'
  exact ⟨⟨g, hg, hroot.symm.trans hroot', hcontrol.symm.trans hcontrol'⟩, hname⟩

/-- What an event in a household may do. -/
structure Stirs (heads : NodeId → Bool) (home : NodeId → Option NodeId) (a : NodeId)
    (s s' : Site) : Prop where
  /-- The page is settled as before. -/
  settled : Settled heads home s'
  /-- Bindings persist. -/
  persists : s.Persists s'
  /-- They keep their elements. -/
  inherits : s.Inherits s'
  /-- Only the head and its household change. -/
  keeps : KeepsTo heads home a (around home a) s.document s'.document
  /-- Where no form is bound, not much happens. -/
  unbound : a ∉ s.formRoots → s.document.Evolves (s.guarding a) s'.document

namespace Settled

private theorem heads_lt (h : Settled heads home s) (r : NodeId) (hr : heads r = true) :
    r < s.document.next :=
  Document.lt_next_of_isSome (h.found r hr)

/-- Nodes to come may be given to any head. -/
theorem withNew (h : Settled heads home s) (hr : heads r = true) :
    Settled heads (withNew home s.document.next r) s where
  orderly := h.orderly
  housed := h.housed.withNew h.heads_lt r
  head_of_home id b hb := by
    rcases Nat.lt_or_ge id s.document.next with hlt | hge
    · rw [withNew_of_lt hlt] at hb
      exact h.head_of_home id b hb
    · rw [withNew_of_le hge] at hb
      cases hb
      exact hr
  found := h.found
  forms f hf := by
    obtain ⟨hhead, helements⟩ := h.forms f hf
    refine ⟨hhead, fun k hk ↦ ?_⟩
    obtain ⟨hlt, hhome⟩ := helements k hk
    exact ⟨hlt, (withNew_of_lt hlt).trans hhome⟩
  guards g hg := by
    obtain ⟨hhead, hlt, hhome, hkind⟩ := h.guards g hg
    exact ⟨hhead, hlt, (withNew_of_lt hlt).trans hhome, hkind⟩
  owned := h.owned

private theorem persists (h : Settled heads home s) (hs : s.Persists s') (hinherits : s.Inherits s')
    (hhoused : s'.document.Housed heads home) : Settled heads home s' where
  orderly := h.orderly.persists hs
  housed := hhoused
  head_of_home := h.head_of_home
  found r hr := hs.document.isSome_element? (h.found r hr)
  forms f' hf' := by
    obtain ⟨f, hf, hroot, helements⟩ := hinherits.forms f' hf'
    obtain ⟨hhead, hold⟩ := h.forms f hf
    rw [hroot, helements]
    exact ⟨hhead, fun k hk ↦ ⟨Nat.lt_of_lt_of_le (hold k hk).1 hs.document.next_le, (hold k hk).2⟩⟩
  guards g' hg' := by
    obtain ⟨g, hg, hroot, hcontrol⟩ := hinherits.guards g' hg'
    obtain ⟨hhead, hlt, hhome, hkind⟩ := h.guards g hg
    rw [hroot, hcontrol, hs.document.kind_eq_of_lt hlt]
    exact ⟨hhead, Nat.lt_of_lt_of_le hlt hs.document.next_le, hhome, hkind⟩
  owned l hl := by
    rw [hs.posts]
    exact h.owned l (hs.listeners ▸ hl)

end Settled

private theorem Stirs.refl (h : Settled heads home s) : Stirs heads home a s s where
  settled := h
  persists := .refl s
  inherits := .refl s
  keeps := Document.frame_keepsTo.refl _
  unbound _ := .refl _

private theorem Stirs.trans (h : Stirs heads home a s s') (h' : Stirs heads home a s' s'') :
    Stirs heads home a s s'' where
  settled := h'.settled
  persists := h.persists.trans h'.persists
  inherits := h.inherits.trans h'.inherits
  keeps := Document.frame_keepsTo.trans h.keeps h'.keeps
  unbound ha := by
    exact (h.unbound ha).trans ((h'.unbound (h.inherits.notMem_formRoots ha)).mono
      (h.inherits.guarding_le a) (fun _ hfalse ↦ hfalse) fun _ hfalse ↦ hfalse)

/-! ## Bindings -/

theorem settled_open {d : Document} (h : SharedOut heads d) :
    Settled heads (Document.homeIn heads d) { document := d } where
  orderly := orderly_open d
  housed := h.housed
  head_of_home _ _ hhome := List.find?_some hhome
  found r hr := by
    rw [Document.element?, Option.isSome_map]
    exact h.found r hr
  forms _ hf := absurd hf List.not_mem_nil
  guards _ hg := absurd hg List.not_mem_nil
  owned _ hl := absurd hl List.not_mem_nil

private theorem lt_of_isBelow {d : Document} {k : NodeId} (h : d.isBelow r k = true) :
    k < d.next := by
  obtain ⟨n, -, hn, -⟩ := Document.exists_parent_of_isBelow h
  exact Document.lt_next_of_find? hn

namespace Settled

private theorem owned_enters (h : Settled heads home s) {p : Post} (hs : s.Enters p s')
    {l : Listener} (hl : l ∈ s'.listeners) : ∃ q ∈ s'.posts, l ∈ q.listeners := by
  rw [hs.listeners] at hl
  rcases List.mem_append.mp hl with hl | hl
  · obtain ⟨q, hq, hlq⟩ := h.owned l hl
    exact ⟨q, hs.posts.mem_iff.mpr (List.mem_cons_of_mem _ hq), hlq⟩
  · exact ⟨p, hs.posts.mem_iff.mpr List.mem_cons_self, hl⟩

/-- Binding the form of a head leaves a settled page. -/
theorem bindForm {plan : FormPlan} (h : Settled heads home s) (hr : heads r = true)
    (hplan : Plans s.document r plan) :
    Settled heads (Document.withNew home s.document.next r) (s.bindForm r).site := by
  have hnew := h.withNew hr
  have hnewHome : ∀ id, s.document.next ≤ id →
      Document.withNew home s.document.next r id = some r := fun _ hid ↦ withNew_of_le hid
  obtain ⟨hhoused, hle, -⟩ := hplan.keepsTo_bindForm hr hnew.housed hnewHome
  obtain ⟨hprovided, -, -⟩ := hplan.keepsTo_provideDropdown hr hnew.housed hnewHome
  obtain ⟨f, hb⟩ := hplan.bound
  have hguards : (s.bindForm r).site.guards = s.guards := by
    rw [bindForm_eq hplan]
    rfl
  exact {
    orderly := h.orderly.enters hplan.enters
    housed := hhoused
    head_of_home := hnew.head_of_home
    found := fun b hb ↦ hplan.evolves_bindForm.isSome_element? (h.found b hb)
    forms := by
      intro g hg
      rw [hplan.opened.1] at hg
      rcases List.mem_append.mp hg with hg | hg
      · obtain ⟨hhead, helements⟩ := hnew.forms g hg
        exact ⟨hhead, fun k hk ↦ ⟨Nat.lt_of_lt_of_le (helements k hk).1 hle, (helements k hk).2⟩⟩
      · rw [List.mem_singleton.mp hg]
        refine ⟨hr, fun k hk ↦ ⟨?_, hplan.home_elements hr hprovided hk⟩⟩
        have hlt := lt_of_isBelow (hplan.isBelow_elements (mem_elements_plannedLayout hk))
        exact Nat.lt_of_lt_of_le hlt (hb.next_le hplan).2
    guards := by
      intro g hg
      rw [hguards] at hg
      obtain ⟨hhead, hlt, hhome, hkind⟩ := hnew.guards g hg
      rw [hplan.evolves_bindForm.kind_eq_of_lt hlt]
      exact ⟨hhead, Nat.lt_of_lt_of_le hlt hle, hhome, hkind⟩
    owned := fun l hl ↦ h.owned_enters hplan.enters hl }

theorem bindGuard {latch : Latch NodeId} (h : Settled heads home s) (hr : heads r = true)
    (hplan : planGuard s.document r = .ok latch) : Settled heads home (s.bindGuard r).site := by
  have henters := enters_bindGuard hplan
  obtain ⟨n, hn, hcontrol⟩ := exists_of_planGuard hplan
  obtain ⟨hmem, hbelow, hfits⟩ := Document.mem_query.mp hn
  have hbound : (s.bindGuard r).site.document = setMarker s.document r guardMarker true ∧
      (s.bindGuard r).site.forms = s.forms ∧
      (s.bindGuard r).site.guards = s.guards ++ [⟨s.next, r, latch⟩] := by
    rw [Site.bindGuard, hplan]
    exact ⟨rfl, rfl, rfl⟩
  have hmarked : s.document.Evolves .any (setMarker s.document r guardMarker true) :=
    .toggleAttribute trivial (by decide) _ true
  exact {
    orderly := h.orderly.enters henters
    housed := by
      rw [hbound.1]
      exact h.housed.mapElements _
    head_of_home := h.head_of_home
    found := by
      rw [hbound.1]
      exact fun b hb ↦ hmarked.isSome_element? (h.found b hb)
    forms := by
      rw [hbound.1, hbound.2.1]
      exact h.forms
    guards := by
      intro g hg
      rw [hbound.1]
      rw [hbound.2.2] at hg
      rcases List.mem_append.mp hg with hg | hg
      · obtain ⟨hhead, hlt, hhome, hkind⟩ := h.guards g hg
        exact ⟨hhead, hlt, hhome, by rwa [hmarked.kind_eq_of_lt hlt]⟩
      · have hlt := (s.document.aged n hmem).1
        rw [List.mem_singleton.mp hg, ← hcontrol]
        refine ⟨hr, hlt, h.housed.home_of_isBelow hr hbelow, ?_⟩
        rw [hmarked.kind_eq_of_lt hlt, Document.kind, Document.element?,
          Document.find?_of_mem hmem, Option.map_some, Option.map_some, Option.getD_some]
        rcases kind_of_fits hfits with hkind | hkind
        · simp [hkind]
        · simp [hkind]
    owned := fun l hl ↦ h.owned_enters henters hl }

theorem operateAll (h : Settled heads home s) {ops : List Operation}
    (hops : ∀ op ∈ ops, ∃ r, heads r = true ∧ (op = .bindForm r ∨ op = .bindGuard r)) :
    ∃ home', Settled heads home' (s.operateAll ops) := by
  induction ops generalizing s home with
  | nil => exact ⟨home, h⟩
  | cons op ops ih =>
    obtain ⟨⟨r, hr, hop⟩, hrest⟩ := List.forall_mem_cons.mp hops
    obtain ⟨home', h'⟩ : ∃ home', Settled heads home' (s.operate op) := by
      rcases hop with rfl | rfl
      · by_cases hplan : ∃ plan, Plans s.document r plan
        · obtain ⟨plan, hplan⟩ := hplan
          exact ⟨_, h.bindForm hr hplan⟩
        · rw [operate, site_bindForm_of_not hplan]
          exact ⟨home, h⟩
      · by_cases hplan : ∃ latch, planGuard s.document r = .ok latch
        · obtain ⟨latch, hplan⟩ := hplan
          exact ⟨home, h.bindGuard hr hplan⟩
        · rw [operate, site_bindGuard_of_not hplan]
          exact ⟨home, h⟩
    exact ih h' hrest

end Settled

/-! ## One reaction -/

namespace Settled

theorem edit (h : Settled heads home s) (target : NodeId) (v : String) :
    Settled heads home (s.edit (·.setValue target v)) :=
  h.persists (s.persists_setValue target v) (s.inherits_setValue target v)
    (h.housed.setValue target v)

section

variable (h : Settled heads home s) (hnew : ∀ id, s.document.next ≤ id → home id = some a)
include h hnew

/-- A change of the document that keeps to a head and its household. -/
theorem stirs_of_keepsTo (hs : s.Persists s') (hinherits : s.Inherits s')
    (hkeeps : KeepsTo heads home a (around home a) s.document s'.document)
    (hunbound : a ∉ s.formRoots → s.document.Evolves (s.guarding a) s'.document) :
    Stirs heads home a s s' where
  settled := h.persists hs hinherits (hkeeps h.housed hnew).1
  persists := hs
  inherits := hinherits
  keeps := hkeeps
  unbound := hunbound

private theorem call (hid : ∀ f ∈ s.forms, f.id = id → f.root = a) {e : Controller.Event NodeId}
    (he : e.copies = []) : Stirs heads home a s (s.call id e).site := by
  by_cases hnone : s.form? id = none
  · rw [Site.call, hnone]
    exact .refl h
  obtain ⟨f, hf⟩ := Option.ne_none_iff_exists'.mp hnone
  have hmem : f ∈ s.forms := List.mem_of_find?_eq_some hf
  have hroot : f.root = a := hid f hmem (by simpa using List.find?_some hf)
  have hkeeps : KeepsTo heads home a (inside home a) s.document (s.call id e).site.document := by
    rw [call_of_some hf]
    refine (Controller.within_keepsTo fun k hk ↦ ?_).handle (fun _ k hk ↦ ?_) s.document
    · rw [← hroot]
      exact ((h.forms f hmem).2 k hk).2
    · rw [he] at hk
      cases hk
  refine h.stirs_of_keepsTo hnew (h.orderly.call id e) (h.orderly.inherits_call id e)
    (hkeeps.mono fun _ ↦ Document.around_of_inside) fun hunbound ↦ ?_
  exact absurd (List.mem_map.mpr ⟨f, hmem, hroot⟩) hunbound

private theorem judge (hid : ∀ g ∈ s.guards, g.id = id → g.root = a) :
    Stirs heads home a s (s.judge id).site := by
  by_cases hnone : s.guard? id = none
  · rw [Site.judge, hnone]
    exact .refl h
  obtain ⟨g, hg⟩ := Option.ne_none_iff_exists'.mp hnone
  have hmem : g ∈ s.guards := List.mem_of_find?_eq_some hg
  have hroot : g.root = a := hid g hmem (by simpa using List.find?_some hg)
  have hhome : home g.latch.control = some a := hroot ▸ (h.guards g hmem).2.2.1
  have hdocument : (s.judge id).site.document = (g.latch.submit s.document).surface := by
    rw [Site.judge, hg]
  have hfree : ∀ name, name = "disabled" ∨ name = "class" →
      (s.guarding a).free g.latch.control name := fun _ hname ↦ ⟨⟨g, hmem, hroot, rfl⟩, hname⟩
  refine h.stirs_of_keepsTo hnew (s.persists_judge id) (h.orderly.inherits_judge id) ?_ fun _ ↦ ?_
  · rw [hdocument]
    exact .submit (fun _ hid ↦ Document.around_of_inside (Document.inside_eq_true.mpr hid)) hhome _
  · rw [hdocument]
    exact .submit (hfree _ (.inl rfl)) (hfree _ (.inr rfl)) _

private theorem react {l : Listener} (hl : ∃ p ∈ s.posts, p.root = a ∧ l ∈ p.listeners) :
    Stirs heads home a s (s.react l).site := by
  obtain ⟨p, hp, hroot, hmem⟩ := hl
  have hforms : ∀ f ∈ s.forms, f.id = p.id → f.root = a := fun f hf hid ↦ by
    have hpost := h.orderly.eq_of_id (mem_posts.mpr (.inl ⟨f, hf, rfl⟩)) hp hid
    exact (congrArg Post.root hpost).trans hroot
  have hguards : ∀ g ∈ s.guards, g.id = p.id → g.root = a := fun g hg hid ↦ by
    have hpost := h.orderly.eq_of_id (mem_posts.mpr (.inr ⟨g, hg, rfl⟩)) hp hid
    exact (congrArg Post.root hpost).trans hroot
  rw [← owner_of_mem_post hp hmem] at hforms hguards
  rw [Site.react]
  split
  · exact h.call hnew hforms rfl
  · exact h.call hnew hforms rfl
  · exact h.call hnew hforms rfl
  · exact h.judge hnew hguards

private theorem setValue {target : NodeId} (htarget : Belongs heads home a target) (v : String) :
    Stirs heads home a s (s.edit (·.setValue target v)) := by
  have haround : around home a target = true := by
    rcases htarget with hhome | ⟨rfl, -⟩
    · exact Document.around_of_inside (Document.inside_eq_true.mpr hhome)
    · exact Document.around_self
  exact h.stirs_of_keepsTo hnew (s.persists_setValue target v) (s.inherits_setValue target v)
    (.setValue (fun _ hid ↦ Document.around_of_inside (Document.inside_eq_true.mpr hid)) htarget
      haround s.document v) fun _ ↦ .setValue s.document target v

end

end Settled

/-! ## Events -/

/-- Whether an act is a call of the form of an element, or happens to what is inside. -/
def ActsOn (s : Site) (a : NodeId) (id : BindingId) : Act → Prop
  | .select _ | .derive => ∀ f ∈ s.forms, f.id = id → f.root = a
  | .choose target _ | .typeText target _ | .dispatch target _ => a ∈ s.document.lineage target

/-- The site after several acts, each with the number of a form that a script may call. -/
def undergo (s : Site) (acts : List (BindingId × Act)) : Site :=
  acts.foldl (fun t x ↦ t.act x.1 x.2) s

/-- Whether all acts are on the same element, each at its time. -/
def AllActOn (a : NodeId) : Site → List (BindingId × Act) → Prop
  | _, [] => True
  | s, x :: acts => s.ActsOn a x.1 x.2 ∧ AllActOn a (s.act x.1 x.2) acts

/-- Once new nodes have a home, a site can be stirred again and again. -/
theorem Stirs.new (h : Stirs heads home a s s')
    (hnew : ∀ id, s.document.next ≤ id → home id = some a) (id : NodeId)
    (hid : s'.document.next ≤ id) : home id = some a :=
  hnew id (Nat.le_trans h.persists.document.next_le hid)

namespace Settled

private theorem reactAll (h : Settled heads home s)
    (hnew : ∀ id, s.document.next ≤ id → home id = some a) {ls : List Listener}
    (hls : ∀ l ∈ ls, ∃ p ∈ s.posts, p.root = a ∧ l ∈ p.listeners) :
    Stirs heads home a s (s.reactAll ls).site := by
  refine reactAll_keeps (P := Stirs heads home a s) (fun t ht l hl ↦ ?_) (.refl h)
  refine ht.trans (ht.settled.react (ht.new hnew) ?_)
  rw [ht.persists.posts]
  exact hls l hl

/-- A listener is on the way up only from what belongs to the element of its binding. -/
theorem belongs_of_audience (h : Settled heads home s) {target : NodeId} {event : String}
    {l : Listener} (hl : l ∈ s.audience target event) :
    ∃ p ∈ s.posts, l ∈ p.listeners ∧ Belongs heads home p.root target := by
  obtain ⟨k, hk, hl⟩ := List.mem_flatMap.mp hl
  obtain ⟨hmem, hcond⟩ := List.mem_filter.mp hl
  rw [Bool.and_eq_true, beq_iff_eq] at hcond
  rw [← hcond.1] at hk
  obtain ⟨p, hp, hlp⟩ := h.owned l hmem
  refine ⟨p, hp, hlp, ?_⟩
  have hself : heads p.root = true → l.target = p.root → Belongs heads home p.root target :=
    fun hhead heq ↦ h.housed.belongs_of_mem_lineage hhead (heq ▸ hk)
  rcases mem_posts.mp hp with ⟨f, hf, rfl⟩ | ⟨g, hg, rfl⟩
  · obtain ⟨hhead, helements⟩ := h.forms f hf
    rcases target_of_mem_formListeners hlp with heq | hin
    · exact hself hhead heq
    · have hhome := (helements l.target (List.mem_append_left _ hin)).2
      exact .inl (h.housed.home_of_mem_lineage hhome hk)
  · refine hself (h.guards g hg).1 ?_
    rw [List.mem_singleton.mp hlp]
    rfl

private theorem dispatch (h : Settled heads home s)
    (hnew : ∀ id, s.document.next ≤ id → home id = some a) {target : NodeId}
    (htarget : Belongs heads home a target) (event : String) :
    Stirs heads home a s (s.dispatch target event).site := by
  refine h.reactAll hnew fun l hl ↦ ?_
  obtain ⟨p, hp, hlp, hbelongs⟩ := h.belongs_of_audience hl
  exact ⟨p, hp, h.housed.eq_of_belongs hbelongs htarget, hlp⟩

private theorem dispatch_of_loose (h : Settled heads home s) {target : NodeId}
    (htarget : ∀ a, ¬ Belongs heads home a target) (event : String) :
    (s.dispatch target event).site = s := by
  have hnone : s.audience target event = [] := by
    refine List.eq_nil_iff_forall_not_mem.mpr fun l hl ↦ ?_
    obtain ⟨p, -, -, hbelongs⟩ := h.belongs_of_audience hl
    exact htarget _ hbelongs
  rw [Site.dispatch, hnone]
  rfl

section

variable (h : Settled heads home s) (ha : heads a = true)
include h ha

private theorem stirs_new {target : NodeId} (htarget : Belongs heads home a target) :
    Settled heads (Document.withNew home s.document.next a) s ∧
      (∀ id, s.document.next ≤ id → Document.withNew home s.document.next a id = some a) ∧
      Belongs heads (Document.withNew home s.document.next a) a target := by
  refine ⟨h.withNew ha, fun _ hid ↦ withNew_of_le hid, ?_⟩
  rcases htarget with hhome | ⟨rfl, -⟩
  · left
    rcases Nat.lt_or_ge target s.document.next with hlt | hge
    · rw [withNew_of_lt hlt, hhome]
    · exact withNew_of_le hge
  · exact .inr ⟨rfl, ha⟩

private theorem stirs_call (hid : ∀ f ∈ s.forms, f.id = id → f.root = a)
    {e : Controller.Event NodeId} (he : e.copies = []) :
    Stirs heads (Document.withNew home s.document.next a) a s (s.call id e).site :=
  (h.withNew ha).call (fun _ hid ↦ withNew_of_le hid) hid he

private theorem stirs_dispatch {target : NodeId} (htarget : Belongs heads home a target)
    (event : String) :
    Stirs heads (Document.withNew home s.document.next a) a s (s.dispatch target event).site := by
  obtain ⟨hsettled, hnew, hbelongs⟩ := h.stirs_new ha htarget
  exact hsettled.dispatch hnew hbelongs event

private theorem stirs_change {target : NodeId} (htarget : Belongs heads home a target)
    (v event : String) :
    Stirs heads (Document.withNew home s.document.next a) a s
      ((s.edit (·.setValue target v)).dispatch target event).site := by
  obtain ⟨hsettled, hnew, hbelongs⟩ := h.stirs_new ha htarget
  have hfirst := hsettled.setValue hnew hbelongs v
  exact hfirst.trans (hfirst.settled.dispatch (hfirst.new hnew) hbelongs event)

/-- An act on a head changes nothing but the head and its household. -/
theorem act_on {act : Act} (hon : s.ActsOn a id act) :
    Stirs heads (Document.withNew home s.document.next a) a s (s.act id act) := by
  cases act with
  | select _ => exact h.stirs_call ha hon rfl
  | derive => exact h.stirs_call ha hon rfl
  | choose target v => exact h.stirs_change ha (h.housed.belongs_of_mem_lineage ha hon) v _
  | typeText target v => exact h.stirs_change ha (h.housed.belongs_of_mem_lineage ha hon) v _
  | dispatch target event => exact h.stirs_dispatch ha (h.housed.belongs_of_mem_lineage ha hon) _

end

/-- Whatever happens, it happens in the household of a head, or it is at most a value that changes
where no form hears of it. -/
theorem act_cases (h : Settled heads home s) (id : BindingId) (act : Act) :
    (∃ a, heads a = true ∧
      Stirs heads (Document.withNew home s.document.next a) a s (s.act id act)) ∨
    (∃ target v, (∀ a, ¬ Belongs heads home a target) ∧
      s.act id act = s.edit (·.setValue target v)) ∨
    s.act id act = s := by
  have hhead : ∀ {a k}, Belongs heads home a k → heads a = true := by
    rintro a k (hhome | ⟨-, ha⟩)
    · exact h.head_of_home k a hhome
    · exact ha
  -- a call is about the element of the form with this number, if there is one
  have hcall : ∀ e : Controller.Event NodeId, e.copies = [] →
      (∃ a, heads a = true ∧
        Stirs heads (Document.withNew home s.document.next a) a s (s.call id e).site) ∨
      (s.call id e).site = s := by
    intro e he
    by_cases hnone : s.form? id = none
    · right
      rw [Site.call, hnone]
    obtain ⟨f, hf⟩ := Option.ne_none_iff_exists'.mp hnone
    have hmem : f ∈ s.forms := List.mem_of_find?_eq_some hf
    have hfid : f.id = id := by simpa using List.find?_some hf
    have hroot := (h.forms f hmem).1
    refine .inl ⟨f.root, hroot, h.stirs_call hroot (fun f' hf' hid ↦ ?_) he⟩
    rw [List.inj_on_of_nodup_map h.orderly.nodup_forms hf' hmem (hid.trans hfid.symm)]
  -- a change is about the head that the target belongs to, if there is one
  have hchange : ∀ target v event,
      (∃ a, heads a = true ∧ Stirs heads (Document.withNew home s.document.next a) a s
        ((s.edit (·.setValue target v)).dispatch target event).site) ∨
      ∃ target' v', (∀ a, ¬ Belongs heads home a target') ∧
        ((s.edit (·.setValue target v)).dispatch target event).site =
          s.edit (·.setValue target' v') := by
    intro target v event
    by_cases htarget : ∃ a, Belongs heads home a target
    · obtain ⟨a, hbelongs⟩ := htarget
      exact .inl ⟨a, hhead hbelongs, h.stirs_change (hhead hbelongs) hbelongs v event⟩
    · have hloose := not_exists.mp htarget
      exact .inr ⟨target, v, hloose, (h.edit target v).dispatch_of_loose hloose event⟩
  cases act with
  | select _ => exact (hcall _ rfl).imp_right .inr
  | derive => exact (hcall _ rfl).imp_right .inr
  | choose target v => exact (hchange target v "change").imp_right .inl
  | typeText target v => exact (hchange target v "input").imp_right .inl
  | dispatch target event =>
    by_cases htarget : ∃ a, Belongs heads home a target
    · obtain ⟨a, hbelongs⟩ := htarget
      exact .inl ⟨a, hhead hbelongs, h.stirs_dispatch (hhead hbelongs) hbelongs event⟩
    · exact .inr (.inr (h.dispatch_of_loose (not_exists.mp htarget) event))

end Settled

/-! ## What others notice -/

private theorem renumber_id (n : Node) : n.renumber (fun id ↦ id) = n := by
  rw [Node.renumber, Option.map_id']

/-- A head and all in it are as they were when something happened to another head. -/
theorem Stirs.others (h : Stirs heads home a s s') (hs : Settled heads home s)
    (hnew : ∀ id, s.document.next ≤ id → home id = some a) (ha : heads a = true) {b : NodeId}
    (hb : heads b = true) (hne : b ≠ a) :
    s'.document.find? b = s.document.find? b ∧
      s'.document.descendants b = s.document.descendants b := by
  have hd := hs.housed
  obtain ⟨hd', -, hkept⟩ := h.keeps hd hnew
  -- neither the other head nor its household is around the head that was stirred
  have hfound := hs.found b hb
  rw [Document.element?, Option.isSome_map] at hfound
  have hfind : s'.document.find? b = s.document.find? b := by
    have hfilter : s'.document.nodes.filter (·.id == b) = s.document.nodes.filter (·.id == b) := by
      refine KeepsTo.filter_eq (q := (· == b)) (fun id hid ↦ ?_) hkept
      rw [beq_iff_eq] at hid
      subst hid
      simp [around, hd.head id hb, hne]
    rw [Document.find?, ← List.head?_filter, hfilter, List.head?_filter, Document.find?]
  have hmirrors : Document.Mirrors heads b (fun id ↦ id) home s.document home s'.document := {
    housed := hd
    housed' := hd'
    household := by
      rw [List.map_congr_left fun n _ ↦ renumber_id n, List.map_id', Document.household]
      refine KeepsTo.filter_eq (q := (home · == some b)) (fun id hid ↦ ?_) hkept
      rw [beq_iff_eq] at hid
      have hida : id ≠ a := by
        rintro rfl
        rw [hd.head id ha] at hid
        cases hid
      simp [around, hid, hne, hida]
    mono := strictMono_id
    isHead := hb
    head := rfl }
  refine ⟨hfind, ?_⟩
  rw [hmirrors.descendants hfound (hfind ▸ hfound), List.map_congr_left fun n _ ↦ renumber_id n,
    List.map_id']

/-- However much happens to a head, the other heads and all in them are as they were. -/
theorem Settled.others_undergo (h : Settled heads home s) (ha : heads a = true) {b : NodeId}
    (hb : heads b = true) (hne : b ≠ a) {acts : List (BindingId × Act)}
    (hacts : AllActOn a s acts) :
    (s.undergo acts).document.find? b = s.document.find? b ∧
      (s.undergo acts).document.descendants b = s.document.descendants b := by
  induction acts generalizing s home with
  | nil => exact ⟨rfl, rfl⟩
  | cons x acts ih =>
    have hstirs := h.act_on ha hacts.1
    have hfirst := hstirs.others (h.withNew ha) (fun _ hid ↦ withNew_of_le hid) ha hb hne
    have hrest := ih hstirs.settled hacts.2
    exact ⟨hrest.1.trans hfirst.1, hrest.2.trans hfirst.2⟩

end Site

end AccessForm
