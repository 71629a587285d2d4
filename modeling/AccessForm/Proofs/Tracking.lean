import AccessForm.Proofs.Hearing
import AccessForm.Proofs.Transcript

/-!
# A form on a page and its form in memory

What users and scripts do with a bound form, done to the form in memory that stands for it
(`Gesture`). A choice of a permission and a typed reason reach the controller of the page through
the listeners of the form, a submission through the one at its element; in memory the controller is
told at once. After each gesture both have the same state, and the panel depicts the page
(`portrayed_by_panel`).

The proof carries `Tracks` through one gesture after the other. Where the page does more than the
form in memory, it does nothing new: a reason that is published by one copy and heard by another
one is there already, and what was released can not be released again.
-/

namespace AccessForm

/-! ## Doing things twice -/

private theorem Copies.publish_eq_self {σ κ ς : Type} [Surface σ κ ς] {s : σ} {copies : List κ}
    {v : String} (h : ∀ k ∈ copies, Surface.value s k = v) : publish s copies v = s := by
  induction copies with
  | nil => rfl
  | cons k ks ih =>
    obtain ⟨hk, hks⟩ := List.forall_mem_cons.mp h
    have hupdate : update v s k = s := by rw [update, if_pos hk]
    rw [publish, List.foldl_cons, hupdate]
    exact ih hks

namespace Panel

private theorem value_publish_field {copies : List Ref} (h : ∀ r ∈ copies, ∃ i, r = .field i)
    (p : Panel) (v : String) {r : Ref} (hr : r ∈ copies) :
    Surface.value (Copies.publish p copies v) r = v := by
  obtain ⟨i, rfl⟩ := h r hr
  show ((Copies.publish p copies v).control (.field i)).value = v
  rw [control_publish, if_pos hr, bring]
  split
  · next heq => exact heq
  · rfl

private theorem setAllDisabled_setAllDisabled (p : Panel) (controls : List Ref) (b : Bool) :
    Controller.setAllDisabled (Controller.setAllDisabled p controls b) controls b =
      Controller.setAllDisabled p controls b := by
  refine ext (fun r ↦ ?_) (shown_setAllDisabled _ _ _)
  rw [control_setAllDisabled, control_setAllDisabled]
  split
  · rfl
  · rfl

end Panel

namespace Site

/-! ## Gestures -/

/-- What is done with a bound form. -/
inductive Gesture where
  /-- A user chooses a permission in a copy of the selector. -/
  | choose (copy : NodeId) (v : String)
  /-- A user chooses an argument in the dropdown. -/
  | chooseArgument (v : String)
  /-- A user types an argument into the text field. -/
  | typeArgument (v : String)
  /-- A user types a reason into a copy of its field. -/
  | typeReason (copy : NodeId) (v : String)
  /-- A form is submitted. -/
  | submit (target : NodeId)
  /-- A script selects a permission. -/
  | select (v : String)
  /-- A script brings the form in line once more. -/
  | derive
  deriving DecidableEq, Repr

namespace Gesture

/-- Whether a gesture is one with a given form. A submission may come from any element in the form
that is not in its dropdown, where elements are taken out. -/
def Fits (d : Document) (root : NodeId) (l : Layout NodeId NodeId) : Gesture → Prop
  | choose copy _ => copy ∈ l.permission
  | typeReason copy _ => copy ∈ l.reason
  | submit target => root ∈ d.lineage target ∧ l.dropdown ∉ d.lineage target
  | chooseArgument _ | typeArgument _ | select _ | derive => True

instance (d : Document) (root : NodeId) (l : Layout NodeId NodeId) :
    DecidablePred (Gesture.Fits d root l)
  | choose copy _ => inferInstanceAs (Decidable (copy ∈ l.permission))
  | typeReason copy _ => inferInstanceAs (Decidable (copy ∈ l.reason))
  | submit target =>
    inferInstanceAs (Decidable (root ∈ d.lineage target ∧ l.dropdown ∉ d.lineage target))
  | chooseArgument _ | typeArgument _ | select _ | derive => inferInstanceAs (Decidable True)

/-- What happens to the form in memory. -/
def move (l : Layout NodeId NodeId) : Gesture → Move Ref Nat
  | choose copy v => .event (.choose (.select copy) v)
  | chooseArgument v => .edit (.value (.select l.dropdown) v)
  | typeArgument v => .edit (.value (.field l.text) v)
  | typeReason copy v => .event (.typeReason (.field copy) v)
  | submit _ => .event .submit
  | select v => .event (.select v)
  | derive => .event .derive

end Gesture

/-- What happens to the page. -/
def perform (s : Site) (id : BindingId) (l : Layout NodeId NodeId) : Gesture → Site
  | .choose copy v => (s.choose copy v).site
  | .chooseArgument v => s.edit (·.setValue l.dropdown v)
  | .typeArgument v => s.edit (·.setValue l.text v)
  | .typeReason copy v => (s.typeText copy v).site
  | .submit target => (s.dispatch target "submit").site
  | .select v => (s.call id (.select v)).site
  | .derive => (s.call id .derive).site

/-- What happens to the page by several gestures. -/
def performAll (s : Site) (id : BindingId) (l : Layout NodeId NodeId) (gs : List Gesture) : Site :=
  gs.foldl (·.perform id l ·) s

private theorem control_latch_submit (latch : Latch NodeId) (d : Document) :
    (latch.submit d).latch.control = latch.control := by
  rw [Latch.submit]
  split
  · rfl
  · rfl

/-! ## Tracking -/

/-- A page on which a form is used, and the form in memory that stands for it. -/
structure Tracks (s₁ : Site) (f : BoundForm) (d₀ : Document) (r : NodeId → Ref) (s : Site)
    (c : Controller Ref Nat) (p : Panel) : Prop where
  /-- The form is used as it was bound. -/
  session : Session s₁ f d₀ s
  /-- The controllers are the same apart from the elements. -/
  controller : ∃ g, s.form? f.id = some g ∧ c = g.controller.map r id
  /-- The panel depicts the page. -/
  depicts : Depicts r f.controller.layout s.document p
  /-- The guards keep to other elements. -/
  guards (g : BoundGuard) : g ∈ s.guards → g.latch.control ∉ f.controller.layout.fields

variable {s₀ s₁ s : Site} {f : BoundForm} {d₀ : Document} {r : NodeId → Ref}
  {c : Controller Ref Nat} {p : Panel} {root : NodeId} {plan : FormPlan}

namespace Tracks

/-- The form differs from what it was when it was bound in the state that its controller keeps. -/
theorem exists_state (h : Tracks s₁ f d₀ r s c p) : ∃ mode primed,
    s.form? f.id = some { f with controller := { f.controller with mode, primed } } ∧
      c = Controller.map r id { f.controller with mode, primed } := by
  obtain ⟨mode, primed, hform, -⟩ := h.session.form
  obtain ⟨g, hg, hc⟩ := h.controller
  rw [hform] at hg
  cases hg
  exact ⟨mode, primed, hform, hc⟩

private theorem layout (h : Tracks s₁ f d₀ r s c p) : c.layout = f.controller.layout.map r id := by
  obtain ⟨mode, primed, -, hc⟩ := h.exists_state
  rw [hc]
  rfl

/-- A reason that is published is there, and publishing it again does nothing. -/
theorem noteReason_again (h : Tracks s₁ f d₀ r s c p) (v : String) :
    (∀ k ∈ f.controller.layout.reason, Surface.value (c.noteReason p v).surface (r k) = v) ∧
      (c.noteReason (c.noteReason p v).surface v).surface = (c.noteReason p v).surface := by
  have hcopies : c.layout.reason = f.controller.layout.reason.map r := by
    rw [h.layout]
    rfl
  have hfields : ∀ r' ∈ c.layout.reason, ∃ i, r' = .field i := by
    rw [hcopies]
    intro r' hr'
    obtain ⟨j, hj, rfl⟩ := List.mem_map.mp hr'
    exact ⟨j, h.depicts.handle_typed (List.mem_cons_of_mem _ hj)⟩
  have hvalues : ∀ r' ∈ c.layout.reason, Surface.value (c.noteReason p v).surface r' = v :=
    fun r' hr' ↦ Panel.value_publish_field hfields p v hr'
  refine ⟨fun k hk ↦ hvalues (r k) ?_, Copies.publish_eq_self hvalues⟩
  rw [hcopies]
  exact List.mem_map_of_mem hk

/-! ### Reactions -/

section Reactions

variable (hseated : f.controller.Seated s₁.document) (h : Tracks s₁ f d₀ r s c p)
include hseated h

/-- What the two controllers do alike keeps track. -/
theorem call (e : Controller.Event NodeId) (turn : Turn Panel Ref Nat)
    (hturn : ∀ c₀ : Controller NodeId NodeId, c₀.layout = f.controller.layout →
      c₀.locked = f.controller.locked → c = c₀.map r id →
      Turn.Matches r id (Depicts r f.controller.layout) (c₀.handle s.document e) turn) :
    Tracks s₁ f d₀ r (s.call f.id e).site turn.controller turn.surface := by
  obtain ⟨mode, primed, hform, hc⟩ := h.exists_state
  have hmatches := hturn { f.controller with mode, primed } rfl rfl hc
  refine ⟨h.session.call hseated e, ⟨_, form?_call hform e, hmatches.controller⟩, ?_, ?_⟩
  · rw [call_of_some hform]
    exact hmatches.surface
  · rw [call_of_some hform]
    exact h.guards

theorem select (v : String) : Tracks s₁ f d₀ r (s.call f.id (.select v)).site
    (c.select p v).controller (c.select p v).surface := by
  refine h.call hseated (.select v) (c.select p v) fun c₀ hl _ hc ↦ ?_
  rw [hc]
  exact (concord_depicts r _).toAccord.select hl h.depicts v

private theorem derive : Tracks s₁ f d₀ r (s.call f.id .derive).site (c.derive p).controller
    (c.derive p).surface := by
  refine h.call hseated .derive (c.derive p) fun c₀ hl _ hc ↦ ?_
  rw [hc]
  exact (concord_depicts r _).toAccord.derive hl h.depicts

theorem noteReason (v : String) : Tracks s₁ f d₀ r (s.call f.id (.noteReason v)).site
    c (c.noteReason p v).surface := by
  refine h.call hseated (.noteReason v) (c.noteReason p v) fun c₀ hl _ hc ↦ ?_
  rw [hc]
  exact (concord_depicts r _).noteReason hl h.depicts v

theorem release (hlocked : ∀ k ∈ f.controller.locked, k ∈ f.controller.layout.controls) :
    Tracks s₁ f d₀ r (s.call f.id .submit).site c (c.release p).surface := by
  refine h.call hseated .submit (c.release p) fun c₀ hl hlocked₀ hc ↦ ?_
  rw [hc]
  exact (concord_depicts r _).toAccord.release h.depicts (hlocked₀ ▸ hlocked)

private theorem setValue {k : NodeId} (hk : k ∈ f.controller.layout.fields) (v : String) :
    Tracks s₁ f d₀ r (s.edit (·.setValue k v)) c (Surface.setValue p (r k) v) where
  session := h.session.setValue hseated k v
  controller := h.controller
  depicts := h.depicts.setValue hk v
  guards := h.guards

/-- A guard does nothing that the form in memory would have to do. -/
theorem judge (owner : BindingId) : Tracks s₁ f d₀ r (s.judge owner).site c p := by
  have hsession : Session s₁ f d₀ (s.judge owner).site :=
    h.session.react hseated (l := ⟨0, owner, .latch⟩) (.inl rfl)
  obtain ⟨g, hg, hc⟩ := h.controller
  have hform : (s.judge owner).site.form? f.id = some g := by
    obtain ⟨d, guards, heq, -⟩ := s.exists_site_judge owner
    rw [heq]
    exact hg
  refine ⟨hsession, ⟨g, hform, hc⟩, ?_, fun g' hg' ↦ ?_⟩
  · rw [Site.judge]
    split
    · exact h.depicts
    · next guard hguard =>
      exact h.depicts.submit (h.guards guard (List.mem_of_find?_eq_some hguard))
  · rw [Site.judge] at hg'
    split at hg'
    · exact h.guards g' hg'
    · next guard hguard =>
      have hown := h.guards guard (List.mem_of_find?_eq_some hguard)
      obtain ⟨g₀, hg₀, rfl⟩ := List.mem_map.mp hg'
      split
      · rw [control_latch_submit]
        exact hown
      · exact h.guards g₀ hg₀

/-- Copies that hear of a reason that is published already do nothing. -/
theorem reactAll_noteReason {v : String} {ms : List Listener}
    (hms : ∀ m ∈ ms, ∃ k ∈ f.controller.layout.reason, m = ⟨k, f.id, .noteReason⟩)
    (hpublished : (∀ k ∈ f.controller.layout.reason, Surface.value p (r k) = v) ∧
      (c.noteReason p v).surface = p) : Tracks s₁ f d₀ r (s.reactAll ms).site c p := by
  obtain ⟨hvalues, hagain⟩ := hpublished
  refine reactAll_keeps (P := (Tracks s₁ f d₀ r · c p)) (fun t ht m hm ↦ ?_) h
  obtain ⟨k, hk, rfl⟩ := hms m hm
  have hheld : t.document.value k = v :=
    (ht.depicts.value (List.mem_append_right _ hk)).symm.trans (hvalues k hk)
  have hnoted := ht.noteReason hseated (t.document.value k)
  rw [hheld, hagain] at hnoted
  rw [Site.react, inform]
  dsimp only
  rw [hheld]
  exact hnoted

/-- Of a submission it counts that the form hears of it, among any number of latches. -/
theorem reactAll_submit (hlocked : ∀ k ∈ f.controller.locked, k ∈ f.controller.layout.controls)
    {ms : List Listener} (hms : ∀ m ∈ ms, m.reaction = .latch ∨ m = ⟨root, f.id, .release⟩)
    (hmem : ⟨root, f.id, .release⟩ ∈ ms) :
    Tracks s₁ f d₀ r (s.reactAll ms).site c (c.release p).surface := by
  induction ms generalizing s with
  | nil => cases hmem
  | cons m ms ih =>
    obtain ⟨hfirst, hothers⟩ := List.forall_mem_cons.mp hms
    rcases hfirst with hlatch | rfl
    · have hrest : ⟨root, f.id, .release⟩ ∈ ms := by
        refine (List.mem_cons.mp hmem).resolve_left ?_
        rintro rfl
        cases hlatch
      refine ih ?_ hothers hrest
      rw [Site.react, hlatch]
      exact h.judge hseated m.owner
    · -- what is released once stays as it is, whoever hears of the submission after that
      have hagain : (c.release (c.release p).surface).surface = (c.release p).surface :=
        Panel.setAllDisabled_setAllDisabled _ _ _
      have hkeeps : ∀ t, Tracks s₁ f d₀ r t c (c.release p).surface →
          ∀ m ∈ ms, Tracks s₁ f d₀ r (t.react m).site c (c.release p).surface := by
        intro t ht m hm
        rcases hothers m hm with hlatch | rfl
        · rw [Site.react, hlatch]
          exact ht.judge hseated m.owner
        · have hreleased := ht.release hseated hlocked
          rw [hagain] at hreleased
          exact hreleased
      have hrest := reactAll_keeps hkeeps (h.release hseated hlocked)
      exact hrest

end Reactions

/-! ### Events -/

section Events

variable (hb : Bound s₀ root plan f s₁) (hplan : Plans s₀.document root plan)
  (hsecluded : s₀.Secluded root) (h : Tracks s₁ f d₀ r s c p)
include hb hplan hsecluded h

private theorem choose {copy : NodeId} (hcopy : copy ∈ f.controller.layout.permission)
    (hnodup : f.controller.layout.permission.Nodup) (htarget : root ∈ s₀.document.lineage copy)
    (hflat : ∀ j ∈ f.controller.layout.permission, j ∈ s₀.document.lineage copy → j = copy)
    (v : String) :
    Tracks s₁ f d₀ r (s.choose copy v).site (c.handle p (.choose (r copy) v)).controller
      (c.handle p (.choose (r copy) v)).surface := by
  have hseated := hb.seated hplan
  have hfield : copy ∈ f.controller.layout.fields :=
    Layout.mem_fields_of_control (Layout.mem_controls_of_permission hcopy)
  have hwritten := h.setValue hseated hfield v
  have haudience := hwritten.session.audience_change hb hplan hsecluded hcopy hnodup htarget
    hflat (hwritten.depicts.suits.isSome hfield)
  have hselected := hwritten.select hseated ((s.document.setValue copy v).value copy)
  have hvalue := hwritten.depicts.value hfield
  rw [Site.choose, dispatch, haudience, Controller.handle, hvalue]
  exact hselected

private theorem typeReason {copy : NodeId} (hcopy : copy ∈ f.controller.layout.reason)
    (hnodup : f.controller.layout.reason.Nodup) (htarget : root ∈ s₀.document.lineage copy)
    (v : String) :
    Tracks s₁ f d₀ r (s.typeText copy v).site (c.handle p (.typeReason (r copy) v)).controller
      (c.handle p (.typeReason (r copy) v)).surface := by
  have hseated := hb.seated hplan
  have hfield : copy ∈ f.controller.layout.fields := List.mem_append_right _ hcopy
  have hwritten := h.setValue hseated hfield v
  obtain ⟨ms, haudience, hms⟩ := hwritten.session.audience_input hb hplan hsecluded hcopy hnodup
    htarget (hwritten.depicts.suits.isSome hfield)
  have hvalue := hwritten.depicts.value hfield
  have hnoted := hwritten.noteReason hseated ((s.document.setValue copy v).value copy)
  rw [Site.typeText, dispatch, haudience, Controller.handle, hvalue]
  exact hnoted.reactAll_noteReason hseated hms (hwritten.noteReason_again _)

private theorem submit (hlocked : ∀ k ∈ f.controller.locked, k ∈ f.controller.layout.controls)
    {target : NodeId} (htarget : root ∈ s₀.document.lineage target)
    (hheard : root ∈ s.document.lineage target) :
    Tracks s₁ f d₀ r (s.dispatch target "submit").site (c.handle p .submit).controller
      (c.handle p .submit).surface := by
  refine h.reactAll_submit (hb.seated hplan) hlocked (fun m hm ↦ ?_)
    (h.session.release_mem_audience hb hheard)
  exact h.session.mem_audience_submit hb hplan hsecluded htarget hm

end Events

end Tracks

/-! ## Sessions -/

section Sessions

variable (hplan : Plans s₀.document root plan) (hplain : PlainForm s₀ root plan)
  (hb : Bound s₀ root plan f (s₀.bindForm root).site)
include hplan hplain hb

/-- A form that is bound and the one in memory that is taken over. -/
theorem PlainForm.tracks (hs₀ : s₀.Numbered) :
    Tracks (s₀.bindForm root).site f (provideDropdown s₀.document plan).1
      (provideDropdown s₀.document plan).1.ref (s₀.bindForm root).site
      (plan.setup s₀.document root).begin.controller
      (plan.setup s₀.document root).begin.surface := by
  have hmatches := hplain.opening_matches hplan
  have hroot : root ∉ (plannedLayout s₀.document root plan).fields := by
    intro hmem
    have hbelow := hplan.isBelow_elements (k := root)
      (List.mem_append_left _ (List.mem_append_left _ hmem))
    simp [Document.isBelow] at hbelow
  refine ⟨hb.session hs₀, ⟨f, hb.form? hs₀, ?_⟩, ?_, fun g hg ↦ ?_⟩
  · rw [hb.controller_eq hplan]
    exact hmatches.controller
  · rw [hb.layout_eq hplan, hplan.opened.2]
    exact hmatches.surface.modify_of_notMem (Element.calm_toggleAttribute (by decide) true)
      (Element.isShown_toggleAttribute · _ _) hroot
  · have hguards : (s₀.bindForm root).site.guards = s₀.guards := by
      rw [bindForm_eq hplan]
      rfl
    rw [hb.layout_eq hplan]
    exact hplain.guards g (hguards ▸ hg)

private theorem Tracks.perform (hsecluded : s₀.Secluded root)
    (h : Tracks (s₀.bindForm root).site f d₀ r s c p) {g : Gesture}
    (hg : g.Fits s₀.document root f.controller.layout) :
    Tracks (s₀.bindForm root).site f d₀ r (s.perform f.id f.controller.layout g)
      (c.move p (g.move f.controller.layout)).controller
      (c.move p (g.move f.controller.layout)).surface := by
  have hseated := hb.seated hplan
  cases g with
  | choose copy v =>
    have hpermission : f.controller.layout.permission =
        s₀.document.queryKind root permissionFields (· = .dropdown) :=
      hb.permission.trans hplan.permission
    have hcopy : copy ∈ s₀.document.queryKind root permissionFields (· = .dropdown) :=
      hpermission ▸ hg
    have hnodup : f.controller.layout.permission.Nodup := by
      rw [hpermission]
      exact Document.nodup_queryKind _ _ _ _
    have hflat : ∀ j ∈ f.controller.layout.permission,
        j ∈ s₀.document.lineage copy → j = copy := by
      rw [hb.permission]
      exact fun j hj ↦ hplain.flat j copy hj (hb.permission ▸ hg)
    have hchosen := h.choose hb hplan hsecluded hg hnodup (lineage_of_mem_queryKind hcopy) hflat v
    rw [h.depicts.handle_dropdown (List.mem_cons_of_mem _ (List.mem_append_left _ hg))] at hchosen
    exact hchosen
  | chooseArgument v =>
    have hmem : f.controller.layout.dropdown ∈ f.controller.layout.dropdowns := List.mem_cons_self
    have hwritten := h.setValue hseated (Layout.mem_fields_iff.mpr (.inr hmem)) v
    rw [h.depicts.handle_dropdown hmem] at hwritten
    exact hwritten
  | typeArgument v =>
    have hmem : f.controller.layout.text ∈ f.controller.layout.typed := List.mem_cons_self
    have hwritten := h.setValue hseated (Layout.mem_fields_iff.mpr (.inl hmem)) v
    rw [h.depicts.handle_typed hmem] at hwritten
    exact hwritten
  | typeReason copy v =>
    have hmem : copy ∈ f.controller.layout.typed := List.mem_cons_of_mem _ hg
    have hlayout := hb.layout_eq hplan
    have hcopy : copy ∈ (provideDropdown s₀.document plan).1.queryKind root reasonFields
        (·.isField) := by
      have hreason : copy ∈ (plannedLayout s₀.document root plan).reason := hlayout ▸ hg
      exact hreason
    have hnodup : f.controller.layout.reason.Nodup := by
      rw [hlayout]
      exact Document.nodup_queryKind _ _ _ _
    have htarget := lineage_of_mem_queryKind hcopy
    rw [hplan.provided.evolves.lineage_eq_of_not_refills (fun _ hfalse ↦ hfalse)
      (hplain.lt_of_typed hplan (hlayout ▸ hmem))] at htarget
    have htyped := h.typeReason hb hplan hsecluded hg hnodup htarget v
    rw [h.depicts.handle_typed hmem] at htyped
    exact htyped
  | submit target =>
    obtain ⟨htarget, houtside⟩ := hg
    have hheard := h.session.lineage_of_outside hb hplan (Document.lt_next_of_lineage htarget)
      houtside
    exact h.submit hb hplan hsecluded (fun _ hk ↦ hb.mem_controls_of_locked hplan hk) htarget
      (hheard ▸ htarget)
  | select v => exact h.select hseated v
  | derive => exact h.derive hseated

private theorem Tracks.performAll (hsecluded : s₀.Secluded root)
    (h : Tracks (s₀.bindForm root).site f d₀ r s c p) {gs : List Gesture}
    (hgs : ∀ g ∈ gs, g.Fits s₀.document root f.controller.layout) :
    Tracks (s₀.bindForm root).site f d₀ r (s.performAll f.id f.controller.layout gs)
      (c.play p (gs.map (·.move f.controller.layout))).1
      (c.play p (gs.map (·.move f.controller.layout))).2 := by
  induction gs generalizing s c p with
  | nil => exact h
  | cons g gs ih =>
    obtain ⟨hg, hgs⟩ := List.forall_mem_cons.mp hgs
    exact ih (h.perform hplan hplain hb hsecluded hg) hgs

end Sessions

/-! ## What both show -/

/-- A form on a page and one in memory are in the same state, and what belongs to them looks the
same. -/
structure Portrayed (s : Site) (id : BindingId) (l : Layout NodeId NodeId) (c : Controller Ref Nat)
    (p : Panel) : Prop where
  /-- The form is bound, and the controllers say the same about it. -/
  state : ∃ f, s.form? id = some f ∧ f.controller.snapshot s.document = c.snapshot p
  /-- The text fields look the same. -/
  typed (k : NodeId) : k ∈ l.typed → s.document.portrait k = p.control (.field k)
  /-- So do the dropdowns. -/
  dropdown (k : NodeId) : k ∈ l.dropdowns → s.document.portrait k = p.control (.select k)
  /-- The same sections are shown. -/
  sections (i : NodeId) : i ∈ l.sections → s.document.isShown i = p.shown i

private theorem Tracks.portrayed (h : Tracks s₁ f d₀ r s c p) :
    Portrayed s f.id f.controller.layout c p := by
  obtain ⟨mode, primed, hform, hc⟩ := h.exists_state
  have hpermission := (concord_depicts r f.controller.layout).toAccord.permission
    (c := { f.controller with mode, primed }) rfl h.depicts
  refine ⟨⟨_, hform, ?_⟩, fun k hk ↦ ?_, fun k hk ↦ ?_, fun i hi ↦ (h.depicts.shown i hi).symm⟩
  · rw [hc, Controller.snapshot, Controller.snapshot, hpermission]
    simp [Controller.map]
  · rw [← h.depicts.handle_typed hk]
    exact (h.depicts.control k (Layout.mem_fields_iff.mpr (.inl hk))).symm
  · rw [← h.depicts.handle_dropdown hk]
    exact (h.depicts.control k (Layout.mem_fields_iff.mpr (.inr hk))).symm

deriving instance DecidableEq for Table
deriving instance DecidableEq for FormPlan

/-- The element of a form with a free and a closed permission. -/
def tabled : Element := ({ tag := "form" } : Element).setAttribute tableAttribute
  "\x7b\"edit\": [\"*\"], \"view\": [\"prod\", \"staging\"]\x7d"

/-- An element with a name. -/
def called (tag name : String) : Element := ({ tag } : Element).setAttribute "name" name

/-- An option that is selected. -/
def chosenOption (v : String) : Element := { Element.newOption v with chosen := true }

/-- The plan for a form of this kind without a dropdown. -/
def tabledPlan (permission : List NodeId) (text : NodeId) : FormPlan where
  table := Setup.sample.table
  settings := {}
  permission := permission
  text := text
  dropdown := none

/-- A page with a plain form, which asks for a reason. -/
def plainPage : Document where
  nodes :=
    [⟨0, none, tabled⟩,
      ⟨1, some 0, called "select" "permission_name"⟩, ⟨2, some 1, chosenOption ""⟩,
      ⟨3, some 1, .newOption "edit"⟩, ⟨4, some 1, .newOption "view"⟩,
      ⟨5, some 0, called "input" "argument"⟩,
      ⟨6, some 0, ({ tag := "div" } : Element).setAttribute "class" "form-group-reason"⟩,
      ⟨7, some 6, called "textarea" "reason"⟩]
  next := 8
  distinct := by decide +kernel
  aged := by decide +kernel

private theorem plainForm_plainPage : PlainForm { document := plainPage } 0 (tabledPlan [1] 5) where
  reason := by decide +kernel
  sections := by decide +kernel
  guards _ hg := absurd hg List.not_mem_nil
  flat j k hj hk _ := (List.mem_singleton.mp hj).trans (List.mem_singleton.mp hk).symm
  steady k _ hk := by
    revert k
    decide +kernel

/-- A form whose elements have one role each, and whose reasons are typed. -/
structure SingleRoles (d : Document) (root : NodeId) (plan : FormPlan) : Prop where
  /-- The form can be bound. -/
  planned : planForm d root = .ok plan
  /-- Reasons are typed. -/
  reason (k : NodeId) : k ∈ (plannedLayout d root plan).reason →
    ((provideDropdown d plan).1.kind k).isTyped = true
  /-- No element has two roles. -/
  distinct : ((plannedLayout d root plan).fields ++ (plannedLayout d root plan).sections).Nodup

/-- Whether a form and the one in memory agree, as far as permissions that are offered are
chosen. -/
def PortrayedThroughout (d : Document) (root : NodeId) (plan : FormPlan) : Prop :=
  ∀ choices : List (NodeId × String),
    (∀ a ∈ choices, a.1 ∈ plan.permission ∧ a.2 ∈ Surface.options d a.1) →
    let l := plannedLayout d root plan
    let gs := choices.map fun a ↦ Gesture.choose a.1 a.2
    let later := (plan.setup d root).after (gs.map (·.move l))
    Portrayed ((bindForm { document := d } root).site.performAll 0 l gs) 0 l later.1 later.2

/-- A page on which a permission selector lies in another one. -/
def nestedPage : Document where
  nodes :=
    [⟨0, none, tabled⟩,
      ⟨1, some 0, called "select" "permission_name"⟩, ⟨2, some 1, chosenOption ""⟩,
      ⟨3, some 1, .newOption "view"⟩,
      ⟨4, some 0, called "select" "permission_name"⟩, ⟨5, some 4, chosenOption ""⟩,
      ⟨6, some 4, .newOption "edit"⟩,
      ⟨7, some 4, called "select" "permission_name"⟩, ⟨8, some 7, chosenOption ""⟩,
      ⟨9, some 7, .newOption "view"⟩,
      ⟨10, some 0, called "input" "argument"⟩]
  next := 11
  distinct := by decide +kernel
  aged := by decide +kernel

/-- A page on which the text field is a child of a selector without a selection. -/
def unselectedPage : Document where
  nodes :=
    [⟨0, none, tabled⟩,
      ⟨1, some 0, called "select" "permission_name"⟩, ⟨2, some 1, .newOption "edit"⟩,
      ⟨3, some 1, .newOption "view"⟩, ⟨4, some 1, called "input" "argument"⟩]
  next := 5
  distinct := by decide +kernel
  aged := by decide +kernel

private theorem singleRoles_nestedPage : SingleRoles nestedPage 0 (tabledPlan [1, 4, 7] 10) where
  planned := by decide +kernel
  reason := by decide +kernel
  distinct := by decide +kernel

private theorem singleRoles_unselectedPage : SingleRoles unselectedPage 0 (tabledPlan [1] 4) where
  planned := by decide +kernel
  reason := by decide +kernel
  distinct := by decide +kernel

end Site

end AccessForm
