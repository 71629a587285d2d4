import AccessForm.Proofs.Seclusion

/-!
# Binding a page again

A form that could not be bound can not be bound later on: what its plan reads has not changed. An
element without a bound form loses nothing and gets nothing new; the values in it may change, and a
guard may disable its control and add a class to it, none of which a plan reads (`Later.not_plans`).
This is why the argument name has to be plain where there is a guard, because any other name may be
a condition on what the guard writes. A guard that could not be bound can not be bound later on,
because no control that submits comes to be (`Later.not_planGuard`).

So binding a page again does nothing (`bindPage_of_failed`).
-/

namespace AccessForm

/-- The leeway of what users, forms and guards do to a page. -/
def Leeway.ordinary : Leeway where
  free _ a := a ∈ ["required", "disabled", "class", "name"]
  refills _ := True
  creates k := k = .option

/-- What a form takes of a node that it finds. -/
def Node.sort (n : Node) : NodeId × ElementKind := (n.id, n.element.kind)

namespace Document

private theorem Evolves.forall₂_descendants {l : Leeway} {d d' : Document} (h : d.Evolves l d')
    (hrefills : ∀ k, ¬ l.refills k) (hcreates : ∀ k, ¬ l.creates k) (r : NodeId) :
    List.Forall₂ (Node.Becomes l) (d.descendants r) (d'.descendants r) := by
  have hdescendants : d'.descendants r = d'.nodes.filter fun n ↦ d.isBelow r n.id := by
    refine List.filter_congr fun n hn ↦ ?_
    refine h.isBelow_eq_of_not_refills hrefills ?_
    by_contra hge
    exact hcreates _ (h.new n hn (Nat.not_lt.mp hge))
  rw [hdescendants]
  exact h.forall₂_filter (fun n n' hb ↦ by rw [hb.id]) fun n hn ↦ absurd hn (hcreates _)

end Document

namespace Site

open Document (Belongs)

variable {heads : NodeId → Bool} {home : NodeId → Option NodeId} {a r : NodeId} {s s' s'' : Site}

/-! ## What happens to a page -/

private theorem evolves_ordinary_call (s : Site) (id : BindingId) (e : Controller.Event NodeId) :
    s.document.Evolves .ordinary (s.call id e).site.document := by
  cases hf : s.form? id with
  | none =>
    rw [call, hf]
    exact .refl _
  | some f =>
    rw [call_of_some hf]
    refine (f.controller.evolves_handle s.document e).mono ?_ (fun _ _ ↦ trivial) fun _ hk ↦ hk
    rintro k name (rfl | rfl | rfl | ⟨rfl, -⟩) <;> simp [Leeway.ordinary]

private theorem evolves_ordinary_react (s : Site) (l : Listener) :
    s.document.Evolves .ordinary (s.react l).site.document := by
  have hjudge : s.document.Evolves .ordinary (s.judge l.owner).site.document := by
    obtain ⟨d, guards, heq, hd⟩ := s.exists_site_judge l.owner
    rw [heq]
    refine hd.mono ?_ (fun _ hfalse ↦ hfalse.elim) fun _ hfalse ↦ hfalse.elim
    rintro k name (rfl | rfl) <;> simp [Leeway.ordinary]
  rw [react]
  split
  · exact s.evolves_ordinary_call _ _
  · exact s.evolves_ordinary_call _ _
  · exact s.evolves_ordinary_call _ _
  · exact hjudge

private theorem evolves_ordinary_act (s : Site) (id : BindingId) (act : Act) :
    s.document.Evolves .ordinary (s.act id act).document := by
  have hdispatch : ∀ (s : Site) target event,
      s.document.Evolves .ordinary (s.dispatch target event).site.document := fun s _ _ ↦
    reactAll_keeps (P := fun t ↦ s.document.Evolves .ordinary t.document)
      (fun t ht l _ ↦ ht.trans (t.evolves_ordinary_react l)) (.refl _)
  cases act with
  | select _ => exact s.evolves_ordinary_call _ _
  | derive => exact s.evolves_ordinary_call _ _
  | choose target v =>
    exact Document.Evolves.trans (.setValue s.document target v)
      (hdispatch (s.edit (·.setValue target v)) target "change")
  | typeText target v =>
    exact Document.Evolves.trans (.setValue s.document target v)
      (hdispatch (s.edit (·.setValue target v)) target "input")
  | dispatch target event => exact hdispatch s target event

/-- What later events leave of a settled page. -/
structure Later (heads : NodeId → Bool) (s s' : Site) : Prop where
  /-- It is settled. -/
  settled : ∃ home, Settled heads home s'
  /-- Bindings persist. -/
  persists : s.Persists s'
  /-- They keep their elements. -/
  inherits : s.Inherits s'
  /-- The document evolved. -/
  ordinary : s.document.Evolves .ordinary s'.document
  /-- Not much happens where no form is bound. -/
  unbound (r : NodeId) : heads r = true → r ∉ s.formRoots →
    List.Forall₂ (Node.Becomes (s.guarding r)) (s.document.descendants r)
      (s'.document.descendants r)

private theorem Later.refl (h : Settled heads home s) : Later heads s s where
  settled := ⟨home, h⟩
  persists := .refl s
  inherits := .refl s
  ordinary := .refl _
  unbound _ _ _ := List.forall₂_same.mpr fun n _ ↦ .refl n

private theorem Later.trans (h : Later heads s s') (h' : Later heads s' s'') :
    Later heads s s'' where
  settled := h'.settled
  persists := h.persists.trans h'.persists
  inherits := h.inherits.trans h'.inherits
  ordinary := h.ordinary.trans h'.ordinary
  unbound r hr hnew := by
    have hnext := (h'.unbound r hr (h.inherits.notMem_formRoots hnew)).imp fun _ _ hb ↦
      Node.Becomes.mono hb (h.inherits.guarding_le r) fun _ hfalse ↦ hfalse
    exact Document.forall₂_trans .trans (h.unbound r hr hnew) hnext

private theorem Settled.later_act (h : Settled heads home s) (id : BindingId) (act : Act) :
    Later heads s (s.act id act) := by
  have hordinary := s.evolves_ordinary_act id act
  have hpersists := h.orderly.act id act
  rcases h.act_cases id act with ⟨a, ha, hstirs⟩ | ⟨target, v, -, heq⟩ | heq
  · refine ⟨⟨_, hstirs.settled⟩, hpersists, hstirs.inherits, hordinary, fun r hr hnew ↦ ?_⟩
    by_cases hra : r = a
    · -- without a form, only a guard of the element may have written something
      subst hra
      exact (hstirs.unbound hnew).forall₂_descendants (fun _ hfalse ↦ hfalse)
        (fun _ hfalse ↦ hfalse) r
    · -- other elements do not notice it
      have hothers :=
        hstirs.others (h.withNew ha) (fun _ hid ↦ Document.withNew_of_le hid) ha hr hra
      rw [hothers.2]
      exact (Later.refl h).unbound r hr hnew
  · rw [heq] at hpersists hordinary ⊢
    -- a value is set, and nobody hears of it
    refine ⟨⟨home, h.edit target v⟩, hpersists, s.inherits_setValue target v, hordinary,
      fun r _ _ ↦ ?_⟩
    exact (Document.Evolves.setValue (l := s.guarding r) s.document target v).forall₂_descendants
      (fun _ hfalse ↦ hfalse) (fun _ hfalse ↦ hfalse) r
  · rw [heq]
    exact .refl h

theorem Settled.later (h : Settled heads home s) (acts : List (BindingId × Act)) :
    Later heads s (s.undergo acts) := by
  refine foldl_keeps (P := Later heads s) (fun t x ht ↦ ?_) (.refl h) acts
  obtain ⟨home', h'⟩ := ht.settled
  exact ht.trans (h'.later_act x.1 x.2)

/-! ## What is found again -/

private theorem forall₂_filter_of_mem {R : Node → Node → Prop} {p : Node → Bool}
    {ns ns' : List Node} (h : List.Forall₂ R ns ns') (hp : ∀ n ∈ ns, ∀ n', R n n' → p n' = p n) :
    List.Forall₂ R (ns.filter p) (ns'.filter p) := by
  induction h with
  | nil => exact .nil
  | @cons n n' ns ns' hn _ ih =>
    obtain ⟨hfirst, hrest⟩ := List.forall_mem_cons.mp hp
    rw [List.filter_cons, List.filter_cons, hfirst n' hn]
    split
    · exact .cons hn (ih hrest)
    · exact ih hrest

private theorem fits_congr {e e' : Element} (htag : e'.tag = e.tag)
    (hattr : ∀ name, e'.attribute? name = e.attribute? name) (sel : Selector) :
    sel.fits e' = sel.fits e := by
  have hholds : ∀ c : Condition, c.holds e' = c.holds e := by
    intro c
    cases c <;>
      simp only [Condition.holds, Element.hasAttribute, Element.classes, Element.attributeText,
        htag, hattr]
  rw [Selector.fits, Selector.fits]
  simp only [hholds]

private theorem map_sort_eq {l : Leeway} {ns ns' : List Node}
    (h : List.Forall₂ (Node.Becomes l) ns ns') : ns'.map Node.sort = ns.map Node.sort := by
  induction h with
  | nil => rfl
  | cons hb _ ih => rw [List.map_cons, List.map_cons, ih, Node.sort, Node.sort, hb.id, hb.kind]

private theorem bind_locate_congr {α : Type} {d d' : Document} {text : String}
    {f : Option Node → Except BindError α}
    (hf : ∀ n n' : Option Node, n'.map Node.sort = n.map Node.sort → f n' = f n)
    (h : ∀ sel, Selector.ofText? text = some sel →
      (d'.queryFirst? r sel).map Node.sort = (d.queryFirst? r sel).map Node.sort) :
    (locate d' r text >>= f) = locate d r text >>= f := by
  rw [locate, locate]
  cases hsel : Selector.ofText? text with
  | none => rfl
  | some sel => exact hf _ _ (h sel hsel)

private theorem locateText_congr {d d' : Document} {name : String}
    (h : ∀ sel, Selector.ofText? ("input[name=" ++ name ++ "]") = some sel →
      (d'.queryFirst? r sel).map Node.sort = (d.queryFirst? r sel).map Node.sort) :
    locateText d' r name = locateText d r name := by
  refine bind_locate_congr (fun n n' hsort ↦ ?_) h
  cases n <;> cases n' <;> simp_all [Node.sort]

private theorem locateDropdown_congr {d d' : Document} {name : String}
    (h : ∀ sel, Selector.ofText? ("select[name=" ++ name ++ "]") = some sel →
      (d'.queryFirst? r sel).map Node.sort = (d.queryFirst? r sel).map Node.sort) :
    locateDropdown d' r name = locateDropdown d r name := by
  refine bind_locate_congr (fun n n' hsort ↦ ?_) h
  cases n <;> cases n' <;> simp_all [Node.sort]

/-- The argument name of an element asks for a name and for nothing else. -/
def PlainlyNamed (d : Document) (r : NodeId) : Prop :=
  ∀ settings, Settings.ofAttributes ((rootElement d r).attribute? settingsAttribute)
    ((rootElement d r).attribute? methodAttribute) = .ok settings →
      ∃ name, AsksFor settings.argumentName name

theorem PlainlyNamed.congr {d d' : Document} (h : PlainlyNamed d r)
    (hattr : ∀ name ∈ [settingsAttribute, methodAttribute],
      (rootElement d' r).attribute? name = (rootElement d r).attribute? name) :
    PlainlyNamed d' r := by
  intro settings hsettings
  rw [hattr settingsAttribute (by simp), hattr methodAttribute (by simp)] at hsettings
  exact h settings hsettings

private theorem mem_waiting_iff_attribute? {d : Document} {top : NodeId} {name marker : String} :
    r ∈ waiting d top name marker ↔ d.isBelow top r = true ∧
      (d.attribute? r name).isSome = true ∧ d.attribute? r marker = none := by
  rw [mem_waiting]
  constructor
  · rintro ⟨n, hn, rfl, hbelow, hattribute, hunmarked⟩
    have hsame : ∀ name, d.attribute? n.id name = n.element.attribute? name := fun name ↦ by
      rw [Document.attribute?, Document.element?, Document.find?_of_mem hn]
      rfl
    rw [hsame, hsame]
    exact ⟨hbelow, hattribute, Option.not_isSome_iff_eq_none.mp (Bool.not_eq_true _ ▸ hunmarked)⟩
  · rintro ⟨hbelow, hattribute, hunmarked⟩
    obtain ⟨v, hv⟩ := Option.isSome_iff_exists.mp hattribute
    obtain ⟨e, he, hev⟩ := Option.bind_eq_some_iff.mp hv
    obtain ⟨n, hn, rfl⟩ := Option.map_eq_some_iff.mp he
    refine ⟨n, Document.mem_of_find? hn, Document.id_of_find? hn, hbelow, ?_, ?_⟩
    · rw [Element.hasAttribute, hev]
      rfl
    · rw [Document.attribute?, he, Option.bind_some] at hunmarked
      rw [Element.hasAttribute, hunmarked]
      rfl

private theorem exists_error_bindForm (h : ¬ ∃ plan, Plans s.document r plan) :
    ∃ e, (s.bindForm r).answer = .error e := by
  cases hanswer : (s.bindForm r).answer with
  | error e => exact ⟨e, rfl⟩
  | ok id => exact absurd (isOk_bindForm_iff.mp (by rw [hanswer]; rfl)) h

private theorem exists_error_bindGuard (h : ¬ ∃ latch, planGuard s.document r = .ok latch) :
    ∃ e, (s.bindGuard r).answer = .error e := by
  cases hanswer : (s.bindGuard r).answer with
  | error e => exact ⟨e, rfl⟩
  | ok id => exact absurd (isOk_bindGuard_iff.mp (by rw [hanswer]; rfl)) h

namespace Later

variable (h : Later heads s s')
include h

private theorem attribute?_rootElement (hr : (s.document.element? r).isSome = true) {name : String}
    (hname : Spared name) :
    (rootElement s'.document r).attribute? name = (rootElement s.document r).attribute? name := by
  rw [Site.attribute?_rootElement hr,
    Site.attribute?_rootElement (h.ordinary.isSome_element? hr)]
  exact h.persists.attributes name hname r

/-- Among the copies of the permission a guard has no control, so they are the same whatever their
classes are. -/
theorem queryKind_permissionFields (hs : Settled heads home s) (hr : heads r = true)
    (hnew : r ∉ s.formRoots) : s'.document.queryKind r permissionFields (· = .dropdown) =
      s.document.queryKind r permissionFields (· = .dropdown) := by
  have hcopies : ∀ n ∈ s.document.descendants r, ∀ n' : Node, n.Becomes (s.guarding r) n' →
      (decide (n'.element.kind = .dropdown) && permissionFields.fits n'.element) =
        (decide (n.element.kind = .dropdown) && permissionFields.fits n.element) := by
    intro n hn n' hb
    rw [hb.kind]
    by_cases hkind : n.element.kind = .dropdown
    · rw [fits_congr hb.tag fun name ↦ hb.attributes name ?_]
      rintro ⟨⟨g, hg, -, hcontrol⟩, -⟩
      refine (hs.guards g hg).2.2.2 ?_
      rw [hcontrol, Document.kind, Document.element?,
        Document.find?_of_mem (List.mem_filter.mp hn).1]
      exact hkind
    · simp [hkind]
  have hsame := map_sort_eq (forall₂_filter_of_mem (h.unbound r hr hnew) hcopies)
  have hids := congrArg (List.map Prod.fst) hsame
  rw [List.map_map, List.map_map] at hids
  rw [Document.queryKind, Document.queryKind, Document.query, Document.query, List.filter_filter,
    List.filter_filter]
  exact hids

/-- The argument fields are found by selectors that ask for nothing that a guard writes. -/
theorem queryFirst?_argument {written : String} (tag : String) {sel : Selector}
    (hr : heads r = true) (hnew : r ∉ s.formRoots)
    (hplain : r ∈ s.guardRoots → ∃ name, AsksFor written name)
    (hsel : ∀ name, AsksFor written name → sel = .named tag name) :
    (s'.document.queryFirst? r sel).map Node.sort =
      (s.document.queryFirst? r sel).map Node.sort := by
  have hfits : ∀ n n' : Node, n.Becomes (s.guarding r) n' →
      sel.fits n'.element = sel.fits n.element := by
    intro n n' hb
    by_cases hguard : r ∈ s.guardRoots
    · obtain ⟨name, hasks⟩ := hplain hguard
      have hname : n'.element.attribute? "name" = n.element.attribute? "name" :=
        hb.attributes "name" (by simp [guarding])
      rw [hsel name hasks, Bool.eq_iff_iff, Selector.fits_named, Selector.fits_named, hb.tag, hname]
    · refine fits_congr hb.tag (fun name ↦ hb.attributes name ?_) sel
      rintro ⟨⟨g, hg, hroot, -⟩, -⟩
      exact hguard (hroot ▸ List.mem_map_of_mem hg)
  rw [Document.queryFirst?, Document.queryFirst?, ← List.head?_map, ← List.head?_map]
  exact congrArg _
    (map_sort_eq (forall₂_filter_of_mem (h.unbound r hr hnew) fun n _ n' hb ↦ hfits n n' hb))

theorem not_plans (hs : Settled heads home s) (hr : heads r = true) (hnew : r ∉ s.formRoots)
    (hplain : r ∈ s.guardRoots → PlainlyNamed s.document r)
    (hnot : ¬ ∃ plan, Plans s.document r plan) : ¬ ∃ plan, Plans s'.document r plan := by
  rintro ⟨plan, hplan⟩
  have hattr : ∀ name ∈ planAttributes, (rootElement s.document r).attribute? name =
      (rootElement s'.document r).attribute? name := by
    intro name hname
    refine (h.attribute?_rootElement (hs.found r hr) ?_).symm
    revert name
    decide
  have hsettings := hplan.settings
  rw [← hattr settingsAttribute (by decide), ← hattr methodAttribute (by decide)] at hsettings
  have hasked : r ∈ s.guardRoots → ∃ name, AsksFor plan.settings.argumentName name :=
    fun hguard ↦ hplain hguard plan.settings hsettings
  refine hnot ⟨plan, hplan.congr hattr (h.queryKind_permissionFields hs hr hnew).symm
    (locateText_congr fun sel hsel ↦ ?_) (locateDropdown_congr fun sel hsel ↦ ?_)⟩
  · exact (h.queryFirst?_argument "input" hr hnew hasked fun name hasks ↦
      Option.some.inj (hsel.symm.trans hasks.text)).symm
  · exact (h.queryFirst?_argument "select" hr hnew hasked fun name hasks ↦
      Option.some.inj (hsel.symm.trans hasks.dropdown)).symm

theorem not_planGuard (hr : (s.document.element? r).isSome = true)
    (hnot : ¬ ∃ latch, planGuard s.document r = .ok latch) :
    ¬ ∃ latch, planGuard s'.document r = .ok latch := by
  refine mt (exists_planGuard_of_evolves h.ordinary (fun _ ↦ by simp [Leeway.ordinary])
    (fun _ hk ↦ .inl hk) fun name hname ↦ h.attribute?_rootElement hr ?_) hnot
  revert name
  decide

/-- Nothing comes to be waiting. -/
theorem mem_waiting {top : NodeId} {name marker : String} (hname : Spared name)
    (hmarker : Spared marker) (hr : r ∈ waiting s'.document top name marker) :
    r ∈ waiting s.document top name marker := by
  obtain ⟨hbelow, hflag, hunmarked⟩ := mem_waiting_iff_attribute?.mp hr
  rw [h.persists.attributes name hname r] at hflag
  rw [h.persists.attributes marker hmarker r] at hunmarked
  obtain ⟨v, hv⟩ := Option.isSome_iff_exists.mp hflag
  have hlt := Document.lt_next_of_attribute? hv
  exact mem_waiting_iff_attribute?.mpr ⟨h.ordinary.isBelow_of_isBelow hlt hbelow, hflag, hunmarked⟩

end Later

/-! ## Binding the page again -/

private theorem bindEach_of_failed {widget : String}
    {bind : Site → NodeId → Reply (Except BindError BindingId)} {ws : List NodeId}
    (hws : ∀ r ∈ ws, ∃ e, (bind s r).site = s ∧ (bind s r).answer = .error e) :
    (bindEach widget bind s ws).site = s ∧ (bindEach widget bind s ws).answer = [] := by
  induction ws with
  | nil => exact ⟨rfl, rfl⟩
  | cons r ws ih =>
    obtain ⟨⟨e, hsite, hanswer⟩, hrest⟩ := List.forall_mem_cons.mp hws
    rw [bindEach, hsite, hanswer]
    exact ih hrest

theorem bindPage_of_failed {top : NodeId}
    (hforms : ∀ r ∈ waiting s.document top tableAttribute formMarker,
      ¬ ∃ plan, Plans s.document r plan)
    (hguards : ∀ r ∈ waiting s.document top guardAttribute guardMarker,
      ¬ ∃ latch, planGuard s.document r = .ok latch) :
    (bindPage s (some top)).site = s ∧ (bindPage s (some top)).answer = .ok ⟨[], []⟩ := by
  have hfirst : ∀ r ∈ waiting s.document top tableAttribute formMarker,
      ∃ e, (bindForm s r).site = s ∧ (bindForm s r).answer = .error e := fun r hr ↦
    (exists_error_bindForm (hforms r hr)).imp fun _ he ↦ ⟨site_bindForm_of_not (hforms r hr), he⟩
  have hsecond : ∀ r ∈ waiting s.document top guardAttribute guardMarker,
      ∃ e, (bindGuard s r).site = s ∧ (bindGuard s r).answer = .error e := fun r hr ↦
    (exists_error_bindGuard (hguards r hr)).imp fun _ he ↦
      ⟨site_bindGuard_of_not (hguards r hr), he⟩
  obtain ⟨hsite, hanswer⟩ := bindEach_of_failed hfirst
  obtain ⟨hsite', hanswer'⟩ := bindEach_of_failed hsecond
  rw [bindPage, hsite, hanswer, hsite', hanswer']
  exact ⟨rfl, rfl⟩

namespace Outcome

variable {d : Document} {top : NodeId} (h₀ : Apart d top) (h : Outcome d top s)
include h₀ h

/-- A page is settled when it is bound. -/
theorem settled : ∃ home, Settled (flagged d top) home s := by
  rw [h.site]
  refine (settled_open h₀.sharedOut).operateAll fun op hop ↦ ?_
  have hfeasible := feasible_of_mem_bindings hop
  cases op with
  | bindForm r => exact ⟨r, hfeasible.1, .inl rfl⟩
  | bindGuard r => exact ⟨r, hfeasible.1, .inr rfl⟩
  | _ => exact hfeasible.elim

theorem not_plans (hr : r ∈ waiting s.document top tableAttribute formMarker) :
    r ∈ waiting d top tableAttribute formMarker ∧ r ∉ s.formRoots ∧
      ¬ ∃ plan, Plans s.document r plan := by
  obtain ⟨home, distance, hcomposed⟩ := h.composed
  rw [hcomposed.waiting_forms h₀.sharedOut h.opened] at hr
  obtain ⟨hwaiting, hnew⟩ := List.mem_filter.mp hr
  rw [decide_eq_true_eq] at hnew
  refine ⟨hwaiting, hnew, fun ⟨plan, hplan⟩ ↦ hnew ?_⟩
  have hflagged := flagged_of_mem_waiting (.inl rfl) hwaiting
  rw [h.forms]
  exact (mem_boundForms_iff hflagged).mpr
    ⟨plan, (hcomposed.plans_iff h₀.sharedOut hflagged hnew).mp hplan⟩

theorem not_planGuard (hr : r ∈ waiting s.document top guardAttribute guardMarker) :
    r ∈ waiting d top guardAttribute guardMarker ∧
      ¬ ∃ latch, planGuard s.document r = .ok latch := by
  obtain ⟨home, distance, hcomposed⟩ := h.composed
  rw [hcomposed.waiting_guards h₀.sharedOut h.opened] at hr
  obtain ⟨hwaiting, hnew⟩ := List.mem_filter.mp hr
  rw [decide_eq_true_eq] at hnew
  refine ⟨hwaiting, fun hplan ↦ hnew ?_⟩
  have hflagged := flagged_of_mem_waiting (.inr rfl) hwaiting
  rw [hcomposed.exists_planGuard_iff_alone h₀.sharedOut hflagged hnew,
    alone_eq hflagged h.forms] at hplan
  rw [h.guards]
  exact List.mem_filter.mpr ⟨hwaiting, isOk_bindGuard_iff.mpr hplan⟩

/-- Binding a page again at once does nothing. -/
theorem bindPage_again :
    (bindPage s (some top)).site = s ∧ (bindPage s (some top)).answer = .ok ⟨[], []⟩ :=
  bindPage_of_failed (fun _ hr ↦ (h.not_plans h₀ hr).2.2) fun _ hr ↦ (h.not_planGuard h₀ hr).2

/-- Nor does it do anything later, if the argument name is plain wherever a guard was bound and the
form was not. -/
theorem bindPage_later (hplain : ∀ r ∈ waiting d top tableAttribute formMarker,
      r ∉ boundForms d top → r ∈ boundGuards d top → PlainlyNamed d r)
    (acts : List (BindingId × Act)) :
    (bindPage (s.undergo acts) (some top)).site = s.undergo acts ∧
      (bindPage (s.undergo acts) (some top)).answer = .ok ⟨[], []⟩ := by
  obtain ⟨home, hsettled⟩ := h.settled h₀
  have hlater := hsettled.later acts
  refine bindPage_of_failed (fun r hr ↦ ?_) fun r hr ↦ ?_
  · obtain ⟨hwaiting, hnew, hnot⟩ :=
      h.not_plans h₀ (hlater.mem_waiting (by decide) (by decide) hr)
    have hflagged := flagged_of_mem_waiting (.inl rfl) hwaiting
    refine hlater.not_plans hsettled hflagged hnew (fun hguard ↦ ?_) hnot
    rw [h.guards] at hguard
    rw [h.forms] at hnew
    refine (hplain r hwaiting hnew hguard).congr fun name hname ↦ ?_
    rw [attribute?_rootElement (hsettled.found r hflagged),
      attribute?_rootElement (isSome_of_flagged hflagged)]
    rcases List.mem_pair.mp hname with rfl | rfl
    · exact h.opened.attributes _ (by decide) (by decide) r
    · exact h.opened.attributes _ (by decide) (by decide) r
  · obtain ⟨hwaiting, hnot⟩ := h.not_planGuard h₀ (hlater.mem_waiting (by decide) (by decide) hr)
    exact hlater.not_planGuard (hsettled.found r (flagged_of_mem_waiting (.inr rfl) hwaiting)) hnot

end Outcome

end Site

end AccessForm
