import AccessForm.Proofs.Locality
import AccessForm.Proofs.Outline

/-!
# Pages of separate forms

While the forms and guards of a page are bound, in whatever order, the document is composed of parts
that can be told without looking at the page as a whole. The household of an element with a bound
form is the one that the binding alone would have made of it; any other household is as it was in
the beginning; and an element that is at home nowhere at most got the markers of its own bindings.
Every binding keeps the document in this shape (`Composed.bindForm`, `Composed.bindGuard`).
-/

namespace AccessForm

/-! ## Marks on an element -/

namespace Element

private theorem attributes_toggleAttribute (e : Element) (name : String) (b : Bool) :
    e.toggleAttribute name b = { e with attributes := (e.toggleAttribute name b).attributes } := by
  rw [toggleAttribute]
  split
  · split
    · rfl
    · rfl
  · rfl

private theorem attribute?_toggleAttribute_true (e : Element) (name other : String) :
    (e.toggleAttribute name true).attribute? other =
      if other = name then some (e.attributeText name) else e.attribute? other := by
  rw [toggleAttribute, if_pos rfl, attributeText, hasAttribute]
  cases hname : e.attribute? name with
  | none => simp
  | some v =>
    by_cases hother : other = name
    · simp [hother, hname]
    · simp [hother]

private theorem toggleAttribute_comm {a b : String} (hab : a ≠ b) (e : Element) :
    (e.toggleAttribute a true).toggleAttribute b true =
      (e.toggleAttribute b true).toggleAttribute a true := by
  have hattributes : ((e.toggleAttribute a true).toggleAttribute b true).attributes =
      ((e.toggleAttribute b true).toggleAttribute a true).attributes := by
    refine Directory.eq_of_find? fun name ↦ ?_
    show ((e.toggleAttribute a true).toggleAttribute b true).attribute? name =
      ((e.toggleAttribute b true).toggleAttribute a true).attribute? name
    simp only [attribute?_toggleAttribute_true, attributeText]
    by_cases hna : name = a
    · simp [hna, hab]
    · by_cases hnb : name = b
      · simp [hnb, hab.symm]
      · simp [hna, hnb]
  have hrest : ∀ name (attributes : Directory String),
      ({ e.toggleAttribute name true with attributes } : Element) = { e with attributes } := by
    intro name attributes
    rw [attributes_toggleAttribute e name]
  rw [attributes_toggleAttribute (e.toggleAttribute a true), hrest, hattributes,
    attributes_toggleAttribute (e.toggleAttribute b true), hrest]

end Element

namespace Site

open Document (Housed KeepsTo Mirrors Untouched homeIn household_withNew inside_eq_true shift
  withNew withNew_of_lt withNew_of_le withNew_of_ne)

/-- An element with the markers of its bindings. -/
def stamp (form guard : Bool) (e : Element) : Element :=
  let e := if form then e.toggleAttribute formMarker true else e
  if guard then e.toggleAttribute guardMarker true else e

private theorem tag_stamp (form guard : Bool) (e : Element) : (stamp form guard e).tag = e.tag := by
  cases form <;> cases guard <;> simp [stamp, Element.tag_toggleAttribute]

theorem attribute?_stamp {form guard : Bool} {name : String}
    (hform : form = true → name ≠ formMarker) (hguard : guard = true → name ≠ guardMarker)
    (e : Element) :
    (stamp form guard e).attribute? name = e.attribute? name := by
  have hleft : (if form then e.toggleAttribute formMarker true else e).attribute? name =
      e.attribute? name := by
    cases form with
    | false => rfl
    | true => exact Element.attribute?_toggleAttribute_of_ne (hform rfl) e true
  rw [← hleft, stamp]
  cases guard with
  | false => rfl
  | true => exact Element.attribute?_toggleAttribute_of_ne (hguard rfl) _ true

private theorem toggleAttribute_stamp (guard : Bool) (e : Element) :
    (stamp false guard e).toggleAttribute formMarker true = stamp true guard e := by
  cases guard with
  | false => rfl
  | true => exact Element.toggleAttribute_comm (by decide) e

/-- The elements with a bound form. -/
def formRoots (s : Site) : List NodeId := s.forms.map (·.root)

/-- The elements with a bound guard. -/
def guardRoots (s : Site) : List NodeId := s.guards.map (·.root)

/-- A node with the markers of its bindings. -/
def stamped (s : Site) (n : Node) : Node :=
  { n with element := stamp (n.id ∈ s.formRoots) (n.id ∈ s.guardRoots) n.element }

/-- The site on which the form of an element is bound alone, if it is bound at all. -/
def alone (d : Document) (s : Site) (r : NodeId) : Site :=
  if r ∈ s.formRoots then (bindForm { document := d } r).site else { document := d }

/-- The nodes that are at home nowhere, heads included. -/
def loose (d : Document) (home : NodeId → Option NodeId) : List Node :=
  d.nodes.filter (home ·.id == none)

private theorem find?_loose {d : Document} {home : NodeId → Option NodeId} {id : NodeId}
    (h : home id = none) : (loose d home).find? (·.id == id) = d.find? id := by
  rw [loose, List.find?_filter, Document.find?]
  refine List.find?_congr fun n _ ↦ ?_
  by_cases hn : n.id = id
  · simp [hn, h]
  · simp [hn]

/-- The nodes of a document are shared out among heads, none of which is below another one. -/
structure SharedOut (heads : NodeId → Bool) (d : Document) : Prop where
  /-- Every node is at home with the nearest head. -/
  housed : d.Housed heads (homeIn heads d)
  /-- The heads are there. -/
  found (r : NodeId) : heads r = true → (d.find? r).isSome = true

/-- What a page is composed of while forms and guards are bound to heads of a document. -/
structure Composed (heads : NodeId → Bool) (d : Document) (s : Site)
    (home : NodeId → Option NodeId) (distance : NodeId → NodeId) : Prop where
  /-- Numbers are in order. -/
  numbered : s.Numbered
  /-- All nodes are shared out. -/
  housed : s.document.Housed heads home
  /-- Numbers are only used up. -/
  next_le : d.next ≤ s.document.next
  /-- Old nodes are at home where they were. -/
  old (id : NodeId) : id < d.next → home id = homeIn heads d id
  /-- The bound forms of heads have plans in the beginning. -/
  planned (r : NodeId) : heads r = true → r ∈ s.formRoots → ∃ plan, Plans d r plan
  /-- Each household is as its own form alone would have made it. -/
  household (r : NodeId) : heads r = true →
    Mirrors heads r (shift d.next (distance r)) (withNew (homeIn heads d) d.next r)
      (alone d s r).document home s.document
  /-- The same is heard in it. -/
  heard (r : NodeId) : heads r = true → ∀ k, withNew (homeIn heads d) d.next r k = some r →
    home (shift d.next (distance r) k) = some r →
      s.hears (shift d.next (distance r) k) = (alone d s r).hears k
  /-- Outside of the households, only the elements with bindings were marked. -/
  loose : loose s.document home = (loose d (homeIn heads d)).map s.stamped
  /-- Only heads hear something there. -/
  quiet (id : NodeId) : home id = none → heads id = false → s.hears id = []
  /-- A head with a form hears of submissions. -/
  releases (r : NodeId) : heads r = true →
    (s.hears r).filter (· != .latch) = if r ∈ s.formRoots then [.release] else []
  /-- So does a head with a guard. -/
  latches (r : NodeId) : heads r = true →
    (s.hears r).count .latch = if r ∈ s.guardRoots then 1 else 0

variable {heads : NodeId → Bool} {d : Document} {s : Site} {home : NodeId → Option NodeId}
  {distance : NodeId → NodeId} {r : NodeId} {plan : FormPlan}

theorem SharedOut.lt (h : SharedOut heads d) (r : NodeId) (hr : heads r = true) : r < d.next := by
  obtain ⟨n, hn⟩ := Option.isSome_iff_exists.mp (h.found r hr)
  exact Document.lt_next_of_find? hn

theorem composed_open (h : SharedOut heads d) :
    Composed heads d { document := d } (homeIn heads d) fun _ ↦ 0 where
  numbered := numbered_open d
  housed := h.housed
  next_le := Nat.le_refl _
  old _ _ := rfl
  planned _ _ h := absurd h List.not_mem_nil
  household r hr := {
    housed := h.housed.withNew h.lt r
    housed' := h.housed
    household := by
      show d.household (homeIn heads d) r = _
      rw [show (alone d { document := d } r).document = d from rfl, household_withNew,
        Document.map_renumber_shift fun n hn ↦ (Document.mem_household.mp hn).1]
    mono := Document.strictMono_shift _ _
    isHead := hr
    head := Document.shift_of_lt (h.lt r hr) }
  heard _ _ _ _ _ := rfl
  loose := by
    refine ((List.map_congr_left fun n _ ↦ ?_).trans (List.map_id _)).symm
    rfl
  quiet _ _ _ := rfl
  releases _ _ := rfl
  latches _ _ := rfl

namespace Composed

variable (h₀ : SharedOut heads d) (h : Composed heads d s home distance)
include h₀ h

/-! ## Heads -/

omit h₀ in
theorem find?_of_loose {id : NodeId} (hid : id < d.next) (hhome : homeIn heads d id = none) :
    s.document.find? id = (d.find? id).map s.stamped := by
  rw [← find?_loose ((h.old id hid).trans hhome), h.loose, List.find?_map, ← find?_loose hhome]
  rfl

theorem element?_head (hr : heads r = true) : s.document.element? r =
    (d.element? r).map (stamp (r ∈ s.formRoots) (r ∈ s.guardRoots)) := by
  rw [Document.element?, h.find?_of_loose (h₀.lt r hr) (h₀.housed.head r hr), Document.element?]
  cases hfind : d.find? r with
  | none => rfl
  | some n => simp [stamped, Document.id_of_find? hfind]

theorem found_head (hr : heads r = true) : (s.document.find? r).isSome = true := by
  rw [h.find?_of_loose (h₀.lt r hr) (h₀.housed.head r hr), Option.isSome_map]
  exact h₀.found r hr

theorem rootElement_head (hr : heads r = true) : rootElement s.document r =
    stamp (r ∈ s.formRoots) (r ∈ s.guardRoots) (rootElement d r) := by
  have hsome := h₀.found r hr
  rw [rootElement, h.element?_head h₀ hr, rootElement, Document.element?]
  cases hfind : d.find? r with
  | none =>
    rw [hfind] at hsome
    cases hsome
  | some n => rfl

private theorem untouched (hr : heads r = true) (hnew : r ∉ s.formRoots) :
    Untouched heads r (homeIn heads d) d home s.document where
  housed := h₀.housed
  housed' := h.housed
  isHead := hr
  heads_lt := h₀.lt
  next_le := h.next_le
  old := h.old
  household := by
    have hmirror := h.household r hr
    rw [alone, if_neg hnew] at hmirror
    rw [hmirror.household, household_withNew,
      Document.map_renumber_shift fun n hn ↦ (Document.mem_household.mp hn).1]
  kind := by
    rw [Document.kind, h.element?_head h₀ hr, Document.kind, Option.map_map]
    refine congrArg (Option.getD · _) (congrArg (Option.map · _) (funext fun e ↦ ?_))
    rw [Function.comp_apply, Element.kind, tag_stamp, Element.kind]
  found := h₀.found r hr
  found' := h.found_head h₀ hr

/-- As long as the form of a head is not bound, it has the same plan as in the beginning. -/
theorem plans_iff (hr : heads r = true) (hnew : r ∉ s.formRoots) :
    Plans s.document r plan ↔ Plans d r plan := by
  have hquery := (h.untouched h₀ hr hnew).query
  have hattr : ∀ a ∈ planAttributes,
      (rootElement s.document r).attribute? a = (rootElement d r).attribute? a := by
    intro a ha
    rw [h.rootElement_head h₀ hr]
    refine attribute?_stamp (fun hform ↦ ?_) (fun _ ↦ ?_) _
    · exact absurd (of_decide_eq_true hform) hnew
    · rintro rfl
      exact absurd ha (by decide)
  constructor
  · exact fun hplan ↦ hplan.congr_query (fun a ha ↦ (hattr a ha).symm) fun sel ↦ (hquery sel).symm
  · exact fun hplan ↦ hplan.congr_query hattr hquery

end Composed

/-! ## Other households -/

private theorem mirrors_of_keepsTo {b : NodeId} {φ : NodeId → NodeId}
    {home₀ home' : NodeId → Option NodeId}
    {d₀ d d' : Document} (h : Mirrors heads b φ home₀ d₀ home d) (hne : b ≠ r)
    (hr : heads r = true) (hsame : d.household home' b = d.household home b)
    (hd' : d'.Housed heads home')
    (hkept : d'.nodes.filter (!Document.around home' r ·.id) =
      d.nodes.filter (!Document.around home' r ·.id)) : Mirrors heads b φ home₀ d₀ home' d' := by
  refine { h with housed' := hd', household := ?_ }
  rw [← h.household, ← hsame]
  refine KeepsTo.filter_eq (q := Document.inside home' b) (fun id hid ↦ ?_) hkept
  have hhome := inside_eq_true.mp hid
  have hidr : id ≠ r := by
    rintro rfl
    rw [hd'.head id hr] at hhome
    cases hhome
  simp [Document.around, hhome, hne, hidr]

/-! ## Listeners of a form -/

theorem target_of_mem_formListeners {layout : Layout NodeId NodeId} {owner : BindingId}
    {l : Listener} (h : l ∈ formListeners r layout owner) :
    l.target = r ∨ l.target ∈ layout.elements := by
  rw [formListeners, List.mem_append, List.mem_append] at h
  rcases h with (h | h) | h
  · obtain ⟨k, hk, rfl⟩ := List.mem_map.mp h
    exact .inr (by simp [Layout.elements, Layout.mem_controls_of_permission hk])
  · obtain ⟨k, hk, rfl⟩ := List.mem_map.mp h
    exact .inr (by simp [Layout.elements, hk])
  · rw [List.mem_singleton.mp h]
    exact .inl rfl

private theorem reactionsAt_formListeners_of_notMem {layout : Layout NodeId NodeId}
    {owner : BindingId} {id : NodeId} (hid : id ≠ r) (hlayout : id ∉ layout.elements) :
    reactionsAt (formListeners r layout owner) id = [] := by
  refine reactionsAt_eq_nil fun l hl ↦ ?_
  rintro rfl
  rcases target_of_mem_formListeners hl with heq | hmem
  · exact hid heq
  · exact hlayout hmem

private theorem reactionsAt_formListeners_self {layout : Layout NodeId NodeId} {owner : BindingId}
    (hlayout : r ∉ layout.elements) :
    reactionsAt (formListeners r layout owner) r = [.release] := by
  have hpermission : r ∉ layout.permission := fun hmem ↦
    hlayout (by simp [Layout.elements, Layout.mem_controls_of_permission hmem])
  have hreason : r ∉ layout.reason := fun hmem ↦ hlayout (by simp [Layout.elements, hmem])
  rw [formListeners, reactionsAt_append, reactionsAt_append, reactionsAt_eq_nil,
    reactionsAt_eq_nil]
  · simp [reactionsAt]
  · intro l hl
    obtain ⟨k, hk, rfl⟩ := List.mem_map.mp hl
    rintro rfl
    exact hreason hk
  · intro l hl
    obtain ⟨k, hk, rfl⟩ := List.mem_map.mp hl
    rintro rfl
    exact hpermission hk

private theorem reactionsAt_formListeners_map {φ : NodeId → NodeId} (hφ : Function.Injective φ)
    (hr : φ r = r) (layout : Layout NodeId NodeId) (owner owner' : BindingId) (id : NodeId) :
    reactionsAt (formListeners r (layout.map φ φ) owner) (φ id) =
      reactionsAt (formListeners r layout owner') id := by
  have hmap : formListeners r (layout.map φ φ) owner =
      (formListeners r layout owner').map fun l ↦ ⟨φ l.target, owner, l.reaction⟩ := by
    simp only [formListeners, Layout.map, List.map_append, List.map_map, List.map_cons,
      List.map_nil, hr]
    rfl
  rw [hmap, reactionsAt, List.filter_map, List.map_map, reactionsAt]
  refine congrArg _ (List.filter_congr fun l _ ↦ ?_)
  simp [hφ.eq_iff]

private theorem Plans.hears_bindForm (h : Plans s.document r plan) (id : NodeId) :
    (s.bindForm r).site.hears id =
      s.hears id ++ reactionsAt (formListeners r (plannedLayout s.document r plan) s.next) id := by
  rw [hears, bindForm_eq h]
  exact reactionsAt_append _ _ _

theorem Plans.formRoots_bindForm (h : Plans s.document r plan) :
    (s.bindForm r).site.formRoots = s.formRoots ++ [r] := by
  rw [formRoots, h.opened.1, List.map_append]
  rfl

theorem Plans.guardRoots_bindForm (h : Plans s.document r plan) :
    (s.bindForm r).site.guardRoots = s.guardRoots := by
  rw [bindForm_eq h]
  rfl

private theorem Plans.mem_formRoots_bindForm (h : Plans s.document r plan) {b : NodeId} :
    b ∈ (s.bindForm r).site.formRoots ↔ b ∈ s.formRoots ∨ b = r := by
  rw [h.formRoots_bindForm, List.mem_append, List.mem_singleton]

private theorem Plans.alone_bindForm_self (h : Plans s.document r plan) :
    alone d (s.bindForm r).site r = (Site.bindForm { document := d } r).site := by
  rw [alone, if_pos (h.mem_formRoots_bindForm.mpr (.inr rfl))]

private theorem Plans.alone_bindForm_of_ne (h : Plans s.document r plan) {b : NodeId} (hb : b ≠ r) :
    alone d (s.bindForm r).site b = alone d s b := by
  have hmem : b ∈ (s.bindForm r).site.formRoots ↔ b ∈ s.formRoots := by
    rw [h.mem_formRoots_bindForm, or_iff_left hb]
  rw [alone, alone, if_congr hmem rfl rfl]

theorem bindGuard_eq {latch : Latch NodeId} (h : planGuard s.document r = .ok latch) :
    (s.bindGuard r).site.document = setMarker s.document r guardMarker true ∧
      (s.bindGuard r).site.formRoots = s.formRoots ∧
      (s.bindGuard r).site.guardRoots = s.guardRoots ++ [r] := by
  rw [bindGuard, h]
  refine ⟨rfl, rfl, ?_⟩
  rw [guardRoots, List.map_append]
  rfl

private theorem hears_bindGuard {latch : Latch NodeId} (h : planGuard s.document r = .ok latch)
    (id : NodeId) :
    (s.bindGuard r).site.hears id = s.hears id ++ if id = r then [.latch] else [] := by
  rw [bindGuard, h, hears]
  refine (reactionsAt_append _ _ _).trans (congrArg (s.hears id ++ ·) ?_)
  by_cases hid : id = r
  · simp [reactionsAt, hid]
  · simp [reactionsAt, hid, Ne.symm hid]

section

variable (h : Plans s.document r plan) (hr : heads r = true) (hd : s.document.Housed heads home)
  (hnew : ∀ id, s.document.next ≤ id → home id = some r)
include h hr hd hnew

private theorem Plans.home_plannedLayout {k : NodeId}
    (hk : k ∈ (plannedLayout s.document r plan).elements) :
    home k = some r := by
  obtain ⟨hprovided, -, -⟩ := h.keepsTo_provideDropdown hr hd hnew
  exact hprovided.home_of_isBelow hr (h.isBelow_elements hk)

private theorem Plans.hears_bindForm_of_ne {id : NodeId} (hid : id ≠ r) (hhome : home id ≠ some r) :
    (s.bindForm r).site.hears id = s.hears id := by
  rw [h.hears_bindForm, reactionsAt_formListeners_of_notMem hid, List.append_nil]
  exact fun hmem ↦ hhome (h.home_plannedLayout hr hd hnew hmem)

private theorem Plans.hears_bindForm_self :
    (s.bindForm r).site.hears r = s.hears r ++ [.release] := by
  rw [h.hears_bindForm, reactionsAt_formListeners_self]
  intro hmem
  have hhome := h.home_plannedLayout hr hd hnew hmem
  rw [hd.head r hr] at hhome
  cases hhome

end

private theorem household_setMarker {marker : String} (hd : d.Housed heads home)
    (hr : heads r = true) (b : NodeId) (present : Bool) :
    (setMarker d r marker present).household home b = d.household home b := by
  rw [setMarker, Document.modify, Document.household_mapElements]
  refine (List.map_congr_left fun n hn ↦ ?_).trans (List.map_id _)
  rw [if_neg, id]
  intro hid
  have hhome := (Document.mem_household.mp hn).2
  rw [hid, hd.head r hr] at hhome
  cases hhome

private theorem loose_setMarker (d : Document) (home : NodeId → Option NodeId) (r : NodeId)
    (marker : String) (present : Bool) : loose (setMarker d r marker present) home =
      (loose d home).map fun n ↦ { n with
        element := if n.id = r then n.element.toggleAttribute marker present else n.element } :=
  Document.filter_mapElements (home · == none) d _

private theorem loose_withNew (d : Document) (home : NodeId → Option NodeId) (r : NodeId) :
    loose d (withNew home d.next r) = loose d home := by
  refine List.filter_congr fun n hn ↦ ?_
  rw [withNew_of_lt (d.aged n hn).1]

namespace Composed

variable (h₀ : SharedOut heads d) (h : Composed heads d s home distance)
include h₀ h

/-! ## One more form -/

private theorem housed_withNew (r : NodeId) :
    s.document.Housed heads (withNew home s.document.next r) :=
  h.housed.withNew (fun r' hr' ↦ Nat.lt_of_lt_of_le (h₀.lt r' hr') h.next_le) r

omit h₀ in
private theorem hears_of_untouched (hr : heads r = true) (hnew : r ∉ s.formRoots) {k : NodeId}
    (hk : withNew (homeIn heads d) d.next r k = some r) :
    s.hears (shift d.next (s.document.next - d.next) k) = [] := by
  rcases Nat.lt_or_ge k d.next with hlt | hge
  · have hhome := hk
    rw [withNew_of_lt hlt, ← h.old k hlt] at hhome
    have hheard := h.heard r hr k hk
    rw [Document.shift_of_lt hlt, alone, if_neg hnew] at hheard
    rw [Document.shift_of_lt hlt]
    exact hheard hhome
  · refine reactionsAt_eq_nil fun l hl ↦ Nat.ne_of_lt ?_
    rw [Document.shift_of_le hge]
    calc l.target < s.document.next := h.numbered.targets l hl
      _ = d.next + (s.document.next - d.next) := (Nat.add_sub_cancel' h.next_le).symm
      _ ≤ k + (s.document.next - d.next) := Nat.add_le_add_right hge _

section

variable (hr : heads r = true) (hnew : r ∉ s.formRoots) (hplan : Plans d r plan)
include hr hnew hplan

/-- The household of the head becomes what the form alone makes of it, the others are kept. -/
theorem household_bindForm {b : NodeId} (hb : heads b = true) :
    Mirrors heads b (shift d.next (Function.update distance r (s.document.next - d.next) b))
      (withNew (homeIn heads d) d.next b) (alone d (s.bindForm r).site b).document
      (withNew home s.document.next r) (s.bindForm r).site.document := by
  have hplan' := (h.plans_iff h₀ hr hnew).mpr hplan
  by_cases hbr : b = r
  · subst hbr
    rw [Function.update_self, hplan'.alone_bindForm_self]
    exact (bindForm_of_untouched (h.untouched h₀ hr hnew) hplan hplan').toMirrors
  · obtain ⟨hhoused, -, hkept⟩ :=
      hplan'.keepsTo_bindForm hr (h.housed_withNew h₀ r) fun _ hid ↦ withNew_of_le hid
    rw [Function.update_of_ne hbr, hplan'.alone_bindForm_of_ne hbr]
    exact mirrors_of_keepsTo (h.household b hb) hbr hr (household_withNew _ _ _ _) hhoused hkept

private theorem hears_bindForm {id : NodeId} (hid : id ≠ r)
    (hhome : withNew home s.document.next r id ≠ some r) :
    (s.bindForm r).site.hears id = s.hears id :=
  ((h.plans_iff h₀ hr hnew).mpr hplan).hears_bindForm_of_ne hr (h.housed_withNew h₀ r)
    (fun _ hid ↦ withNew_of_le hid) hid hhome

private theorem heard_bindForm {b k : NodeId} (hb : heads b = true)
    (hk : withNew (homeIn heads d) d.next b k = some b)
    (hhome : withNew home s.document.next r (shift d.next
      (Function.update distance r (s.document.next - d.next) b) k) = some b) :
    (s.bindForm r).site.hears (shift d.next
        (Function.update distance r (s.document.next - d.next) b) k) =
      (alone d (s.bindForm r).site b).hears k := by
  have hplan' := (h.plans_iff h₀ hr hnew).mpr hplan
  by_cases hbr : b = r
  · subst hbr
    rw [Function.update_self, hplan'.alone_bindForm_self, hplan'.hears_bindForm,
      h.hears_of_untouched hr hnew hk, List.nil_append,
      plannedLayout_of_untouched (h.untouched h₀ hr hnew) hplan hplan',
      Plans.hears_bindForm (s := { document := d }) hplan]
    exact reactionsAt_formListeners_map (Document.strictMono_shift _ _).injective
      (Document.shift_of_lt (h₀.lt b hr)) _ _ _ k
  · rw [Function.update_of_ne hbr] at hhome ⊢
    have hne : withNew home s.document.next r (shift d.next (distance b) k) ≠ some r := by
      rw [hhome]
      exact fun heq ↦ hbr (Option.some.inj heq)
    rw [hplan'.alone_bindForm_of_ne hbr, h.hears_bindForm h₀ hr hnew hplan ?_ hne]
    · exact h.heard b hb k hk ((withNew_of_ne hne).symm.trans hhome)
    · intro heq
      rw [heq, (h.housed_withNew h₀ r).head r hr] at hhome
      cases hhome

private theorem loose_bindForm :
    Site.loose (s.bindForm r).site.document (withNew home s.document.next r) =
      (Site.loose d (homeIn heads d)).map (s.bindForm r).site.stamped := by
  have hplan' := (h.plans_iff h₀ hr hnew).mpr hplan
  obtain ⟨-, -, hopened⟩ :=
    hplan'.keepsTo_opening hr (h.housed_withNew h₀ r) fun _ hid ↦ withNew_of_le hid
  have hsame :
      Site.loose (opening s.document r plan).surface (withNew home s.document.next r) =
        Site.loose s.document (withNew home s.document.next r) :=
    KeepsTo.filter_eq (q := (withNew home s.document.next r · == none))
      (fun id hid ↦ by simp [Document.inside, beq_iff_eq.mp hid]) hopened
  rw [hplan'.opened.2, loose_setMarker, hsame, loose_withNew, h.loose, List.map_map]
  refine List.map_congr_left fun n _ ↦ ?_
  by_cases hn : n.id = r
  · simp [stamped, hn, hplan'.formRoots_bindForm, hnew, hplan'.guardRoots_bindForm,
      toggleAttribute_stamp]
  · simp [stamped, hn, hplan'.formRoots_bindForm, hplan'.guardRoots_bindForm]

/-- Binding the form of a head leaves a page composed of its parts. -/
theorem bindForm : Composed heads d (s.bindForm r).site (withNew home s.document.next r)
    (Function.update distance r (s.document.next - d.next)) := by
  have hplan' := (h.plans_iff h₀ hr hnew).mpr hplan
  have hhoused := h.housed_withNew h₀ r
  have hnewHome : ∀ id, s.document.next ≤ id → withNew home s.document.next r id = some r :=
    fun _ hid ↦ withNew_of_le hid
  obtain ⟨hhoused', hle, -⟩ := hplan'.keepsTo_bindForm hr hhoused hnewHome
  have hself := hplan'.hears_bindForm_self hr hhoused hnewHome
  -- what is at home nowhere hears nothing new, unless it is the head
  have hhears : ∀ {id}, id ≠ r → withNew home s.document.next r id = none →
      (s.bindForm r).site.hears id = s.hears id := fun hid hnone ↦
    h.hears_bindForm h₀ hr hnew hplan hid (hnone ▸ nofun)
  exact {
    numbered := numbered_bindForm h.numbered r
    housed := hhoused'
    next_le := Nat.le_trans h.next_le hle
    old := fun id hid ↦ by rw [withNew_of_lt (Nat.lt_of_lt_of_le hid h.next_le), h.old id hid]
    planned := by
      intro b hb hmem
      rcases hplan'.mem_formRoots_bindForm.mp hmem with hmem | rfl
      · exact h.planned b hb hmem
      · exact ⟨plan, hplan⟩
    household := fun b hb ↦ h.household_bindForm h₀ hr hnew hplan hb
    heard := fun b hb k hk hhome ↦ h.heard_bindForm h₀ hr hnew hplan hb hk hhome
    loose := h.loose_bindForm h₀ hr hnew hplan
    quiet := by
      intro id hid hhead
      have hidr : id ≠ r := by
        rintro rfl
        rw [hr] at hhead
        cases hhead
      rw [hhears hidr hid]
      exact h.quiet id ((withNew_of_ne (hid ▸ nofun)).symm.trans hid) hhead
    releases := by
      intro b hb
      by_cases hbr : b = r
      · subst hbr
        rw [hself, List.filter_append, h.releases b hr, if_neg hnew,
          if_pos (hplan'.mem_formRoots_bindForm.mpr (.inr rfl))]
        rfl
      · rw [hhears hbr (hhoused.head b hb), h.releases b hb]
        simp only [hplan'.mem_formRoots_bindForm, hbr, or_false]
    latches := by
      intro b hb
      rw [hplan'.guardRoots_bindForm, ← h.latches b hb]
      by_cases hbr : b = r
      · subst hbr
        rw [hself, List.count_append]
        rfl
      · rw [hhears hbr (hhoused.head b hb)] }

end

/-! ## One more guard -/

private theorem notMem_guardRoots {latch : Latch NodeId} (hr : heads r = true)
    (hplan : planGuard s.document r = .ok latch) : r ∉ s.guardRoots := by
  intro hmem
  have hunmarked := (planGuard_eq_ok hplan).1
  rw [h.rootElement_head h₀ hr, decide_eq_true hmem, stamp, if_pos rfl,
    Element.hasAttribute_toggleAttribute] at hunmarked
  cases hunmarked

/-- Binding the guard of a head leaves a page composed of its parts. -/
theorem bindGuard {latch : Latch NodeId} (hr : heads r = true)
    (hplan : planGuard s.document r = .ok latch) :
    Composed heads d (s.bindGuard r).site home distance := by
  have hnew := h.notMem_guardRoots h₀ hr hplan
  obtain ⟨hdocument, hforms, hguards⟩ := bindGuard_eq hplan
  have halone : ∀ b, alone d (s.bindGuard r).site b = alone d s b := by
    intro b
    rw [alone, alone, hforms]
  have hhoused : (s.bindGuard r).site.document.Housed heads home := by
    rw [hdocument]
    exact h.housed.mapElements _
  exact {
    numbered := numbered_bindGuard h.numbered r
    housed := hhoused
    next_le := by
      rw [hdocument]
      exact h.next_le
    old := h.old
    planned := by
      rw [hforms]
      exact h.planned
    household := by
      intro b hb
      rw [halone]
      refine { h.household b hb with housed' := hhoused, household := ?_ }
      rw [hdocument, household_setMarker h.housed hr]
      exact (h.household b hb).household
    heard := by
      intro b hb k hk hhome
      rw [halone, hears_bindGuard hplan, if_neg, List.append_nil]
      · exact h.heard b hb k hk hhome
      · intro hrk
        rw [hrk, h.housed.head r hr] at hhome
        cases hhome
    loose := by
      rw [hdocument, loose_setMarker, h.loose, List.map_map]
      refine List.map_congr_left fun n _ ↦ ?_
      by_cases hn : n.id = r
      · simp [stamped, stamp, hn, hforms, hguards, hnew]
      · simp [stamped, hn, hforms, hguards]
    quiet := by
      intro id hid hhead
      rw [hears_bindGuard hplan, h.quiet id hid hhead, if_neg]
      · rfl
      · rintro rfl
        rw [hr] at hhead
        cases hhead
    releases := by
      intro b hb
      rw [hears_bindGuard hplan, List.filter_append, h.releases b hb, hforms]
      split <;> split <;> rfl
    latches := by
      intro b hb
      rw [hears_bindGuard hplan, List.count_append, h.latches b hb, hguards]
      by_cases hbr : b = r
      · simp [hbr, hnew]
      · simp [hbr] }

end Composed

end Site

end AccessForm
