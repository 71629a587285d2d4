import AccessForm.Proofs.Lockstep
import AccessForm.Proofs.Portrait

/-!
# A panel that stands for a page

A form on a page and the same form in memory. A panel depicts the fields of the form when each of
its controls is the portrait of a field, and its sections are shown where those of the page are
(`Depicts`). The controller reads the same from both, and whatever it writes to both, the panel goes
on depicting the page (`concord_depicts`).

To stand for a page, a panel needs to know of each field whether it is a text field or a dropdown,
and a section must not be a field as well, because a panel keeps the two apart (`Layout.Suits`).
-/

namespace AccessForm

open Document (Repaints)

/-! ## Fields -/

namespace Layout

variable {κ ς : Type}

/-- The controls and the copies of the reason field. -/
def fields (l : Layout κ ς) : List κ := l.controls ++ l.reason

/-- All sections. -/
def sections (l : Layout κ ς) : List ς := l.argumentSections ++ l.reasonSections

/-- The fields that have to be text fields. -/
def typed (l : Layout κ ς) : List κ := l.text :: l.reason

/-- The fields that have to be dropdowns. -/
def dropdowns (l : Layout κ ς) : List κ := l.dropdown :: (l.permission ++ l.group.toList)

theorem mem_fields_iff {l : Layout κ ς} {k : κ} : k ∈ l.fields ↔ k ∈ l.typed ∨ k ∈ l.dropdowns := by
  simp only [fields, controls, typed, dropdowns, List.mem_append, List.mem_cons]
  tauto

theorem mem_fields_of_control {l : Layout κ ς} {k : κ} (h : k ∈ l.controls) : k ∈ l.fields :=
  List.mem_append_left _ h

/-- The numbers of the elements, as numbers of controls and sections in memory. -/
def seating (l : Layout NodeId NodeId) : Seating where
  permission := l.permission
  group := l.group
  text := l.text
  dropdown := l.dropdown
  reason := l.reason
  argumentSections := l.argumentSections
  reasonSections := l.reasonSections

/-- The elements of a form are what a panel takes them for. -/
structure Suits (l : Layout NodeId NodeId) (d : Document) : Prop where
  /-- Texts are typed into text fields. -/
  typed (k : NodeId) : k ∈ l.typed → (d.kind k).isTyped = true
  /-- The other fields are dropdowns. -/
  dropdown (k : NodeId) : k ∈ l.dropdowns → d.kind k = .dropdown
  /-- The sections are there. -/
  present (i : NodeId) : i ∈ l.sections → (d.element? i).isSome = true
  /-- None of them is a field. -/
  apart (i : NodeId) : i ∈ l.sections → i ∉ l.fields

end Layout

namespace Document

variable {d d' : Document} {l : Layout NodeId NodeId} {k : NodeId}

/-- The handle in memory of a field. -/
def ref (d : Document) (k : NodeId) : Ref := if (d.kind k).isTyped then .field k else .select k

theorem eq_of_ref {j k : NodeId} (h : d.ref j = d.ref k) : j = k := by
  rw [ref, ref] at h
  split at h
  · split at h
    · exact Ref.field.inj h
    · cases h
  · split at h
    · cases h
    · exact Ref.select.inj h

/-- The fields and sections of a document as controls and sections in memory. -/
def panel (d : Document) : Panel where
  control
    | .field k => d.portrait k
    | .select k => d.portrait k
  shown := d.isShown

theorem control_panel (d d' : Document) (k : NodeId) :
    d.panel.control (d'.ref k) = d.portrait k := by
  rw [ref]
  split
  · rfl
  · rfl

end Document

namespace Layout.Suits

variable {d d' : Document} {l : Layout NodeId NodeId} {k : NodeId}

private theorem exists_element (h : l.Suits d) (hk : k ∈ l.fields) :
    ∃ e, d.element? k = some e ∧ e.kind = d.kind k := by
  refine Document.exists_of_kind_ne fun hplain ↦ ?_
  rcases mem_fields_iff.mp hk with hk | hk
  · have htyped := h.typed k hk
    rw [hplain] at htyped
    cases htyped
  · have hdropdown := h.dropdown k hk
    rw [hplain] at hdropdown
    cases hdropdown

theorem isSome (h : l.Suits d) (hk : k ∈ l.fields) : (d.element? k).isSome = true := by
  obtain ⟨e, he, -⟩ := h.exists_element hk
  rw [he]
  rfl

private theorem ref_typed (h : l.Suits d) (hk : k ∈ l.typed) : d.ref k = .field k :=
  if_pos (h.typed k hk)

theorem ref_dropdown (h : l.Suits d) (hk : k ∈ l.dropdowns) : d.ref k = .select k := by
  rw [Document.ref, h.dropdown k hk]
  rfl

theorem map_ref (h : l.Suits d) : l.map d.ref id = l.seating.layout := by
  have hpermission : l.permission.map d.ref = l.permission.map .select :=
    List.map_congr_left fun k hk ↦ h.ref_dropdown (by simp [dropdowns, hk])
  have hgroup : l.group.map d.ref = l.group.map .select := by
    refine Option.map_congr fun k hk ↦ h.ref_dropdown ?_
    simp [dropdowns, hk]
  have hreason : l.reason.map d.ref = l.reason.map .field :=
    List.map_congr_left fun k hk ↦ h.ref_typed (by simp [Layout.typed, hk])
  rw [Layout.map, hpermission, hgroup, hreason, h.ref_typed (by simp [Layout.typed]),
    h.ref_dropdown (by simp [dropdowns]), List.map_id, List.map_id]
  rfl

private theorem of_kept (h : l.Suits d) (hkept : ∀ j e, d.element? j = some e →
    ∃ e', d'.element? j = some e' ∧ e'.kind = e.kind) : l.Suits d' := by
  have hkind : ∀ k ∈ l.fields, d'.kind k = d.kind k := by
    intro k hk
    obtain ⟨e, he, -⟩ := h.exists_element hk
    obtain ⟨e', he', hkind⟩ := hkept k e he
    rw [Document.kind, Document.kind, he, he']
    exact hkind
  refine ⟨fun k hk ↦ ?_, fun k hk ↦ ?_, fun i hi ↦ ?_, h.apart⟩
  · rw [hkind k (mem_fields_iff.mpr (.inl hk))]
    exact h.typed k hk
  · rw [hkind k (mem_fields_iff.mpr (.inr hk))]
    exact h.dropdown k hk
  · obtain ⟨e, he⟩ := Option.isSome_iff_exists.mp (h.present i hi)
    obtain ⟨e', he', -⟩ := hkept i e he
    rw [he']
    rfl

end Layout.Suits

/-! ## Depicting -/

/-- A panel in which every field of a form has its portrait under its handle. -/
structure Depicts (r : NodeId → Ref) (l : Layout NodeId NodeId) (d : Document) (p : Panel) :
    Prop where
  /-- The elements are suitable. -/
  suits : l.Suits d
  /-- The handles say what the fields are. -/
  handle (k : NodeId) : k ∈ l.fields → r k = d.ref k
  /-- The controls are portraits. -/
  control (k : NodeId) : k ∈ l.fields → p.control (r k) = d.portrait k
  /-- The sections are shown where those of the page are. -/
  shown (i : NodeId) : i ∈ l.sections → p.shown i = d.isShown i

namespace Depicts

variable {r : NodeId → Ref} {l : Layout NodeId NodeId} {d d' : Document} {p : Panel} {k : NodeId}

theorem handle_typed (h : Depicts r l d p) (hk : k ∈ l.typed) : r k = .field k :=
  (h.handle k (Layout.mem_fields_iff.mpr (.inl hk))).trans (h.suits.ref_typed hk)

theorem handle_dropdown (h : Depicts r l d p) (hk : k ∈ l.dropdowns) : r k = .select k :=
  (h.handle k (Layout.mem_fields_iff.mpr (.inr hk))).trans (h.suits.ref_dropdown hk)

private theorem ref_of_kept (h : Depicts r l d p) (hkept : ∀ j e, d.element? j = some e →
    ∃ e', d'.element? j = some e' ∧ e'.kind = e.kind) (k : NodeId) (hk : k ∈ l.fields) :
    r k = d'.ref k := by
  obtain ⟨e, he, -⟩ := h.suits.exists_element hk
  obtain ⟨e', he', hkind⟩ := hkept k e he
  rw [h.handle k hk, Document.ref, Document.ref, Document.kind, Document.kind, he, he',
    Option.map_some, Option.map_some, hkind]

private theorem repaint {F : Control → Control} (h : Depicts r l d p) (hk : k ∈ l.fields)
    (hd : Repaints d d' k F) : Depicts r l d' (p.modify (r k) F) where
  suits := h.suits.of_kept hd.kept
  handle := h.ref_of_kept hd.kept
  control j hj := by
    rw [Panel.control_modify, h.control j hj]
    split
    · next heq =>
      rw [h.handle j hj, h.handle k hk] at heq
      rw [Document.eq_of_ref heq, hd.self]
    · next hne =>
      have hjk : j ≠ k := fun heq ↦ hne (heq ▸ rfl)
      rw [hd.other j hjk (h.suits.isSome hj)]
  shown i hi := by
    have hik : i ≠ k := fun heq ↦ h.suits.apart i hi (heq ▸ hk)
    rw [hd.shown i hik (h.suits.present i hi)]
    exact h.shown i hi

/-- What is done to other elements, or shows in no field, needs no counterpart. -/
theorem unseen (h : Depicts r l d p) (hkept : ∀ j e, d.element? j = some e →
      ∃ e', d'.element? j = some e' ∧ e'.kind = e.kind)
    (hportrait : ∀ k ∈ l.fields, d'.portrait k = d.portrait k)
    (hshown : ∀ i ∈ l.sections, d'.isShown i = d.isShown i) : Depicts r l d' p where
  suits := h.suits.of_kept hkept
  handle := h.ref_of_kept hkept
  control k hk := by rw [hportrait k hk, h.control k hk]
  shown i hi := by rw [hshown i hi, h.shown i hi]

/-- A change of another element that neither shows nor hides it needs no counterpart. -/
theorem modify_of_notMem {g : Element → Element} (h : Depicts r l d p) (hg : Element.Calm g)
    (hshown : ∀ e, (g e).isShown = e.isShown) (hk : k ∉ l.fields) :
    Depicts r l (d.modify k g) p := by
  refine h.unseen (Document.kept_modify hg k) (fun j hj ↦ ?_) fun i _ ↦ ?_
  · exact Document.portrait_modify_of_ne hg (ne_of_mem_of_not_mem hj hk)
  · rw [Document.isShown_modify]
    split
    · rw [Document.isShown]
      cases d.element? i with
      | none => rfl
      | some e => exact hshown e
    · rfl

theorem submit (h : Depicts r l d p) {latch : Latch NodeId} (hlatch : latch.control ∉ l.fields) :
    Depicts r l (latch.submit d).surface p := by
  have hdisabled : Depicts r l (d.modify latch.control (·.toggleAttribute "disabled" true)) p :=
    h.modify_of_notMem (Element.calm_toggleAttribute (by decide) true)
      (Element.isShown_toggleAttribute · _ _) hlatch
  rw [Latch.submit]
  split
  · exact h
  · simp only [SubmitSurface.setDisabled, SubmitSurface.addClass]
    split
    · exact hdisabled
    · exact hdisabled.modify_of_notMem (Element.calm_addClass _) (fun _ ↦ rfl) hlatch

end Depicts

/-! ## Writes of a controller -/

section Writes

variable {d : Document} {k : NodeId} {e : Element} (he : d.element? k = some e)
include he

private theorem repaints_setName (n : String) :
    Repaints d (Surface.setName d k n) k ({ · with name := n }) :=
  Document.repaints_modify (Element.calm_setAttribute (by decide) n) he
    (Element.portrait_setName e n _)

private theorem repaints_setRequired (b : Bool) :
    Repaints d (Surface.setRequired d k b) k ({ · with required := b }) := by
  refine Document.repaints_modify (Element.calm_toggleAttribute (by decide) b) he ?_
  rw [Element.portrait_toggleAttribute (by decide) (by decide), if_pos rfl, if_neg (by decide)]
  rfl

private theorem repaints_setDisabled (b : Bool) :
    Repaints d (Surface.setDisabled d k b) k ({ · with disabled := b }) := by
  refine Document.repaints_modify (Element.calm_toggleAttribute (by decide) b) he ?_
  rw [Element.portrait_toggleAttribute (by decide) (by decide), if_pos rfl, if_neg (by decide)]
  rfl

private theorem repaints_setVisible (b : Bool) :
    Repaints d (Surface.setVisible d k b) k ({ · with visible := b }) :=
  Document.repaints_modify (Element.calm_setShown b) he (Element.portrait_setShown e b _)

private theorem name_portrait : (d.portrait k).name = Surface.name d k := by
  rw [Document.portrait_of_some he]
  simp only [Surface.name, he]
  rfl

private theorem disabled_portrait : (d.portrait k).disabled = Surface.isDisabled d k := by
  rw [Document.portrait_of_some he]
  simp only [Surface.isDisabled, he]
  rfl

end Writes

namespace Panel

private theorem modify_modify (p : Panel) (r : Ref) (F G : Control → Control) :
    (p.modify r F).modify r G = p.modify r fun c ↦ G (F c) := by
  refine ext (fun r' ↦ ?_) rfl
  rw [control_modify, control_modify, control_modify]
  split
  · rfl
  · rfl

end Panel

theorem Depicts.setValue {r : NodeId → Ref} {l : Layout NodeId NodeId} {d : Document} {p : Panel}
    (h : Depicts r l d p) {k : NodeId} (hk : k ∈ l.fields) (v : String) :
    Depicts r l (Surface.setValue d k v) (Surface.setValue p (r k) v) := by
  have htake : Surface.setValue p (r k) v = p.modify (r k) (Panel.take (r k) · v) := rfl
  rw [htake]
  refine h.repaint hk ?_
  rw [h.handle k hk]
  rcases Layout.mem_fields_iff.mp hk with hk | hk
  · rw [h.suits.ref_typed hk]
    exact Document.repaints_setValue_typed (h.suits.typed k hk) v
  · rw [h.suits.ref_dropdown hk]
    exact Document.repaints_setValue_dropdown (h.suits.dropdown k hk) v

theorem Depicts.value {r : NodeId → Ref} {l : Layout NodeId NodeId} {d : Document} {p : Panel}
    (h : Depicts r l d p) {k : NodeId} (hk : k ∈ l.fields) :
    Surface.value p (r k) = Surface.value d k := by
  have hvalue := d.value_portrait k
  rw [← h.control k hk] at hvalue
  exact hvalue

/-- A controller can not tell a page from a panel that depicts it, and does not make one of them
differ from the other. -/
theorem concord_depicts (r : NodeId → Ref) (l : Layout NodeId NodeId) :
    Concord r id l (Depicts r l) where
  value h k hk := h.value (Layout.mem_fields_of_control hk)
  name {d p} h k hk := by
    have hfield := Layout.mem_fields_of_control (Layout.mem_controls_of_selector hk)
    obtain ⟨e, he, -⟩ := h.suits.exists_element hfield
    rw [← name_portrait he, ← h.control k hfield]
    rfl
  isDisabled {d p} h k hk := by
    have hfield := Layout.mem_fields_of_control (Layout.mem_controls_of_selector hk)
    obtain ⟨e, he, -⟩ := h.suits.exists_element hfield
    rw [← disabled_portrait he, ← h.control k hfield]
    rfl
  options {d p} h k hk := by
    have hfield := Layout.mem_fields_of_control (Layout.mem_controls_of_selector hk)
    have hkind := h.suits.dropdown k (List.mem_cons_of_mem _ hk)
    have hoptions := Document.options_portrait hkind
    rw [← h.control k hfield] at hoptions
    exact hoptions
  setValue h k hk := h.setValue (Layout.mem_fields_of_control hk)
  setName h k hk n := by
    obtain ⟨e, he, -⟩ := h.suits.exists_element (Layout.mem_fields_of_control hk)
    exact h.repaint (Layout.mem_fields_of_control hk) (repaints_setName he n)
  setRequired h k hk b := by
    obtain ⟨e, he, -⟩ := h.suits.exists_element (Layout.mem_fields_of_control hk)
    exact h.repaint (Layout.mem_fields_of_control hk) (repaints_setRequired he b)
  setDisabled h k hk b := by
    obtain ⟨e, he, -⟩ := h.suits.exists_element (Layout.mem_fields_of_control hk)
    exact h.repaint (Layout.mem_fields_of_control hk) (repaints_setDisabled he b)
  setVisible h k hk b := by
    obtain ⟨e, he, -⟩ := h.suits.exists_element (Layout.mem_fields_of_control hk)
    exact h.repaint (Layout.mem_fields_of_control hk) (repaints_setVisible he b)
  refill {d p} h vs := by
    have hmem : l.dropdown ∈ l.fields := by simp [Layout.fields, Layout.controls]
    have hkind := h.suits.dropdown l.dropdown (by simp [Layout.dropdowns])
    have hrefill := h.repaint hmem (Document.repaints_refill hkind vs)
    have hpanel : vs.foldl (Surface.appendOption · (r l.dropdown) ·)
        (Surface.clearOptions p (r l.dropdown)) =
          p.modify (r l.dropdown) fun c ↦ vs.foldl Control.append c.clear := by
      rw [Panel.foldl_appendOption]
      exact Panel.modify_modify _ _ _ _
    rw [hpanel]
    exact hrefill
  showSection {d p} h i hi b := by
    have hfield : i ∉ l.fields := h.suits.apart i hi
    have hkept := Document.kept_modify (d := d) (Element.calm_setShown b) i
    refine ⟨h.suits.of_kept hkept, h.ref_of_kept hkept, fun k hk ↦ ?_, fun j hj ↦ ?_⟩
    · have hne : k ≠ i := ne_of_mem_of_not_mem hk hfield
      refine (h.control k hk).trans ?_
      exact (Document.portrait_modify_of_ne (Element.calm_setShown b) hne).symm
    · show (if j = i then b else p.shown j) = (d.modify i (·.setShown b)).isShown j
      rw [Document.isShown_modify]
      split
      · next heq =>
        obtain ⟨e, he⟩ := Option.isSome_iff_exists.mp (h.suits.present j hj)
        rw [he, Option.map_some, Option.getD_some, Element.isShown_setShown]
      · exact h.shown j hj
  reasonValue h k hk := h.value (List.mem_append_right _ hk)
  setReason h k hk := h.setValue (List.mem_append_right _ hk)

end AccessForm
