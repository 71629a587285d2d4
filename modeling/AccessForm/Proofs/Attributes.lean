import AccessForm.Proofs.Binding

/-!
# Attributes that stay

Forms and guards write a handful of attributes, on elements that they find and on those that they
create. All other attributes of all elements are the same for the life of a document; in particular
an element that comes to be has none of them. So what the page says about an element is there to
stay, and the two markers change where they are set and taken away and nowhere else.
-/

namespace AccessForm

/-- An attribute that forms and guards leave alone. -/
def Spared (name : String) : Prop := name ∉ ["required", "disabled", "name", "class", "value"]

instance : DecidablePred Spared := fun name ↦ inferInstanceAs (Decidable (name ∉ _))

namespace Document

/-- The value of an attribute of the element with a number. -/
def attribute? (d : Document) (id : NodeId) (name : String) : Option String :=
  (d.element? id).bind (·.attribute? name)

/-- An attribute is the same on all elements, those that come to be included. -/
def SameAttribute (name : String) (d d' : Document) : Prop :=
  ∀ id, d'.attribute? id name = d.attribute? id name

theorem lt_next_of_attribute? {d : Document} {id : NodeId} {name v : String}
    (h : d.attribute? id name = some v) : id < d.next := by
  refine lt_next_of_isSome ?_
  obtain ⟨e, he, -⟩ := Option.bind_eq_some_iff.mp h
  rw [he]
  rfl

variable {d d' : Document} {name : String}

theorem frame_sameAttribute (name : String) : Frame (SameAttribute name) where
  refl _ _ := rfl
  trans h h' id := (h' id).trans (h id)

namespace SameAttribute

private theorem mapElements {f : Node → Element}
    (h : ∀ n, (f n).attribute? name = n.element.attribute? name) (d : Document) :
    SameAttribute name d (d.mapElements f) := by
  intro id
  rw [attribute?, attribute?, element?, element?, find?_mapElements]
  cases d.find? id with
  | none => rfl
  | some n => exact h n

private theorem modify {f : Element → Element} (h : ∀ e, (f e).attribute? name = e.attribute? name)
    (d : Document) (id : NodeId) : SameAttribute name d (d.modify id f) := by
  refine mapElements (fun n ↦ ?_) d
  split
  · exact h _
  · rfl

private theorem detach (d : Document) (out : Node → Bool) :
    SameAttribute name d (d.detach out) := by
  intro id
  have hfind : (d.detach out).find? id =
      (d.find? id).map fun n ↦ if out n then { n with parent := none } else n := by
    have hid : ((fun n : Node ↦ n.id == id) ∘
        fun n ↦ if out n then { n with parent := none } else n) = fun n ↦ n.id == id := by
      funext n
      rw [Function.comp_apply]
      split <;> rfl
    rw [find?, find?, Document.detach, List.find?_map, hid]
  rw [attribute?, attribute?, element?, element?, hfind, Option.map_map]
  congr 2
  funext n
  rw [Function.comp_apply]
  split <;> rfl

private theorem insert {e : Element} (he : e.attribute? name = none) (d : Document)
    (parent behind : NodeId) : SameAttribute name d (d.insert parent behind e) := by
  intro id
  by_cases hparent : parent < d.next
  · by_cases hid : id = d.next
    · have hold : d.attribute? id name = none := by
        by_contra hsome
        obtain ⟨v, hv⟩ := Option.ne_none_iff_exists'.mp hsome
        exact absurd (lt_next_of_attribute? hv) (hid ▸ Nat.lt_irrefl _)
      have hnew : (d.insert parent behind e).find? id = some ⟨d.next, some parent, e⟩ := by
        rw [hid]
        exact find?_of_mem (mem_insert hparent behind e)
      rw [hold, attribute?, element?, hnew]
      exact he
    · have hfind : (d.insert parent behind e).find? id = d.find? id := by
        rw [find?, find?, Document.insert, dif_pos hparent]
        exact find?_insertBehindLast_of_ne (Ne.symm hid) _ _
      rw [attribute?, attribute?, element?, element?, hfind]
  · rw [Document.insert, dif_neg hparent]

private theorem mark (d : Document) (dropdown : NodeId) (option : Option Node) :
    SameAttribute name d (d.mark dropdown option) := by
  refine mapElements (fun n ↦ ?_) d
  split
  · rfl
  · rfl

private theorem settle (d : Document) (id : NodeId) : SameAttribute name d (d.settle id) := by
  rw [Document.settle]
  split
  · exact mark _ _ _
  · exact (frame_sameAttribute name).refl d

theorem setValue (d : Document) (id : NodeId) (v : String) :
    SameAttribute name d (d.setValue id v) := by
  rw [Document.setValue]
  split
  · exact modify (f := ({ · with entered := some v })) (fun _ ↦ rfl) d id
  · split
    · exact mark _ _ _
    · exact (frame_sameAttribute name).refl d

theorem toggleAttribute {other : String} (h : name ≠ other) (d : Document) (id : NodeId)
    (b : Bool) : SameAttribute name d (d.modify id (·.toggleAttribute other b)) :=
  modify (fun e ↦ Element.attribute?_toggleAttribute_of_ne h e b) d id

private theorem setAttribute {other : String} (h : name ≠ other) (d : Document) (id : NodeId)
    (v : String) : SameAttribute name d (d.modify id (·.setAttribute other v)) :=
  modify (fun e ↦ by rw [Element.attribute?_setAttribute, if_neg h]) d id

private theorem addChild {e : Element} (he : e.attribute? name = none) (d : Document)
    (parent : NodeId) : SameAttribute name d (d.addChild parent e) :=
  (frame_sameAttribute name).trans (insert he d parent parent) (settle _ _)

theorem submit (h : Spared name) (latch : Latch NodeId) (d : Document) :
    SameAttribute name d (latch.submit d).surface := by
  have hdisabled : name ≠ "disabled" := fun heq ↦ h (by simp [heq])
  have hclass : name ≠ "class" := fun heq ↦ h (by simp [heq])
  rw [Latch.submit]
  split
  · exact (frame_sameAttribute name).refl d
  · refine (frame_sameAttribute name).trans (toggleAttribute hdisabled d latch.control true) ?_
    simp only [SubmitSurface.setDisabled, SubmitSurface.addClass]
    split
    · exact (frame_sameAttribute name).refl _
    · exact modify (fun e ↦ Element.attribute?_addClass_of_ne hclass e _) _ _

end SameAttribute

end Document

/-! ## Forms -/

namespace Controller

private theorem within_sameAttribute (c : Controller NodeId NodeId) {name : String}
    (h : Spared name) : c.Within (Document.SameAttribute name) := by
  have hne : ∀ other ∈ ["required", "disabled", "name", "class", "value"], name ≠ other :=
    fun other hmem heq ↦ h (heq ▸ hmem)
  have hoption : ∀ v, (Element.newOption v).attribute? name = none := by
    intro v
    rw [Element.attribute?, Element.newOption, Directory.find?_insert, if_neg (hne _ (by simp))]
    rfl
  exact {
    toFrame := Document.frame_sameAttribute name
    setValue := fun d k v _ ↦ .setValue d k v
    lock := fun d k b _ ↦ .toggleAttribute (hne _ (by simp)) d k b
    setName := fun d k n _ _ ↦ .setAttribute (hne _ (by simp)) d k n
    setDisabled := fun d k b _ _ ↦ .toggleAttribute (hne _ (by simp)) d k b
    setRequired := fun d k b _ ↦ .toggleAttribute (hne _ (by simp)) d k b
    setVisible := fun d k b _ ↦ .modify (f := (·.setShown b)) (fun _ ↦ rfl) d k
    clearOptions := fun d ↦ .detach d _
    appendOption := fun d v ↦ .addChild (hoption v) d _
    showSection := fun d i b _ ↦ .modify (f := (·.setShown b)) (fun _ ↦ rfl) d i }

theorem sameAttribute_handle (c : Controller NodeId NodeId) {name : String} (h : Spared name)
    (d : Document) (e : Event NodeId) : Document.SameAttribute name d (c.handle d e).surface :=
  (c.within_sameAttribute h).handle (fun t k _ v ↦ .setValue t k v) d

end Controller

/-! ## Bindings -/

namespace Site

open Document (SameAttribute)

variable {s : Site} {d : Document} {root : NodeId} {plan : FormPlan} {name : String}

/-- Before a form is taken over, at most a dropdown comes to be. -/
theorem Plans.sameAttribute_provided (h : Plans d root plan) (hname : Spared name) :
    SameAttribute name d (provideDropdown d plan).1 := by
  cases hk : plan.dropdown with
  | some k =>
    rw [provideDropdown_of_some hk]
    exact (Document.frame_sameAttribute name).refl d
  | none =>
    obtain ⟨_, -, -, hbelow, -⟩ := exists_of_locateText h.text
    obtain ⟨t, p, ht, hp, -⟩ := Document.exists_parent_of_isBelow hbelow
    have hlike : (dropdownLike t.element).attribute? name = none := by
      have hne : name ≠ "name" ∧ name ≠ "class" := by
        constructor
        · exact fun heq ↦ hname (by simp [heq])
        · exact fun heq ↦ hname (by simp [heq])
      rw [Element.attribute?, dropdownLike, Directory.find?_insert, if_neg hne.2,
        Directory.find?_insert, if_neg hne.1]
      rfl
    rw [provideDropdown_of_none hk ht hp]
    exact (Document.frame_sameAttribute name).trans (.insert hlike d p plan.text) (.settle _ _)

theorem Plans.sameAttribute_opening (h : Plans d root plan) (hname : Spared name) :
    SameAttribute name d (opening d root plan).surface :=
  (Document.frame_sameAttribute name).trans (h.sameAttribute_provided hname)
    (Controller.within_sameAttribute _ hname).start

/-! ### Markers -/

/-- An element carries a marker. -/
def Marked (d : Document) (marker : String) (id : NodeId) : Prop :=
  (d.attribute? id marker).isSome = true

theorem marked_congr {d d' : Document} {marker : String}
    (h : SameAttribute marker d d') (id : NodeId) : Marked d' marker id ↔ Marked d marker id := by
  rw [Marked, Marked, h id]

theorem marked_iff_rootElement {marker : String} :
    Marked d marker root ↔ (rootElement d root).hasAttribute marker = true := by
  rw [Marked, Document.attribute?, rootElement, Element.hasAttribute]
  cases d.element? root with
  | none => simp [Element.attribute?]
  | some e => simp

theorem marked_setMarker_true {marker : String} (hroot : (d.element? root).isSome = true)
    (id : NodeId) : Marked (setMarker d root marker true) marker id ↔
      id = root ∨ Marked d marker id := by
  rw [Marked, Marked, Document.attribute?, Document.attribute?, setMarker, Document.element?_modify]
  by_cases hid : id = root
  · obtain ⟨e, he⟩ := Option.isSome_iff_exists.mp hroot
    have htoggle := Element.hasAttribute_toggleAttribute e marker true
    rw [Element.hasAttribute] at htoggle
    simp [hid, he, htoggle]
  · simp [hid]

theorem marked_setMarker_false {marker : String} (id : NodeId) :
    Marked (setMarker d root marker false) marker id ↔ id ≠ root ∧ Marked d marker id := by
  rw [Marked, Marked, Document.attribute?, Document.attribute?, setMarker, Document.element?_modify]
  by_cases hid : id = root
  · have htoggle : ∀ e : Element, ((e.toggleAttribute marker false).attribute? marker).isSome =
        false := fun e ↦ Element.hasAttribute_toggleAttribute e marker false
    cases hroot : d.element? root <;> simp [hid, hroot, htoggle]
  · simp [hid]

end Site

end AccessForm
