import AccessForm.Proofs.Lookup

/-!
# Names of the argument fields

The names that the two argument fields have at any time are determined by the names that they had
when the form was taken over, by how a field is excluded, by whether a derivation was successful and
by the mode in force (`Controller.nameFor`). Nothing remembers the original names once they are
overwritten, so they do not come back when the form is released.
-/

namespace AccessForm

/-! ## Names in a document -/

namespace Document

variable {d d' : Document} {k : NodeId}

private theorem name?_modify (d : Document) (k id : NodeId) (f : Element → Element) :
    (d.modify k f).name? id =
      if id = k then (d.element? id).bind fun e ↦ (f e).attribute? "name" else d.name? id := by
  rw [name?, element?_modify]
  split
  · cases d.element? id <;> rfl
  · rfl

private theorem name?_setShown (d : Document) (k id : NodeId) (b : Bool) :
    (d.modify k (·.setShown b)).name? id = d.name? id := by
  rw [name?_modify]
  split
  · rfl
  · rfl

theorem name?_toggleAttribute {name : String} (h : name ≠ "name") (d : Document) (k id : NodeId)
    (b : Bool) : (d.modify k (·.toggleAttribute name b)).name? id = d.name? id := by
  rw [name?_modify]
  split
  · simp only [Element.attribute?_toggleAttribute_of_ne h.symm]
    rfl
  · rfl

/-- The only element that is renamed is the one that is marked. -/
theorem name?_mark_naming {submitted ignored : String} (hk : (d.element? k).isSome = true)
    (b : Bool) (id : NodeId) : ((Exclusion.naming submitted ignored).mark d k b).name? id =
      if id = k then some (if b then submitted else ignored) else d.name? id := by
  have hname : ∀ n, (d.modify k (·.setAttribute "name" n)).name? id =
      if id = k then some n else d.name? id := by
    intro n
    rw [name?_modify]
    split
    · next hid =>
      obtain ⟨e, he⟩ := Option.isSome_iff_exists.mp hk
      rw [hid, he, Option.bind_some, Element.attribute?_setAttribute, if_pos rfl]
    · rfl
  calc ((Exclusion.naming submitted ignored).mark d k b).name? id
      = (((d.modify k (·.setAttribute "name" (if b then submitted else ignored))).modify k
          (·.toggleAttribute "required" b)).modify k (·.setShown b)).name? id := rfl
    _ = (d.modify k (·.setAttribute "name" (if b then submitted else ignored))).name? id := by
        rw [name?_setShown, name?_toggleAttribute (by decide)]
    _ = if id = k then some (if b then submitted else ignored) else d.name? id := hname _

theorem Evolves.name?_eq {l : Leeway} (h : d.Evolves l d') (hk : (d.element? k).isSome = true)
    (hfree : ¬ l.free k "name") : d'.name? k = d.name? k :=
  h.attribute?_eq hk hfree

end Document

/-! ## Names along a history -/

namespace Controller

/-- The name of an argument field, given its name from before the form was taken over. -/
def nameFor {κ ς : Type} (c : Controller κ ς) (side : Side) (original : Option String) :
    Option String :=
  match c.exclusion with
  | .disabling => original
  | .naming submitted ignored =>
    if c.primed then some (if c.mode.side? = some side then submitted else ignored) else original

variable {c : Controller NodeId NodeId} {d₀ d d' : Document}

/-- The two argument fields are there, and they are two. -/
structure Seated (c : Controller NodeId NodeId) (d : Document) : Prop where
  /-- They are different elements. -/
  distinct : c.layout.text ≠ c.layout.dropdown
  /-- The text field is there. -/
  text : (d.element? c.layout.text).isSome = true
  /-- The dropdown is there. -/
  dropdown : (d.element? c.layout.dropdown).isSome = true

/-- The argument fields have the names that they should have. -/
structure Named (c : Controller NodeId NodeId) (d₀ d : Document) : Prop where
  /-- The name of the text field. -/
  text : d.name? c.layout.text = c.nameFor .text (d₀.name? c.layout.text)
  /-- The name of the dropdown. -/
  dropdown : d.name? c.layout.dropdown = c.nameFor .dropdown (d₀.name? c.layout.dropdown)

theorem Seated.of_evolves {l : Leeway} (h : c.Seated d) (hd : d.Evolves l d') : c.Seated d' :=
  ⟨h.distinct, hd.isSome_element? h.text, hd.isSome_element? h.dropdown⟩

theorem Named.of_evolves {l : Leeway} (h : c.Named d₀ d) (hs : c.Seated d) (hd : d.Evolves l d')
    (hfree : ∀ id, ¬ l.free id "name") : c.Named d₀ d' where
  text := (hd.name?_eq hs.text (hfree _)).trans h.text
  dropdown := (hd.name?_eq hs.dropdown (hfree _)).trans h.dropdown

private theorem evolves_spread (c : Controller NodeId NodeId) (d : Document) (e : Event NodeId) :
    d.Evolves .slight (c.spread d e) :=
  spread_within (Document.frame_evolves _) (fun t k _ v ↦ .setValue t k v) d

theorem evolves_setAllDisabled (d : Document) (ks : List NodeId) (b : Bool) :
    d.Evolves .slight (setAllDisabled d ks b) :=
  (Document.frame_evolves _).setAllDisabled
    (fun t k _ b ↦ Document.Evolves.toggleAttribute (Leeway.slight_disabled _) (by decide) t b) d b

theorem not_slight_free_name (id : NodeId) : ¬ Leeway.slight.free id "name" := by
  rintro (heq | heq)
  · exact absurd heq (by decide)
  · exact absurd heq (by decide)

private theorem Named.arrange (h : c.Named d₀ d) (hs : c.Seated d) (mode : Mode) :
    Named { c with mode, primed := true } d₀ (c.arrange d mode) := by
  have hd : d.Evolves c.leeway (c.arrange d mode) := c.within_evolves.arrange d mode
  have hfill : d.Evolves c.leeway (c.fill (c.showSections d mode.showsSections) mode) :=
    (c.within_evolves.showSections d _).trans (c.within_evolves.fill _ mode)
  cases he : c.exclusion with
  | disabling =>
    have hfree : ∀ id, ¬ c.leeway.free id "name" := by
      rintro id (heq | heq | heq | ⟨-, hne, -⟩)
      · exact absurd heq (by decide)
      · exact absurd heq (by decide)
      · exact absurd heq (by decide)
      · exact hne he
    obtain ⟨ht, hk⟩ := h.of_evolves hs hd hfree
    simp only [nameFor, he] at ht hk
    refine ⟨?_, ?_⟩
    · simp only [nameFor]
      exact ht
    · simp only [nameFor]
      exact hk
  | naming submitted ignored =>
    -- the text field is named first and the dropdown after it, so the fields have to be two
    have hs' := hs.of_evolves hfill
    have hmark : (c.fill (c.showSections d mode.showsSections) mode).Evolves c.leeway
        (c.exclusion.mark (c.fill (c.showSections d mode.showsSections) mode) c.layout.text
          (mode.side? = some .text)) := c.within_evolves.mark _ (by simp) _
    have hs'' := hs'.of_evolves hmark
    rw [he] at hs''
    refine ⟨?_, ?_⟩
    · simp only [nameFor]
      rw [Controller.arrange, Exclusion.designate, he, Document.name?_mark_naming hs''.dropdown,
        if_neg hs.distinct, Document.name?_mark_naming hs'.text, if_pos rfl]
      simp
    · simp only [nameFor]
      rw [Controller.arrange, Exclusion.designate, he, Document.name?_mark_naming hs''.dropdown,
        if_pos rfl]
      simp

private theorem Named.derive (h : c.Named d₀ d) (hs : c.Seated d) :
    (c.derive d).controller.Named d₀ (c.derive d).surface := by
  obtain ⟨_, -, heq⟩ | ⟨mode, -, heq⟩ := c.derive_cases d
  · rw [heq]
    exact h
  · rw [heq]
    exact h.arrange hs mode

/-- Every event keeps the names in line with the controller. -/
theorem Named.handle (h : c.Named d₀ d) (hs : c.Seated d) (e : Event NodeId) :
    (c.handle d e).controller.Named d₀ (c.handle d e).surface := by
  have hspread := c.evolves_spread d e
  cases hd : e.derives with
  | true =>
    rw [c.handle_of_derives d hd]
    exact (h.of_evolves hs hspread not_slight_free_name).derive (hs.of_evolves hspread)
  | false =>
    rw [c.controller_handle_of_not_derives d hd]
    rcases c.surface_handle_of_not_derives d hd with heq | heq
    · rw [heq]
      exact h.of_evolves hs hspread not_slight_free_name
    · rw [heq]
      exact h.of_evolves hs (evolves_setAllDisabled _ _ _) not_slight_free_name

theorem named_start (table : Table) (exclusion : Exclusion) (layout : Layout NodeId NodeId)
    (hs : Seated { table, exclusion, layout } d) :
    (start table exclusion layout d).controller.Named d
      (start table exclusion layout d).surface := by
  have hlock := evolves_setAllDisabled d (prefilled layout d) true
  -- before the first derivation nothing is named, whatever the exclusion
  have hsame : ∀ side original,
      nameFor { table, exclusion, layout : Controller NodeId NodeId } side original = original := by
    intro side original
    cases exclusion <;> rfl
  have hnamed : Named { table, exclusion, layout, locked := prefilled layout d } d d :=
    ⟨(hsame _ _).symm, (hsame _ _).symm⟩
  have hs' : Seated { table, exclusion, layout, locked := prefilled layout d } d :=
    ⟨hs.distinct, hs.text, hs.dropdown⟩
  exact (hnamed.of_evolves hs' hlock not_slight_free_name).derive (hs'.of_evolves hlock)

end Controller

end AccessForm
