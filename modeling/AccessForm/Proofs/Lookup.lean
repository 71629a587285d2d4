import AccessForm.Proofs.Evolution
import AccessForm.Site.Binding

/-!
# Looking up fields by name

A field is looked for by a selector into which its name is written as it is. When the name is an
identifier, the selector asks for just this name (`ofText?_named`). A document that evolves so that
a field keeps its name has the same first field of that name (`queryFirst?_named`).
-/

namespace AccessForm

namespace Selector

/-- A text that can be written into a selector without quotation marks. -/
def IsIdentifier (s : String) : Prop :=
  isName s.toList = true ∧ ∀ c ∈ s.toList, isNamePart c = true

instance (s : String) : Decidable (IsIdentifier s) :=
  decidable_of_iff (isName s.toList = true ∧ s.toList.all isNamePart = true)
    (and_congr_right fun _ ↦ List.all_eq_true)

/-- The selector of the elements with a tag and a name. -/
def named (tag name : String) : Selector := [[.hasTag tag, .attributeIs "name" name]]

theorem fits_named (tag name : String) (e : Element) :
    (named tag name).fits e = true ↔ e.tag = tag ∧ e.attribute? "name" = some name := by
  simp [named, fits, Condition.holds]

/-! ## Reading identifiers -/

variable {name : String}

private theorem isMarkupBlank_of_isNamePart {c : Char} (h : isNamePart c = true) :
    Text.isMarkupBlank c = false := by
  by_contra hb
  have hblank : Text.isMarkupBlank c = true := by simpa using hb
  simp only [Text.isMarkupBlank, Bool.or_eq_true, beq_iff_eq, or_assoc] at hblank
  rcases hblank with rfl | rfl | rfl | rfl | rfl <;> exact absurd h (by decide)

theorem readName_append (h : IsIdentifier name) {c : Char} (hc : isNamePart c = false)
    (rest : List Char) : readName (name.toList ++ c :: rest) = some (name.toList, c :: rest) := by
  have htake : (name.toList ++ c :: rest).takeWhile isNamePart = name.toList := by
    rw [List.takeWhile_append_of_pos h.2, List.takeWhile_cons_of_neg (by simp [hc]),
      List.append_nil]
  have hdrop : (name.toList ++ c :: rest).dropWhile isNamePart = c :: rest := by
    rw [List.dropWhile_append_of_pos h.2, List.dropWhile_cons_of_neg (by simp [hc])]
  rw [readName, htake, hdrop, if_pos h.1]

theorem exists_cons_of_isIdentifier (h : IsIdentifier name) :
    ∃ c cs, name.toList = c :: cs ∧ isNamePart c = true := by
  cases hcs : name.toList with
  | nil =>
    have hname := h.1
    rw [hcs] at hname
    cases hname
  | cons c cs => exact ⟨c, cs, rfl, h.2 c (by rw [hcs]; exact List.mem_cons_self)⟩

theorem skipBlanks_append (h : IsIdentifier name) (rest : List Char) :
    skipBlanks (name.toList ++ rest) = name.toList ++ rest := by
  obtain ⟨c, cs, hcs, hc⟩ := exists_cons_of_isIdentifier h
  rw [hcs, List.cons_append, skipBlanks,
    List.dropWhile_cons_of_neg (by simp [isMarkupBlank_of_isNamePart hc])]

private theorem readValue_append (h : IsIdentifier name) (rest : List Char) :
    readValue (name.toList ++ ']' :: rest) = some (name, ']' :: rest) := by
  obtain ⟨c, cs, hcs, hc⟩ := exists_cons_of_isIdentifier h
  have hread : readValue (name.toList ++ ']' :: rest) =
      (readName (name.toList ++ ']' :: rest)).map
        fun p ↦ (String.ofList p.1, p.2) := by
    rw [hcs, List.cons_append]
    -- an identifier does not begin with a quotation mark
    rw [readValue]
    · rintro cs' heq
      cases heq
      exact absurd hc (by decide)
    · rintro cs' heq
      cases heq
      exact absurd hc (by decide)
  rw [hread, readName_append h (by decide), Option.map_some]
  simp only [String.ofList_toList]

/-- The condition on the name that a selector ends with. -/
theorem readBracket_name (h : IsIdentifier name) (rest : List Char) :
    readBracket ("name=".toList ++ (name.toList ++ ']' :: rest)) =
      some (.attributeIs "name" name, rest) := by
  have hkey : IsIdentifier "name" := by decide
  have hsplit : "name=".toList ++ (name.toList ++ ']' :: rest) =
      "name".toList ++ '=' :: (name.toList ++ ']' :: rest) := rfl
  rw [hsplit, readBracket, skipBlanks_append hkey, readName_append hkey (by decide)]
  have heq : skipBlanks ('=' :: (name.toList ++ ']' :: rest)) =
      '=' :: (name.toList ++ ']' :: rest) := rfl
  have hend : skipBlanks (']' :: rest) = ']' :: rest := rfl
  simp only [heq, skipBlanks_append h, readValue_append h, hend]
  rfl

private theorem readConditions_name (h : IsIdentifier name) :
    readConditions ('[' :: ("name=".toList ++ (name.toList ++ [']']))) =
      some ([.attributeIs "name" name], []) := by
  have hcondition : readCondition ('[' :: ("name=".toList ++ (name.toList ++ [']']))) =
      some (.attributeIs "name" name, []) := readBracket_name h []
  have hstart (cs : List Char) : ('[' :: cs).head?.any startsCondition = true := rfl
  have hnil : readConditions [] = some ([], []) := by
    rw [readConditions]
    rfl
  rw [readConditions, if_pos (hstart _)]
  split
  · next hnone =>
    rw [hcondition] at hnone
    cases hnone
  · next c rest hsome =>
    rw [hcondition] at hsome
    cases hsome
    rw [hnil]
    rfl

private theorem readAlternative_named {tag : String} (htag : IsIdentifier tag)
    (hsmall : inSmallLetters tag.toList = tag) (h : IsIdentifier name) :
    readAlternative (skipBlanks (tag.toList ++ '[' :: ("name=".toList ++ (name.toList ++ [']'])))) =
      some ([.hasTag tag, .attributeIs "name" name], []) := by
  rw [skipBlanks_append htag, readAlternative, readName_append htag (by decide)]
  simp only [readConditions_name h, Option.map_some, hsmall]

/-- An identifier written into a selector for a name is the name that is asked for. -/
theorem ofText?_named {tag : String} (htag : IsIdentifier tag)
    (hsmall : inSmallLetters tag.toList = tag) (h : IsIdentifier name) :
    ofText? (tag ++ "[name=" ++ name ++ "]") = some (named tag name) := by
  have htext : (tag ++ "[name=" ++ name ++ "]").toList =
      tag.toList ++ '[' :: ("name=".toList ++ (name.toList ++ [']'])) := by
    simp
  rw [ofText?, htext, readAlternatives]
  split
  · next hnone =>
    rw [readAlternative_named htag hsmall h] at hnone
    cases hnone
  · next conditions rest hsome =>
    rw [readAlternative_named htag hsmall h] at hsome
    cases hsome
    rfl

end Selector

namespace Document

/-- The name of an element, if it has one. -/
def name? (d : Document) (id : NodeId) : Option String :=
  (d.element? id).bind (·.attribute? "name")

theorem name?_of_mem {d : Document} {n : Node} (h : n ∈ d.nodes) :
    d.name? n.id = n.element.attribute? "name" := by
  rw [name?, element?, find?_of_mem h]
  rfl

theorem exists_of_queryFirst?_named {d : Document} {root id : NodeId} {tag name : String}
    (h : (d.queryFirst? root (.named tag name)).map (·.id) = some id) :
    ∃ n, d.queryFirst? root (.named tag name) = some n ∧ n.id = id ∧
      d.isBelow root id = true ∧ n.element.tag = tag ∧ d.name? id = some name := by
  obtain ⟨n, hn, rfl⟩ := Option.map_eq_some_iff.mp h
  obtain ⟨hmem, hbelow, hfits⟩ := mem_query.mp (mem_query_of_queryFirst? hn)
  obtain ⟨htag, hname⟩ := (Selector.fits_named tag name n.element).mp hfits
  exact ⟨n, hn, rfl, hbelow, htag, (name?_of_mem hmem).trans hname⟩

/-- The first field of a name is the first one later on exactly if it is still there and has the
name, provided that no other element with its tag got a name. -/
theorem Evolves.queryFirst?_named {l : Leeway} {d d' : Document} (h : d.Evolves l d')
    {tag name : String} (htag : ¬ l.creates (.ofTag tag)) {root : NodeId} {n : Node}
    (hn : d.queryFirst? root (.named tag name) = some n)
    (hfree : ∀ m ∈ d.nodes, m.element.tag = tag → m.id ≠ n.id → ¬ l.free m.id "name") :
    (d'.queryFirst? root (.named tag name)).map (·.id) = some n.id ↔
      d'.isBelow root n.id = true ∧ d'.name? n.id = some name := by
  obtain ⟨hmem, -, hfits⟩ := mem_query.mp (mem_query_of_queryFirst? hn)
  obtain ⟨htag₀, -⟩ := (Selector.fits_named tag name n.element).mp hfits
  constructor
  · intro hmap
    obtain ⟨n', hn', hid⟩ := Option.map_eq_some_iff.mp hmap
    obtain ⟨hmem', hbelow', hfits'⟩ := mem_query.mp (mem_query_of_queryFirst? hn')
    rw [← hid, name?_of_mem hmem']
    exact ⟨hbelow', ((Selector.fits_named tag name n'.element).mp hfits').2⟩
  · rintro ⟨hbelow, hname⟩
    obtain ⟨n', hn', hb⟩ := h.find? (find?_of_mem hmem)
    have hfits' : (Selector.named tag name).fits n'.element = true := by
      refine (Selector.fits_named tag name n'.element).mpr ⟨hb.tag.trans htag₀, ?_⟩
      rw [← name?_of_mem (mem_of_find? hn'), hb.id]
      exact hname
    have hmem' : n' ∈ d'.query root (.named tag name) :=
      mem_query.mpr ⟨mem_of_find? hn', by rwa [hb.id], hfits'⟩
    -- new elements have other tags, and old ones got no name but by `hfree`
    have hnew : ∀ e : Element, l.creates e.kind → (Selector.named tag name).fits e = false := by
      intro e he
      by_contra hf
      have hfit := (Selector.fits_named tag name e).mp (by simpa using hf)
      rw [Element.kind, hfit.1] at he
      exact htag he
    have hold : ∀ m ∈ d.nodes, ∀ m' : Node, m.Becomes l m' →
        (Selector.named tag name).fits m'.element = true →
        (Selector.named tag name).fits m.element = true := by
      intro m hm m' hbm hfit
      obtain ⟨htag', hname'⟩ := (Selector.fits_named tag name m'.element).mp hfit
      have htagm : m.element.tag = tag := hbm.tag.symm.trans htag'
      by_cases hid : m.id = n.id
      · rw [eq_of_id hm hmem hid]
        exact hfits
      · refine (Selector.fits_named tag name m.element).mpr ⟨htagm, ?_⟩
        rw [← hbm.attributes "name" (hfree m hm htagm hid)]
        exact hname'
    rw [h.queryFirst?_of_mem hnew hold hn hmem' hb.id, Option.map_some, hb.id]

end Document

/-! ## The fields for the argument -/

namespace Site

variable {d : Document} {root : NodeId} {written name : String}

/-- A name that, written into the selectors of a form, asks for the elements with some name. -/
structure AsksFor (written name : String) : Prop where
  /-- The text field. -/
  text : Selector.ofText? ("input[name=" ++ written ++ "]") = some (.named "input" name)
  /-- The dropdown. -/
  dropdown : Selector.ofText? ("select[name=" ++ written ++ "]") = some (.named "select" name)

theorem asksFor_self (h : Selector.IsIdentifier name) : AsksFor name name where
  text := by
    have hjoin : "input" ++ "[name=" = "input[name=" := by decide
    rw [← hjoin]
    exact Selector.ofText?_named (by decide) (by decide) h
  dropdown := by
    have hjoin : "select" ++ "[name=" = "select[name=" := by decide
    rw [← hjoin]
    exact Selector.ofText?_named (by decide) (by decide) h

private theorem tag_of_queryFirst?_named {tag : String} {n : Node}
    (h : d.queryFirst? root (.named tag name) = some n) : n.element.tag = tag :=
  ((Selector.fits_named tag name n.element).mp
    (Document.mem_query.mp (Document.mem_query_of_queryFirst? h)).2.2).1

theorem locateText_eq_ok_iff (h : AsksFor written name) {t : NodeId} :
    locateText d root written = .ok t ↔
      (d.queryFirst? root (.named "input" name)).map (·.id) = some t := by
  simp only [locateText, locate, h.text, bind, Except.bind]
  cases hn : d.queryFirst? root (.named "input" name) with
  | none => simp
  | some n =>
    have hkind : n.element.kind = .input := by
      rw [Element.kind, tag_of_queryFirst?_named hn]
      rfl
    simp [hkind]

theorem locateDropdown_eq_ok_iff (h : AsksFor written name) {k : Option NodeId} :
    locateDropdown d root written = .ok k ↔
      (d.queryFirst? root (.named "select" name)).map (·.id) = k := by
  simp only [locateDropdown, locate, h.dropdown, bind, Except.bind]
  cases hn : d.queryFirst? root (.named "select" name) with
  | none => simp [eq_comm]
  | some n =>
    have hkind : n.element.kind = .dropdown := by
      rw [Element.kind, tag_of_queryFirst?_named hn]
      rfl
    simp [hkind]

end Site

end AccessForm
