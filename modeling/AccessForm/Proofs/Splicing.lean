import Mathlib.Data.List.TakeWhile
import AccessForm.Proofs.Binding
import AccessForm.Proofs.Validation

/-!
# Names that are spliced into selectors

The name of the argument is an arbitrary text from the settings of a page, and it is written into
the selectors for the argument fields as it is. For an identifier this finds the fields by their
exact name. For any other name it does not: the text is no selector, or it is a selector that asks
for something else. The reason is one of length. Every value that is read off a selector is written
in it, and the first value is the name only if the name is an identifier; all further values stand
behind the first one and are shorter than the name.

The main statement is `findsByName_iff_isIdentifier`: the fields are found by their exact name on
all pages exactly if the name is an identifier.
-/

namespace AccessForm

namespace Selector

/-! ## The values in a selector -/

private theorem length_takeWhile_add_dropWhile {α : Type} (p : α → Bool) (l : List α) :
    (l.takeWhile p).length + (l.dropWhile p).length = l.length := by
  rw [← List.length_append, List.takeWhile_append_dropWhile]

private theorem length_of_readQuoted {mark : Char} {cs rest : List Char} {v : String}
    (h : readQuoted mark cs = some (v, rest)) : v.length + rest.length + 1 = cs.length := by
  unfold readQuoted at h
  split at h
  · simp at h
  · next hdrop =>
    have hlength := length_takeWhile_add_dropWhile (· != mark) cs
    dsimp only at h
    split at h
    · simp at h
    · simp only [Option.some.injEq, Prod.mk.injEq] at h
      obtain ⟨rfl, rfl⟩ := h
      rw [hdrop, List.length_cons] at hlength
      rw [String.length_ofList]
      omega

private theorem readName_eq_some_iff {cs rest name : List Char}
    (h : readName cs = some (name, rest)) :
    IsIdentifier (String.ofList name) ∧ cs = name ++ rest := by
  unfold readName at h
  split at h
  · next hname =>
    simp only [Option.some.injEq, Prod.mk.injEq] at h
    obtain ⟨rfl, rfl⟩ := h
    rw [IsIdentifier, String.toList_ofList]
    exact ⟨⟨hname, fun c hc ↦ List.mem_takeWhile_imp hc⟩, List.takeWhile_append_dropWhile.symm⟩
  · simp at h

private theorem readValue_cases {cs rest : List Char} {v : String}
    (h : readValue cs = some (v, rest)) :
    (IsIdentifier v ∧ cs = v.toList ++ rest) ∨ v.length + rest.length + 2 = cs.length := by
  unfold readValue at h
  split at h
  · have hlength := length_of_readQuoted h
    rw [List.length_cons]
    exact .inr (by omega)
  · have hlength := length_of_readQuoted h
    rw [List.length_cons]
    exact .inr (by omega)
  · obtain ⟨⟨name, rest'⟩, hname, heq⟩ := Option.map_eq_some_iff.mp h
    simp only [Prod.mk.injEq] at heq
    obtain ⟨rfl, rfl⟩ := heq
    rw [String.toList_ofList]
    exact .inl (readName_eq_some_iff hname)

private theorem length_of_readValue {cs rest : List Char} {v : String}
    (h : readValue cs = some (v, rest)) : v.length + rest.length ≤ cs.length := by
  obtain ⟨-, rfl⟩ | hlength := readValue_cases h
  · rw [List.length_append, String.length_toList]
  · omega

private theorem length_of_readBracket {cs rest : List Char} {a v : String}
    (h : readBracket cs = some (.attributeIs a v, rest)) : v.length + rest.length < cs.length := by
  unfold readBracket at h
  split at h
  · simp at h
  · next name tail hname =>
    have h₁ := ((suffix_of_readName hname).trans (suffix_of_skipBlanks cs)).length_le
    have h₂ := (suffix_of_skipBlanks tail).length_le
    split at h
    · simp at h
    · next tail' hequals =>
      rw [hequals, List.length_cons] at h₂
      have h₃ := (suffix_of_skipBlanks tail').length_le
      split at h
      · simp at h
      · next w tail'' hvalue =>
        have h₄ := length_of_readValue hvalue
        have h₅ := (suffix_of_skipBlanks tail'').length_le
        split at h
        · next hend =>
          simp only [Option.some.injEq, Prod.mk.injEq, Condition.attributeIs.injEq] at h
          obtain ⟨⟨-, rfl⟩, rfl⟩ := h
          rw [hend, List.length_cons] at h₅
          omega
        · simp at h
    · simp at h

private theorem length_of_readCondition_value {cs rest : List Char} {a v : String}
    (h : readCondition cs = some (.attributeIs a v, rest)) :
    v.length + rest.length < cs.length := by
  unfold readCondition at h
  split at h
  · obtain ⟨_, -, heq⟩ := Option.map_eq_some_iff.mp h
    simp at heq
  · have hlength := length_of_readBracket h
    rw [List.length_cons]
    omega
  · split at h <;> simp at h
  · simp at h

private theorem length_of_mem_readConditions {cs rest : List Char} {found : List Condition}
    {a v : String} (h : readConditions cs = some (found, rest)) (hmem : .attributeIs a v ∈ found) :
    v.length ≤ cs.length := by
  fun_induction readConditions cs generalizing found with
  | case1 => simp at h
  | case2 cs _ c rest' hc ih =>
    obtain ⟨⟨found', rest''⟩, hr, heq⟩ := Option.map_eq_some_iff.mp h
    simp only [Prod.mk.injEq] at heq
    obtain ⟨rfl, rfl⟩ := heq
    obtain rfl | hmem := List.mem_cons.mp hmem
    · have hlength := length_of_readCondition_value hc
      omega
    · exact Nat.le_trans (ih hr hmem) (Nat.le_of_lt (length_of_readCondition hc))
  | case3 =>
    simp only [Option.some.injEq, Prod.mk.injEq] at h
    obtain ⟨rfl, rfl⟩ := h
    simp at hmem

private theorem length_of_mem_readAlternative {cs rest : List Char} {found : List Condition}
    {a v : String} (h : readAlternative cs = some (found, rest)) (hmem : .attributeIs a v ∈ found) :
    v.length ≤ cs.length := by
  unfold readAlternative at h
  split at h
  · next hname =>
    obtain ⟨⟨found', rest'⟩, hr, heq⟩ := Option.map_eq_some_iff.mp h
    simp only [Prod.mk.injEq] at heq
    obtain ⟨rfl, rfl⟩ := heq
    obtain heq | hmem := List.mem_cons.mp hmem
    · simp at heq
    · exact Nat.le_trans (length_of_mem_readConditions hr hmem)
        (suffix_of_readName hname).length_le
  · split at h
    · next hr =>
      simp only [Option.some.injEq, Prod.mk.injEq] at h
      obtain ⟨rfl, rfl⟩ := h
      exact length_of_mem_readConditions hr hmem
    · simp at h

private theorem length_of_mem_readAlternatives {cs : List Char} {s : Selector}
    {conditions : List Condition}
    {a v : String} (h : readAlternatives cs = some s) (hs : conditions ∈ s)
    (hmem : .attributeIs a v ∈ conditions) : v.length ≤ cs.length := by
  fun_induction readAlternatives cs generalizing s with
  | case1 => simp at h
  | case2 cs first rest hfirst hrest =>
    obtain rfl := Option.some.inj h
    obtain rfl := List.mem_singleton.mp hs
    exact Nat.le_trans (length_of_mem_readAlternative hfirst hmem)
      (suffix_of_skipBlanks cs).length_le
  | case3 cs first rest hfirst more hrest ih =>
    obtain ⟨s', hmore, rfl⟩ := Option.map_eq_some_iff.mp h
    have hblanks := (suffix_of_skipBlanks cs).length_le
    obtain rfl | hs := List.mem_cons.mp hs
    · exact Nat.le_trans (length_of_mem_readAlternative hfirst hmem) hblanks
    · have hvalue := ih hmore hs
      have hbehind := (suffix_of_skipBlanks rest).length_le
      have hrest' := length_of_readAlternative hfirst
      rw [hrest, List.length_cons] at hbehind
      omega
  | case4 => simp at h

/-! ## A name in a selector -/

variable {tag name : String}

/-- The condition that is read first off a selector for a name: its value is the name only if this
is an identifier, and what is left is shorter than the name. -/
theorem readBracket_spliced (hname : ¬ IsIdentifier name) {c : Condition} {rest : List Char}
    (h : readBracket ("name=".toList ++ (name.toList ++ [']'])) = some (c, rest)) :
    ∃ v, c = .attributeIs "name" v ∧ v ≠ name ∧ rest.length < name.length := by
  have hkey : IsIdentifier "name" := by decide
  have hsplit : "name=".toList ++ (name.toList ++ [']']) =
      "name".toList ++ '=' :: (name.toList ++ [']']) := rfl
  have hequals : skipBlanks ('=' :: (name.toList ++ [']'])) = '=' :: (name.toList ++ [']']) := rfl
  rw [hsplit, readBracket, skipBlanks_append hkey, readName_append hkey (by decide)] at h
  simp only [hequals] at h
  split at h
  · simp at h
  · next v tail hvalue =>
    have hblanks := (suffix_of_skipBlanks (name.toList ++ [']'])).length_le
    have htail := (suffix_of_skipBlanks tail).length_le
    rw [List.length_append, String.length_toList, List.length_singleton] at hblanks
    split at h
    · next hend =>
      simp only [Option.some.injEq, Prod.mk.injEq] at h
      obtain ⟨rfl, rfl⟩ := h
      rw [hend, List.length_cons] at htail
      refine ⟨v, rfl, ?_⟩
      obtain ⟨hident, hsplice⟩ | hlength := readValue_cases hvalue
      · obtain ⟨c, cs, hcons, -⟩ := exists_cons_of_isIdentifier hident
        have hpos : v.length = cs.length + 1 := by
          rw [← String.length_toList, hcons, List.length_cons]
        rw [hsplice, List.length_append, String.length_toList] at hblanks
        refine ⟨?_, by omega⟩
        rintro rfl
        exact hname hident
      · refine ⟨?_, by omega⟩
        rintro rfl
        omega
    · simp at h

private theorem readAlternative_spliced (htag : IsIdentifier tag) (hname : ¬ IsIdentifier name)
    {found : List Condition} {rest : List Char}
    (h : readAlternative (skipBlanks
      (tag.toList ++ '[' :: ("name=".toList ++ (name.toList ++ [']'])))) = some (found, rest)) :
    rest.length < name.length ∧ ∀ a v, .attributeIs a v ∈ found → v ≠ name := by
  rw [skipBlanks_append htag, readAlternative, readName_append htag (by decide)] at h
  obtain ⟨⟨found', rest'⟩, hconditions, heq⟩ := Option.map_eq_some_iff.mp h
  simp only [Prod.mk.injEq] at heq
  obtain ⟨rfl, rfl⟩ := heq
  have hstart (cs : List Char) : ('[' :: cs).head?.any startsCondition = true := rfl
  rw [readConditions, if_pos (hstart _)] at hconditions
  split at hconditions
  · simp at hconditions
  · next c tail hc =>
    obtain ⟨w, rfl, hw, htail⟩ := readBracket_spliced hname hc
    obtain ⟨⟨found'', rest''⟩, hmore, heq⟩ := Option.map_eq_some_iff.mp hconditions
    simp only [Prod.mk.injEq] at heq
    obtain ⟨rfl, rfl⟩ := heq
    refine ⟨Nat.lt_of_le_of_lt (suffix_of_readConditions hmore) htail, fun a v hmem ↦ ?_⟩
    simp only [List.mem_cons, reduceCtorEq, Condition.attributeIs.injEq, false_or] at hmem
    obtain ⟨-, rfl⟩ | hmem := hmem
    · exact hw
    · -- a further value is too short
      have hlength := length_of_mem_readConditions hmore hmem
      rintro rfl
      omega

/-- Unless a name is an identifier, no value in a selector into which it is written is the name. -/
theorem ne_of_mem_spliced (htag : IsIdentifier tag) (hname : ¬ IsIdentifier name) {s : Selector}
    (h : ofText? (tag ++ "[name=" ++ name ++ "]") = some s) {conditions : List Condition}
    (hs : conditions ∈ s) {a v : String} (hmem : .attributeIs a v ∈ conditions) : v ≠ name := by
  have htext : (tag ++ "[name=" ++ name ++ "]").toList =
      tag.toList ++ '[' :: ("name=".toList ++ (name.toList ++ [']'])) := by
    simp
  rw [ofText?, htext, readAlternatives] at h
  split at h
  · simp at h
  · next found rest hfound =>
    obtain ⟨hrest, hvalues⟩ := readAlternative_spliced htag hname hfound
    split at h
    · obtain rfl := Option.some.inj h
      obtain rfl := List.mem_singleton.mp hs
      exact hvalues a v hmem
    · next more hbehind =>
      obtain ⟨s', hmore, rfl⟩ := Option.map_eq_some_iff.mp h
      obtain rfl | hs := List.mem_cons.mp hs
      · exact hvalues a v hmem
      · -- a value of a further alternative is too short
        have hlength := length_of_mem_readAlternatives hmore hs hmem
        have hblanks := (suffix_of_skipBlanks rest).length_le
        rw [hbehind, List.length_cons] at hblanks
        rintro rfl
        omega
    · simp at h

/-- An element that has a name and nothing else. -/
def plainField (tag name : String) : Element := ({ tag } : Element).setAttribute "name" name

@[simp] theorem tag_plainField (tag name : String) : (plainField tag name).tag = tag := rfl

private theorem attribute?_plainField (tag name a : String) :
    (plainField tag name).attribute? a = if a = "name" then some name else none :=
  Element.attribute?_setAttribute _ _ _ _

/-- Whoever asks for no field of this name can not tell it from another one. -/
theorem fits_plainField {s : Selector} {name : String} (other : String)
    (hs : ∀ conditions ∈ s, ∀ a v, .attributeIs a v ∈ conditions → v ≠ name)
    (h : s.fits (plainField tag name) = true) : s.fits (plainField tag other) = true := by
  obtain ⟨conditions, hmem, hall⟩ := List.any_eq_true.mp h
  refine List.any_eq_true.mpr ⟨conditions, hmem, List.all_eq_true.mpr fun c hc ↦ ?_⟩
  have hholds := List.all_eq_true.mp hall c hc
  have hpresent (a : String) : (plainField tag other).hasAttribute a =
      (plainField tag name).hasAttribute a := by
    rw [Element.hasAttribute, Element.hasAttribute, attribute?_plainField, attribute?_plainField]
    split <;> rfl
  have hclasses : (plainField tag other).classes = (plainField tag name).classes := rfl
  rcases c with t | token | a | ⟨a, v⟩ | a
  · exact hholds
  · rwa [Condition.holds, hclasses]
  · rwa [Condition.holds, hpresent]
  · simp only [Condition.holds, attribute?_plainField, beq_iff_eq] at hholds
    split at hholds
    · exact absurd (Option.some.inj hholds).symm (hs conditions hmem a v hc)
    · simp at hholds
  · rwa [Condition.holds, hpresent]

end Selector

namespace Site

/-! ## Fields by name -/

variable {d : Document} {root : NodeId} {table : Table} {settings : Settings} {s : Site}

/-- The first field below an element that has a tag and a name. -/
def firstNamed (d : Document) (root : NodeId) (tag name : String) : Option NodeId :=
  ((d.descendants root).find? fun n ↦
    n.element.tag == tag && n.element.attribute? "name" == some name).map (·.id)

theorem queryFirst?_named (d : Document) (root : NodeId) (tag name : String) :
    (d.queryFirst? root (.named tag name)).map (·.id) = firstNamed d root tag name := by
  rw [Document.queryFirst?, Document.query, List.head?_filter, firstNamed]
  congr 2
  funext n
  rw [Bool.eq_iff_iff, Selector.fits_named, Bool.and_eq_true, beq_iff_eq, beq_iff_eq]

/-- An element on which nothing but the fields for the argument can be wrong. -/
structure Promising (d : Document) (root : NodeId) (table : Table) (settings : Settings) :
    Prop where
  /-- There is no binding yet. -/
  unmarked : (rootElement d root).hasAttribute formMarker = false
  /-- There is a valid table. -/
  table : readTable (rootElement d root) = .ok table
  /-- The settings are accepted. -/
  settings : Settings.ofAttributes ((rootElement d root).attribute? settingsAttribute)
    ((rootElement d root).attribute? methodAttribute) = .ok settings
  /-- There is a permission selector. -/
  copies : d.queryKind root permissionFields (· = .dropdown) ≠ []

/-- The fields for the argument are found by their exact name: the text field is the first input of
the name, and there is no binding without one; the dropdown is the first one of the name, and a new
one if there is none. -/
structure FindsByName (s : Site) (root : NodeId) (name : String) : Prop where
  /-- Without an input of the name the text field is missing, and only then. -/
  missing : (s.bindForm root).answer = .error (.missingPart .argumentText) ↔
    firstNamed s.document root "input" name = none
  /-- With one there is a binding to it and to the dropdown. -/
  found (t : NodeId) : firstNamed s.document root "input" name = some t →
    ∃ f, (s.bindForm root).answer = .ok f.id ∧ (s.bindForm root).site.forms = s.forms ++ [f] ∧
      f.controller.layout.text = t ∧
      f.controller.layout.dropdown =
        (firstNamed s.document root "select" name).getD s.document.next ∧
      (.generatedDropdown ∈ (s.bindForm root).notices ↔
        firstNamed s.document root "select" name = none)

private theorem Promising.planForm_eq (h : Promising d root table settings) :
    planForm d root = (do
      let text ← locateText d root settings.argumentName
      let dropdown ← locateDropdown d root settings.argumentName
      .ok ⟨table, settings, d.queryKind root permissionFields (· = .dropdown), text,
        dropdown⟩) := by
  obtain ⟨hunmarked, htable, hsettings, hcopies⟩ := h
  rw [rootElement] at hunmarked htable hsettings
  simp only [planForm, refuseMarked, hunmarked, htable, hsettings, Except.mapError, bind,
    Except.bind, if_neg hcopies, if_false, Bool.false_eq_true]

private theorem bindForm_answer_eq_error_iff {e : BindError} :
    (s.bindForm root).answer = .error e ↔ planForm s.document root = .error e := by
  rw [bindForm]
  split
  · next hplan => rw [hplan, Except.error.injEq, Except.error.injEq]
  · next hplan => simp [hplan]

private theorem locateDropdown_ne_missing {name : String} :
    locateDropdown d root name ≠ .error (.missingPart .argumentText) := by
  rw [locateDropdown, locate]
  split
  · rcases d.queryFirst? root _ with _ | n
    · simp [bind, Except.bind]
    · simp only [bind, Except.bind]
      split <;> simp
  · simp [bind, Except.bind]

/-- A missing text field is reported by the search for it and by nothing else. -/
theorem Promising.answer_eq_missing_iff (h : Promising s.document root table settings) :
    (s.bindForm root).answer = .error (.missingPart .argumentText) ↔
      locateText s.document root settings.argumentName = .error (.missingPart .argumentText) := by
  rw [bindForm_answer_eq_error_iff, h.planForm_eq]
  rcases locateText s.document root settings.argumentName with e | text
  · simp [bind, Except.bind]
  · rcases hdropdown : locateDropdown s.document root settings.argumentName with e | dropdown
    · have hne : e ≠ .missingPart .argumentText := by
        rintro rfl
        exact locateDropdown_ne_missing hdropdown
      simp [bind, Except.bind, hne]
    · simp [bind, Except.bind]

/-! ### Identifiers -/

private theorem locateText_eq_missing_iff {written name : String} (h : AsksFor written name) :
    locateText d root written = .error (.missingPart .argumentText) ↔
      firstNamed d root "input" name = none := by
  rw [← queryFirst?_named, Option.map_eq_none_iff]
  constructor
  · intro herror
    rcases hfirst : d.queryFirst? root (.named "input" name) with _ | n
    · rfl
    · rw [(locateText_eq_ok_iff h).mpr (congrArg (Option.map (·.id)) hfirst)] at herror
      simp at herror
  · intro hnone
    simp only [locateText, locate, h.text, hnone, bind, Except.bind]

private theorem snd_provideDropdown (d : Document) (plan : FormPlan) :
    (provideDropdown d plan).2.1 = plan.dropdown.getD d.next := by
  rw [provideDropdown]
  split
  · next h => rw [h, Option.getD_some]
  · next h => rw [h, Option.getD_none]

private theorem generatedDropdown_mem_provideDropdown_iff (d : Document) (plan : FormPlan) :
    .generatedDropdown ∈ (provideDropdown d plan).2.2 ↔ plan.dropdown = none := by
  rw [provideDropdown]
  split
  · next h => simp [h]
  · next h => simp [h]

private theorem generatedDropdown_notMem_start (table : Table) (exclusion : Exclusion)
    (layout : Layout NodeId NodeId) (d : Document) :
    .generatedDropdown ∉ (Controller.start table exclusion layout d).notices := by
  have hwarning : .generatedDropdown ∉ Controller.missingWarning table layout d := by
    unfold Controller.missingWarning
    split
    · simp
    · split <;> simp
  have hderive (c : Controller NodeId NodeId) (t : Document) :
      .generatedDropdown ∉ (c.derive t).notices := by
    obtain ⟨_, -, heq⟩ | ⟨_, -, heq⟩ := c.derive_cases t
    · simp [heq]
    · simp [heq]
  simp [Controller.start, hwarning, hderive]

/-- A binding reports a new dropdown exactly if its plan has none. -/
theorem generatedDropdown_mem_bindForm_iff {plan : FormPlan} (h : Plans s.document root plan) :
    .generatedDropdown ∈ (s.bindForm root).notices ↔ plan.dropdown = none := by
  simp only [bindForm_eq h, carryOut, List.mem_append, generatedDropdown_notMem_start, or_false,
    List.mem_singleton, reduceCtorEq, generatedDropdown_mem_provideDropdown_iff]

private theorem Promising.findsByName (h : Promising s.document root table settings)
    (hname : Selector.IsIdentifier settings.argumentName) :
    FindsByName s root settings.argumentName where
  missing := h.answer_eq_missing_iff.trans (locateText_eq_missing_iff (asksFor_self hname))
  found t ht := by
    have hasks := asksFor_self hname
    have htext : locateText s.document root settings.argumentName = .ok t :=
      (locateText_eq_ok_iff hasks).mpr (by rw [queryFirst?_named, ht])
    have hdropdown : locateDropdown s.document root settings.argumentName =
        .ok (firstNamed s.document root "select" settings.argumentName) :=
      (locateDropdown_eq_ok_iff hasks).mpr (queryFirst?_named _ _ _ _)
    have hplan := h.planForm_eq
    rw [htext, hdropdown] at hplan
    have hplans := planForm_eq_ok_iff.mp hplan
    obtain ⟨f, hf⟩ := hplans.bound
    refine ⟨f, ?_, hf.forms, hf.text, ?_, generatedDropdown_mem_bindForm_iff hplans⟩
    · rw [bindForm_eq hplans, hf.number]
    · rw [hf.dropdown, snd_provideDropdown]

/-! ### Other names -/

/-- The tokens of settings that give the name of the argument. -/
def namingTokens (name : String) : List Json.Token :=
  [.text "argument_name", .colon, .text name, .closeObject]

private theorem readSettings_namingTokens (name : String) :
    Settings.readSettings (.openObject :: namingTokens name) =
      .ok ({ argumentName := name }, []) := by
  have hmember : Settings.readMember {} [] "argument_name"
      [.colon, .text name, .closeObject] =
      .ok ({ argumentName := name }, .argumentName, [.closeObject]) := rfl
  rw [namingTokens, Settings.readSettings, Settings.readMembers, hmember]
  simp only [Settings.readMoreMembers]

private theorem exists_settings (name : String) :
    ∃ text, Settings.ofAttributes (some text) none = .ok { argumentName := name } := by
  have hwritten : ∀ t ∈ namingTokens name, ∃ w, Json.WritesToken w t := by
    simp only [namingTokens, List.forall_mem_cons, List.not_mem_nil, false_implies, implies_true,
      and_true]
    exact ⟨Json.exists_writesToken_text _, ⟨_, .colon⟩, Json.exists_writesToken_text _,
      ⟨_, .closeObject⟩⟩
  obtain ⟨cs, hcs⟩ := Json.exists_writes hwritten
  have hscan : Json.Token.scan ('\x7b' :: cs) = .openObject :: namingTokens name :=
    Json.scan_of_writes (.cons Json.gap_nil .openObject hcs)
  refine ⟨String.ofList ('\x7b' :: cs), ?_⟩
  have hread : Settings.ofJson (String.ofList ('\x7b' :: cs)) = .ok { argumentName := name } := by
    rw [Settings.ofJson, String.toList_ofList, hscan, readSettings_namingTokens]
    rfl
  have hblank : Text.isBlankText (String.ofList ('\x7b' :: cs)) = false := by
    rw [Text.isBlankText, String.toList_ofList]
    rfl
  rw [Settings.ofAttributes]
  simp only [hblank, hread]
  rfl

/-- A form whose settings are written in a text. -/
def configured (config : String) : Element :=
  (({ tag := "form" } : Element).setAttribute tableAttribute
    "\x7b\"edit\": [\"*\"]\x7d").setAttribute settingsAttribute config

/-- The permission selector of such a form, and its input. -/
def splicedFields (field : String) : List Node :=
  [⟨1, some 0, Selector.plainField "select" "permission_name"⟩,
    ⟨2, some 0, Selector.plainField "input" field⟩]

/-- A page with such a form. -/
def spliced (config field : String) : Document where
  nodes := ⟨0, none, configured config⟩ :: splicedFields field
  next := 3
  distinct := by simp [splicedFields]
  aged := by simp [splicedFields]

private theorem descendants_spliced (config field : String) :
    (spliced config field).descendants 0 = splicedFields field := by
  have hroot : (spliced config field).lineage 0 = [0] := by
    rw [Document.lineage_eq]
    rfl
  have hcopy : (spliced config field).lineage 1 = [1, 0] := by
    rw [← hroot, Document.lineage_eq]
    rfl
  have hfield : (spliced config field).lineage 2 = [2, 0] := by
    rw [← hroot, Document.lineage_eq]
    rfl
  have hbelow : ∀ n ∈ splicedFields field, (spliced config field).isBelow 0 n.id = true := by
    simp [splicedFields, Document.isBelow, hcopy, hfield]
  rw [Document.descendants, spliced, List.filter_cons_of_neg (by simp [Document.isBelow])]
  exact List.filter_eq_self.mpr hbelow

private theorem firstNamed_spliced (config field name : String) :
    firstNamed (spliced config field) 0 "input" name = if field = name then some 2 else none := by
  rw [firstNamed, descendants_spliced, splicedFields, List.find?_cons_of_neg (by simp)]
  split
  · next h =>
    subst h
    rw [List.find?_cons_of_pos (by simp [Selector.attribute?_plainField])]
    rfl
  · next h =>
    rw [List.find?_cons_of_neg (by simp [Selector.attribute?_plainField, h])]
    rfl

private theorem queryFirst?_spliced (config field : String) (sel : Selector) :
    (spliced config field).queryFirst? 0 sel =
      (splicedFields field).find? (sel.fits ·.element) := by
  rw [Document.queryFirst?, Document.query, descendants_spliced, List.head?_filter]

/-- A selector that takes the input of such a page for the text field takes it under every other
name as well. -/
theorem locateText_spliced {name : String} (hname : ¬ Selector.IsIdentifier name)
    {config : String} {t : NodeId} (h : locateText (spliced config name) 0 name = .ok t)
    (other : String) : locateText (spliced config other) 0 name = .ok 2 := by
  rw [locateText, locate] at h ⊢
  rcases hsel : Selector.ofText? ("input[name=" ++ name ++ "]") with _ | sel
  · simp [hsel, bind, Except.bind] at h
  · simp only [hsel, queryFirst?_spliced, splicedFields, bind, Except.bind] at h ⊢
    rcases hcopy : sel.fits (Selector.plainField "select" "permission_name") with _ | _
    · rcases hfield : sel.fits (Selector.plainField "input" name) with _ | _
      · simp [hcopy, hfield] at h
      · have htag : Selector.IsIdentifier "input" := by decide
        have hvalues : ∀ conditions ∈ sel, ∀ a v, .attributeIs a v ∈ conditions → v ≠ name :=
          fun _ hs _ _ hmem ↦ Selector.ne_of_mem_spliced htag hname hsel hs hmem
        have hother := Selector.fits_plainField other hvalues hfield
        simp only [List.find?_cons, hcopy, hother]
        rfl
    · -- a permission selector is no text field
      have hkind : (Selector.plainField "select" "permission_name").kind ≠ .input := by decide
      simp [hcopy, hkind] at h

private theorem promising_spliced {config : String} {settings : Settings}
    (h : Settings.ofAttributes (some config) none = .ok settings) (field : String) :
    ∃ table, Promising (spliced config field) 0 table settings := by
  have hwritten : Table.Written "\x7b\"edit\": [\"*\"]\x7d" [("edit", ["*"])] :=
    Table.written_iff_scan.mpr (by decide +kernel)
  have hfilled : ∀ e ∈ (Directory.ofList [("edit", ["*"])]).entries, e.2 ≠ [] := by decide
  obtain ⟨table, htable⟩ := Table.exists_ofArguments_eq_ok_iff.mpr
    ⟨by decide, fun p hp ↦ hfilled _ (Directory.mem_entries_iff.mpr hp) rfl⟩
  have hread : readTable (configured config) = .ok table := by
    rw [← Table.ofJson_of_written hwritten] at htable
    exact mapError_eq_ok_iff.mpr htable
  refine ⟨table, rfl, hread, h, ?_⟩
  have hcopy : (⟨1, some 0, Selector.plainField "select" "permission_name"⟩ : Node) ∈
      (spliced config field).query 0 permissionFields := by
    rw [Document.query, descendants_spliced]
    exact List.mem_filter.mpr ⟨List.mem_cons_self, by decide⟩
  exact List.ne_nil_of_mem
    (List.mem_map.mpr ⟨_, List.mem_filter.mpr ⟨hcopy, by decide⟩, rfl⟩)

private theorem Promising.exists_locateText (h : Promising s.document root table settings)
    {id : BindingId} (hid : (s.bindForm root).answer = .ok id) :
    ∃ t, locateText s.document root settings.argumentName = .ok t := by
  rcases hlocate : locateText s.document root settings.argumentName with e | t
  · have hplan := h.planForm_eq
    rw [hlocate] at hplan
    rw [bindForm_answer_eq_error_iff.mpr hplan] at hid
    simp at hid
  · exact ⟨t, rfl⟩

/-- **Looking up the argument fields.** They are found by their exact name, whatever the page,
exactly if the name can be written into a selector without quotation marks. -/
theorem findsByName_iff_isIdentifier (name : String) :
    (∀ (s : Site) (root : NodeId) (table : Table) (settings : Settings),
      Promising s.document root table settings → settings.argumentName = name →
        FindsByName s root name) ↔ Selector.IsIdentifier name := by
  constructor
  · intro h
    by_contra hname
    obtain ⟨config, hconfig⟩ := exists_settings name
    have hfinds (field : String) : FindsByName ⟨spliced config field, [], [], [], 0⟩ 0 name := by
      obtain ⟨table, hpage⟩ := promising_spliced hconfig field
      exact h ⟨spliced config field, [], [], [], 0⟩ 0 table _ hpage rfl
    -- the field of the name is found, so one of another name is found as well
    obtain ⟨f, hbound, -⟩ := (hfinds name).found 2 (by rw [firstNamed_spliced, if_pos rfl])
    obtain ⟨table, hpage⟩ := promising_spliced hconfig name
    obtain ⟨t, ht⟩ := hpage.exists_locateText hbound
    have hother := locateText_spliced hname ht (name ++ "-")
    have hmissing := (hfinds (name ++ "-")).missing.mpr (by
      rw [firstNamed_spliced, if_neg (by simp)])
    obtain ⟨table', hpage'⟩ := promising_spliced hconfig (name ++ "-")
    rw [hpage'.answer_eq_missing_iff, hother] at hmissing
    simp at hmissing
  · rintro hname s root table settings h rfl
    exact h.findsByName hname

/-- A name as servers expect it for a nested field. -/
example : ¬ Selector.IsIdentifier "request[argument]" := by decide

end Site

end AccessForm
