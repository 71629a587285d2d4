import AccessForm.Proofs.SettingsText
import Mathlib.Data.List.TakeWhile

/-!
# The method in an attribute of its own

Two attributes of a form can name its method: the one with the settings, as a member of an object,
and one of its own. The names are the same, but they are read by different readers, and only the
attribute of its own is freed of the white space around it.

The main statement is `ofAttributes_shorthand`. The method of the second attribute replaces the one
of the first and nothing else. What is wrong with the first attribute is reported before the second
one is looked at. The two readers accept the same names as long as there is no white space; with
white space around it a name is accepted by the second attribute only.
-/

namespace AccessForm

open Json (Fault Token)

/-! ## White space around a name -/

namespace Text

private theorem trimChars_surrounded {pre post : List Char} (hpre : ∀ c ∈ pre, isBlank c = true)
    (hpost : ∀ c ∈ post, isBlank c = true) (cs : List Char) :
    trimChars (pre ++ cs ++ post) = trimChars cs := by
  have hdrop : (cs ++ post).dropWhile isBlank =
      if (cs.dropWhile isBlank).isEmpty then [] else cs.dropWhile isBlank ++ post := by
    rw [List.dropWhile_append, List.dropWhile_eq_nil_iff.mpr hpost]
  rw [trimChars, List.append_assoc, List.dropWhile_append_of_pos hpre, hdrop]
  split
  · next h => rw [trimChars, List.isEmpty_iff.mp h]
  · have hrev : ∀ c ∈ post.reverse, isBlank c = true := fun c hc ↦
      hpost c (List.mem_reverse.mp hc)
    rw [List.reverse_append, List.dropWhile_append_of_pos hrev, trimChars]

private theorem trim_surrounded {pre post : String} (hpre : isBlankText pre = true)
    (hpost : isBlankText post = true) (name : String) :
    trim (pre ++ name ++ post) = trim name := by
  rw [trim, String.toList_append, String.toList_append,
    trimChars_surrounded (List.all_eq_true.mp hpre) (List.all_eq_true.mp hpost), trim]

end Text

namespace Method

private theorem isBlank_eq_false (m : Method) : ∀ c ∈ m.name.toList, Text.isBlank c = false := by
  have hall : m.name.toList.all (fun c ↦ !Text.isBlank c) = true := by
    cases m <;> decide +kernel
  exact fun c hc ↦ by simpa using List.all_eq_true.mp hall c hc

private theorem ofName?_surrounded {pre post : String} (hpre : Text.isBlankText pre = true)
    (hpost : Text.isBlankText post = true) (hne : pre ++ post ≠ "") (name : String) :
    Method.ofName? (pre ++ name ++ post) = none := by
  rw [Option.eq_none_iff_forall_ne_some]
  intro m hm
  have hname : pre.toList ++ name.toList ++ post.toList = m.name.toList := by
    rw [← String.toList_append, ← String.toList_append, Method.ofName?_eq_some_iff.mp hm]
  -- a blank in front of the name or behind it would be a blank of the method
  have hnone (c : Char) (hc : c ∈ pre.toList ++ post.toList) : False := by
    have hblank : Text.isBlank c = true := by
      obtain hc | hc := List.mem_append.mp hc
      · exact List.all_eq_true.mp hpre c hc
      · exact List.all_eq_true.mp hpost c hc
    have hmem : c ∈ m.name.toList := by
      rw [← hname, List.append_assoc, List.mem_append, List.mem_append]
      exact (List.mem_append.mp hc).imp_right .inr
    simp [m.isBlank_eq_false c hmem] at hblank
  refine hne (String.toList_eq_nil_iff.mp ?_)
  rw [String.toList_append]
  exact List.eq_nil_iff_forall_not_mem.mpr hnone

private theorem ofName_eq_ok_iff {name : String} {m : Method} :
    Method.ofName name = .ok m ↔ name = m.name := by
  rw [← Method.ofName?_eq_some_iff, Method.ofName]
  cases Method.ofName? name <;> simp

private theorem ofName_eq_error_iff {name : String} {e : SettingsError} :
    Method.ofName name = .error e ↔ Method.ofName? name = none ∧ e = .unknownMethod name := by
  rw [Method.ofName]
  cases Method.ofName? name <;> simp [eq_comm]

end Method

namespace Settings

/-! ## The second attribute -/

/-- The second attribute is looked at when the first one was read. -/
theorem ofAttributes_some (config : Option String) (name : String) :
    ofAttributes config (some name) = (ofAttributes config none).bind fun s ↦
      (Method.ofName (Text.trim name)).map fun m ↦ { s with method := m } := by
  obtain _ | text := config
  · rfl
  · by_cases hblank : Text.isBlankText text = true
    · simp only [ofAttributes, hblank, if_true]
      rfl
    · simp only [ofAttributes, hblank]
      cases ofJson text <;> rfl

private theorem ofAttributes_blank {text : String} (h : Text.isBlankText text = true)
    (method : Option String) : ofAttributes (some text) method = ofAttributes none method := by
  simp only [ofAttributes, h, if_true]

/-! ## The member of an object -/

/-- The member of an object that names the method. -/
def methodEntry (name : String) (tagged : Bool) : String × List Token :=
  (Field.method.key, methodTokens name tagged)

private theorem readMoreMembers_methodEntry {fields : List Field} (hfresh : Field.method ∉ fields)
    {name : String} (hname : Method.ofName? name = none) (tagged : Bool) (s : Settings)
    (rest : List Token) :
    readMoreMembers s fields ([.comma] ++ memberTokens (methodEntry name tagged) ++ rest) =
      .error (.unknownVariant name) := by
  have hfield : readField s (methodTokens name tagged ++ rest) .method =
      .error (.unknownVariant name) := by
    rw [readField, readMethod_methodTokens, knownMethod, hname]
    rfl
  have hkey : freshField fields Field.method.key = .ok .method := by
    rw [freshField, ofKey?_eq_some_iff.mpr rfl]
    exact if_neg hfresh
  have hmember : readMember s fields Field.method.key
      (.colon :: (methodTokens name tagged ++ rest)) = .error (.unknownVariant name) := by
    simp only [readMember, hkey, Except.bind, Json.afterColon, hfield, Except.map]
  have htokens : [.comma] ++ memberTokens (methodEntry name tagged) ++ rest =
      .comma :: .text Field.method.key :: .colon :: (methodTokens name tagged ++ rest) := rfl
  rw [htokens, readMoreMembers, hmember]

/-- An object that names a method beside other settings, in front of them, behind them or between
them. -/
def NamesMethod (text : String) (c : Choice) (name : String) : Prop :=
  c.method = none ∧ ∃ (tagged : Bool) (before after : List Given), (before ++ after).Perm c.given ∧
    Written text (objectTokens
      (before.map Given.entry ++ methodEntry name tagged :: after.map Given.entry))

namespace NamesMethod

variable {text : String} {c : Choice}

private theorem accepted {m : Method} (h : NamesMethod text c m.name) :
    ofAttributes (some text) none = .ok { c.settings with method := m } := by
  obtain ⟨hnone, tagged, before, after, hperm, h⟩ := h
  have hgiven : (before ++ .method m tagged :: after).Perm
      ({ c with method := some (m, tagged) } : Choice).given := by
    refine List.perm_middle.trans ?_
    have hsame : ({ c with method := some (m, tagged) } : Choice).given =
        .method m tagged :: c.given := by
      rw [Choice.given, Choice.given, hnone]
      rfl
    exact hsame ▸ hperm.cons _
  refine ofAttributes_object { c with method := some (m, tagged) } hgiven ?_
  rw [List.map_append, List.map_cons]
  exact h

private theorem refused {name : String} (hname : Method.ofName? name = none)
    (h : NamesMethod text c name) :
    ofAttributes (some text) none = .error (.malformed (.unknownVariant name)) := by
  obtain ⟨hnone, tagged, before, after, hperm, h⟩ := h
  have hblank := isBlankText_eq_false (List.prefix_refl _) (.inl rfl) h
  have hnodup : (before.map Given.field).Nodup := by
    have hfields := (hperm.map Given.field).nodup_iff.mpr c.nodup_given
    exact (List.map_append ▸ hfields).of_append_left
  have hmethod : Field.method ∉ before.map Given.field := by
    intro hmem
    obtain ⟨g, hg, hfield⟩ := List.mem_map.mp hmem
    have hg : g ∈ c.given := hperm.mem_iff.mp (List.mem_append_left _ hg)
    rw [Choice.given, hnone] at hg
    cases g with
    | method => simp at hg
    | _ => cases hfield
  have hread : readSettings (objectTokens
      (before.map Given.entry ++ methodEntry name tagged :: after.map Given.entry)) =
      .error (.unknownVariant name) := by
    have hfresh : Field.method ∉ (before.map Given.field).reverse ++ [] := by
      rwa [List.append_nil, List.mem_reverse]
    rw [readSettings_members (by simp), List.flatMap_append, List.flatMap_map, List.append_assoc,
      readMoreMembers_entries {} hnodup (fun _ _ ↦ List.not_mem_nil), List.flatMap_cons,
      List.append_assoc, readMoreMembers_methodEntry hfresh hname]
  rw [ofAttributes_json hblank, ofJson, Json.scan_of_writes h, hread]
  rfl

end NamesMethod

/-- Every text can stand for the method beside any other settings. -/
theorem exists_namesMethod {c : Choice} (hnone : c.method = none) (name : String) :
    ∃ text, NamesMethod text c name := by
  have hplain : ∀ m ∈ methodEntry name false :: c.given.map Given.entry,
      m.2.all isPlain = true :=
    List.forall_mem_cons.mpr ⟨all_isPlain_methodTokens name false,
      List.forall_mem_map.mpr fun g _ ↦ all_isPlain_valueTokens g⟩
  obtain ⟨text, h⟩ := exists_written (all_isPlain_objectTokens hplain)
  exact ⟨text, hnone, false, [], c.given, .refl _, h⟩

/-! ## Both attributes -/

/-- **The method in an attribute of its own.** The fault of the settings comes first, whatever
method is named. Otherwise the trimmed name decides, and only the method is replaced. Settings of
nothing but white space count as none. A name inside the settings means the same method, and is
refused where the reader of names refuses it; white space around it makes no difference in the
attribute of its own and is never accepted inside the settings. -/
theorem ofAttributes_shorthand :
    (∀ (config : Option String) (e : SettingsError), ofAttributes config none = .error e →
      ∀ name, ofAttributes config (some name) = .error e) ∧
    (∀ (config : Option String) (s : Settings), ofAttributes config none = .ok s → ∀ name,
      (∀ m, Text.trim name = Method.name m →
        ofAttributes config (some name) = .ok { s with method := m }) ∧
      ((∀ m, Text.trim name ≠ Method.name m) →
        ofAttributes config (some name) = .error (.unknownMethod (Text.trim name)))) ∧
    (∀ text, (∀ ch ∈ text.toList, Text.isBlank ch = true) →
      ∀ method, ofAttributes (some text) method = ofAttributes none method) ∧
    (∀ (c : Choice) (name text : String), NamesMethod text c name →
      (∀ m, Method.ofName name = .ok m →
        ofAttributes (some text) none = .ok { c.settings with method := m }) ∧
      (∀ e, Method.ofName name = .error e →
        ofAttributes (some text) none = .error (.malformed (.unknownVariant name)))) ∧
    (∀ (c : Choice) (name : String), c.method = none → ∃ text, NamesMethod text c name) ∧
    ∀ pre post name : String, (∀ ch ∈ pre.toList ++ post.toList, Text.isBlank ch = true) →
      (∀ config, ofAttributes config (some (pre ++ name ++ post)) =
        ofAttributes config (some name)) ∧
      (pre ++ post ≠ "" → ∀ (c : Choice) (text : String),
        NamesMethod text c (pre ++ name ++ post) → ofAttributes (some text) none =
          .error (.malformed (.unknownVariant (pre ++ name ++ post)))) := by
  refine ⟨?fault, ?replaced, ?blank, ?member, fun _ name h ↦ exists_namesMethod h name, ?padded⟩
  case fault =>
    intro config e he name
    rw [ofAttributes_some, he]
    rfl
  case replaced =>
    intro config s hs name
    rw [ofAttributes_some, hs]
    constructor
    · intro m hm
      simp only [Except.bind, Method.ofName_eq_ok_iff.mpr hm, Except.map]
    · intro hnone
      have hunknown : Method.ofName? (Text.trim name) = none := by
        rw [Option.eq_none_iff_forall_ne_some]
        exact fun m hm ↦ hnone m (Method.ofName?_eq_some_iff.mp hm)
      simp only [Except.bind, Method.ofName_eq_error_iff.mpr ⟨hunknown, rfl⟩, Except.map]
  case blank => exact fun text h ↦ ofAttributes_blank (List.all_eq_true.mpr h)
  case member =>
    intro c name text h
    constructor
    · intro m hm
      obtain rfl := Method.ofName_eq_ok_iff.mp hm
      exact h.accepted
    · intro e he
      exact h.refused (Method.ofName_eq_error_iff.mp he).1
  case padded =>
    intro pre post name hblank
    obtain ⟨hpre, hpost⟩ := List.forall_mem_append.mp hblank
    rw [← List.all_eq_true] at hpre hpost
    constructor
    · intro config
      rw [ofAttributes_some, ofAttributes_some, Text.trim_surrounded hpre hpost]
    · intro hne c text h
      exact h.refused (Method.ofName?_surrounded hpre hpost hne name)

/-- Settings that end too early, settings that a trimmed name overrides, an unknown name, white
space outside of ASCII, and the method between two braces with and without a space. -/
theorem ofAttributes_shorthand_sample :
    ofAttributes (some "[") (some "rename") = .error (.malformed .endInList) ∧
    ofAttributes (some "[\"rename\"]") (some "\u2003disable\n") = .ok { method := .disable } ∧
    ofAttributes none (some " hide ") = .error (.unknownMethod "hide") ∧
    ofAttributes (some "\u3000") none = ofAttributes none none ∧
    ofAttributes (some "\x7b\"strategy\":\"rename\"\x7d") none = .ok { method := .rename } ∧
    ofAttributes (some "\x7b\"strategy\":\" rename\"\x7d") none =
      .error (.malformed (.unknownVariant " rename")) ∧
    ofAttributes none (some " rename") = ofAttributes none (some "rename") := by
  have hblank : ∀ ch ∈ " ".toList ++ "".toList, Text.isBlank ch = true :=
    List.all_eq_true.mp (by decide +kernel)
  refine ⟨?fault, ?replaced, ?unknown, ?blank, ?member, ?padded, ?trimmed⟩
  case fault => exact ofAttributes_shorthand.1 _ _ (by decide +kernel) _
  case replaced =>
    exact (ofAttributes_shorthand.2.1 (some "[\"rename\"]") { method := .rename }
      (by decide +kernel) _).1 .disable (by decide +kernel)
  case unknown =>
    have htrim : Text.trim " hide " = "hide" := by decide +kernel
    have hnone : ∀ m, Text.trim " hide " ≠ Method.name m := by
      intro m
      cases m <;> decide +kernel
    rw [(ofAttributes_shorthand.2.1 none {} rfl " hide ").2 hnone, htrim]
  case blank =>
    exact ofAttributes_shorthand.2.2.1 "\u3000" (List.all_eq_true.mp (by decide +kernel)) none
  case member =>
    have hnames : NamesMethod "\x7b\"strategy\":\"rename\"\x7d" {} "rename" :=
      ⟨rfl, false, [], [], .refl _, writes_of_scan rfl (by decide +kernel)⟩
    exact (ofAttributes_shorthand.2.2.2.1 {} _ _ hnames).1 .rename rfl
  case padded =>
    have hnames : NamesMethod "\x7b\"strategy\":\" rename\"\x7d" {} (" " ++ "rename" ++ "") :=
      ⟨rfl, false, [], [], .refl _, writes_of_scan rfl (by decide +kernel)⟩
    exact (ofAttributes_shorthand.2.2.2.2.2 " " "" "rename" hblank).2 (by decide) _ _ hnames
  case trimmed =>
    exact (ofAttributes_shorthand.2.2.2.2.2 " " "" "rename" hblank).1 none

end Settings

end AccessForm
