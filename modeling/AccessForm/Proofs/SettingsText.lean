import AccessForm.Proofs.TableText
import AccessForm.Settings.Json
import Mathlib.Data.List.Induction
import Mathlib.Data.List.Nodup
import Mathlib.Data.Set.List

/-!
# The texts of settings

A page gives any of the four settings, as the members of an object or as the first values of a
list. What such a text looks like is said by its tokens, and `Json.Writes` adds the blanks and the
escapes. The reader keeps a record and overwrites one field at a time, which is why the order of the
members cannot matter: no two members of an accepted object give the same setting, and overwriting
different fields commutes.

The main statement is `ofAttributes_decodes`. Whatever settings are given, in whatever order, the
others keep their defaults; a list of values is as good as an object; and an object is refused at
the first name that belongs to no setting, or to one that was given before.
-/

namespace AccessForm.Settings

open Json (Fault Token Writes WritesToken)

/-! ## Settings that are given -/

/-- A setting with the value that a text gives it. A method is written as a text or, when it is
tagged, as the only member of an object. -/
inductive Given where
  | method (m : Method) (tagged : Bool)
  | argumentName (name : String)
  | ignoredName (name : String)
  | busyClass (name : String)

namespace Given

/-- The setting that is given. -/
def field : Given → Field
  | method .. => .method
  | argumentName _ => .argumentName
  | ignoredName _ => .ignoredName
  | busyClass _ => .busyClass

/-- The settings in which the given one is replaced. -/
def put (s : Settings) : Given → Settings
  | method m _ => { s with method := m }
  | argumentName name => { s with argumentName := name }
  | ignoredName name => { s with ignoredName := name }
  | busyClass name => { s with busyClass := name }

private theorem put_comm {g h : Given} (hne : g.field ≠ h.field) (s : Settings) :
    put (put s g) h = put (put s h) g := by
  cases g <;> cases h <;> first | rfl | exact absurd rfl hne

end Given

/-- Any of the four settings, each with a value. -/
structure Choice where
  method : Option (Method × Bool) := none
  argumentName : Option String := none
  ignoredName : Option String := none
  busyClass : Option String := none

namespace Choice

/-- What is given, in the order of a list. -/
def given (c : Choice) : List Given :=
  (c.method.map fun (m, tagged) ↦ Given.method m tagged).toList ++
    (c.argumentName.map .argumentName).toList ++ (c.ignoredName.map .ignoredName).toList ++
    (c.busyClass.map .busyClass).toList

/-- The settings that result: what is not given keeps its default. -/
def settings (c : Choice) : Settings where
  method := (c.method.map Prod.fst).getD .disable
  argumentName := c.argumentName.getD defaultArgumentName
  ignoredName := c.ignoredName.getD defaultIgnoredName
  busyClass := c.busyClass.getD defaultBusyClass

private theorem sublist_all (c : Choice) : (c.given.map Given.field).Sublist Field.all := by
  obtain ⟨_ | _, _ | _, _ | _, _ | _⟩ := c <;> simp [given, Given.field, Field.all]

theorem nodup_given (c : Choice) : (c.given.map Given.field).Nodup :=
  c.sublist_all.nodup (by decide)

private theorem foldl_given (c : Choice) : c.given.foldl Given.put {} = c.settings := by
  obtain ⟨_ | _, _ | _, _ | _, _ | _⟩ := c <;> rfl

/-- The order of what is given does not matter. -/
theorem foldl_perm (c : Choice) {members : List Given} (h : members.Perm c.given) :
    members.foldl Given.put {} = c.settings := by
  rw [← c.foldl_given]
  refine h.foldl_eq' (fun g hg k hk s ↦ ?_) ({} : Settings)
  by_cases hfield : g.field = k.field
  · obtain rfl := List.inj_on_of_nodup_map c.nodup_given (h.mem_iff.mp hg) (h.mem_iff.mp hk) hfield
    rfl
  · exact Given.put_comm hfield s

end Choice

/-! ## Their tokens -/

/-- The tokens of a method, or of what stands in its place. -/
def methodTokens (name : String) (tagged : Bool) : List Token :=
  if tagged then [.openObject, .text name, .colon, .null, .closeObject] else [.text name]

/-- The tokens of a value. -/
def Given.valueTokens : Given → List Token
  | method m tagged => methodTokens m.name tagged
  | argumentName name | ignoredName name | busyClass name => [.text name]

/-- The member of an object that gives the setting: its name and the tokens of its value. -/
def Given.entry (g : Given) : String × List Token := (g.field.key, g.valueTokens)

/-- The tokens of a member. -/
def memberTokens (m : String × List Token) : List Token := .text m.1 :: .colon :: m.2

/-- The tokens of an object. -/
def objectTokens (members : List (String × List Token)) : List Token :=
  .openObject :: [Token.comma].intercalate (members.map memberTokens) ++ [.closeObject]

/-- The tokens of an object up to the name of one of its members. -/
def openingTokens (earlier : List (String × List Token)) (key : String) : List Token :=
  .openObject :: [Token.comma].intercalate (earlier.map memberTokens ++ [[.text key]])

/-- The tokens of a list of values. -/
def listTokens (values : List (List Token)) : List Token :=
  .openList :: [Token.comma].intercalate values ++ [.closeList]

private theorem intercalate_cons {α : Type} (sep l : List α) (ls : List (List α)) :
    sep.intercalate (l :: ls) = l ++ ls.flatMap (sep ++ ·) := by
  simpa using Table.intercalate_map_cons sep id l ls

private theorem openingTokens_prefix (earlier later : List (String × List Token))
    (m : String × List Token) :
    openingTokens earlier m.1 <+: objectTokens (earlier ++ m :: later) := by
  have hmember : [Token.text m.1] <+: memberTokens m := ⟨_, rfl⟩
  rw [objectTokens, openingTokens, List.map_append, List.map_cons, List.cons_append,
    List.prefix_cons_inj]
  obtain _ | ⟨e, earlier⟩ := earlier
  · rw [List.map_nil, List.nil_append, List.nil_append, intercalate_cons, intercalate_cons,
      List.flatMap_nil, List.append_nil, List.append_assoc]
    exact hmember.trans (List.prefix_append _ _)
  · rw [List.map_cons, List.cons_append, List.cons_append, intercalate_cons, intercalate_cons,
      List.flatMap_append, List.flatMap_append, List.append_assoc, List.append_assoc,
      List.flatMap_cons, List.flatMap_cons, List.flatMap_nil, List.append_nil, List.append_assoc,
      List.append_assoc]
    simp only [List.prefix_append_right_inj]
    exact hmember.trans (List.prefix_append _ _)

/-! ## Reading members -/

theorem ofKey?_eq_some_iff {key : String} {field : Field} :
    Field.ofKey? key = some field ↔ field.key = key := by
  constructor
  · intro h
    simpa using List.find?_some (p := fun f : Field ↦ decide (f.key = key)) h
  · rintro rfl
    cases field <;> decide

private theorem key_injective : Function.Injective Field.key := fun _ _ h ↦
  Option.some.inj ((ofKey?_eq_some_iff.mpr rfl).symm.trans (ofKey?_eq_some_iff.mpr h.symm))

theorem readMethod_methodTokens (name : String) (tagged : Bool) (rest : List Token) :
    readMethod (methodTokens name tagged ++ rest) = (knownMethod name).map (·, rest) := by
  cases tagged with
  | false => rfl
  | true =>
    have hend : readTagEnd (.colon :: .null :: .closeObject :: rest) = .ok rest := rfl
    simp only [methodTokens, if_true, List.cons_append, List.nil_append, readMethod, readTag, hend]
    cases knownMethod name <;> rfl

private theorem knownMethod_name (m : Method) : knownMethod m.name = .ok m := by
  rw [knownMethod, Method.ofName?_eq_some_iff.mpr rfl]

private theorem readField_given (s : Settings) (g : Given) (rest : List Token) :
    readField s (g.valueTokens ++ rest) g.field = .ok (Given.put s g, rest) := by
  cases g with
  | method m tagged =>
    rw [Given.valueTokens, Given.field, readField, readMethod_methodTokens, knownMethod_name]
    rfl
  | _ => rfl

/-- A member whose name was given before, or belongs to no setting, is refused. -/
theorem readMoreMembers_of_freshField {fields : List Field} {key : String} {fault : Fault}
    (h : freshField fields key = .error fault) (s : Settings) (rest : List Token) :
    readMoreMembers s fields (.comma :: .text key :: rest) = .error fault := by
  have hmember : readMember s fields key rest = .error fault := by
    rw [readMember, h]
    rfl
  rw [readMoreMembers, hmember]

/-- One more member gives one more setting, unless the setting was given before. -/
theorem readMoreMembers_entry (s : Settings) (fields : List Field) (g : Given)
    (rest : List Token) :
    readMoreMembers s fields ([.comma] ++ memberTokens g.entry ++ rest) =
      if g.field ∈ fields then .error (.repeatedField g.field.key)
      else readMoreMembers (g.put s) (g.field :: fields) rest := by
  have hfresh : freshField fields g.field.key =
      if g.field ∈ fields then .error (.repeatedField g.field.key) else .ok g.field := by
    rw [freshField, ofKey?_eq_some_iff.mpr rfl]
  have htokens : [.comma] ++ memberTokens g.entry ++ rest =
      .comma :: .text g.field.key :: .colon :: (g.valueTokens ++ rest) := rfl
  rw [htokens]
  split
  · next h => exact readMoreMembers_of_freshField (by rw [hfresh, if_pos h]) s _
  · next h =>
    have hmember : readMember s fields g.field.key (.colon :: (g.valueTokens ++ rest)) =
        .ok (Given.put s g, g.field, rest) := by
      rw [readMember, hfresh, if_neg h]
      simp only [Except.bind, Json.afterColon, readField_given, Except.map]
    rw [readMoreMembers, hmember]

theorem readMoreMembers_entries {members : List Given} {fields : List Field} (s : Settings)
    (hnodup : (members.map Given.field).Nodup) (hfresh : ∀ g ∈ members, g.field ∉ fields)
    (rest : List Token) :
    readMoreMembers s fields
        ((members.flatMap fun g ↦ [.comma] ++ memberTokens g.entry) ++ rest) =
      readMoreMembers (members.foldl Given.put s)
        ((members.map Given.field).reverse ++ fields) rest := by
  induction members generalizing s fields with
  | nil => rfl
  | cons g members ih =>
    obtain ⟨hg, hmembers⟩ := List.forall_mem_cons.mp hfresh
    rw [List.map_cons, List.nodup_cons] at hnodup
    have hfresh' : ∀ k ∈ members, k.field ∉ g.field :: fields := by
      intro k hk hmem
      obtain heq | hmem := List.mem_cons.mp hmem
      · exact hnodup.1 (heq ▸ List.mem_map_of_mem hk)
      · exact hmembers k hk hmem
    rw [List.flatMap_cons, List.append_assoc, readMoreMembers_entry, if_neg hg,
      ih _ hnodup.2 hfresh', List.foldl_cons, List.map_cons, List.reverse_cons, List.append_assoc,
      List.singleton_append]

private theorem readSettings_openObject (key : String) (l : List Token) (ls : List (List Token))
    (rest : List Token) :
    readSettings (.openObject :: ([Token.comma].intercalate ((.text key :: l) :: ls) ++ rest)) =
      readMoreMembers {} [] ((((.text key :: l) :: ls).flatMap ([.comma] ++ ·)) ++ rest) := by
  rw [intercalate_cons, List.flatMap_cons, readSettings, List.cons_append, List.cons_append,
    readMembers]
  simp only [List.cons_append, List.nil_append, readMoreMembers]
  cases readMember {} [] key _ <;> rfl

theorem readSettings_members {members : List (String × List Token)} (h : members ≠ []) :
    readSettings (objectTokens members) = readMoreMembers {} []
      ((members.flatMap fun m ↦ [.comma] ++ memberTokens m) ++ [.closeObject]) := by
  obtain ⟨m, ms, rfl⟩ := List.exists_cons_of_ne_nil h
  rw [objectTokens, List.cons_append, List.map_cons, memberTokens, readSettings_openObject,
    ← memberTokens, ← List.map_cons, List.flatMap_map]

/-- An object that gives different settings is read to its end. -/
theorem readSettings_objectTokens {members : List Given}
    (hnodup : (members.map Given.field).Nodup) :
    readSettings (objectTokens (members.map Given.entry)) =
      .ok (members.foldl Given.put {}, []) := by
  obtain rfl | hne := eq_or_ne members []
  · rfl
  · rw [readSettings_members (mt List.map_eq_nil_iff.mp hne), List.flatMap_map,
      readMoreMembers_entries {} hnodup (fun _ _ ↦ List.not_mem_nil), readMoreMembers]

/-! ## Refused members -/

/-- A name that no further member may have: every setting of this name was given before. It belongs
to no setting at all, or to a repeated one. -/
def Surplus (fields : List Field) (key : String) : Prop :=
  ∀ field : Field, field.key = key → field ∈ fields

private theorem exists_freshField_eq_error {fields : List Field} {key : String}
    (h : Surplus fields key) : ∃ fault, freshField fields key = .error fault := by
  rw [freshField]
  rcases hkey : Field.ofKey? key with _ | field
  · exact ⟨_, rfl⟩
  · exact ⟨.repeatedField key, if_pos (h field (ofKey?_eq_some_iff.mp hkey))⟩

/-- A surplus name is refused wherever it stands and whatever follows it. -/
theorem exists_readMoreMembers_eq_error {earlier : List Given} {fields : List Field} {key : String}
    (h : Surplus (earlier.map Given.field ++ fields) key) (s : Settings) (rest : List Token) :
    ∃ fault, readMoreMembers s fields ((earlier.flatMap fun g ↦
      [.comma] ++ memberTokens g.entry) ++ .comma :: .text key :: rest) = .error fault := by
  induction earlier generalizing s fields with
  | nil =>
    obtain ⟨fault, hfault⟩ := exists_freshField_eq_error h
    exact ⟨fault, readMoreMembers_of_freshField hfault s rest⟩
  | cons g earlier ih =>
    rw [List.flatMap_cons, List.append_assoc, readMoreMembers_entry]
    split
    · exact ⟨_, rfl⟩
    · refine ih (fun field hfield ↦ ?_) _
      have hmem := h field hfield
      rw [List.map_cons, List.cons_append, List.mem_cons, List.mem_append] at hmem
      rw [List.mem_append, List.mem_cons]
      exact or_left_comm.mp hmem

private theorem exists_readSettings_eq_error {earlier : List Given} {key : String}
    (h : Surplus (earlier.map Given.field) key) (rest : List Token) :
    ∃ fault, readSettings (openingTokens (earlier.map Given.entry) key ++ rest) =
      .error fault := by
  have hsurplus : Surplus (earlier.map Given.field ++ []) key := by rwa [List.append_nil]
  obtain ⟨fault, hfault⟩ := exists_readMoreMembers_eq_error hsurplus {} rest
  refine ⟨fault, ?_⟩
  rw [← hfault]
  obtain ⟨k, l, ls, hls⟩ : ∃ k l ls, (earlier.map Given.entry).map memberTokens ++ [[.text key]] =
      (Token.text k :: l) :: ls := by
    obtain _ | ⟨g, earlier⟩ := earlier
    · exact ⟨key, [], [], rfl⟩
    · exact ⟨_, _, _, rfl⟩
  rw [openingTokens, List.cons_append, hls, readSettings_openObject, ← hls]
  simp [List.flatMap_append, List.flatMap_map]

/-! ## Reading lists -/

private theorem exists_valueTokens_eq_cons (g : Given) :
    ∃ t ts, g.valueTokens = t :: ts ∧ t ≠ .closeList := by
  obtain ⟨_, _ | _⟩ | _ | _ | _ := g <;> exact ⟨_, _, rfl, nofun⟩

private theorem readMoreItems_value (s : Settings) (g : Given) (fields : List Field)
    (rest : List Token) :
    readMoreItems s (g.field :: fields) ([.comma] ++ g.valueTokens ++ rest) =
      readMoreItems (g.put s) fields rest := by
  obtain ⟨t, ts, htokens, ht⟩ := exists_valueTokens_eq_cons g
  have hfield := readField_given s g rest
  rw [htokens, List.cons_append] at hfield
  rw [htokens, List.singleton_append, List.cons_append, List.cons_append, readMoreItems, hfield]
  · exact fun h ↦ nomatch h
  · exact fun _ h ↦ ht (List.cons.inj h).1

private theorem readMoreItems_values {values : List Given} {fields : List Field} (s : Settings)
    (h : values.map Given.field <+: fields) (rest : List Token) :
    readMoreItems s fields
        ((values.flatMap fun g ↦ [.comma] ++ g.valueTokens) ++ .closeList :: rest) =
      .ok (values.foldl Given.put s, rest) := by
  induction values generalizing s fields with
  | nil => cases fields <;> rfl
  | cons g values ih =>
    obtain ⟨fields, rfl⟩ := h
    rw [List.flatMap_cons, List.append_assoc, List.map_cons, List.cons_append, readMoreItems_value,
      ih _ (List.prefix_append _ _), List.foldl_cons]

/-- A list of the first values is read to its end. -/
theorem readSettings_listTokens {values : List Given}
    (h : values.map Given.field <+: Field.all) :
    readSettings (listTokens (values.map Given.valueTokens)) =
      .ok (values.foldl Given.put {}, []) := by
  obtain _ | ⟨g, values⟩ := values
  · rfl
  · rw [List.map_cons, Field.all, List.cons_prefix_cons] at h
    obtain ⟨t, ts, htokens, ht⟩ := exists_valueTokens_eq_cons g
    have hfield (rest : List Token) := readField_given {} g rest
    have hmore := readMoreItems_values (g.put {}) h.2 []
    rw [h.1, htokens] at hfield
    rw [listTokens, Table.intercalate_map_cons, htokens, List.cons_append, List.cons_append,
      List.cons_append, readSettings, readItems, ← List.cons_append, ← List.cons_append,
      List.append_assoc, hfield]
    · exact hmore
    · exact fun h ↦ nomatch h
    · exact fun _ h ↦ ht (List.cons.inj h).1

/-! ## The first surplus name -/

/-- An object that names a setting twice, or something that is no setting, has a first such name;
the members in front of it give settings. -/
theorem exists_surplus {members : List (String × List Token)}
    (hshape : ∀ m ∈ members, (∃ g, Given.entry g = m) ∨ ∀ field : Field, field.key ≠ m.1)
    (h : ¬ (members.map Prod.fst).Nodup ∨ ∃ m ∈ members, ∀ field : Field, field.key ≠ m.1) :
    ∃ (earlier : List Given) (m : String × List Token) (later : List (String × List Token)),
      members = earlier.map Given.entry ++ m :: later ∧
        Surplus (earlier.map Given.field) m.1 := by
  induction members using List.reverseRecOn with
  | nil => simp at h
  | append_singleton members m ih =>
    have hshape' : ∀ k ∈ members, (∃ g, Given.entry g = k) ∨ ∀ field : Field, field.key ≠ k.1 :=
      fun k hk ↦ hshape k (List.mem_append_left _ hk)
    by_cases hbad : ¬ (members.map Prod.fst).Nodup ∨
        ∃ m ∈ members, ∀ field : Field, field.key ≠ m.1
    · obtain ⟨earlier, k, later, rfl, hsurplus⟩ := ih hshape' hbad
      exact ⟨earlier, k, later ++ [m], by rw [List.append_assoc, List.cons_append], hsurplus⟩
    · rw [not_or, not_not, not_exists] at hbad
      have hgiven : ∀ k ∈ members, k ∈ Set.range Given.entry := fun k hk ↦
        (hshape' k hk).resolve_right fun hnone ↦ hbad.2 k ⟨hk, hnone⟩
      obtain ⟨earlier, rfl⟩ := (Set.range_list_map Given.entry).ge hgiven
      refine ⟨earlier, m, [], rfl, fun field hfield ↦ ?_⟩
      -- the last member is at fault, since those in front of it are not
      obtain hdup | ⟨k, hk, hnone⟩ := h
      · have hmem : m.1 ∈ (earlier.map Given.entry).map Prod.fst := by
          by_contra hnew
          refine hdup ?_
          rw [List.map_append, List.map_singleton, ← List.concat_eq_append, List.nodup_concat]
          exact ⟨hnew, hbad.1⟩
        rw [List.map_map] at hmem
        obtain ⟨g, hg, hkey⟩ := List.mem_map.mp hmem
        have heq : g.field = field := key_injective (hkey.trans hfield.symm)
        exact heq ▸ List.mem_map_of_mem hg
      · obtain hk | hk := List.mem_append.mp hk
        · exact absurd ⟨hk, hnone⟩ (hbad.2 k)
        · exact absurd (List.mem_singleton.mp hk ▸ hfield) (hnone field)

/-! ## Texts -/

/-- The tokens that settings consist of. -/
def isPlain : Token → Bool
  | .openObject | .closeObject | .openList | .closeList | .comma | .colon | .null | .text _ => true
  | _ => false

private theorem exists_writesToken {t : Token} (h : isPlain t = true) : ∃ w, WritesToken w t := by
  cases t with
  | text s => exact Json.exists_writesToken_text s
  | bool _ | number _ | brokenText _ | brokenScalar _ | stray _ => cases h
  | _ => exact ⟨_, by constructor⟩

private theorem all_isPlain_intercalate {ls : List (List Token)}
    (h : ∀ l ∈ ls, l.all isPlain = true) : ([Token.comma].intercalate ls).all isPlain = true := by
  refine List.all_eq_true.mpr fun t ht ↦ ?_
  obtain hcomma | ⟨l, hl, ht⟩ := Table.mem_intercalate ht
  · rw [List.mem_singleton.mp hcomma]
    rfl
  · exact List.all_eq_true.mp (h l hl) t ht

theorem all_isPlain_methodTokens (name : String) (tagged : Bool) :
    (methodTokens name tagged).all isPlain = true := by
  cases tagged <;> rfl

theorem all_isPlain_valueTokens (g : Given) : g.valueTokens.all isPlain = true := by
  cases g with
  | method m tagged => exact all_isPlain_methodTokens m.name tagged
  | _ => rfl

theorem all_isPlain_objectTokens {members : List (String × List Token)}
    (h : ∀ m ∈ members, m.2.all isPlain = true) : (objectTokens members).all isPlain = true := by
  have hmembers : ∀ l ∈ members.map memberTokens, l.all isPlain = true :=
    List.forall_mem_map.mpr h
  rw [objectTokens, List.all_append, List.all_cons, all_isPlain_intercalate hmembers]
  rfl

private theorem all_isPlain_listTokens {values : List (List Token)}
    (h : ∀ l ∈ values, l.all isPlain = true) : (listTokens values).all isPlain = true := by
  rw [listTokens, List.all_append, List.all_cons, all_isPlain_intercalate h]
  rfl

/-- A text that writes a row of tokens. -/
def Written (text : String) (ts : List Token) : Prop := Writes text.toList ts

theorem exists_written {ts : List Token} (h : ts.all isPlain = true) :
    ∃ text, Written text ts := by
  obtain ⟨cs, hcs⟩ := Json.exists_writes fun t ht ↦ exists_writesToken (List.all_eq_true.mp h t ht)
  exact ⟨String.ofList cs, by rwa [Written, String.toList_ofList]⟩

theorem writes_of_scan {cs : List Char} {ts : List Token} (h : ts.all isPlain = true)
    (hscan : Token.scan cs = ts) : Writes cs ts :=
  (Json.scan_eq_iff fun t ht ↦ exists_writesToken (List.all_eq_true.mp h t ht)).mp hscan

theorem isBlankText_eq_false {text : String} {front : List Char} (hfront : front <+: text.toList)
    {t : Token} {ts : List Token} (ht : t = .openObject ∨ t = .openList)
    (h : Writes front (t :: ts)) : Text.isBlankText text = false := by
  obtain _ | ⟨-, hw, -⟩ := h
  rw [Text.isBlankText, List.all_eq_false]
  obtain rfl | rfl := ht <;> cases hw
  · exact ⟨'\x7b', hfront.subset (by simp), by decide⟩
  · exact ⟨'[', hfront.subset (by simp), by decide⟩

theorem ofAttributes_json {text : String} (h : Text.isBlankText text = false) :
    ofAttributes (some text) none = (ofJson text).mapError .malformed := by
  simp only [ofAttributes, h, Bool.false_eq_true, if_false]
  cases ofJson text <;> rfl

private theorem ofAttributes_written {text : String} {t : Token} {ts : List Token}
    (ht : t = .openObject ∨ t = .openList) (h : Written text (t :: ts)) {s : Settings}
    (hread : readSettings (t :: ts) = .ok (s, [])) : ofAttributes (some text) none = .ok s := by
  rw [ofAttributes_json (isBlankText_eq_false (List.prefix_refl _) ht h), ofJson,
    Json.scan_of_writes h, hread]
  rfl

/-- An object gives its members, in whatever order. -/
theorem ofAttributes_object (c : Choice) {members : List Given} (hperm : members.Perm c.given)
    {text : String} (h : Written text (objectTokens (members.map Given.entry))) :
    ofAttributes (some text) none = .ok c.settings := by
  have hnodup : (members.map Given.field).Nodup :=
    (hperm.map Given.field).nodup_iff.mpr c.nodup_given
  rw [← c.foldl_perm hperm]
  exact ofAttributes_written (.inl rfl) h (readSettings_objectTokens hnodup)

/-- A list gives the first settings. -/
theorem ofAttributes_list {values : List Given} (hfirst : values.map Given.field <+: Field.all)
    {text : String} (h : Written text (listTokens (values.map Given.valueTokens))) :
    ofAttributes (some text) none = .ok (values.foldl Given.put {}) :=
  ofAttributes_written (.inr rfl) h (readSettings_listTokens hfirst)

private theorem exists_ofAttributes_eq_error {earlier : List Given} {key : String}
    (hsurplus : Surplus (earlier.map Given.field) key) {text : String}
    (hblank : Text.isBlankText text = false)
    (h : openingTokens (earlier.map Given.entry) key <+: Token.scan text.toList) :
    ∃ fault, ofAttributes (some text) none = .error (.malformed fault) := by
  obtain ⟨rest, hrest⟩ := h
  obtain ⟨fault, hfault⟩ := exists_readSettings_eq_error hsurplus rest
  refine ⟨fault, ?_⟩
  rw [ofAttributes_json hblank, ofJson, ← hrest, hfault]
  rfl

/-- **Decoding of settings.** An object gives its members, in whatever order and with whatever
blanks and escapes they are written, and leaves every other setting at its default; a list of the
first values gives the same as an object of these values. An object is refused at the first name
that belongs to no setting or was given before, whatever follows it, and so is every object with
such a name. All members and all values can be written. -/
theorem ofAttributes_decodes :
    (∀ (c : Choice) (members : List Given) (text : String), members.Perm c.given →
      Written text (objectTokens (members.map Given.entry)) →
        ofAttributes (some text) none = .ok c.settings) ∧
    (∀ (c : Choice) (members : List Given) (list object : String),
      c.given.map Given.field <+: Field.all → members.Perm c.given →
      Written list (listTokens (c.given.map Given.valueTokens)) →
      Written object (objectTokens (members.map Given.entry)) →
        ofAttributes (some list) none = ofAttributes (some object) none) ∧
    (∀ (earlier : List Given) (key : String) (front : List Char) (text : String),
      (∀ field : Field, field.key = key → ∃ g ∈ earlier, g.field = field) →
      Writes front (openingTokens (earlier.map Given.entry) key) → front <+: text.toList →
        ∃ fault, ofAttributes (some text) none = .error (.malformed fault)) ∧
    (∀ (members : List (String × List Token)) (text : String),
      (∀ m ∈ members, (∃ g, Given.entry g = m) ∨ ∀ field : Field, field.key ≠ m.1) →
      (¬ (members.map Prod.fst).Nodup ∨ ∃ m ∈ members, ∀ field : Field, field.key ≠ m.1) →
      Written text (objectTokens members) →
        ∃ fault, ofAttributes (some text) none = .error (.malformed fault)) ∧
    ∀ given : List Given, (∃ text, Written text (objectTokens (given.map Given.entry))) ∧
      ∃ text, Written text (listTokens (given.map Given.valueTokens)) := by
  refine ⟨fun c _ _ hperm h ↦ ofAttributes_object c hperm h, ?list, ?prefixes, ?objects, ?texts⟩
  case list =>
    intro c members list object hfirst hperm hlist hobject
    rw [ofAttributes_object c hperm hobject, ofAttributes_list hfirst hlist, c.foldl_given]
  case prefixes =>
    intro earlier key front text hgiven h hfront
    have hblank := isBlankText_eq_false hfront (.inl rfl) h
    obtain ⟨rest, hrest⟩ := hfront
    refine exists_ofAttributes_eq_error
      (fun field hfield ↦ List.mem_map.mpr (hgiven field hfield)) hblank ?_
    rw [← hrest, Json.scan_append_of_writes h]
    exact List.prefix_append _ _
  case objects =>
    intro members text hshape hbad h
    obtain ⟨earlier, m, later, rfl, hsurplus⟩ := exists_surplus hshape hbad
    have hblank := isBlankText_eq_false (List.prefix_refl _) (.inl rfl) h
    refine exists_ofAttributes_eq_error hsurplus hblank ?_
    rw [Json.scan_of_writes h]
    exact openingTokens_prefix _ _ _
  case texts =>
    intro given
    have hplain : ∀ g ∈ given, g.valueTokens.all isPlain = true := fun g _ ↦
      all_isPlain_valueTokens g
    exact ⟨exists_written (all_isPlain_objectTokens (List.forall_mem_map.mpr hplain)),
      exists_written (all_isPlain_listTokens (List.forall_mem_map.mpr hplain))⟩

/-- A tagged method behind another member, with an escaped name; a list of two values; a repeated
name in front of a text that is no JSON; and a misspelled name. -/
theorem ofAttributes_decodes_sample :
    ofAttributes
      (some "\x7b\"busy_class\" : \"wait\",\n\"str\\u0061tegy\":\x7b\"rename\":null\x7d \x7d")
      none = .ok { method := .rename, busyClass := "wait" } ∧
    ofAttributes (some "[\"rename\", \"why\"]") none =
      ofAttributes (some "\x7b\"argument_name\":\"why\",\"strategy\":\"rename\"\x7d") none ∧
    (∃ fault, ofAttributes (some "\x7b\"busy_class\":\"\",\"busy_class\"?") none =
      .error (.malformed fault)) ∧
    ∃ fault, ofAttributes (some "\x7b\"strategie\":\"rename\"\x7d") none =
      .error (.malformed fault) := by
  refine ⟨?object, ?list, ?repeated, ?unknown⟩
  case object =>
    exact ofAttributes_decodes.1 { method := some (.rename, true), busyClass := some "wait" }
      [.busyClass "wait", .method .rename true] _ (.swap ..)
      (writes_of_scan rfl (by decide +kernel))
  case list =>
    exact ofAttributes_decodes.2.1
      { method := some (.rename, false), argumentName := some "why" }
      [.argumentName "why", .method .rename false] _ _ ⟨[.ignoredName, .busyClass], rfl⟩
      (.swap ..) (writes_of_scan rfl (by decide +kernel)) (writes_of_scan rfl (by decide +kernel))
  case repeated =>
    exact ofAttributes_decodes.2.2.1 [.busyClass ""] "busy_class"
      "\x7b\"busy_class\":\"\",\"busy_class\"".toList _
      (fun _ hfield ↦ ⟨.busyClass "", List.mem_cons_self, key_injective hfield.symm⟩)
      (writes_of_scan rfl (by decide +kernel)) ⟨['?'], by decide⟩
  case unknown =>
    have hnone : ∀ field : Field, field.key ≠ "strategie" := by
      intro field
      cases field <;> decide
    exact ofAttributes_decodes.2.2.2.1 [("strategie", [.text "rename"])] _
      (List.forall_mem_singleton.mpr (.inr hnone)) (.inr ⟨_, List.mem_cons_self, hnone⟩)
      (writes_of_scan rfl (by decide +kernel))

end AccessForm.Settings
