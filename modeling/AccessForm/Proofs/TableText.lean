import AccessForm.Proofs.Writing
import AccessForm.Table.Json

/-!
# The texts of tables

The table reader accepts exactly the texts of one JSON object whose members are lists of texts.
What such a text looks like is said twice over: `objectTokens` gives the tokens of a list of
members, and `Written` the texts that write these tokens, with any blanks and any escapes.

The main statement is `ofJson_decodes`. A text is malformed exactly when it writes no members at
all. One that writes members is judged as the directory of their last values; and every list of
members, whatever its names and arguments, is written by some text.
-/

namespace AccessForm.Table

open Json (Fault Token Writes WritesToken)

/-! ## Tokens of a table -/

/-- The tokens of a list of texts. -/
def listTokens (texts : List String) : List Token :=
  .openList :: [Token.comma].intercalate (texts.map fun s ↦ [.text s]) ++ [.closeList]

/-- The tokens of a member: its name, a colon and its list. -/
def memberTokens (m : String × List String) : List Token :=
  .text m.1 :: .colon :: listTokens m.2

/-- The tokens of an object. -/
def objectTokens (members : List (String × List String)) : List Token :=
  .openObject :: [Token.comma].intercalate (members.map memberTokens) ++ [.closeObject]

/-- A JSON text that writes an object with these members, in this order. -/
def Written (text : String) (members : List (String × List String)) : Prop :=
  Writes text.toList (objectTokens members)

theorem intercalate_map_cons {α β : Type} (sep : List β) (f : α → List β) (a : α) (as : List α) :
    sep.intercalate ((a :: as).map f) = f a ++ as.flatMap fun b ↦ sep ++ f b := by
  induction as generalizing a with
  | nil => simp
  | cons b as ih =>
    rw [List.map_cons, List.map_cons, List.intercalate_cons_cons, ← List.map_cons, ih,
      List.flatMap_cons, List.append_assoc, List.append_assoc]

/-! ## Reading the tokens -/

private theorem readMoreTexts_eq_ok_iff {ts rest : List Token} {texts : List String} :
    readMoreTexts ts = .ok (texts, rest) ↔
      ts = (texts.flatMap fun s ↦ [.comma] ++ [.text s]) ++ .closeList :: rest := by
  constructor
  · intro h
    fun_induction readMoreTexts ts generalizing texts with
    | case2 =>
      simp only [Except.ok.injEq, Prod.mk.injEq] at h
      obtain ⟨rfl, rfl⟩ := h
      rfl
    | case5 s tail ih =>
      obtain ⟨texts', rfl, htail⟩ := Json.map_cons_eq_ok_iff.mp h
      rw [ih htail]
      rfl
    | _ => simp at h
  · rintro rfl
    induction texts with
    | nil => rfl
    | cons s texts ih => exact Json.map_cons_eq_ok_iff.mpr ⟨texts, rfl, ih⟩

private theorem readTexts_eq_ok_iff {ts rest : List Token} {texts : List String} :
    readTexts ts = .ok (texts, rest) ↔
      ts = [Token.comma].intercalate (texts.map fun s ↦ [.text s]) ++ .closeList :: rest := by
  constructor
  · intro h
    unfold readTexts at h
    split at h
    · simp at h
    · simp only [Except.ok.injEq, Prod.mk.injEq] at h
      obtain ⟨rfl, rfl⟩ := h
      rfl
    · obtain ⟨texts', rfl, htail⟩ := Json.map_cons_eq_ok_iff.mp h
      rw [intercalate_map_cons, readMoreTexts_eq_ok_iff.mp htail]
      rfl
    · simp at h
  · rintro rfl
    obtain _ | ⟨s, texts⟩ := texts
    · rfl
    · rw [intercalate_map_cons]
      exact Json.map_cons_eq_ok_iff.mpr ⟨texts, rfl, readMoreTexts_eq_ok_iff.mpr rfl⟩

private theorem readArguments_eq_ok_iff {ts rest : List Token} {texts : List String} :
    readArguments ts = .ok (texts, rest) ↔ ts = listTokens texts ++ rest := by
  have hsplit : listTokens texts ++ rest = .openList ::
      ([Token.comma].intercalate (texts.map fun s ↦ [.text s]) ++ .closeList :: rest) := by
    simp [listTokens]
  rw [hsplit]
  unfold readArguments
  split
  · simp
  · next tail => rw [readTexts_eq_ok_iff, List.cons.injEq, and_iff_right rfl]
  · next hne =>
    simp only [reduceCtorEq, List.cons.injEq, false_iff, not_and]
    exact fun ht ↦ absurd ht hne

private theorem afterColon_eq_ok_iff {ts rest : List Token} :
    Json.afterColon ts = .ok rest ↔ ts = .colon :: rest := by
  unfold Json.afterColon
  split
  · simp
  · simp
  · next hne =>
    simp only [reduceCtorEq, List.cons.injEq, false_iff, not_and]
    exact fun ht ↦ absurd ht hne

private theorem readMember_eq_ok_iff {ts rest : List Token} {texts : List String} :
    readMember ts = .ok (texts, rest) ↔ ts = .colon :: (listTokens texts ++ rest) := by
  rw [readMember]
  constructor
  · intro h
    rcases hcolon : Json.afterColon ts with f | tail
    · simp [hcolon, Except.bind] at h
    · rw [hcolon] at h
      rw [afterColon_eq_ok_iff.mp hcolon, readArguments_eq_ok_iff.mp h]
  · intro h
    rw [afterColon_eq_ok_iff.mpr h]
    exact readArguments_eq_ok_iff.mpr rfl

private theorem readMember_listTokens (texts : List String) (rest : List Token) :
    readMember (.colon :: (listTokens texts ++ rest)) = .ok (texts, rest) :=
  readMember_eq_ok_iff.mpr rfl

private theorem readMoreMembers_eq_ok_iff {ts rest : List Token}
    {members : List (String × List String)} :
    readMoreMembers ts = .ok (members, rest) ↔
      ts = (members.flatMap fun m ↦ [.comma] ++ memberTokens m) ++ .closeObject :: rest := by
  constructor
  · intro h
    fun_induction readMoreMembers ts generalizing members with
    | case2 =>
      simp only [Except.ok.injEq, Prod.mk.injEq] at h
      obtain ⟨rfl, rfl⟩ := h
      rfl
    | case6 name ts texts tail hmember ih =>
      obtain ⟨members', rfl, htail⟩ := Json.map_cons_eq_ok_iff.mp h
      rw [readMember_eq_ok_iff.mp hmember, ih htail]
      simp [memberTokens]
    | _ => simp at h
  · rintro rfl
    induction members with
    | nil => simp [readMoreMembers]
    | cons m members ih =>
      simp only [List.flatMap_cons, memberTokens, List.cons_append, List.nil_append,
        List.append_assoc] at ih ⊢
      rw [readMoreMembers, readMember_listTokens]
      exact Json.map_cons_eq_ok_iff.mpr ⟨members, rfl, ih⟩

private theorem readMembers_eq_ok_iff {ts rest : List Token}
    {members : List (String × List String)} :
    readMembers ts = .ok (members, rest) ↔
      ts = [Token.comma].intercalate (members.map memberTokens) ++ .closeObject :: rest := by
  constructor
  · intro h
    unfold readMembers at h
    split at h
    · simp at h
    · simp only [Except.ok.injEq, Prod.mk.injEq] at h
      obtain ⟨rfl, rfl⟩ := h
      rfl
    · split at h
      · simp at h
      · next hmember =>
        obtain ⟨members', rfl, htail⟩ := Json.map_cons_eq_ok_iff.mp h
        rw [readMember_eq_ok_iff.mp hmember, readMoreMembers_eq_ok_iff.mp htail,
          intercalate_map_cons]
        simp [memberTokens]
    · simp at h
  · rintro rfl
    obtain _ | ⟨m, members⟩ := members
    · rfl
    · rw [intercalate_map_cons, List.append_assoc, memberTokens, List.cons_append, List.cons_append,
        readMembers, readMember_listTokens]
      exact Json.map_cons_eq_ok_iff.mpr ⟨members, rfl, readMoreMembers_eq_ok_iff.mpr rfl⟩

/-- The reader of objects accepts the tokens of its members and nothing else. -/
theorem readObject_eq_ok_iff {ts : List Token} {members : List (String × List String)} :
    readObject ts = .ok members ↔ ts = objectTokens members := by
  constructor
  · intro h
    unfold readObject at h
    split at h
    · simp at h
    · next tail =>
      rcases hread : readMembers tail with f | ⟨members', rest⟩
      · simp [hread, Except.bind] at h
      · obtain _ | ⟨t, rest⟩ := rest
        · simp only [hread, Except.bind, Json.atEnd, Except.map, Except.ok.injEq] at h
          obtain rfl := h
          rw [readMembers_eq_ok_iff.mp hread]
          rfl
        · simp [hread, Except.bind, Json.atEnd, Except.map] at h
    · simp at h
  · rintro rfl
    have hread : readMembers ([Token.comma].intercalate (members.map memberTokens) ++
        [.closeObject]) = .ok (members, []) := readMembers_eq_ok_iff.mpr rfl
    rw [objectTokens, List.cons_append, readObject, hread]
    rfl

/-! ## Reading the text -/

theorem mem_intercalate {α : Type} {sep : List α} {ls : List (List α)} {a : α}
    (h : a ∈ sep.intercalate ls) : a ∈ sep ∨ ∃ l ∈ ls, a ∈ l := by
  induction ls with
  | nil => simp at h
  | cons l ls ih =>
    obtain _ | ⟨l', ls⟩ := ls
    · exact .inr ⟨l, List.mem_cons_self, by simpa using h⟩
    · rw [List.intercalate_cons_cons, List.append_assoc, List.mem_append, List.mem_append] at h
      obtain hl | hsep | hls := h
      · exact .inr ⟨l, List.mem_cons_self, hl⟩
      · exact .inl hsep
      · exact (ih hls).imp_right fun ⟨k, hk, ha⟩ ↦ ⟨k, List.mem_cons_of_mem _ hk, ha⟩

private theorem exists_writesToken_of_mem_listTokens {texts : List String} {t : Token}
    (h : t ∈ listTokens texts) : ∃ w, WritesToken w t := by
  rw [listTokens, List.mem_append, List.mem_cons, List.mem_singleton] at h
  obtain (rfl | h) | rfl := h
  · exact ⟨_, .openList⟩
  · obtain hcomma | ⟨l, hl, ht⟩ := mem_intercalate h
    · obtain rfl := List.mem_singleton.mp hcomma
      exact ⟨_, .comma⟩
    · obtain ⟨s, -, rfl⟩ := List.mem_map.mp hl
      exact List.mem_singleton.mp ht ▸ Json.exists_writesToken_text s
  · exact ⟨_, .closeList⟩

private theorem exists_writesToken_of_mem_objectTokens {members : List (String × List String)}
    {t : Token} (h : t ∈ objectTokens members) : ∃ w, WritesToken w t := by
  rw [objectTokens, List.mem_append, List.mem_cons, List.mem_singleton] at h
  obtain (rfl | h) | rfl := h
  · exact ⟨_, .openObject⟩
  · obtain hcomma | ⟨l, hl, ht⟩ := mem_intercalate h
    · obtain rfl := List.mem_singleton.mp hcomma
      exact ⟨_, .comma⟩
    · obtain ⟨m, -, rfl⟩ := List.mem_map.mp hl
      rw [memberTokens, List.mem_cons, List.mem_cons] at ht
      obtain rfl | rfl | ht := ht
      · exact Json.exists_writesToken_text m.1
      · exact ⟨_, .colon⟩
      · exact exists_writesToken_of_mem_listTokens ht
  · exact ⟨_, .closeObject⟩

/-- Every list of members is written by some text. -/
theorem exists_written (members : List (String × List String)) :
    ∃ text, Written text members := by
  obtain ⟨cs, hcs⟩ : ∃ cs, Writes cs (objectTokens members) :=
    Json.exists_writes fun _ ↦ exists_writesToken_of_mem_objectTokens
  exact ⟨String.ofList cs, by rwa [Written, String.toList_ofList]⟩

/-- A text writes members when their tokens are scanned from it. -/
theorem written_iff_scan {text : String} {members : List (String × List String)} :
    Written text members ↔ Token.scan text.toList = objectTokens members :=
  (Json.scan_eq_iff fun _ ↦ exists_writesToken_of_mem_objectTokens).symm

private theorem readObject_scan_eq_ok_iff {text : String} {members : List (String × List String)} :
    readObject (Token.scan text.toList) = .ok members ↔ Written text members := by
  rw [readObject_eq_ok_iff, written_iff_scan]

/-! ## Decoding -/

/-- What is wrong with a table that was read is not its text. -/
theorem ofArguments_ne_malformed (raw : Directory (List String)) (fault : Fault) :
    ofArguments raw ≠ .error (.malformed fault) := by
  rw [Ne, ofArguments_eq_error_iff]
  intro h
  obtain ⟨-, e, -, -, he, -⟩ := List.findSome?_eq_some_iff.mp h
  unfold flaw? at he
  split at he
  · simp at he
  · split at he <;> simp at he

theorem ofJson_of_written {text : String} {members : List (String × List String)}
    (h : Written text members) : ofJson text = ofArguments (.ofList members) := by
  rw [ofJson, readObject_scan_eq_ok_iff.mpr h]

private theorem exists_malformed_iff {text : String} :
    (∃ fault, ofJson text = .error (.malformed fault)) ↔ ¬ ∃ members, Written text members := by
  constructor
  · rintro ⟨fault, hfault⟩ ⟨members, h⟩
    rw [ofJson_of_written h] at hfault
    exact ofArguments_ne_malformed _ _ hfault
  · intro h
    rcases hread : readObject (Token.scan text.toList) with fault | members
    · exact ⟨fault, by rw [ofJson, hread]⟩
    · exact absurd ⟨members, readObject_scan_eq_ok_iff.mp hread⟩ h

/-- **Decoding of tables.** A text is malformed exactly when it writes no object of lists of texts.
Otherwise the table, or what is wrong with it, is that of the directory in which every name has the
list of its last member. Every list of members is written by some text. -/
theorem ofJson_decodes :
    (∀ text, (∃ fault, ofJson text = .error (.malformed fault)) ↔
      ¬ ∃ members, Written text members) ∧
    (∀ text members, Written text members → ∃ raw : Directory (List String),
      (∀ name, raw.find? name = members.reverse.lookup name) ∧ ofJson text = ofArguments raw) ∧
    ∀ members, ∃ text, Written text members :=
  ⟨fun _ ↦ exists_malformed_iff,
    fun _ members h ↦ ⟨.ofList members, Directory.find?_ofList members, ofJson_of_written h⟩,
    exists_written⟩

/-- Two spellings of one name, the first with an empty list; the second list holds a character
behind the basic plane. -/
theorem ofJson_decodes_twoSpellings :
    Written "\x7b\"b\": [], \n\"\\u0062\" : [\"\\uD83D\\ude00\", \"\\t\"] \x7d"
      [("b", []), ("b", ["😀", "\t"])] ∧
    ∃ raw : Directory (List String),
      (∀ name, raw.find? name = [("b", ["😀", "\t"]), ("b", [])].lookup name) ∧
      ofJson "\x7b\"b\": [], \n\"\\u0062\" : [\"\\uD83D\\ude00\", \"\\t\"] \x7d" =
        ofArguments raw := by
  have h : Written "\x7b\"b\": [], \n\"\\u0062\" : [\"\\uD83D\\ude00\", \"\\t\"] \x7d"
      [("b", []), ("b", ["😀", "\t"])] := written_iff_scan.mpr (by decide +kernel)
  exact ⟨h, ofJson_decodes.2.1 _ _ h⟩

end AccessForm.Table
