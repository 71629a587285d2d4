import AccessForm.Json.Token
import AccessForm.Proofs.Spelling

/-!
# How tokens are written

A JSON text is a row of tokens with blanks around them: spaces, tabulators, line feeds and carriage
returns, as many as the author likes. The relation `Writes` says so without any regard to the
scanner. Numbers are left out, since no reader of this project wants one.

The main statement is `scan_eq_iff`: scanning a text yields a row of such tokens exactly when the
text writes the row. So a reader that is correct on tokens is correct on texts, whatever blanks and
escapes the text uses.
-/

namespace AccessForm.Json

/-- How one token is written. -/
inductive WritesToken : List Char → Token → Prop
  | openList : WritesToken ['['] .openList
  | closeList : WritesToken [']'] .closeList
  | openObject : WritesToken ['\x7b'] .openObject
  | closeObject : WritesToken ['\x7d'] .closeObject
  | comma : WritesToken [','] .comma
  | colon : WritesToken [':'] .colon
  | null : WritesToken ['n', 'u', 'l', 'l'] .null
  | true : WritesToken ['t', 'r', 'u', 'e'] (.bool .true)
  | false : WritesToken ['f', 'a', 'l', 's', 'e'] (.bool .false)
  | text {w : List Char} {s : String} (h : SpellsText w s.toList) :
      WritesToken ('"' :: w ++ ['"']) (.text s)

/-- A run of blanks. -/
def Gap (g : List Char) : Prop := ∀ c ∈ g, c = ' ' ∨ c = '\t' ∨ c = '\n' ∨ c = '\r'

/-- The texts that write a row of tokens, with gaps before, between and behind them. -/
inductive Writes : List Char → List Token → Prop
  | nil {g : List Char} (hg : Gap g) : Writes g []
  | cons {g w cs : List Char} {t : Token} {ts : List Token} (hg : Gap g) (hw : WritesToken w t)
      (h : Writes cs ts) : Writes (g ++ w ++ cs) (t :: ts)

theorem gap_nil : Gap [] := by simp [Gap]

theorem exists_writesToken_text (s : String) : ∃ w, WritesToken w (.text s) := by
  obtain ⟨w, hw⟩ := exists_spellsText s.toList
  exact ⟨_, .text hw⟩

theorem exists_writes {ts : List Token} (hts : ∀ t ∈ ts, ∃ w, WritesToken w t) :
    ∃ cs, Writes cs ts := by
  induction ts with
  | nil => exact ⟨[], .nil gap_nil⟩
  | cons t ts ih =>
    obtain ⟨⟨w, hw⟩, hts⟩ := List.forall_mem_cons.mp hts
    obtain ⟨cs, hcs⟩ := ih hts
    exact ⟨[] ++ w ++ cs, .cons gap_nil hw hcs⟩

/-! ## From the text to its tokens -/

private theorem isSeparator_iff {c : Char} :
    isSeparator c = true ↔ c = ' ' ∨ c = '\t' ∨ c = '\n' ∨ c = '\r' := by
  simp [isSeparator, or_assoc]

private theorem scan_gap {g : List Char} (hg : Gap g) (cs : List Char) :
    Token.scan (g ++ cs) = Token.scan cs := by
  induction g with
  | nil => rfl
  | cons c g ih =>
    obtain ⟨hc, hg⟩ := List.forall_mem_cons.mp hg
    rw [List.cons_append, Token.scan, if_pos (isSeparator_iff.mpr hc), ih hg]

private theorem scan_first {c : Char} (hc : isSeparator c = false) {t : Token} {cs rest : List Char}
    (h : Token.first c cs = (t, rest)) : Token.scan (c :: cs) = t :: Token.scan rest := by
  rw [Token.scan, hc, h]
  rfl

private theorem scan_writesToken {w : List Char} {t : Token} (hw : WritesToken w t)
    (cs : List Char) : Token.scan (w ++ cs) = t :: Token.scan cs := by
  induction hw with
  | @text w s h =>
    have hread : readLiteral (w ++ '"' :: cs) = .ok (s.toList, cs) :=
      readLiteral_eq_ok_iff.mpr ⟨w, h, rfl⟩
    have hfirst : Token.first '"' (w ++ '"' :: cs) = (.text s, cs) := by
      simp only [Token.first_quotationMark, hread, String.ofList_toList]
    simpa using scan_first rfl hfirst
  | _ => exact scan_first rfl rfl

/-- What writes a row of tokens is scanned into this row, whatever follows it. -/
theorem scan_append_of_writes {cs : List Char} {ts : List Token} (h : Writes cs ts)
    (rest : List Char) : Token.scan (cs ++ rest) = ts ++ Token.scan rest := by
  induction h with
  | nil hg => rw [scan_gap hg, List.nil_append]
  | cons hg hw _ ih =>
    rw [List.append_assoc, List.append_assoc, scan_gap hg, scan_writesToken hw, ih,
      List.cons_append]

theorem scan_of_writes {cs : List Char} {ts : List Token} (h : Writes cs ts) :
    Token.scan cs = ts := by
  have hscan := scan_append_of_writes h []
  rwa [List.append_nil, Token.scan, List.append_nil] at hscan

/-! ## From the tokens to their text -/

private theorem Writes.blank {c : Char} (hc : c = ' ' ∨ c = '\t' ∨ c = '\n' ∨ c = '\r')
    {cs : List Char} {ts : List Token} (h : Writes cs ts) : Writes (c :: cs) ts := by
  obtain hg | ⟨hg, hw, h⟩ := h
  · exact .nil (List.forall_mem_cons.mpr ⟨hc, hg⟩)
  · exact .cons (List.forall_mem_cons.mpr ⟨hc, hg⟩) hw h

private theorem readWord_eq_ok_iff {word cs rest : List Char} :
    readWord word cs = .ok rest ↔ cs = word ++ rest := by
  fun_induction readWord word cs with
  | case1 => simp [eq_comm]
  | case2 => simp
  | case3 w ws cs ih => simp [ih]
  | case4 w ws c cs hne => simp [hne]

private theorem writesToken_of_lookup {c : Char} {t : Token}
    (h : punctuation.lookup c = some t) : WritesToken [c] t := by
  obtain ⟨before, behind, hsplit, -⟩ := List.lookup_eq_some_iff.mp h
  have hmem : (c, t) ∈ punctuation := by simp [hsplit]
  simp only [punctuation, List.mem_cons, Prod.mk.injEq, List.not_mem_nil, or_false] at hmem
  obtain ⟨rfl, rfl⟩ | ⟨rfl, rfl⟩ | ⟨rfl, rfl⟩ | ⟨rfl, rfl⟩ | ⟨rfl, rfl⟩ | ⟨rfl, rfl⟩ := hmem <;>
    constructor

private theorem writesToken_of_lookup_words {c : Char} {word : List Char} {t : Token}
    (h : words.lookup c = some (word, t)) : WritesToken (c :: word) t := by
  obtain ⟨before, behind, hsplit, -⟩ := List.lookup_eq_some_iff.mp h
  have hmem : (c, word, t) ∈ words := by simp [hsplit]
  simp only [words, List.mem_cons, Prod.mk.injEq, List.not_mem_nil, or_false] at hmem
  obtain ⟨rfl, rfl, rfl⟩ | ⟨rfl, rfl, rfl⟩ | ⟨rfl, rfl, rfl⟩ := hmem <;> constructor

/-- Tokens with a fault are not written by anything. -/
@[simp] theorem not_writesToken_brokenText {w : List Char} {f : Fault} :
    ¬ WritesToken w (.brokenText f) := nofun

@[simp] theorem not_writesToken_brokenScalar {w : List Char} {f : Fault} :
    ¬ WritesToken w (.brokenScalar f) := nofun

private theorem exists_writesToken_first {v : List Char} {c : Char} {cs : List Char}
    (h : WritesToken v (Token.first c cs).1) :
    ∃ w, WritesToken w (Token.first c cs).1 ∧ c :: cs = w ++ (Token.first c cs).2 := by
  by_cases hquote : c = '"'
  · subst hquote
    rw [Token.first_quotationMark] at h ⊢
    rcases hread : readLiteral cs with f | ⟨cs', rest⟩
    · simp [hread] at h
    · obtain ⟨w, hw, rfl⟩ := readLiteral_eq_ok_iff.mp hread
      refine ⟨'"' :: w ++ ['"'], .text ?_, by simp⟩
      rwa [String.toList_ofList]
  obtain hmark | ⟨t, hmark⟩ := Option.eq_none_or_eq_some (punctuation.lookup c)
  · obtain hword | ⟨⟨word, t⟩, hword⟩ := Option.eq_none_or_eq_some (words.lookup c)
    · obtain ⟨n, hn⟩ | ⟨f, hf⟩ | hstray := Token.first_other hquote hmark hword cs
      · rw [hn] at h
        nomatch h
      · rw [hf] at h
        nomatch h
      · rw [hstray] at h
        nomatch h
    · rw [Token.first_word hword] at h ⊢
      rcases hread : readWord word cs with f | rest
      · simp [hread] at h
      · refine ⟨c :: word, writesToken_of_lookup_words hword, ?_⟩
        rw [List.cons_append, readWord_eq_ok_iff.mp hread]
  · rw [Token.first_punctuation hmark]
    exact ⟨[c], writesToken_of_lookup hmark, rfl⟩

/-- **Scanning.** The scanner yields a row of tokens that can be written exactly from the texts that
write it. -/
theorem scan_eq_iff {cs : List Char} {ts : List Token} (hts : ∀ t ∈ ts, ∃ w, WritesToken w t) :
    Token.scan cs = ts ↔ Writes cs ts := by
  refine ⟨?_, scan_of_writes⟩
  rintro rfl
  fun_induction Token.scan cs with
  | case1 => exact .nil gap_nil
  | case2 c cs hc ih => exact (ih hts).blank (isSeparator_iff.mp hc)
  | case3 c cs hc ih =>
    obtain ⟨⟨v, hv⟩, hrest⟩ := List.forall_mem_cons.mp hts
    obtain ⟨w, hw, hcs⟩ := exists_writesToken_first hv
    rw [hcs]
    exact .cons gap_nil hw (ih hrest)

end AccessForm.Json
