import AccessForm.Json.Literal
import AccessForm.Json.Numeral

/-!
# Tokens of JSON texts

A JSON text as the list of its tokens, without the blanks between them. Reading tokens never fails:
a literal or number with a fault becomes a token that carries the fault, and nothing is read behind
it. So whoever reads the tokens meets the faults in the order of the text, and a fault that stands
behind the place where the reader stops is never seen.
-/

namespace AccessForm.Json

/-- The four characters that may separate tokens. -/
def isSeparator (c : Char) : Bool := c == ' ' || c == '\t' || c == '\n' || c == '\r'

/-- The tokens of a JSON text. -/
inductive Token where
  | openList
  | closeList
  | openObject
  | closeObject
  | comma
  | colon
  | null
  | bool (b : Bool)
  | number (n : Number)
  | text (s : String)
  | brokenText (f : Fault)
  | brokenScalar (f : Fault)
  | stray (c : Char)
  deriving DecidableEq, Repr

/-! ## Single tokens -/

/-- What follows the letters of a word, when the text begins with them. -/
def readWord : List Char → List Char → Except Fault (List Char)
  | [], cs => .ok cs
  | _ :: _, [] => .error .endInValue
  | w :: ws, c :: cs => if c = w then readWord ws cs else .error .expectedLiteral

/-- The token for a word that has to follow its first letter. -/
private def wordToken (word : List Char) (token : Token) (cs : List Char) : Token × List Char :=
  match readWord word cs with
  | .ok rest => (token, rest)
  | .error f => (.brokenScalar f, [])

/-- The token for a number. -/
private def numberToken (cs : List Char) : Token × List Char :=
  match readNumeral cs with
  | .ok (n, rest) =>
    match n.value with
    | .ok v => (.number v, rest)
    | .error f => (.brokenScalar f, [])
  | .error f => (.brokenScalar f, [])

/-- The token for a text literal, behind its opening quotation mark. -/
private def textToken (cs : List Char) : Token × List Char :=
  match readLiteral cs with
  | .ok (text, rest) => (.text (String.ofList text), rest)
  | .error f => (.brokenText f, [])

/-- The tokens of one character. -/
def punctuation : List (Char × Token) :=
  [('[', .openList), (']', .closeList), ('\x7b', .openObject), ('\x7d', .closeObject),
   (',', .comma), (':', .colon)]

/-- The tokens that are words, each with the first letter and the others. -/
def words : List (Char × List Char × Token) :=
  [('n', ['u', 'l', 'l'], .null), ('t', ['r', 'u', 'e'], .bool true),
   ('f', ['a', 'l', 's', 'e'], .bool false)]

/-- The token that begins with `c`, and what follows it. -/
def Token.first (c : Char) (cs : List Char) : Token × List Char :=
  if c = '"' then textToken cs
  else match punctuation.lookup c with
    | some token => (token, cs)
    | none =>
      match words.lookup c with
      | some (word, token) => wordToken word token cs
      | none => if c = '-' ∨ c.isDigit then numberToken (c :: cs) else (.stray c, cs)

/-! ## What a token reads -/

theorem Token.first_quotationMark (cs : List Char) :
    Token.first '"' cs = match readLiteral cs with
      | .ok (cs', rest) => (.text (String.ofList cs'), rest)
      | .error f => (.brokenText f, []) := rfl

theorem Token.first_punctuation {c : Char} {token : Token} (h : punctuation.lookup c = some token)
    (cs : List Char) : Token.first c cs = (token, cs) := by
  have hquote : c ≠ '"' := by
    rintro rfl
    simp [show punctuation.lookup '"' = none from rfl] at h
  simp [Token.first, hquote, h]

theorem Token.first_word {c : Char} {word : List Char} {token : Token}
    (h : words.lookup c = some (word, token)) (cs : List Char) :
    Token.first c cs = match readWord word cs with
      | .ok rest => (token, rest)
      | .error f => (.brokenScalar f, []) := by
  have hquote : c ≠ '"' := by
    rintro rfl
    simp [show words.lookup '"' = none from rfl] at h
  have hmark : punctuation.lookup c = none := by
    obtain ⟨before, behind, hwords, -⟩ := List.lookup_eq_some_iff.mp h
    have hmem : (c, word, token) ∈ words := by simp [hwords]
    revert hmem
    simp only [words, List.mem_cons, Prod.mk.injEq, List.not_mem_nil, or_false]
    rintro (⟨rfl, -⟩ | ⟨rfl, -⟩ | ⟨rfl, -⟩) <;> decide
  simp only [Token.first, hquote, if_false, hmark, h]
  rfl

/-- Whatever begins neither a text literal nor a mark nor a word is read as a number, or not at
all. -/
theorem Token.first_other {c : Char} (hquote : c ≠ '"') (hmark : punctuation.lookup c = none)
    (hword : words.lookup c = none) (cs : List Char) :
    (∃ n, (Token.first c cs).1 = .number n) ∨ (∃ f, (Token.first c cs).1 = .brokenScalar f) ∨
      (Token.first c cs).1 = .stray c := by
  simp only [Token.first, hquote, if_false, hmark, hword]
  split
  · unfold numberToken
    split
    · split
      · exact .inl ⟨_, rfl⟩
      · exact .inr (.inl ⟨_, rfl⟩)
    · exact .inr (.inl ⟨_, rfl⟩)
  · exact .inr (.inr rfl)

/-! ## What a token leaves -/

theorem length_of_readWord {ws cs rest : List Char} (h : readWord ws cs = .ok rest) :
    rest.length ≤ cs.length := by
  fun_induction readWord ws cs with
  | case1 => cases h; exact Nat.le_refl _
  | case2 => cases h
  | case3 w ws cs ih => exact Nat.le_succ_of_le (ih h)
  | case4 => cases h

private theorem length_wordToken (word : List Char) (token : Token) (cs : List Char) :
    (wordToken word token cs).2.length ≤ cs.length := by
  unfold wordToken
  split
  · next h => exact length_of_readWord h
  · simp

private theorem length_numberToken (cs : List Char) (h : cs ≠ []) :
    (numberToken cs).2.length < cs.length := by
  have := List.length_pos_iff.mpr h
  unfold numberToken
  split
  · next hn =>
    split
    · exact length_of_readNumeral hn
    · simpa
  · simpa

private theorem length_textToken (cs : List Char) : (textToken cs).2.length ≤ cs.length := by
  unfold textToken
  split
  · next h => exact Nat.le_of_lt (length_of_readLiteral h)
  · simp

theorem Token.length_first (c : Char) (cs : List Char) :
    (Token.first c cs).2.length ≤ cs.length := by
  unfold Token.first
  split
  · exact length_textToken cs
  · split
    · exact Nat.le_refl _
    · split
      · exact length_wordToken ..
      · split
        · exact Nat.le_of_lt_succ (length_numberToken (c :: cs) (by simp))
        · exact Nat.le_refl _

/-! ## All tokens -/

/-- The tokens of a text, in order. -/
def Token.scan : List Char → List Token
  | [] => []
  | c :: cs =>
    if isSeparator c then scan cs
    else (Token.first c cs).1 :: scan (Token.first c cs).2
termination_by cs => cs.length
decreasing_by
  · simp
  · have := Token.length_first c cs
    simp only [List.length_cons]
    omega

end AccessForm.Json
