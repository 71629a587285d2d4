import AccessForm.Json.Literal

/-!
# How texts are spelled

A JSON text spells every character of a text literal in one of four ways: the character itself, an
escape of one letter, the escape of its UTF-16 unit, or the escapes of its two surrogates. The
relation `Spells` lists them without any regard to a reader, and `SpellsText` strings them together.

The main statement is `readLiteral_eq_ok_iff`: reading a literal returns a text exactly when what
stands in front of the closing quotation mark spells that text. The other direction of the round
trip is `exists_spellsText`, since a spelling exists for every text whatever.
-/

namespace AccessForm.Json

/-! ## Spellings -/

/-- The hexadecimal digits with their values, letters of either case. -/
inductive HexDigit : Char → Nat → Prop
  | decimal {c : Char} {n : Nat} (hn : n < 10) (hc : c.toNat = 0x30 + n) : HexDigit c n
  | upper {c : Char} {n : Nat} (hn : n < 6) (hc : c.toNat = 0x41 + n) : HexDigit c (10 + n)
  | lower {c : Char} {n : Nat} (hn : n < 6) (hc : c.toNat = 0x61 + n) : HexDigit c (10 + n)

/-- The escape of a UTF-16 unit: `u` and four hexadecimal digits, the highest one first. -/
inductive SpellsUnit : List Char → Nat → Prop
  | mk {a b c d : Char} {i j k l : Nat} (ha : HexDigit a i) (hb : HexDigit b j) (hc : HexDigit c k)
      (hd : HexDigit d l) :
      SpellsUnit ['\\', 'u', a, b, c, d] (0x1000 * i + 0x100 * j + 0x10 * k + l)

/-- The letters of the short escapes with the characters they stand for. -/
inductive ShortEscape : Char → Char → Prop
  | quotationMark : ShortEscape '"' '"'
  | backslash : ShortEscape '\\' '\\'
  | slash : ShortEscape '/' '/'
  | backspace : ShortEscape 'b' '\x08'
  | formFeed : ShortEscape 'f' '\x0c'
  | lineFeed : ShortEscape 'n' '\n'
  | carriageReturn : ShortEscape 'r' '\r'
  | tabulator : ShortEscape 't' '\t'

/-- The ways to spell one character. -/
inductive Spells : List Char → Char → Prop
  /-- All but the control characters, the quotation mark and the backslash stand for themselves. -/
  | plain {c : Char} (hcontrol : 0x20 ≤ c.toNat) (hquote : c ≠ '"') (hbackslash : c ≠ '\\') :
      Spells [c] c
  | short {l c : Char} (h : ShortEscape l c) : Spells ['\\', l] c
  /-- A character of the basic plane is a unit by itself. -/
  | unit {w : List Char} {c : Char} (h : SpellsUnit w c.toNat) : Spells w c
  /-- A character behind the basic plane is two units, ten bits in each. -/
  | pair {v w : List Char} {c : Char} (hplane : 0x10000 ≤ c.toNat)
      (hlead : SpellsUnit v (0xD800 + (c.toNat - 0x10000) / 0x400))
      (htrail : SpellsUnit w (0xDC00 + (c.toNat - 0x10000) % 0x400)) : Spells (v ++ w) c

/-- The ways to spell a text, character by character. -/
inductive SpellsText : List Char → List Char → Prop
  | nil : SpellsText [] []
  | cons {w ws : List Char} {c : Char} {cs : List Char} (h : Spells w c) (hs : SpellsText ws cs) :
      SpellsText (w ++ ws) (c :: cs)

/-! ## Units -/

private theorem hexValue?_eq_some_iff {c : Char} {n : Nat} :
    hexValue? c = some n ↔ HexDigit c n := by
  have hle (a b : Char) : a ≤ b ↔ a.toNat ≤ b.toNat := by
    rw [Char.le_def, UInt32.le_iff_toNat_le]; rfl
  simp only [hexValue?, hle, show '0'.toNat = 0x30 from rfl, show '9'.toNat = 0x39 from rfl,
    show 'a'.toNat = 0x61 from rfl, show 'f'.toNat = 0x66 from rfl, show 'A'.toNat = 0x41 from rfl,
    show 'F'.toNat = 0x46 from rfl]
  constructor
  · intro h
    split at h
    · obtain rfl := Option.some.inj h
      exact .decimal (by omega) (by omega)
    · split at h
      · obtain rfl := Option.some.inj h
        rw [Nat.add_comm]
        exact .lower (by omega) (by omega)
      · split at h
        · obtain rfl := Option.some.inj h
          rw [Nat.add_comm]
          exact .upper (by omega) (by omega)
        · simp at h
  · rintro (⟨hn, hc⟩ | ⟨hn, hc⟩ | ⟨hn, hc⟩)
    · rw [if_pos (by omega)]
      exact congrArg some (by omega)
    · rw [if_neg (by omega), if_neg (by omega), if_pos (by omega)]
      exact congrArg some (by omega)
    · rw [if_neg (by omega), if_pos (by omega)]
      exact congrArg some (by omega)

private theorem HexDigit.lt {c : Char} {n : Nat} (h : HexDigit c n) : n < 16 := by
  obtain ⟨_, _⟩ | ⟨_, _⟩ | ⟨_, _⟩ := h <;> omega

private theorem toNat_ofNat_of_lt {n : Nat} (h : n < 0xD800 ∨ 0xDFFF < n ∧ n < 0x110000) :
    (Char.ofNat n).toNat = n := by
  rw [Char.ofNat, dif_pos h]
  rfl

private theorem toNat_lt_or (c : Char) : c.toNat < 0xD800 ∨ 0xDFFF < c.toNat ∧ c.toNat < 0x110000 :=
  c.valid

private theorem exists_hexDigit {n : Nat} (h : n < 16) : ∃ c, HexDigit c n := by
  by_cases hn : n < 10
  · exact ⟨Char.ofNat (0x30 + n), .decimal hn (toNat_ofNat_of_lt (.inl (by omega)))⟩
  · obtain ⟨m, rfl⟩ := Nat.exists_eq_add_of_le (Nat.not_lt.mp hn)
    exact ⟨Char.ofNat (0x41 + m), .upper (by omega) (toNat_ofNat_of_lt (.inl (by omega)))⟩

private theorem SpellsUnit.lt {w : List Char} {n : Nat} (h : SpellsUnit w n) : n < 0x10000 := by
  obtain ⟨ha, hb, hc, hd⟩ := h
  have := ha.lt
  have := hb.lt
  have := hc.lt
  have := hd.lt
  omega

private theorem exists_spellsUnit {n : Nat} (h : n < 0x10000) : ∃ w, SpellsUnit w n := by
  obtain ⟨a, ha⟩ := exists_hexDigit (n := n / 0x1000) (by omega)
  obtain ⟨b, hb⟩ := exists_hexDigit (n := n / 0x100 % 0x10) (by omega)
  obtain ⟨c, hc⟩ := exists_hexDigit (n := n / 0x10 % 0x10) (by omega)
  obtain ⟨d, hd⟩ := exists_hexDigit (n := n % 0x10) (by omega)
  have hn : 0x1000 * (n / 0x1000) + 0x100 * (n / 0x100 % 0x10) + 0x10 * (n / 0x10 % 0x10)
      + n % 0x10 = n := by omega
  exact ⟨['\\', 'u', a, b, c, d], hn ▸ .mk ha hb hc hd⟩

private theorem SpellsUnit.eq_cons {w : List Char} {n : Nat} (h : SpellsUnit w n) :
    ∃ v, w = '\\' :: 'u' :: v := by
  obtain ⟨-, -, -, -⟩ := h
  exact ⟨_, rfl⟩

private theorem unitValue?_eq_some_iff {a b c d : Char} {n : Nat} :
    unitValue? a b c d = some n ↔ SpellsUnit ['\\', 'u', a, b, c, d] n := by
  constructor
  · intro h
    simp only [unitValue?, Option.bind_eq_bind, Option.bind_eq_some_iff, Option.pure_def,
      Option.some.injEq, hexValue?_eq_some_iff] at h
    obtain ⟨i, ha, j, hb, k, hc, l, hd, rfl⟩ := h
    have hn : (i * 16 + j) * 256 + k * 16 + l = 0x1000 * i + 0x100 * j + 0x10 * k + l := by omega
    exact hn ▸ .mk ha hb hc hd
  · rintro ⟨ha, hb, hc, hd⟩
    rw [← hexValue?_eq_some_iff] at ha hb hc hd
    simp only [unitValue?, ha, hb, hc, hd, Option.bind_eq_bind, Option.bind_some, Option.pure_def,
      Option.some.injEq]
    omega

private theorem readUnit_eq_ok_iff {cs rest : List Char} {n : Nat} :
    readUnit cs = .ok (n, rest) ↔ ∃ w, SpellsUnit ('\\' :: 'u' :: w) n ∧ cs = w ++ rest := by
  constructor
  · intro h
    unfold readUnit at h
    split at h
    · next a b c d tail =>
      split at h
      · next hn =>
        simp only [Except.ok.injEq, Prod.mk.injEq] at h
        obtain ⟨rfl, rfl⟩ := h
        exact ⟨[a, b, c, d], unitValue?_eq_some_iff.mp hn, rfl⟩
      · simp at h
    · split at h <;> simp at h
  · rintro ⟨w, hw, rfl⟩
    obtain ⟨a, b, c, d, rfl⟩ : ∃ a b c d, w = [a, b, c, d] := by
      cases hw
      exact ⟨_, _, _, _, rfl⟩
    simp [readUnit, unitValue?_eq_some_iff.mpr hw]

/-! ## Escapes -/

private theorem lookup_letterEscapes_iff {l c : Char} :
    letterEscapes.lookup l = some c ↔ ShortEscape l c := by
  constructor
  · intro h
    obtain ⟨before, behind, hsplit, -⟩ := List.lookup_eq_some_iff.mp h
    have hmem : (l, c) ∈ letterEscapes := by simp [hsplit]
    simp only [letterEscapes, List.mem_cons, Prod.mk.injEq, List.not_mem_nil, or_false] at hmem
    rcases hmem with ⟨rfl, rfl⟩ | ⟨rfl, rfl⟩ | ⟨rfl, rfl⟩ | ⟨rfl, rfl⟩ | ⟨rfl, rfl⟩ | ⟨rfl, rfl⟩ |
      ⟨rfl, rfl⟩ | ⟨rfl, rfl⟩ <;> constructor
  · rintro ⟨⟩ <;> rfl

private theorem isLeading_iff {n : Nat} : isLeading n = true ↔ 0xD800 ≤ n ∧ n < 0xDC00 := by
  simp [isLeading]

private theorem isTrailing_iff {n : Nat} : isTrailing n = true ↔ 0xDC00 ≤ n ∧ n < 0xE000 := by
  simp [isTrailing]

/-- The two surrogates of a character, ten bits in each. -/
theorem pairedChar_eq_iff {lead trail : Nat} {c : Char} (hlead : isLeading lead = true)
    (htrail : isTrailing trail = true) :
    pairedChar lead trail = c ↔ 0x10000 ≤ c.toNat ∧
      lead = 0xD800 + (c.toNat - 0x10000) / 0x400 ∧
      trail = 0xDC00 + (c.toNat - 0x10000) % 0x400 := by
  rw [isLeading_iff] at hlead
  rw [isTrailing_iff] at htrail
  have hnum : (pairedChar lead trail).toNat =
      (lead - 0xD800) * 0x400 + (trail - 0xDC00) + 0x10000 :=
    toNat_ofNat_of_lt (.inr (by omega))
  rw [← Char.toNat_inj, hnum]
  omega

private theorem readTrailing_eq_ok_iff {lead : Nat} (hlead : isLeading lead = true)
    {cs rest : List Char} {c : Char} :
    readTrailing lead cs = .ok (c, rest) ↔
      0x10000 ≤ c.toNat ∧ lead = 0xD800 + (c.toNat - 0x10000) / 0x400 ∧
        ∃ w, SpellsUnit w (0xDC00 + (c.toNat - 0x10000) % 0x400) ∧ cs = w ++ rest := by
  constructor
  · intro h
    unfold readTrailing at h
    split at h
    · simp at h
    · simp at h
    · split at h
      · simp at h
      · next hread =>
        split at h
        · next ht =>
          simp only [Except.ok.injEq, Prod.mk.injEq] at h
          obtain ⟨hc, rfl⟩ := h
          obtain ⟨hplane, hl, htrail⟩ := (pairedChar_eq_iff hlead ht).mp hc
          obtain ⟨w, hw, rfl⟩ := readUnit_eq_ok_iff.mp hread
          exact ⟨hplane, hl, _, htrail ▸ hw, rfl⟩
        · simp at h
    · simp at h
  · rintro ⟨hplane, hl, w, hw, rfl⟩
    obtain ⟨v, rfl⟩ := hw.eq_cons
    have ht : isTrailing (0xDC00 + (c.toNat - 0x10000) % 0x400) = true :=
      isTrailing_iff.mpr (by omega)
    have hread : readUnit (v ++ rest) = .ok (0xDC00 + (c.toNat - 0x10000) % 0x400, rest) :=
      readUnit_eq_ok_iff.mpr ⟨v, hw, rfl⟩
    have hc := (pairedChar_eq_iff hlead ht).mpr ⟨hplane, hl, rfl⟩
    simp only [List.cons_append, readTrailing, hread, ht, if_true, hc]

private theorem toNat_ofNat_of_not_surrogate {n : Nat} (hlt : n < 0x10000)
    (ht : ¬ isTrailing n = true) (hl : ¬ isLeading n = true) : (Char.ofNat n).toNat = n := by
  rw [isTrailing_iff] at ht
  rw [isLeading_iff] at hl
  exact toNat_ofNat_of_lt (by omega)

/-- A short escape is no escape of a unit. -/
theorem ShortEscape.ne_unit {l c : Char} (h : ShortEscape l c) : l ≠ 'u' := by
  obtain _ | _ := h <;> decide

private theorem readEscape_short {l c : Char} (h : ShortEscape l c) (rest : List Char) :
    readEscape (l :: rest) = .ok (c, rest) := by
  unfold readEscape
  split
  · next heq => simp at heq
  · next heq => exact absurd (List.cons.inj heq).1 h.ne_unit
  · next heq =>
    obtain ⟨rfl, rfl⟩ := List.cons.inj heq
    simp [lookup_letterEscapes_iff.mpr h]

private theorem readEscape_unit {w : List Char} {c : Char}
    (h : SpellsUnit ('\\' :: 'u' :: w) c.toNat)
    (rest : List Char) : readEscape ('u' :: w ++ rest) = .ok (c, rest) := by
  have hread : readUnit (w ++ rest) = .ok (c.toNat, rest) := readUnit_eq_ok_iff.mpr ⟨w, h, rfl⟩
  have hvalid := toNat_lt_or c
  have ht : ¬ isTrailing c.toNat = true := by rw [isTrailing_iff]; omega
  have hl : ¬ isLeading c.toNat = true := by rw [isLeading_iff]; omega
  simp [readEscape, hread, ht, hl, Char.ofNat_toNat]

private theorem readEscape_pair {v w : List Char} {c : Char} (hplane : 0x10000 ≤ c.toNat)
    (hlead : SpellsUnit ('\\' :: 'u' :: v) (0xD800 + (c.toNat - 0x10000) / 0x400))
    (htrail : SpellsUnit w (0xDC00 + (c.toNat - 0x10000) % 0x400)) (rest : List Char) :
    readEscape ('u' :: v ++ (w ++ rest)) = .ok (c, rest) := by
  have hvalid := toNat_lt_or c
  have hl : isLeading (0xD800 + (c.toNat - 0x10000) / 0x400) = true :=
    isLeading_iff.mpr (by omega)
  have ht : ¬ isTrailing (0xD800 + (c.toNat - 0x10000) / 0x400) = true := by
    rw [isTrailing_iff]
    omega
  have hread : readUnit (v ++ (w ++ rest)) =
      .ok (0xD800 + (c.toNat - 0x10000) / 0x400, w ++ rest) :=
    readUnit_eq_ok_iff.mpr ⟨v, hlead, rfl⟩
  simp only [List.cons_append, readEscape, hread, ht, hl, if_true, if_false, Bool.false_eq_true]
  exact (readTrailing_eq_ok_iff hl).mpr ⟨hplane, rfl, w, htrail, rfl⟩

/-- Behind a backslash, the reader accepts exactly the escapes. -/
theorem readEscape_eq_ok_iff {cs rest : List Char} {c : Char} :
    readEscape cs = .ok (c, rest) ↔ ∃ w, Spells ('\\' :: w) c ∧ cs = w ++ rest := by
  constructor
  · intro h
    unfold readEscape at h
    split at h
    · simp at h
    · split at h
      · simp at h
      · next hread =>
        obtain ⟨v, hv, rfl⟩ := readUnit_eq_ok_iff.mp hread
        split at h
        · simp at h
        · next ht =>
          split at h
          · -- a leading surrogate is half a character
            next hl =>
            obtain ⟨hplane, hlead, w, hw, rfl⟩ := (readTrailing_eq_ok_iff hl).mp h
            exact ⟨'u' :: v ++ w, .pair hplane (hlead ▸ hv) hw, by simp⟩
          · -- no surrogate, so the unit is the code point
            next hl =>
            simp only [Except.ok.injEq, Prod.mk.injEq] at h
            obtain ⟨rfl, rfl⟩ := h
            have hc := toNat_ofNat_of_not_surrogate hv.lt ht hl
            exact ⟨'u' :: v, .unit (hc.symm ▸ hv), rfl⟩
    · next l tail _ =>
      split at h
      · next hlook =>
        simp only [Except.ok.injEq, Prod.mk.injEq] at h
        obtain ⟨rfl, rfl⟩ := h
        exact ⟨[l], .short (lookup_letterEscapes_iff.mp hlook), rfl⟩
      · simp at h
  · rintro ⟨w, hw, rfl⟩
    -- the case split loses the backslash unless it is named
    generalize hcons : '\\' :: w = v at hw
    obtain ⟨-, -, hbackslash⟩ | hshort | hunit | ⟨hplane, hlead, htrail⟩ := hw
    · exact absurd (List.cons.inj hcons).1.symm hbackslash
    · obtain ⟨-, rfl⟩ := List.cons.inj hcons
      exact readEscape_short hshort rest
    · obtain ⟨v', rfl⟩ := hunit.eq_cons
      obtain ⟨-, rfl⟩ := List.cons.inj hcons
      exact readEscape_unit hunit rest
    · obtain ⟨v', rfl⟩ := hlead.eq_cons
      obtain ⟨-, rfl⟩ := List.cons.inj hcons
      simpa using readEscape_pair hplane hlead htrail rest

/-! ## Literals -/

private theorem exists_spells (c : Char) : ∃ w, Spells w c := by
  by_cases hplane : c.toNat < 0x10000
  · obtain ⟨w, hw⟩ := exists_spellsUnit hplane
    exact ⟨w, .unit hw⟩
  · have hvalid := toNat_lt_or c
    obtain ⟨v, hv⟩ := exists_spellsUnit (n := 0xD800 + (c.toNat - 0x10000) / 0x400) (by omega)
    obtain ⟨w, hw⟩ := exists_spellsUnit (n := 0xDC00 + (c.toNat - 0x10000) % 0x400) (by omega)
    exact ⟨v ++ w, .pair (by omega) hv hw⟩

theorem exists_spellsText (cs : List Char) : ∃ w, SpellsText w cs := by
  induction cs with
  | nil => exact ⟨[], .nil⟩
  | cons c cs ih =>
    obtain ⟨v, hv⟩ := exists_spells c
    obtain ⟨w, hw⟩ := ih
    exact ⟨v ++ w, .cons hv hw⟩

/-- A character is either spelled by itself or by an escape. -/
theorem Spells.eq_plain_or_escape {w : List Char} {c : Char} (h : Spells w c) :
    (w = [c] ∧ 0x20 ≤ c.toNat ∧ c ≠ '"' ∧ c ≠ '\\') ∨ ∃ v, w = '\\' :: v := by
  obtain ⟨hcontrol, hquote, hbackslash⟩ | _ | hunit | ⟨-, hlead, -⟩ := h
  · exact .inl ⟨rfl, hcontrol, hquote, hbackslash⟩
  · exact .inr ⟨_, rfl⟩
  · obtain ⟨v, rfl⟩ := hunit.eq_cons
    exact .inr ⟨_, rfl⟩
  · obtain ⟨v, rfl⟩ := hlead.eq_cons
    exact .inr ⟨_, rfl⟩

private theorem readLiteral_spells {w : List Char} {c : Char} (h : Spells w c) (cs : List Char) :
    readLiteral (w ++ cs) = (readLiteral cs).map (Prod.map (c :: ·) id) := by
  obtain ⟨rfl, hcontrol, hquote, hbackslash⟩ | ⟨v, rfl⟩ := h.eq_plain_or_escape
  · rw [List.singleton_append, readLiteral.eq_def]
    split
    · next heq => simp at heq
    · next heq => exact absurd (List.cons.inj heq).1 hquote
    · next heq => exact absurd (List.cons.inj heq).1 hbackslash
    · next heq =>
      obtain ⟨rfl, rfl⟩ := List.cons.inj heq
      rw [if_neg (by omega)]
  · rw [List.cons_append, readLiteral, readEscape_eq_ok_iff.mpr ⟨v, h, rfl⟩]

theorem map_cons_eq_ok_iff {α β : Type} {x : Except Fault (List α × β)} {a : α} {as : List α}
    {b : β} : x.map (Prod.map (a :: ·) id) = .ok (as, b) ↔
      ∃ as', as = a :: as' ∧ x = .ok (as', b) := by
  obtain f | ⟨as', b'⟩ := x
  · simp [Except.map]
  · simp only [Except.map, Prod.map, id_eq, Except.ok.injEq, Prod.mk.injEq]
    constructor
    · rintro ⟨rfl, rfl⟩
      exact ⟨as', rfl, rfl, rfl⟩
    · rintro ⟨_, rfl, rfl, rfl⟩
      exact ⟨rfl, rfl⟩

/-- **Reading a literal.** Behind the opening quotation mark, a text is read exactly when what
stands in front of the closing one spells it. -/
theorem readLiteral_eq_ok_iff {cs text rest : List Char} :
    readLiteral cs = .ok (text, rest) ↔ ∃ w, SpellsText w text ∧ cs = w ++ '"' :: rest := by
  constructor
  · intro h
    fun_induction readLiteral cs generalizing text with
    | case1 => simp at h
    | case2 rest' =>
      simp only [Except.ok.injEq, Prod.mk.injEq] at h
      obtain ⟨rfl, rfl⟩ := h
      exact ⟨[], .nil, rfl⟩
    | case3 => simp at h
    | case4 cs c rest' hescape ih =>
      obtain ⟨text', rfl, hrest⟩ := map_cons_eq_ok_iff.mp h
      obtain ⟨v, hv, rfl⟩ := readEscape_eq_ok_iff.mp hescape
      obtain ⟨w, hw, rfl⟩ := ih hrest
      exact ⟨'\\' :: v ++ w, .cons hv hw, by simp⟩
    | case5 => simp at h
    | case6 c cs hquote hbackslash hcontrol ih =>
      obtain ⟨text', rfl, hrest⟩ := map_cons_eq_ok_iff.mp h
      obtain ⟨w, hw, rfl⟩ := ih hrest
      exact ⟨[c] ++ w, .cons (.plain (by omega) hquote hbackslash) hw, rfl⟩
  · rintro ⟨w, hw, rfl⟩
    induction hw with
    | nil => simp [readLiteral]
    | cons hspells _ ih =>
      rw [List.append_assoc, readLiteral_spells hspells, ih]
      rfl

end AccessForm.Json
