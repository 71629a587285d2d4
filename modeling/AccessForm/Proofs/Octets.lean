import Mathlib.Data.String.Basic
import AccessForm.Directory

/-!
# The order of names

Names are compared character by character, and so are their UTF-8 octets: an encoding of a smaller
character differs from that of a greater one within both, with the smaller octet first. The main
statement is `lt_iff_utf8Octets_lt`: the order of strings, in which a directory keeps its names, is
the lexicographic order of their UTF-8 octets.
-/

namespace AccessForm

/-- The UTF-8 octets of a text. -/
def utf8Octets (s : String) : List UInt8 := s.toUTF8.data.toList

private theorem utf8Octets_eq (s : String) :
    utf8Octets s = s.toList.flatMap String.utf8EncodeChar := by
  rw [utf8Octets, String.toUTF8, ← String.utf8Encode_toList, List.utf8Encode,
    List.toList_data_toByteArray]

/-! ## Single characters -/

private theorem cons_octet_lt {x y : Nat} {s t : List UInt8} (hy : y < 256) (hlt : x < y) :
    UInt8.ofNat x :: s < UInt8.ofNat y :: t := by
  rw [List.cons_lt_cons_iff, UInt8.lt_iff_toNat_lt, UInt8.toNat_ofNat', UInt8.toNat_ofNat']
  exact .inl (by omega)

private theorem cons_octet_lt_of_le {x y : Nat} {s t : List UInt8} (hy : y < 256) (hle : x ≤ y)
    (h : x = y → s < t) : UInt8.ofNat x :: s < UInt8.ofNat y :: t := by
  obtain hlt | rfl := Nat.lt_or_eq_of_le hle
  · exact cons_octet_lt hy hlt
  · exact List.cons_lt_cons_iff.mpr (.inr ⟨rfl, h rfl⟩)

/-- The octets of a smaller character come first, whatever follows. A longer encoding has the
greater first octet; of two encodings of one length the first octets that differ decide. -/
theorem utf8EncodeChar_append_lt {a b : Char} (h : a < b) (as bs : List UInt8) :
    String.utf8EncodeChar a ++ as < String.utf8EncodeChar b ++ bs := by
  have hlt : a.val.toNat < b.val.toNat := h
  have hmax : b.val.toNat < 0x110000 := by obtain h | h := b.valid <;> omega
  simp only [String.utf8EncodeChar]
  generalize a.val.toNat = m at *
  generalize b.val.toNat = n at *
  by_cases h₁ : m ≤ 0x7F
  · rw [if_pos h₁]
    split
    · exact cons_octet_lt (by omega) (by omega)
    · split
      · exact cons_octet_lt (by omega) (by omega)
      · split <;> exact cons_octet_lt (by omega) (by omega)
  rw [if_neg h₁, if_neg (show ¬ n ≤ 0x7F by omega)]
  by_cases h₂ : m ≤ 0x7FF
  · rw [if_pos h₂]
    split
    · refine cons_octet_lt_of_le (by omega) (by omega) fun _ ↦ ?_
      exact cons_octet_lt (by omega) (by omega)
    · split <;> exact cons_octet_lt (by omega) (by omega)
  rw [if_neg h₂, if_neg (show ¬ n ≤ 0x7FF by omega)]
  by_cases h₃ : m ≤ 0xFFFF
  · rw [if_pos h₃]
    split
    · refine cons_octet_lt_of_le (by omega) (by omega) fun _ ↦ ?_
      refine cons_octet_lt_of_le (by omega) (by omega) fun _ ↦ ?_
      exact cons_octet_lt (by omega) (by omega)
    · exact cons_octet_lt (by omega) (by omega)
  rw [if_neg h₃, if_neg (show ¬ n ≤ 0xFFFF by omega)]
  refine cons_octet_lt_of_le (by omega) (by omega) fun _ ↦ ?_
  refine cons_octet_lt_of_le (by omega) (by omega) fun _ ↦ ?_
  refine cons_octet_lt_of_le (by omega) (by omega) fun _ ↦ ?_
  exact cons_octet_lt (by omega) (by omega)

/-! ## Texts -/

private theorem flatMap_utf8EncodeChar_lt {as bs : List Char} (h : as < bs) :
    as.flatMap String.utf8EncodeChar < bs.flatMap String.utf8EncodeChar := by
  rw [← List.lex_lt] at h
  induction h with
  | @nil b bs =>
    obtain ⟨o, os, ho⟩ := List.exists_cons_of_ne_nil (String.utf8EncodeChar_ne_nil (c := b))
    rw [List.flatMap_nil, List.flatMap_cons, ho]
    exact List.nil_lt_cons o _
  | cons _ ih => exact List.append_left_lt ih
  | rel hlt => exact utf8EncodeChar_append_lt hlt _ _

private theorem utf8Octets_lt_of_lt {s t : String} (h : s < t) : utf8Octets s < utf8Octets t := by
  rw [utf8Octets_eq, utf8Octets_eq]
  exact flatMap_utf8EncodeChar_lt h

/-- **The order of names.** Strings are ordered as their UTF-8 octets are. -/
theorem lt_iff_utf8Octets_lt {s t : String} : s < t ↔ utf8Octets s < utf8Octets t := by
  refine ⟨utf8Octets_lt_of_lt, fun h ↦ ?_⟩
  obtain hlt | rfl | hgt := lt_trichotomy s t
  · exact hlt
  · exact absurd h (List.lt_irrefl _)
  · exact absurd h (List.lt_asymm (utf8Octets_lt_of_lt hgt))

end AccessForm
