import AccessForm.Document.Fields
import Mathlib.Data.List.Basic

/-!
# Classes

Words joined by spaces are the words of the joined text, provided that they are words at all. So an
element whose classes are written anew with one more keeps those it had: `mem_classes_addClass`.
-/

namespace AccessForm

namespace Text

/-- A text that words can be: not empty, and without white space. -/
def IsWord (cs : List Char) : Prop := cs ≠ [] ∧ ∀ c ∈ cs, isMarkupBlank c = false

/-- The words of a text that is given by its leading word and the later words. -/
def allWords : List Char × List (List Char) → List (List Char)
  | (word, later) => if word = [] then later else word :: later

private theorem words_eq (s : String) :
    words s = (allWords (s.toList.foldr pushChar ([], []))).map String.ofList := rfl

private theorem foldr_pushChar_blank {c : Char} (hc : isMarkupBlank c = true) (cs : List Char) :
    (c :: cs).foldr pushChar ([], []) = ([], allWords (cs.foldr pushChar ([], []))) := by
  rw [List.foldr_cons, pushChar, if_pos hc]
  rfl

private theorem foldr_pushChar_append {w : List Char} (hw : ∀ c ∈ w, isMarkupBlank c = false)
    (cs : List Char) :
    (w ++ cs).foldr pushChar ([], []) =
      (w ++ (cs.foldr pushChar ([], [])).1, (cs.foldr pushChar ([], [])).2) := by
  induction w with
  | nil => rfl
  | cons c w ih =>
    have hc : isMarkupBlank c = false := hw c List.mem_cons_self
    rw [List.cons_append, List.foldr_cons, ih fun c' hc' ↦ hw c' (List.mem_cons_of_mem _ hc'),
      pushChar, if_neg (by simp [hc])]
    rfl

private theorem allWords_intercalate {ws : List (List Char)} (hws : ∀ w ∈ ws, IsWord w) :
    allWords (([' '].intercalate ws).foldr pushChar ([], [])) = ws := by
  induction ws with
  | nil => rfl
  | cons w ws ih =>
    obtain ⟨hne, hw⟩ := hws w List.mem_cons_self
    cases ws with
    | nil =>
      rw [List.intercalate_singleton, ← List.append_nil w, foldr_pushChar_append hw]
      simp [allWords, hne]
    | cons w' ws =>
      have hjoin : [' '].intercalate (w :: w' :: ws) =
          w ++ ' ' :: [' '].intercalate (w' :: ws) := by
        rw [List.intercalate_cons_cons, List.append_assoc]
        rfl
      rw [hjoin, foldr_pushChar_append hw, foldr_pushChar_blank rfl,
        ih fun v hv ↦ hws v (List.mem_cons_of_mem _ hv)]
      simp [allWords, hne]

private theorem isWord_of_foldr (cs : List Char) :
    (∀ c ∈ (cs.foldr pushChar ([], [])).1, isMarkupBlank c = false) ∧
      ∀ w ∈ (cs.foldr pushChar ([], [])).2, IsWord w := by
  induction cs with
  | nil => simp
  | cons c cs ih =>
    obtain ⟨hword, hlater⟩ := ih
    rw [List.foldr_cons, pushChar]
    split
    · refine ⟨by simp, fun w hw ↦ ?_⟩
      dsimp only at hw
      split at hw
      · exact hlater w hw
      · next hne =>
        rcases List.mem_cons.mp hw with rfl | hw
        · exact ⟨hne, hword⟩
        · exact hlater w hw
    · next hc =>
      refine ⟨fun c' hc' ↦ ?_, hlater⟩
      rcases List.mem_cons.mp hc' with rfl | hc'
      · simpa using hc
      · exact hword c' hc'

private theorem isWord_of_mem_words {s w : String} (h : w ∈ words s) : IsWord w.toList := by
  rw [words_eq] at h
  obtain ⟨cs, hcs, rfl⟩ := List.mem_map.mp h
  obtain ⟨hword, hlater⟩ := isWord_of_foldr s.toList
  rw [String.toList_ofList]
  rw [allWords] at hcs
  split at hcs
  · exact hlater cs hcs
  · next hne =>
    rcases List.mem_cons.mp hcs with rfl | hcs
    · exact ⟨hne, hword⟩
    · exact hlater cs hcs

private theorem words_intercalate {ws : List String} (hws : ∀ w ∈ ws, IsWord w.toList) :
    words (" ".intercalate ws) = ws := by
  have hjoin : (" ".intercalate ws).toList = [' '].intercalate (ws.map String.toList) :=
    String.toList_intercalate
  rw [words_eq, hjoin, allWords_intercalate (by simpa using hws), List.map_map]
  simp [Function.comp_def]

end Text

namespace Element

private theorem isWord_of_mem_classes {e : Element} {token : String} (h : token ∈ e.classes) :
    Text.IsWord token.toList :=
  Text.isWord_of_mem_words (List.mem_eraseDups.mp h)

theorem mem_classes_addClass {e : Element} {token new : String} (hnew : Text.IsWord new.toList)
    (h : token ∈ e.classes) : token ∈ (e.addClass new).classes := by
  have hws : ∀ w ∈ (if new ∈ e.classes then e.classes else e.classes ++ [new]),
      Text.IsWord w.toList := by
    intro w hw
    split at hw
    · exact isWord_of_mem_classes hw
    · rcases List.mem_append.mp hw with hw | hw
      · exact isWord_of_mem_classes hw
      · rwa [List.mem_singleton.mp hw]
  rw [addClass, classes, attributeText, attribute?_setAttribute, if_pos rfl, Option.getD_some,
    List.mem_eraseDups, Text.words_intercalate hws]
  split
  · exact h
  · exact List.mem_append_left _ h

theorem attribute?_addClass_of_ne {name : String} (h : name ≠ "class") (e : Element)
    (new : String) : (e.addClass new).attribute? name = e.attribute? name := by
  rw [addClass, attribute?_setAttribute, if_neg h]

end Element

theorem Document.isWord_of_classFault? {token : String} (h : classFault? token = none) :
    Text.IsWord token.toList := by
  rw [classFault?] at h
  split at h
  · cases h
  · next hne =>
    split at h
    · cases h
    · next hblank =>
      refine ⟨fun hnil ↦ hne ?_, fun c hc ↦ ?_⟩
      · rw [← String.toList_inj, hnil]
        rfl
      · by_contra hb
        exact hblank (List.any_eq_true.mpr ⟨c, hc, by simpa using hb⟩)

end AccessForm
