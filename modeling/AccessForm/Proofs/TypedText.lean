import AccessForm.Proofs.Panel
import Mathlib.Data.List.Induction

/-!
# Typed text

No stale text is ever submitted. While the text field is in use, it holds what the user typed last
since it came into use, and is empty when nothing was typed. The text that the page put there counts
as well, but only as long as the first successful derivation is the one that brought the field into
use; until then, nothing that was typed is thrown away either.

The controller writes to the field in one situation only (`textAfter_concat`): a field that comes
into use after a derivation for another mode is cleared. The two results about whole histories are
inductions over the moves from the back. `textAfter_of_not_derived` is about the time before the
first successful derivation, `textAfter_of_inUse` about a stretch of time during which the field is
in use; the theorem joins them at the move with which the stretch begins.
-/

namespace AccessForm

/-! ## What is typed -/

/-- The text that a move types into a text field. -/
def Move.typed? (text : Nat) : Move Ref Nat → Option String
  | .edit (.value control v) => if control = .field text then some v else none
  | _ => none

@[simp] theorem Move.typed?_event (text : Nat) (e : Controller.Event Ref) :
    (Move.event e : Move Ref Nat).typed? text = none := rfl

/-- The text that is typed last into a text field. -/
def lastTyped (text : Nat) (ms : List (Move Ref Nat)) : Option String :=
  (ms.filterMap (·.typed? text)).getLast?

private theorem lastTyped_append (text : Nat) (ms ms' : List (Move Ref Nat)) :
    lastTyped text (ms ++ ms') = (lastTyped text ms').or (lastTyped text ms) := by
  rw [lastTyped, List.filterMap_append, List.getLast?_append]
  rfl

private theorem lastTyped_concat (text : Nat) (ms : List (Move Ref Nat)) (m : Move Ref Nat) :
    lastTyped text (ms ++ [m]) = (m.typed? text).or (lastTyped text ms) := by
  rw [lastTyped_append]
  cases h : m.typed? text with
  | none => simp [lastTyped, h]
  | some v => simp [lastTyped, h]

/-! ## One move -/

namespace Controller

variable {c : Controller Ref Nat} {f : Seating}

/-- A derivation clears the text field when it brings it into use after another mode. -/
theorem text_derive (hl : c.layout = f.layout) (p : Panel) :
    ((c.derive p).surface.control (.field f.text)).value =
      if c.primed = true ∧ c.mode ≠ .freeText ∧ (c.derive p).controller.mode = .freeText then ""
      else (p.control (.field f.text)).value := by
  have ht : c.layout.text = .field f.text := by rw [hl]; rfl
  obtain ⟨_, -, heq⟩ | ⟨mode, -, heq⟩ := c.derive_cases p
  · rw [heq, if_neg fun h ↦ h.2.1 h.2.2]
  · rw [heq, control_arrange_text hl, Exclusion.value_dress, retyped, ht]
    by_cases h : mode = .freeText ∧ c.primed = true ∧ c.mode ≠ .freeText
    · rw [if_pos h, if_pos ⟨h.2.1, h.2.2, h.1⟩]
    · rw [if_neg h, if_neg fun h' ↦ h ⟨h'.2.2, h'.1, h'.2.1⟩]

private theorem text_handle (hl : c.layout = f.layout) (htext : f.text ∉ f.reason) {e : Event Ref}
    (he : (Move.event e : Move Ref Nat).Fits f) (p : Panel) :
    ((c.handle p e).surface.control (.field f.text)).value =
      if c.primed = true ∧ c.mode ≠ .freeText ∧ (c.handle p e).controller.mode = .freeText then ""
      else (p.control (.field f.text)).value := by
  have hspread : (c.spread p e).control (.field f.text) = p.control (.field f.text) := by
    refine control_spread_of_notMem hl ?_ ?_ he p
    · exact Seating.field_notMem_permission
    · rwa [Seating.field_mem_reason]
  cases hd : e.derives with
  | true => rw [c.handle_of_derives p hd, text_derive hl, hspread]
  | false =>
    rw [c.controller_handle_of_not_derives p hd, if_neg fun h ↦ h.2.1 h.2.2]
    rcases c.surface_handle_of_not_derives p hd with heq | heq
    · rw [heq, hspread]
    · rw [heq, Panel.value_setAllDisabled]

end Controller

namespace Setup

variable {f : Setup}

/-- The text in the text field at the end of a history. -/
def textAfter (f : Setup) (ms : List (Move Ref Nat)) : String :=
  ((f.after ms).2.control (.field f.seating.text)).value

/-- The mode in force at the end of a history. -/
def modeAfter (f : Setup) (ms : List (Move Ref Nat)) : Mode := (f.after ms).1.mode

/-- What a move does to the text. A move that types a text is no event, so it meets no clearing. -/
theorem textAfter_concat (htext : f.seating.text ∉ f.seating.reason) (ms : List (Move Ref Nat))
    {m : Move Ref Nat} (hm : m.Fits f.seating) :
    f.textAfter (ms ++ [m]) = (m.typed? f.seating.text).getD
      (if (f.after ms).1.primed = true ∧ f.modeAfter ms ≠ .freeText ∧
          f.modeAfter (ms ++ [m]) = .freeText then "" else f.textAfter ms) := by
  rw [textAfter, textAfter, modeAfter, modeAfter, after_concat]
  cases m with
  | event e => exact Controller.text_handle (f.layout_after ms) htext hm _
  | edit e =>
    cases e with
    | value control v =>
      rw [if_neg fun h ↦ h.2.1 h.2.2]
      simp only [Controller.move, Edit.apply, Panel.control_setValue, Move.typed?]
      by_cases hc : control = .field f.seating.text
      · subst hc
        simp [Panel.take, Control.enter]
      · rw [if_neg (Ne.symm hc), if_neg hc, Option.getD_none]
    | _ => exact hm.elim

private theorem textAfter_nil (f : Setup) :
    f.textAfter [] = (f.panel.control (.field f.seating.text)).value := by
  have hprimed : ¬ (f.idle.primed = true ∧ f.idle.mode ≠ .freeText ∧
      (f.idle.derive f.lockedPanel).controller.mode = .freeText) := by
    rintro ⟨h, -⟩
    cases h
  calc f.textAfter []
      = ((f.idle.derive f.lockedPanel).surface.control (.field f.seating.text)).value := rfl
    _ = (f.lockedPanel.control (.field f.seating.text)).value := by
        rw [Controller.text_derive (f := f.seating) rfl, if_neg hprimed]
    _ = (f.panel.control (.field f.seating.text)).value := Panel.value_setAllDisabled _ _ _ _

/-! ## Stretches of a history -/

/-- Until a derivation is successful, the text is what was typed last or the text of the page. -/
theorem textAfter_of_not_derived (htext : f.seating.text ∉ f.seating.reason)
    {ms : List (Move Ref Nat)} (hms : ∀ m ∈ ms, m.Fits f.seating) (h : ¬ f.Derived ms) :
    f.textAfter ms = (lastTyped f.seating.text ms).getD
      (f.panel.control (.field f.seating.text)).value := by
  induction ms using List.reverseRecOn with
  | nil => exact f.textAfter_nil
  | append_singleton ms m ih =>
    have hms' : ∀ m ∈ ms, m.Fits f.seating := fun m' hm' ↦ hms m' (List.mem_append_left _ hm')
    have hnot : ¬ f.Derived ms := fun hd ↦ h (hd.concat m)
    have hprimed : (f.after ms).1.primed ≠ true := fun hp ↦ hnot ((f.primed_after_iff ms).mp hp)
    rw [textAfter_concat htext ms (hms m (by simp)), if_neg fun h' ↦ hprimed h'.1, ih hms' hnot,
      lastTyped_concat]
    cases m.typed? f.seating.text <;> rfl

/-- Whether the text field is in use from the end of one history to the end of a longer one. -/
def InUse (f : Setup) (before within : List (Move Ref Nat)) : Prop :=
  ∀ k ≤ within.length, f.modeAfter (before ++ within.take k) = .freeText

instance (f : Setup) (before within : List (Move Ref Nat)) : Decidable (f.InUse before within) :=
  inferInstanceAs
    (Decidable (∀ k ≤ within.length, f.modeAfter (before ++ within.take k) = .freeText))

private theorem InUse.init {before within : List (Move Ref Nat)} {m : Move Ref Nat}
    (h : f.InUse before (within ++ [m])) : f.InUse before within := by
  intro k hk
  have hle : k ≤ (within ++ [m]).length := by simp; omega
  have := h k hle
  rwa [List.take_append_of_le_length hk] at this

/-- While the text field is in use, it holds what was typed last, or what it held at first. -/
theorem textAfter_of_inUse (htext : f.seating.text ∉ f.seating.reason)
    {before within : List (Move Ref Nat)} (hms : ∀ m ∈ within, m.Fits f.seating)
    (h : f.InUse before within) :
    f.textAfter (before ++ within) =
      (lastTyped f.seating.text within).getD (f.textAfter before) := by
  induction within using List.reverseRecOn with
  | nil => rw [List.append_nil]; rfl
  | append_singleton within m ih =>
    have hms' : ∀ m ∈ within, m.Fits f.seating := fun m' hm' ↦ hms m' (List.mem_append_left _ hm')
    have hmode : f.modeAfter (before ++ within) = .freeText := by
      have := h.init within.length (Nat.le_refl _)
      rwa [List.take_length] at this
    rw [← List.append_assoc, textAfter_concat htext _ (hms m (by simp)),
      if_neg fun h' ↦ h'.2.1 hmode, ih hms' h.init, lastTyped_concat]
    cases m.typed? f.seating.text <;> rfl

/-- The longest last stretch of a history during which the text field is in use. It begins with the
last move of `before`, or with the taking over of the form when there is none. -/
structure Stretch (f : Setup) (before within : List (Move Ref Nat)) : Prop where
  /-- The field is in use all the time. -/
  inUse : f.InUse before within
  /-- It was not in use earlier. -/
  longest : ∀ earlier m, before = earlier ++ [m] → f.modeAfter earlier ≠ .freeText

/-- Whether no derivation was successful before the last move of a history. -/
def FirstDerivation (f : Setup) (before : List (Move Ref Nat)) : Prop :=
  ∀ earlier m, before = earlier ++ [m] → ¬ f.Derived earlier

/-- A history at whose end the text field is in use has such a stretch. -/
theorem exists_stretch {ms : List (Move Ref Nat)} (h : f.modeAfter ms = .freeText) :
    ∃ before within, ms = before ++ within ∧ f.Stretch before within := by
  induction ms using List.reverseRecOn with
  | nil =>
    refine ⟨[], [], rfl, fun k _ ↦ by simpa using h, ?_⟩
    intro earlier m heq
    simp at heq
  | append_singleton ms m ih =>
    by_cases hms : f.modeAfter ms = .freeText
    · obtain ⟨before, within, heq, hs⟩ := ih hms
      refine ⟨before, within ++ [m], by rw [heq, List.append_assoc], ?_, hs.longest⟩
      intro k hk
      rcases Nat.lt_or_ge within.length k with hlt | hle
      · rw [List.take_of_length_le (by simp; omega), ← List.append_assoc, ← heq]
        exact h
      · rw [List.take_append_of_le_length hle]
        exact hs.inUse k hle
    · refine ⟨ms ++ [m], [], by simp, fun k _ ↦ by simpa using h, ?_⟩
      intro earlier m' heq
      obtain ⟨rfl, -⟩ := List.append_inj' heq rfl
      exact hms

/-! ## The text at the end -/

private theorem textAfter_of_stretch (htext : f.seating.text ∉ f.seating.reason)
    {before within : List (Move Ref Nat)} (hms : ∀ m ∈ before, m.Fits f.seating)
    (h : f.Stretch before within) :
    (f.FirstDerivation before → f.textAfter before = (lastTyped f.seating.text before).getD
        (f.panel.control (.field f.seating.text)).value) ∧
      (¬ f.FirstDerivation before → f.textAfter before = "") := by
  have hmode : f.modeAfter before = .freeText := by simpa using h.inUse 0 (Nat.zero_le _)
  induction before using List.reverseRecOn with
  | nil =>
    refine ⟨fun _ ↦ f.textAfter_nil, fun hn ↦ absurd ?_ hn⟩
    intro earlier m heq
    simp at heq
  | append_singleton earlier m _ =>
    have hfits : ∀ m ∈ earlier, m.Fits f.seating := fun m' hm' ↦ hms m' (by simp [hm'])
    have hother : f.modeAfter earlier ≠ .freeText := h.longest earlier m rfl
    have htyped : m.typed? f.seating.text = none := by
      -- a move that types a text leaves the mode alone
      cases m with
      | event _ => rfl
      | edit e =>
        rw [modeAfter, after_concat] at hmode
        exact absurd hmode hother
    have hfirst : f.FirstDerivation (earlier ++ [m]) ↔ ¬ f.Derived earlier := by
      refine ⟨fun hf ↦ hf earlier m rfl, fun hn earlier' m' heq ↦ ?_⟩
      obtain ⟨rfl, -⟩ := List.append_inj' heq rfl
      exact hn
    rw [hfirst, Classical.not_not, textAfter_concat htext _ (hms m (by simp)), htyped,
      Option.getD_none, lastTyped_concat, htyped, Option.none_or]
    refine ⟨fun hn ↦ ?_, fun hd ↦ ?_⟩
    · have hprimed : (f.after earlier).1.primed ≠ true :=
        fun hp ↦ hn ((f.primed_after_iff earlier).mp hp)
      rw [if_neg fun h' ↦ hprimed h'.1, textAfter_of_not_derived htext hfits hn]
    · rw [if_pos ⟨(f.primed_after_iff earlier).mpr hd, hother, hmode⟩]

/-- No stale text is ever submitted.

- Whenever the text field is in use, a stretch of use has led there.
- During a stretch that the first successful derivation began, the text is what was typed last in
  the whole history, or the text of the page.
- During any other stretch, it is what was typed last within the stretch, or empty.
- Taking over the form leaves the text alone, and so does every event, except that an event clears
  it on bringing the field into use after another mode that was in force. -/
theorem text_never_stale (f : Setup) (htext : f.seating.text ∉ f.seating.reason) :
    (∀ ms, f.modeAfter ms = .freeText →
      ∃ before within, ms = before ++ within ∧ f.Stretch before within) ∧
    (∀ before within, (∀ m ∈ before ++ within, m.Fits f.seating) → f.Stretch before within →
      (f.FirstDerivation before → f.textAfter (before ++ within) =
        (lastTyped f.seating.text (before ++ within)).getD
          (f.panel.control (.field f.seating.text)).value) ∧
      (¬ f.FirstDerivation before → f.textAfter (before ++ within) =
        (lastTyped f.seating.text within).getD "")) ∧
    f.textAfter [] = (f.panel.control (.field f.seating.text)).value ∧
    (∀ ms e, (Move.event e : Move Ref Nat).Fits f.seating →
      (f.textAfter (ms ++ [.event e]) = f.textAfter ms ∨
        f.textAfter (ms ++ [.event e]) = "" ∧ f.Derived ms ∧ f.modeAfter ms ≠ .freeText ∧
          f.modeAfter (ms ++ [.event e]) = .freeText)) := by
  refine ⟨fun ms h ↦ exists_stretch h, ?_, f.textAfter_nil, ?_⟩
  · intro before within hfits h
    have hbefore : ∀ m ∈ before, m.Fits f.seating := fun m hm ↦ hfits m (List.mem_append_left _ hm)
    have hwithin : ∀ m ∈ within, m.Fits f.seating := fun m hm ↦ hfits m (List.mem_append_right _ hm)
    obtain ⟨hfirst, hlater⟩ := textAfter_of_stretch htext hbefore h
    rw [textAfter_of_inUse htext hwithin h.inUse, lastTyped_append]
    refine ⟨fun hf ↦ ?_, fun hn ↦ by rw [hlater hn]⟩
    rw [hfirst hf]
    cases lastTyped f.seating.text within <;> rfl
  · intro ms e he
    rw [textAfter_concat htext ms he, Move.typed?_event, Option.getD_none]
    by_cases hclear : (f.after ms).1.primed = true ∧ f.modeAfter ms ≠ .freeText ∧
        f.modeAfter (ms ++ [.event e]) = .freeText
    · rw [if_pos hclear]
      exact .inr ⟨rfl, (f.primed_after_iff ms).mp hclear.1, hclear.2⟩
    · rw [if_neg hclear]
      exact .inl rfl

/-- On the sample page the first derivation finds no permission selected, so the text of the page is
gone when the free text permission is selected. What is typed then survives a selection that
fails. -/
theorem text_never_stale_sample :
    sample.Stretch (sampleMoves.take 1) (sampleMoves.drop 1) ∧
      ¬ sample.FirstDerivation (sampleMoves.take 1) ∧
      sample.textAfter (sampleMoves.take 1 ++ sampleMoves.drop 1) = "team-b" := by
  have hstretch : sample.Stretch (sampleMoves.take 1) (sampleMoves.drop 1) := by
    refine ⟨by decide +kernel, fun earlier m heq ↦ ?_⟩
    have hjoin : [] ++ sampleMoves.take 1 = earlier ++ [m] := heq
    obtain ⟨rfl, -⟩ := List.append_inj' hjoin rfl
    decide +kernel
  have hnot : ¬ sample.FirstDerivation (sampleMoves.take 1) :=
    fun h ↦ h [] _ rfl (.inl (by decide +kernel))
  have h := (sample.text_never_stale (by decide)).2.1 (sampleMoves.take 1) (sampleMoves.drop 1)
    (by decide) hstretch
  refine ⟨hstretch, hnot, (h.2 hnot).trans ?_⟩
  decide +kernel

end Setup

end AccessForm
