import AccessForm.Proofs.Refusal

/-!
# Publishing to dropdowns

A dropdown is created without options and without a value. Whatever is then written to it, in any
order, it holds nothing or one of its options: options come and go one way only, and a value that is
not offered is not taken over. Publishing relies on this. It leaves out the copies that have the
value already, and this is no different from writing to all of them, because a copy that holds a
value offers it, or the value is empty and writing it would leave the copy empty.

The copies need not be different dropdowns. A dropdown that occurs several times is written to
several times, and the last write finds what the first one left (`control_foldl_setValue`).
-/

namespace AccessForm

namespace Panel

/-- Controls as they are created: each with a name, without options and without a value. -/
def blank (name : Ref → String) : Panel where
  control r := { name := name r }
  shown _ := true

/-- The panel after several writes. -/
def edited (p : Panel) (es : List (Edit Ref Nat)) : Panel := es.foldl (fun q e ↦ e.apply q) p

private theorem coherent_blank (name : Ref → String) : (blank name).Coherent := fun _ ↦ .inl rfl

private theorem Coherent.edited {p : Panel} (h : p.Coherent) (es : List (Edit Ref Nat)) :
    (p.edited es).Coherent := by
  induction es generalizing p with
  | nil => exact h
  | cons e es ih => exact ih (h.apply e)

private theorem foldl_appendOption_clearOptions (p : Panel) (r : Ref) (vs : List String) :
    vs.foldl (Surface.appendOption · r ·) (Surface.clearOptions p r) =
      p.modify r ({ · with options := vs, value := vs.headD "" }) := by
  rw [foldl_appendOption]
  refine ext (fun r' ↦ ?_) rfl
  simp only [Surface.clearOptions, control_modify]
  by_cases hr : r' = r
  · rw [if_pos hr, if_pos hr, if_pos hr, Control.foldl_append_clear]
  · rw [if_neg hr, if_neg hr, if_neg hr]

/-- A control takes a value over as if it were written once, however often it is written. -/
theorem control_foldl_setValue (p : Panel) (copies : List Ref) (v : String) (r : Ref) :
    (copies.foldl (Surface.setValue · · v) p).control r =
      if r ∈ copies then take r (p.control r) v else p.control r := by
  induction copies generalizing p with
  | nil => rfl
  | cons k copies ih =>
    rw [List.foldl_cons, ih, control_setValue]
    by_cases hk : r = k
    · subst hk
      rw [if_pos rfl, if_pos List.mem_cons_self]
      split
      · exact take_take r _ v v
      · rfl
    · simp only [hk, if_false, List.mem_cons, false_or]

private theorem foldl_setValue_eq_choosing (p : Panel) {copies : List Ref}
    (hcopies : ∀ r ∈ copies, ∃ i, r = .select i) (v : String) :
    copies.foldl (Surface.setValue · · v) p = p.choosing copies v := by
  refine ext (fun r ↦ ?_) (view_foldl (·.shown) fun _ _ _ ↦ rfl)
  rw [control_foldl_setValue, control_choosing]
  split
  · next hr =>
    obtain ⟨i, rfl⟩ := hcopies r hr
    rfl
  · rfl

/-- What is published to dropdowns reaches all of them, whatever was written before.

- Every dropdown holds nothing or one of its options.
- A dropdown that is cleared and then gets options has exactly these, and holds the first one.
- Publishing a value to dropdowns, each of them once or several times, is writing it to all of them:
  those that offer the value hold it, and the others hold nothing. Only their values change, and
  publishing the value once more changes nothing. -/
theorem published_to_all_copies (name : Ref → String) (es : List (Edit Ref Nat)) :
    let p := (blank name).edited es
    (∀ i, (p.control (.select i)).value = "" ∨
      (p.control (.select i)).value ∈ (p.control (.select i)).options) ∧
    (∀ i v vs, (v :: vs).foldl (Surface.appendOption · (.select i) ·)
        (Surface.clearOptions p (.select i)) =
      p.modify (.select i) ({ · with options := v :: vs, value := v })) ∧
    ∀ (is : List Nat) (v : String),
      let q := Copies.publish p (is.map .select) v
      q = (is.map Ref.select).foldl (Surface.setValue · · v) p ∧
      (∀ i ∈ is, (q.control (.select i)).value =
        if v ∈ (p.control (.select i)).options then v else "") ∧
      (∀ r, (q.control r).frame = (p.control r).frame) ∧
      (∀ r ∉ is.map Ref.select, q.control r = p.control r) ∧
      q.shown = p.shown ∧
      Copies.publish q (is.map .select) v = q := by
  intro p
  have hp : p.Coherent := (coherent_blank name).edited es
  refine ⟨hp, fun i v vs ↦ foldl_appendOption_clearOptions p (.select i) (v :: vs),
    fun is v ↦ ?_⟩
  have hcopies : ∀ r ∈ is.map Ref.select, ∃ i, r = .select i := by
    intro r hr
    obtain ⟨i, -, rfl⟩ := List.mem_map.mp hr
    exact ⟨i, rfl⟩
  refine ⟨?_, fun i hi ↦ ?_, frame_publish p _ v, fun r hr ↦ control_publish_of_notMem hr p v,
    shown_publish p _ v, publish_publish hp hcopies v v⟩
  · rw [publish_eq_choosing hp hcopies, foldl_setValue_eq_choosing p hcopies]
  · rw [control_publish_select hp (List.mem_map_of_mem hi)]
    rfl

/-- Three dropdowns: one with an empty option twice, one with another value that is set and then
lost when its options are taken away, and one that is left as it is created. The first is a copy
twice over. -/
theorem published_to_all_copies_shared :
    let p := (blank fun _ ↦ "permission_name").edited
      [.appendOption (.select 0) "", .appendOption (.select 0) "edit", .appendOption (.select 0) "",
        .value (.select 0) "edit", .appendOption (.select 1) "view", .clearOptions (.select 1),
        .appendOption (.select 1) "", .appendOption (.select 1) "view", .value (.select 1) "view",
        .value (.field 0) "why"]
    let q := Copies.publish p ([0, 1, 0, 2].map .select) "edit"
    (p.control (.select 1)).value = "view" ∧ (q.control (.select 0)).value = "edit" ∧
      (q.control (.select 1)).value = "" ∧ q.control (.field 0) = p.control (.field 0) ∧
      Copies.publish q ([0, 1, 0, 2].map .select) "edit" = q := by
  intro p q
  obtain ⟨-, -, hpublish⟩ := published_to_all_copies (fun _ ↦ "permission_name")
    [.appendOption (.select 0) "", .appendOption (.select 0) "edit", .appendOption (.select 0) "",
      .value (.select 0) "edit", .appendOption (.select 1) "view", .clearOptions (.select 1),
      .appendOption (.select 1) "", .appendOption (.select 1) "view", .value (.select 1) "view",
      .value (.field 0) "why"]
  obtain ⟨-, hvalue, -, hothers, -, hagain⟩ := hpublish [0, 1, 0, 2] "edit"
  exact ⟨by decide, (hvalue 0 (by decide)).trans (if_pos (by decide)),
    (hvalue 1 (by decide)).trans (if_neg (by decide)), hothers (.field 0) (by decide), hagain⟩

end Panel

end AccessForm
