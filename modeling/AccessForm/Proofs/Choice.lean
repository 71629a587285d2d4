import AccessForm.Proofs.Refusal
import AccessForm.Proofs.Offer

/-!
# Choices in copies of the selector

The copies of the permission selector need not offer the same permissions. A permission that the
user chooses in one of them is published to all, and every copy either takes it over or is cleared.
The form then reads what the first copy holds, so this copy decides: if it offers the permission
too, the choice counts; if not, the form is as if nothing were selected, and even the copy in which
the choice was made does not say otherwise.
-/

namespace AccessForm

private theorem Table.ne_empty_of_contains {t : Table} {permission : String}
    (h : t.contains permission = true) : permission ≠ "" := by
  obtain ⟨_, hallow⟩ := Option.isSome_iff_exists.mp h
  exact t.named _ (Directory.mem_entries_iff.mpr hallow)

namespace Controller

variable {c : Controller Ref Nat} {f : Seating} {p : Panel}

private theorem handle_choose_of_mem {i : Nat} {v : String}
    (hv : v ∈ (p.control (.select i)).options) :
    c.handle p (.choose (.select i) v) =
      c.select (Surface.setValue p (.select i) v) v := by
  have hread : Surface.value (Surface.setValue p (.select i) v) (.select i) = v := by
    show ((Surface.setValue p (.select i) v).control (.select i)).value = v
    rw [Panel.control_setValue, if_pos rfl]
    exact if_pos hv
  rw [handle, hread]

private theorem permission_select (hl : c.layout = f.layout) (hd : f.dropdown ∉ f.permission)
    (hp : p.Coherent) (v : String) :
    (c.select p v).controller.permission (c.select p v).surface =
      if v ∈ c.offered p then v else "" := by
  rw [select, permission_derive hl hd, permission_publish hl hp]

/-- Selecting a permission that the table knows is answered with the mode of whatever is selected
then. -/
theorem mode_select_of_known (hl : c.layout = f.layout) (hd : f.dropdown ∉ f.permission)
    (hp : p.Coherent) {v : String} (hknown : c.table.contains v = true) :
    c.table.mode ((c.select p v).controller.permission (c.select p v).surface) =
        .ok (c.select p v).controller.mode ∧
      (c.select p v).outcome = .ok (c.select p v).controller.mode := by
  have hread : c.permission (Copies.publish p c.layout.permission v) =
      (c.select p v).controller.permission (c.select p v).surface := by
    rw [select, permission_derive hl hd]
  obtain ⟨e, hmode, -⟩ | ⟨mode, hmode, heq⟩ :=
    c.derive_cases (Copies.publish p c.layout.permission v)
  · -- only a permission that the table does not know is refused
    have herror : (c.select p v).outcome = .error e := by
      rw [select, outcome_derive, hmode]
    obtain ⟨-, hmissing⟩ := (select_eq_error_iff hl hp).mp herror
    rw [Table.mem_missing_iff, hknown] at hmissing
    cases hmissing.2.2
  · rw [← hread, hmode, select, heq]
    exact ⟨rfl, rfl⟩

private theorem value_select (hl : c.layout = f.layout) (hd : f.dropdown ∉ f.permission)
    (hp : p.Coherent) (v : String) {j : Nat} (hj : j ∈ f.permission) :
    ((c.select p v).surface.control (.select j)).value =
      if v ∈ (p.control (.select j)).options then v else "" := by
  have hcopy : Ref.select j ∈ c.layout.permission := hl ▸ List.mem_map_of_mem hj
  rw [select, control_derive_of_mem_permission hl hd hj, Panel.control_publish_select hp hcopy]
  rfl

private theorem offered_setValue (r : Ref) (v : String) :
    c.offered (Surface.setValue p r v) = c.offered p :=
  offered_congr fun r' _ ↦ Control.options_of_frame (Panel.frame_setValue p r r' v)

end Controller

namespace Setup

/-- What the user chooses in a copy of the permission selector is selected exactly if the first copy
offers it. Otherwise nothing is selected. Either way the mode is the one that the table gives for
what is selected, and every copy holds the choice if it offers it, and nothing if it does not. -/
theorem choice_read_from_first_copy (f : Setup) (hpanel : f.panel.Coherent)
    (hdropdown : f.seating.dropdown ∉ f.seating.permission) (ms : List (Move Ref Nat)) {i : Nat}
    {v : String} (hv : v ∈ ((f.after ms).2.control (.select i)).options)
    (hknown : f.table.contains v = true) :
    let turn := (f.after ms).1.handle (f.after ms).2 (.choose (.select i) v)
    (turn.controller.permission turn.surface = v ↔ v ∈ (f.after ms).1.offered (f.after ms).2) ∧
    (v ∉ (f.after ms).1.offered (f.after ms).2 →
      turn.controller.permission turn.surface = "" ∧ turn.controller.mode = .unselected) ∧
    f.table.mode (turn.controller.permission turn.surface) = .ok turn.controller.mode ∧
    turn.outcome = .ok turn.controller.mode ∧
    ∀ j ∈ f.seating.permission, (turn.surface.control (.select j)).value =
      if v ∈ ((f.after ms).2.control (.select j)).options then v else "" := by
  intro turn
  have hl := f.layout_after ms
  have hcoherent : (Surface.setValue (f.after ms).2 (Ref.select i) v).Coherent :=
    (coherent_after hpanel ms).apply (.value (.select i) v)
  have hturn : turn = (f.after ms).1.select (Surface.setValue (f.after ms).2 (Ref.select i) v) v :=
    Controller.handle_choose_of_mem hv
  have hpermission : turn.controller.permission turn.surface =
      if v ∈ (f.after ms).1.offered (f.after ms).2 then v else "" := by
    rw [hturn, Controller.permission_select hl hdropdown hcoherent, Controller.offered_setValue]
  obtain ⟨hmode, houtcome⟩ :=
    Controller.mode_select_of_known (v := v) hl hdropdown hcoherent (by rwa [table_after])
  rw [← hturn, table_after] at hmode
  rw [← hturn] at houtcome
  refine ⟨?_, fun hnot ↦ ?_, hmode, houtcome, fun j hj ↦ ?_⟩
  · have hne : v ≠ "" := Table.ne_empty_of_contains hknown
    rw [hpermission]
    by_cases hoffered : v ∈ (f.after ms).1.offered (f.after ms).2
    · simp [hoffered]
    · simp [hoffered, hne.symm]
  · rw [if_neg hnot] at hpermission
    rw [hpermission] at hmode
    exact ⟨hpermission, (Except.ok.inj hmode).symm⟩
  · rw [hturn, Controller.value_select hl hdropdown hcoherent v hj,
      Control.options_of_frame (Panel.frame_setValue _ _ _ _)]

/-- A form with two copies of its selector that have no permission in common. -/
def uneven : Setup where
  table := sample.table
  exclusion := .disabling
  seating := { permission := [0, 1], text := 0, dropdown := 2 }
  panel := .ofLists [{ name := "argument" }]
    [{ name := "permission_name", options := ["", "edit"] },
      { name := "permission_name", options := ["", "view"] }, { name := "argument" }]

private theorem coherent_uneven : uneven.panel.Coherent := Panel.coherent_ofLists _ (by decide)

/-- What the user chooses in its first copy is selected, and what is then chosen in the second copy
selects nothing. -/
theorem choice_read_from_first_copy_uneven :
    let chosen := (uneven.after []).1.handle (uneven.after []).2 (.choose (.select 0) "edit")
    let moves : List (Move Ref Nat) := [.event (.choose (.select 0) "edit")]
    let lost := (uneven.after moves).1.handle (uneven.after moves).2 (.choose (.select 1) "view")
    chosen.controller.permission chosen.surface = "edit" ∧
      lost.controller.permission lost.surface = "" ∧ lost.controller.mode = .unselected ∧
      (lost.surface.control (.select 1)).value = "view" := by
  intro chosen moves lost
  have hdropdown : uneven.seating.dropdown ∉ uneven.seating.permission := by decide
  obtain ⟨hchosen, -⟩ := uneven.choice_read_from_first_copy coherent_uneven hdropdown []
    (i := 0) (v := "edit") (by decide +kernel) (by decide +kernel)
  obtain ⟨-, hlost, -, -, hvalue⟩ := uneven.choice_read_from_first_copy coherent_uneven hdropdown
    moves (i := 1) (v := "view") (by decide +kernel) (by decide +kernel)
  obtain ⟨hpermission, hmode⟩ := hlost (by decide +kernel)
  exact ⟨hchosen.mpr (by decide +kernel), hpermission, hmode,
    (hvalue 1 (by decide)).trans (if_pos (by decide +kernel))⟩

/-- A choice does not count in whichever copy it is made. -/
theorem not_chosen_in_any_copy : ¬ ∀ (f : Setup), f.panel.Coherent →
    f.seating.dropdown ∉ f.seating.permission →
    ∀ ms : List (Move Ref Nat), (∀ m ∈ ms, m.Fits f.seating) →
    ∀ i ∈ f.seating.permission, ∀ v ∈ ((f.after ms).2.control (.select i)).options,
    f.table.contains v = true →
      let turn := (f.after ms).1.handle (f.after ms).2 (.choose (.select i) v)
      turn.controller.permission turn.surface = v ∧
        f.table.mode v = .ok turn.controller.mode := by
  intro h
  have hchosen := h uneven coherent_uneven (by decide) [] (by simp) 1 (by decide) "view"
    (by decide +kernel) (by decide +kernel)
  exact absurd hchosen.1 (by decide +kernel)

end Setup

end AccessForm
