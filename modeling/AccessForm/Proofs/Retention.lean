import AccessForm.Proofs.Choice

/-!
# What the dropdown remembers

A dropdown is emptied and refilled whenever a permission with a closed list is selected, and yet it
remembers what the user chose. From the first successful derivation on, a refill looks at nothing
but the option that the dropdown holds: it stays if the new list offers it, and gives way to the
first option of the list if not. Whatever else happens in between, a permission without a list, one
that is refused, a text, a reason or a submission, leaves the dropdown alone (`menu_move`).

So what the dropdown holds after a detour is decided by the lists on the way (`held_play`): an
option survives all lists that offer it, and is gone after the first one that does not
(`held_play_iff`). A list that offers it again does not bring it back.
-/

namespace AccessForm

/-! ## Refills -/

/-- The option that a dropdown holds when it has been rebuilt from a list: the one before, or else
the first one. -/
def retained (list : List String) (held : String) : String :=
  if held ∈ list then held else list.headD ""

private theorem retained_eq_self_iff {list : List String} (h : list ≠ []) (held : String) :
    retained list held = held ↔ held ∈ list := by
  obtain ⟨first, rest, rfl⟩ := List.exists_cons_of_ne_nil h
  constructor
  · intro heq
    by_contra hnot
    have hfirst : first = held := (if_neg hnot).symm.trans heq
    exact hnot (hfirst ▸ List.mem_cons_self)
  · exact fun hmem ↦ if_pos hmem

/-- What a dropdown offers, and what it holds. -/
def Control.menu (c : Control) : List String × String := (c.options, c.value)

private theorem Exclusion.menu_dress (e : Exclusion) (b : Bool) (c : Control) :
    (e.dress b c).menu = c.menu := by
  rw [Control.menu, options_dress, value_dress, Control.menu]

/-- The menu of a dropdown after an answer with a closed list, or with none. -/
def menuAfter (menu : List String × String) : Option (List String) → List String × String
  | none => menu
  | some list => (list, retained list menu.2)

/-! ## The lists of a history -/

/-- The closed list of an answer, if it gives one. -/
def Turn.list? {σ κ ς : Type} (t : Turn σ κ ς) : Option (List String) :=
  match t.outcome with
  | .ok (.choice list) => some list
  | _ => none

private theorem Turn.list?_eq_some_iff {σ κ ς : Type} {t : Turn σ κ ς} {list : List String} :
    t.list? = some list ↔ t.outcome = .ok (.choice list) := by
  rw [Turn.list?]
  rcases t.outcome with _ | (_ | _ | _)
  · simp
  · simp
  · simp
  · simp

/-- The option that a move chooses in a dropdown. -/
def Move.chosen? (dropdown : Nat) : Move Ref Nat → Option String
  | .edit (.value control v) => if control = .select dropdown then some v else none
  | _ => none

namespace Controller

section Lists

variable {σ κ ς : Type} [Surface σ κ ς]

/-- The closed list with which a move is answered, if it makes the controller derive one. -/
def list? (c : Controller κ ς) (s : σ) (m : Move κ ς) : Option (List String) :=
  if m.derives then (c.move s m).list? else none

/-- The closed lists along a history, in order. -/
def lists (c : Controller κ ς) (s : σ) : List (Move κ ς) → List (List String)
  | [] => []
  | m :: ms => (c.list? s m).toList ++
      lists (c.move s m).controller (c.move s m).surface ms

private theorem ne_nil_of_list? {c : Controller κ ς} {s : σ} {m : Move κ ς} {list : List String}
    (h : c.list? s m = some list) : list ≠ [] := by
  obtain ⟨hm, hlist⟩ := Option.ite_none_right_eq_some.mp h
  cases m with
  | edit e => cases hm
  | event e =>
    have houtcome : (c.handle s e).outcome = .ok (.choice list) := Turn.list?_eq_some_iff.mp hlist
    rw [c.handle_of_derives s hm, outcome_derive] at houtcome
    exact Table.ne_nil_of_allowance? (Table.allowance?_of_mode houtcome)

end Lists

variable {c : Controller Ref Nat} {f : Seating} {p : Panel}

/-! ## One move -/

/-- Once there is a mode, the dropdown is refilled around what it holds. -/
theorem menu_derive (hl : c.layout = f.layout) (hprimed : c.primed = true) :
    ((c.derive p).surface.control (.select f.dropdown)).menu =
      menuAfter (p.control (.select f.dropdown)).menu (c.derive p).list? := by
  have hdropdown : c.layout.dropdown = .select f.dropdown := by rw [hl]; rfl
  obtain ⟨_, -, heq⟩ | ⟨mode, -, heq⟩ := c.derive_cases p
  · rw [heq]
    rfl
  · rw [heq]
    dsimp only
    rw [control_arrange_dropdown hl, Exclusion.menu_dress, refilled.eq_def, hdropdown]
    cases mode with
    | unselected => rfl
    | freeText => rfl
    | choice list =>
      have hkept : c.keepsake p = (p.control (.select f.dropdown)).value := by
        simp [keepsake, hprimed, hdropdown, Surface.value]
      rw [hkept]
      rfl

/-- A move that chooses nothing in the dropdown changes it by the list of its answer alone. -/
theorem menu_move (hl : c.layout = f.layout) (hd : f.dropdown ∉ f.permission)
    (hprimed : c.primed = true) {m : Move Ref Nat} (hm : m.Fits f)
    (hchosen : m.chosen? f.dropdown = none) :
    ((c.move p m).surface.control (.select f.dropdown)).menu =
      menuAfter (p.control (.select f.dropdown)).menu (c.list? p m) := by
  cases m with
  | edit e =>
    cases e with
    | value control v =>
      have hne : Ref.select f.dropdown ≠ control := by
        rintro rfl
        simp [Move.chosen?] at hchosen
      exact congrArg Control.menu (if_neg hne)
    | _ => exact hm.elim
  | event e =>
    have hspread : (c.spread p e).control (.select f.dropdown) =
        p.control (.select f.dropdown) := by
      apply control_spread_of_notMem hl
      · rwa [Seating.select_mem_permission]
      · exact Seating.select_notMem_reason
      · exact hm
    rw [move]
    cases he : e.derives with
    | true =>
      have hlist : c.list? p (.event e) = (c.derive (c.spread p e)).list? := by
        rw [← c.handle_of_derives p he]
        exact if_pos he
      rw [hlist, c.handle_of_derives p he, menu_derive hl hprimed, hspread]
    | false =>
      have hlist : c.list? p (.event e) = none :=
        if_neg (by rw [Move.derives, he]; exact Bool.false_ne_true)
      rw [hlist, menuAfter]
      rcases c.surface_handle_of_not_derives p he with heq | heq
      · rw [heq, hspread]
      · rw [heq, Panel.control_setAllDisabled]
        split
        · rfl
        · rfl

private theorem held_move (hl : c.layout = f.layout) (hd : f.dropdown ∉ f.permission)
    (hprimed : c.primed = true) {m : Move Ref Nat} (hm : m.Fits f)
    (hchosen : m.chosen? f.dropdown = none) :
    ((c.move p m).surface.control (.select f.dropdown)).value =
      (c.list? p m).elim (p.control (.select f.dropdown)).value
        (retained · (p.control (.select f.dropdown)).value) := by
  have hmenu := congrArg Prod.snd (menu_move (p := p) hl hd hprimed hm hchosen)
  cases h : c.list? p m with
  | none => rwa [h] at hmenu
  | some list => rwa [h] at hmenu

/-! ## Detours -/

/-- What the dropdown holds after a detour is decided by the lists on the way. -/
theorem held_play (hl : c.layout = f.layout) (hd : f.dropdown ∉ f.permission)
    (hprimed : c.primed = true) {ms : List (Move Ref Nat)} (hms : ∀ m ∈ ms, m.Fits f)
    (hchosen : ∀ m ∈ ms, m.chosen? f.dropdown = none) :
    ((c.play p ms).2.control (.select f.dropdown)).value =
      (c.lists p ms).foldl (fun held list ↦ retained list held)
        (p.control (.select f.dropdown)).value := by
  induction ms generalizing c p with
  | nil => rfl
  | cons m ms ih =>
    rw [List.forall_mem_cons] at hms hchosen
    have hprimed' : (c.move p m).controller.primed = true :=
      (c.primed_move_iff p m).mpr (.inl hprimed)
    rw [play_cons, ih ((c.layout_move p m).trans hl) hprimed' hms.2 hchosen.2, lists,
      List.foldl_append, held_move hl hd hprimed hms.1 hchosen.1]
    cases c.list? p m with
    | none => rfl
    | some list => rfl

/-- An option is held throughout a detour exactly if all lists on the way offer it. -/
theorem held_play_iff (hl : c.layout = f.layout) (hd : f.dropdown ∉ f.permission)
    (hprimed : c.primed = true) {ms : List (Move Ref Nat)} (hms : ∀ m ∈ ms, m.Fits f)
    (hchosen : ∀ m ∈ ms, m.chosen? f.dropdown = none) {v : String}
    (hv : (p.control (.select f.dropdown)).value = v) :
    (∀ k, ((c.play p (ms.take k)).2.control (.select f.dropdown)).value = v) ↔
      ∀ list ∈ c.lists p ms, v ∈ list := by
  induction ms generalizing c p with
  | nil => simp [lists, hv]
  | cons m ms ih =>
    rw [List.forall_mem_cons] at hms hchosen
    have hl' : (c.move p m).controller.layout = f.layout := (c.layout_move p m).trans hl
    have hprimed' : (c.move p m).controller.primed = true :=
      (c.primed_move_iff p m).mpr (.inl hprimed)
    -- one move keeps the option exactly if its list offers it
    have hstep : ((c.move p m).surface.control (.select f.dropdown)).value = v ↔
        ∀ list ∈ (c.list? p m).toList, v ∈ list := by
      rw [held_move hl hd hprimed hms.1 hchosen.1, hv]
      cases h : c.list? p m with
      | none => simp
      | some list => simpa using retained_eq_self_iff (ne_nil_of_list? h) v
    rw [lists, List.forall_mem_append]
    constructor
    · intro hheld
      have hnext := hheld 1
      refine ⟨hstep.mp hnext, (ih hl' hprimed' hms.2 hchosen.2 hnext).mp fun k ↦ ?_⟩
      exact hheld (k + 1)
    · rintro ⟨hlist, hlists⟩ k
      cases k with
      | zero => exact hv
      | succ k => exact (ih hl' hprimed' hms.2 hchosen.2 (hstep.mpr hlist)).mpr hlists k

end Controller

/-! ## The theorem -/

namespace Setup

/-- The dropdown for the argument at the end of a history. -/
def dropdownAfter (f : Setup) (ms : List (Move Ref Nat)) : Control :=
  (f.after ms).2.control (.select f.seating.dropdown)

/-- From the first successful derivation on, the dropdown remembers what it holds.

- A move that is answered with a closed list rebuilds the dropdown from the list. It keeps the
  option that it holds if the list offers it, and holds the first option of the list otherwise.
- Any other move leaves the options and the value alone, unless it chooses an option.
- An offered option that is chosen is held.
- What the dropdown holds after a detour follows from the lists on the way alone. It holds the same
  option throughout the detour exactly if each of them offers that option. -/
theorem dropdown_remembers (f : Setup)
    (hdropdown : f.seating.dropdown ∉ f.seating.permission) {ms : List (Move Ref Nat)}
    (hderived : f.Derived ms) :
    (∀ m : Move Ref Nat, m.Fits f.seating → m.chosen? f.seating.dropdown = none →
      ∀ list, (f.after ms).1.list? (f.after ms).2 m = some list →
        ∃ first rest, list = first :: rest ∧
          (f.dropdownAfter (ms ++ [m])).options = list ∧
          (f.dropdownAfter (ms ++ [m])).value =
            if (f.dropdownAfter ms).value ∈ list then (f.dropdownAfter ms).value else first) ∧
    (∀ m : Move Ref Nat, m.Fits f.seating → m.chosen? f.seating.dropdown = none →
      (f.after ms).1.list? (f.after ms).2 m = none →
        (f.dropdownAfter (ms ++ [m])).options = (f.dropdownAfter ms).options ∧
          (f.dropdownAfter (ms ++ [m])).value = (f.dropdownAfter ms).value) ∧
    (∀ v ∈ (f.dropdownAfter ms).options,
      (f.dropdownAfter (ms ++ [.edit (.value (.select f.seating.dropdown) v)])).value = v) ∧
    ∀ detour : List (Move Ref Nat), (∀ m ∈ detour, m.Fits f.seating) →
      (∀ m ∈ detour, m.chosen? f.seating.dropdown = none) →
      let lists := (f.after ms).1.lists (f.after ms).2 detour
      (f.dropdownAfter (ms ++ detour)).value =
          lists.foldl (fun held list ↦ retained list held) (f.dropdownAfter ms).value ∧
        ((∀ k, (f.dropdownAfter (ms ++ detour.take k)).value = (f.dropdownAfter ms).value) ↔
          ∀ list ∈ lists, (f.dropdownAfter ms).value ∈ list) := by
  have hl := f.layout_after ms
  have hprimed : (f.after ms).1.primed = true := (f.primed_after_iff ms).mpr hderived
  have hmenu (m : Move Ref Nat) (hm : m.Fits f.seating)
      (hchosen : m.chosen? f.seating.dropdown = none) :
      (f.dropdownAfter (ms ++ [m])).menu =
        menuAfter (f.dropdownAfter ms).menu ((f.after ms).1.list? (f.after ms).2 m) := by
    rw [dropdownAfter, after_concat]
    exact Controller.menu_move hl hdropdown hprimed hm hchosen
  have happend (ms' : List (Move Ref Nat)) : f.dropdownAfter (ms ++ ms') =
      ((f.after ms).1.play (f.after ms).2 ms').2.control (.select f.seating.dropdown) := by
    rw [dropdownAfter, after, Controller.play_append]
    rfl
  refine ⟨?_, ?_, ?_, ?_⟩
  · intro m hm hchosen list hlist
    obtain ⟨first, rest, rfl⟩ := List.exists_cons_of_ne_nil (Controller.ne_nil_of_list? hlist)
    have h := hmenu m hm hchosen
    rw [hlist] at h
    exact ⟨first, rest, rfl, congrArg Prod.fst h, congrArg Prod.snd h⟩
  · intro m hm hchosen hlist
    have h := hmenu m hm hchosen
    rw [hlist] at h
    exact ⟨congrArg Prod.fst h, congrArg Prod.snd h⟩
  · intro v hv
    rw [happend]
    exact (congrArg Control.value (if_pos rfl)).trans (if_pos hv)
  · intro detour hdetour hchosen lists
    constructor
    · rw [happend]
      exact Controller.held_play hl hdropdown hprimed hdetour hchosen
    · simp only [happend]
      exact Controller.held_play_iff hl hdropdown hprimed hdetour hchosen rfl

/-- A form with two closed lists. -/
def listed : Setup :=
  { sample with
    table :=
      { allowances :=
          ⟨[("edit", .anything), ("ship", .oneOf ["dev", "prod"]),
            ("view", .oneOf ["prod", "staging"])], by decide +kernel⟩
        named := by decide
        settled := by decide }
    panel := .ofLists [{ name := "argument" }, { name := "reason" }]
      [{ name := "permission_name", options := ["", "edit", "gone", "ship", "view"] },
        { name := "group_name", options := ["sre"], value := "sre" }, { name := "argument" }] }

/-- The user chooses an option, selects the free text permission, types the name of another option,
selects a permission without arguments, and submits the form. -/
def wandering : List (Move Ref Nat) :=
  [.event (.select "edit"), .edit (.value (.field 0) "prod"), .event (.select "gone"),
    .event .submit]

/-- The chosen option is still there when the first list comes back. The other list replaces it. -/
theorem dropdown_remembers_listed :
    let chosen : List (Move Ref Nat) :=
      [.event (.select "view"), .edit (.value (.select 2) "staging")]
    let back := wandering ++ [.event (.select "view")]
    (listed.dropdownAfter chosen).value = "staging" ∧
      (listed.dropdownAfter (chosen ++ back)).value = "staging" ∧
      (listed.dropdownAfter (chosen ++ [.event (.select "ship")])).value = "dev" := by
  intro chosen back
  have hbegin : listed.Derived [.event (.select "view")] :=
    (listed.primed_after_iff _).mp (by decide +kernel)
  obtain ⟨-, -, hchosen, -⟩ := listed.dropdown_remembers (by decide) hbegin
  have hvalue : (listed.dropdownAfter chosen).value = "staging" :=
    hchosen "staging" (by decide +kernel)
  have hderived : listed.Derived chosen := hbegin.concat _
  obtain ⟨hlist, -, -, hdetour⟩ := listed.dropdown_remembers (by decide) hderived
  obtain ⟨-, hheld⟩ := hdetour back (by decide) (by decide)
  have hback := hheld.mpr (by decide +kernel) back.length
  obtain ⟨first, rest, heq, -, hship⟩ :=
    hlist (.event (.select "ship")) (by decide) rfl ["dev", "prod"] (by decide +kernel)
  refine ⟨hvalue, ?_, ?_⟩
  · rw [List.take_length] at hback
    exact hback.trans hvalue
  · obtain ⟨rfl, -⟩ := List.cons.inj heq
    exact hship.trans (if_neg (by decide +kernel))

end Setup

end AccessForm
