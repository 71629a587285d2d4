import AccessForm.Proofs.Prefilled
import Mathlib.Data.List.Induction

/-!
# Streams of events

What happens to a form comes in three streams. Permissions are selected and arguments entered,
reasons are given, and the form is submitted. The streams do not disturb each other: whatever is
left out of one of them, the others leave behind the same.

There are two views of the controls. `SameArgument` looks at everything but the reason fields, and
overlooks whether a selector is disabled; the stream about the argument reads and writes no more
than that. The other view looks at the reason fields alone, and only reasons are ever written there.
Whether a selector is disabled is left to the submissions, and `disabled_after_iff` says how.
Together this is all there is, so histories with the same streams end in the same state, however the
streams are interleaved.
-/

namespace AccessForm

/-! ## Streams -/

/-- What a move is about. -/
inductive Stream where
  /-- Permissions are selected, and arguments entered. -/
  | argument
  /-- Reasons are given. -/
  | reason
  /-- The form is submitted. -/
  | submission
  deriving DecidableEq, Repr

/-- The stream that an event belongs to. -/
def Controller.Event.stream {κ : Type} : Controller.Event κ → Stream
  | .select _ | .choose .. | .derive => .argument
  | .noteReason _ | .typeReason .. => .reason
  | .submit => .submission

/-- The stream that a move belongs to. What is entered into a copy of the reason field is a reason,
anything else that is entered is about the argument. -/
def Move.stream (f : Seating) : Move Ref Nat → Stream
  | .event e => e.stream
  | .edit (.value control _) => if control ∈ f.layout.reason then .reason else .argument
  | .edit _ => .argument

private theorem Controller.Event.derives_eq {κ : Type} (e : Event κ) :
    e.derives = decide (e.stream = .argument) := by
  cases e <;> rfl

/-! ## Overlooking what is disabled -/

namespace Control

/-- A control apart from whether it is disabled. -/
def enabled (c : Control) : Control := { c with disabled := false }

private theorem enabled_take (r : Ref) (c : Control) (v : String) :
    (Panel.take r c v).enabled = Panel.take r c.enabled v := by
  cases r <;> rfl

private theorem enabled_bring (r : Ref) (v : String) (c : Control) :
    (Panel.bring r v c).enabled = Panel.bring r v c.enabled := by
  rw [Panel.bring, apply_ite enabled, enabled_take]
  rfl

private theorem eq_of_enabled {c c' : Control} (h : c'.enabled = c.enabled)
    (hdisabled : c'.disabled = c.disabled) : c' = c :=
  calc c' = { c'.enabled with disabled := c'.disabled } := rfl
    _ = { c.enabled with disabled := c.disabled } := by rw [h, hdisabled]
    _ = c := rfl

end Control

/-- Two states of the controls that differ in no more than the reason fields and in which controls
are disabled, apart from the argument fields. -/
structure Panel.SameArgument (f : Seating) (p p' : Panel) : Prop where
  /-- The text field is the same. -/
  text : p'.control (.field f.text) = p.control (.field f.text)
  /-- The dropdown is the same. -/
  dropdown : p'.control (.select f.dropdown) = p.control (.select f.dropdown)
  /-- All controls but the reason fields are the same unless one of them is disabled. -/
  others : ∀ r ∉ f.layout.reason, (p'.control r).enabled = (p.control r).enabled
  /-- The same sections are shown. -/
  shown : p'.shown = p.shown

namespace Panel.SameArgument

variable {c : Controller Ref Nat} {f : Seating} {p p' p'' : Panel}

private theorem refl (f : Seating) (p : Panel) :
    p.SameArgument f p := ⟨rfl, rfl, fun _ _ ↦ rfl, rfl⟩

private theorem symm (h : p.SameArgument f p') : p'.SameArgument f p :=
  ⟨h.text.symm, h.dropdown.symm, fun r hr ↦ (h.others r hr).symm, h.shown.symm⟩

private theorem trans (h : p.SameArgument f p') (h' : p'.SameArgument f p'') :
    p.SameArgument f p'' :=
  ⟨h'.text.trans h.text, h'.dropdown.trans h.dropdown,
    fun r hr ↦ (h'.others r hr).trans (h.others r hr), h'.shown.trans h.shown⟩

private theorem of_reason (ht : f.text ∉ f.reason)
    (hcontrol : ∀ r ∉ f.layout.reason, p'.control r = p.control r) (hshown : p'.shown = p.shown) :
    p.SameArgument f p' where
  text := hcontrol _ (by simpa using ht)
  dropdown := hcontrol _ Seating.select_notMem_reason
  others r hr := congrArg Control.enabled (hcontrol r hr)
  shown := hshown

theorem value (h : p.SameArgument f p') {r : Ref} (hr : r ∉ f.layout.reason) :
    (p'.control r).value = (p.control r).value := by
  have hvalue : (p'.control r).enabled.value = (p.control r).enabled.value := by rw [h.others r hr]
  exact hvalue

/-! ### Writes to both -/

private theorem setValue (h : p.SameArgument f p') (r : Ref) (v : String) :
    SameArgument f (Surface.setValue p r v) (Surface.setValue p' r v) where
  text := by rw [control_setValue, control_setValue, h.text]
  dropdown := by rw [control_setValue, control_setValue, h.dropdown]
  others r' hr' := by
    rw [control_setValue, control_setValue]
    split
    · rw [Control.enabled_take, h.others r' hr', Control.enabled_take]
    · exact h.others r' hr'
  shown := h.shown

private theorem publish (h : p.SameArgument f p') (copies : List Ref) (v : String) :
    SameArgument f (Copies.publish p copies v) (Copies.publish p' copies v) where
  text := by rw [control_publish, control_publish, h.text]
  dropdown := by rw [control_publish, control_publish, h.dropdown]
  others r hr := by
    rw [control_publish, control_publish]
    split
    · rw [Control.enabled_bring, h.others r hr, Control.enabled_bring]
    · exact h.others r hr
  shown := by rw [shown_publish, shown_publish, h.shown]

private theorem setAllDisabled {controls : List Ref} (ht : .field f.text ∉ controls)
    (hd : .select f.dropdown ∉ controls) (p : Panel) (b : Bool) :
    p.SameArgument f (Controller.setAllDisabled p controls b) where
  text := control_setAllDisabled_of_notMem ht p b
  dropdown := control_setAllDisabled_of_notMem hd p b
  others r _ := by
    rw [control_setAllDisabled]
    split
    · rfl
    · rfl
  shown := shown_setAllDisabled p controls b

/-! ### The same derivation -/

private theorem permission (h : p.SameArgument f p') (hl : c.layout = f.layout) :
    c.permission p' = c.permission p := by
  apply Controller.permission_congr
  intro r hr
  rw [hl] at hr
  obtain ⟨i, -, rfl⟩ := List.mem_map.mp hr
  exact h.value Seating.select_notMem_reason

private theorem keepsake (h : p.SameArgument f p') (hl : c.layout = f.layout) :
    c.keepsake p' = c.keepsake p := by
  have htext : p'.control c.layout.text = p.control c.layout.text := by rw [hl]; exact h.text
  have hdropdown : p'.control c.layout.dropdown = p.control c.layout.dropdown := by
    rw [hl]
    exact h.dropdown
  simp only [Controller.keepsake, Surface.value, htext, hdropdown]

private theorem arrange (h : p.SameArgument f p') (hl : c.layout = f.layout) (mode : Mode) :
    SameArgument f (c.arrange p mode) (c.arrange p' mode) := by
  have htext : (c.arrange p' mode).control (.field f.text) =
      (c.arrange p mode).control (.field f.text) := by
    have hfield : p'.control c.layout.text = p.control c.layout.text := by rw [hl]; exact h.text
    rw [Controller.control_arrange_text hl, Controller.control_arrange_text hl,
      Controller.retyped, hfield, Controller.retyped]
  have hdropdown : (c.arrange p' mode).control (.select f.dropdown) =
      (c.arrange p mode).control (.select f.dropdown) := by
    have hfield : p'.control c.layout.dropdown = p.control c.layout.dropdown := by
      rw [hl]
      exact h.dropdown
    rw [Controller.control_arrange_dropdown hl, Controller.control_arrange_dropdown hl]
    cases mode with
    | unselected | freeText => exact congrArg _ hfield
    | choice list =>
      rw [Controller.refilled, hfield, h.keepsake hl]
      rfl
  refine ⟨htext, hdropdown, ?_, ?_⟩
  · intro r hr
    by_cases ht : r = .field f.text
    · rw [ht, htext]
    by_cases hd : r = .select f.dropdown
    · rw [hd, hdropdown]
    · rw [Controller.control_arrange_of_ne hl ht hd, Controller.control_arrange_of_ne hl ht hd]
      exact h.others r hr
  · funext i
    rw [Controller.shown_arrange hl, Controller.shown_arrange hl, h.shown]

end Panel.SameArgument

/-- Two calls with the same answer, after which the controllers are the same and the controls look
the same. -/
structure Turn.SameArgument (f : Seating) (t t' : Turn Panel Ref Nat) : Prop where
  /-- The controllers are the same. -/
  controller : t'.controller = t.controller
  /-- The answers are the same. -/
  outcome : t'.outcome = t.outcome
  /-- The controls look the same. -/
  surface : t.surface.SameArgument f t'.surface

namespace Panel.SameArgument

variable {c : Controller Ref Nat} {f : Seating} {p p' : Panel}

private theorem derive (h : p.SameArgument f p') (hl : c.layout = f.layout) :
    (c.derive p).SameArgument f (c.derive p') := by
  rw [Controller.derive, Controller.derive, h.permission hl]
  cases c.table.mode (c.permission p) with
  | error e => exact ⟨rfl, rfl, h⟩
  | ok mode => exact ⟨rfl, rfl, h.arrange hl mode⟩

private theorem move (h : p.SameArgument f p') (hl : c.layout = f.layout) {m : Move Ref Nat}
    (hm : m.Fits f) (hstream : m.stream f = .argument) :
    (c.move p m).SameArgument f (c.move p' m) := by
  cases m with
  | edit e =>
    cases e with
    | value control v => exact ⟨rfl, rfl, h.setValue control v⟩
    | _ => exact hm.elim
  | event e =>
    cases e with
    | select v => exact (h.publish _ v).derive hl
    | choose copy v =>
      have hcopy : copy ∉ f.layout.reason := by
        obtain ⟨i, -, rfl⟩ := List.mem_map.mp hm
        exact Seating.select_notMem_reason
      have hset := h.setValue copy v
      have hread : Surface.value (Surface.setValue p' copy v) copy =
          Surface.value (Surface.setValue p copy v) copy := hset.value hcopy
      rw [Controller.move, Controller.move, Controller.handle, Controller.handle, hread]
      exact (hset.publish _ _).derive hl
    | derive => exact h.derive hl
    | noteReason _ | typeReason _ _ | submit => cases hstream

end Panel.SameArgument

/-! ## What the other streams leave alone -/

namespace Controller

variable {c : Controller Ref Nat} {f : Seating} {p p' : Panel} {m : Move Ref Nat}

/-- What is not about the argument leaves the controller alone, and is answered with the mode in
force. -/
theorem move_of_not_argument (hstream : m.stream f ≠ .argument) (p : Panel) :
    (c.move p m).controller = c ∧ (c.move p m).outcome = .ok c.mode := by
  cases m with
  | edit e => exact ⟨rfl, rfl⟩
  | event e =>
    have hderives : e.derives = false := by
      rw [Event.derives_eq]
      exact decide_eq_false hstream
    exact ⟨c.controller_handle_of_not_derives p hderives,
      c.outcome_handle_of_not_derives p hderives⟩

private theorem outcome_move (h : p.SameArgument f p') (hl : c.layout = f.layout) (hm : m.Fits f) :
    (c.move p' m).outcome = (c.move p m).outcome := by
  by_cases hstream : m.stream f = .argument
  · exact (h.move hl hm hstream).outcome
  · rw [(move_of_not_argument hstream p').2, (move_of_not_argument hstream p).2]

/-- What is not about the argument does not show in anything that the argument depends on. -/
theorem sameArgument_move (hl : c.layout = f.layout) (ht : f.text ∉ f.reason)
    (hlocked : .field f.text ∉ c.locked ∧ .select f.dropdown ∉ c.locked) (hm : m.Fits f)
    (hstream : m.stream f ≠ .argument) (p : Panel) : p.SameArgument f (c.move p m).surface := by
  cases m with
  | edit e =>
    cases e with
    | value control v =>
      have hcontrol : control ∈ f.layout.reason := by
        by_contra hnot
        exact hstream (if_neg hnot)
      refine .of_reason ht (fun r hr ↦ if_neg ?_) rfl
      exact (ne_of_mem_of_not_mem hcontrol hr).symm
    | _ => exact hm.elim
  | event e =>
    have hderives : e.derives = false := by
      rw [Event.derives_eq]
      exact decide_eq_false hstream
    rw [move]
    rcases c.surface_handle_of_not_derives p hderives with heq | heq
    · rw [heq]
      refine .of_reason ht (fun r hr ↦ ?_) (shown_spread p e)
      exact control_spread_of_not_derives hl hr hderives hm p
    · rw [heq]
      exact .setAllDisabled hlocked.1 hlocked.2 p false

/-- A reason does the same to reason fields that are the same. -/
theorem reason_move (hl : c.layout = f.layout) {c' : Controller Ref Nat}
    (hl' : c'.layout = f.layout) (h : ∀ r ∈ f.layout.reason, p'.control r = p.control r)
    (hm : m.Fits f) (hstream : m.stream f = .reason) :
    ∀ r ∈ f.layout.reason, (c'.move p' m).surface.control r = (c.move p m).surface.control r := by
  have hset (control : Ref) (v : String) : ∀ r ∈ f.layout.reason,
      (Surface.setValue p' control v).control r = (Surface.setValue p control v).control r := by
    intro r hr
    rw [Panel.control_setValue, Panel.control_setValue, h r hr]
  intro r hr
  cases m with
  | edit e =>
    cases e with
    | value control v => exact hset control v r hr
    | _ => exact hm.elim
  | event e =>
    cases e with
    | noteReason v =>
      show (Copies.publish p' c'.layout.reason v).control r =
        (Copies.publish p c.layout.reason v).control r
      rw [Panel.control_publish, Panel.control_publish, hl, hl', h r hr]
    | typeReason copy v =>
      have hread : Surface.value (Surface.setValue p' copy v) copy =
          Surface.value (Surface.setValue p copy v) copy := congrArg Control.value (hset _ v _ hm)
      rw [move, move, handle, handle, noteReason, noteReason, hread]
      dsimp only
      rw [Panel.control_publish, Panel.control_publish, hl, hl', hset _ v r hr]
    | select _ | choose _ _ | derive | submit => cases hstream

private theorem reason_move_of_not_reason (hl : c.layout = f.layout) (ht : f.text ∉ f.reason)
    (hm : m.Fits f) (hstream : m.stream f ≠ .reason) {r : Ref} (hr : r ∈ f.layout.reason)
    (hlocked : r ∉ c.locked) (p : Panel) : (c.move p m).surface.control r = p.control r := by
  obtain ⟨i, hi, rfl⟩ := List.mem_map.mp hr
  cases m with
  | edit e =>
    cases e with
    | value control v =>
      have hcontrol : control ∉ f.layout.reason := by
        intro hmem
        exact hstream (if_pos hmem)
      exact if_neg (ne_of_mem_of_not_mem hr hcontrol)
    | _ => exact hm.elim
  | event e =>
    rw [move]
    cases hd : e.derives with
    | true =>
      have hne : Ref.field i ≠ .field f.text := by
        rw [ne_eq, Ref.field.injEq]
        exact ne_of_mem_of_not_mem hi ht
      rw [c.handle_of_derives p hd, control_derive_of_ne hl hne (by simp),
        control_spread_of_derives hl Seating.field_notMem_permission hd hm]
    | false =>
      cases e with
      | submit => exact Panel.control_setAllDisabled_of_notMem hlocked p false
      | noteReason _ | typeReason _ _ => exact absurd rfl hstream
      | select _ | choose _ _ | derive => cases hd

end Controller

/-! ## Histories with the same streams -/

namespace Setup

variable {f : Setup} {ms : List (Move Ref Nat)}

/-- The part of a history that belongs to one stream. -/
def streamOf (f : Setup) (ms : List (Move Ref Nat)) (s : Stream) : List (Move Ref Nat) :=
  ms.filter (fun m ↦ m.stream f.seating = s)

private theorem streamOf_concat (f : Setup) (ms : List (Move Ref Nat)) (m : Move Ref Nat)
    (s : Stream) :
    f.streamOf (ms ++ [m]) s =
      f.streamOf ms s ++ if m.stream f.seating = s then [m] else [] := by
  rw [streamOf, List.filter_append, ← streamOf]
  split
  · next h => simp [h]
  · next h => simp [h]

/-- What is left out of other streams does not change a stream. -/
theorem streamOf_filter {keep : Move Ref Nat → Bool} {s : Stream}
    (hkeep : ∀ m ∈ ms, m.stream f.seating = s → keep m = true) :
    f.streamOf (ms.filter keep) s = f.streamOf ms s := by
  rw [streamOf, streamOf, List.filter_filter]
  apply List.filter_congr
  intro m hm
  by_cases hstream : m.stream f.seating = s
  · simp [hstream, hkeep m hm hstream]
  · simp [hstream]

private theorem mem_streamOf {m : Move Ref Nat} {s : Stream} :
    m ∈ f.streamOf ms s ↔ m ∈ ms ∧ m.stream f.seating = s := by
  rw [streamOf, List.mem_filter, decide_eq_true_iff]

/-- The argument is decided by the stream that is about it. -/
theorem sameArgument_streamOf (ht : f.seating.text ∉ f.seating.reason)
    (hd : f.seating.dropdown ∉ f.seating.selectors) (hms : ∀ m ∈ ms, m.Fits f.seating) :
    (f.after ms).1 = (f.after (f.streamOf ms .argument)).1 ∧
      (f.after (f.streamOf ms .argument)).2.SameArgument f.seating (f.after ms).2 := by
  induction ms using List.reverseRecOn with
  | nil => exact ⟨rfl, .refl _ _⟩
  | append_singleton ms m ih =>
    have hm : m.Fits f.seating := hms m (by simp)
    obtain ⟨hcontroller, hsame⟩ := ih fun m' hm' ↦ hms m' (List.mem_append_left _ hm')
    rw [streamOf_concat, after_concat]
    split
    · next hstream =>
      rw [after_concat, hcontroller]
      obtain ⟨hcontroller', -, hsurface⟩ := hsame.move (f.layout_after _) hm hstream
      exact ⟨hcontroller', hsurface⟩
    · next hstream =>
      rw [List.append_nil]
      refine ⟨(Controller.move_of_not_argument hstream _).1.trans hcontroller, hsame.trans ?_⟩
      apply Controller.sameArgument_move (f.layout_after ms) ht _ hm hstream
      rw [f.locked_after]
      exact ⟨f.field_notMem_locked _, f.dropdown_notMem_locked hd⟩

/-- The reason fields are decided by the stream of reasons. -/
theorem reason_streamOf (ht : f.seating.text ∉ f.seating.reason)
    (hms : ∀ m ∈ ms, m.Fits f.seating) : ∀ r ∈ f.seating.layout.reason,
      (f.after ms).2.control r = (f.after (f.streamOf ms .reason)).2.control r := by
  induction ms using List.reverseRecOn with
  | nil => exact fun _ _ ↦ rfl
  | append_singleton ms m ih =>
    have hm : m.Fits f.seating := hms m (by simp)
    have hsame := ih fun m' hm' ↦ hms m' (List.mem_append_left _ hm')
    rw [streamOf_concat, after_concat]
    split
    · next hstream =>
      rw [after_concat]
      exact Controller.reason_move (f.layout_after _) (f.layout_after _) hsame hm hstream
    · next hstream =>
      intro r hr
      rw [List.append_nil, ← hsame r hr]
      apply Controller.reason_move_of_not_reason (f.layout_after ms) ht hm hstream hr
      obtain ⟨i, -, rfl⟩ := List.mem_map.mp hr
      rw [f.locked_after]
      exact f.field_notMem_locked i

/-! ### Two histories -/

variable {ms' : List (Move Ref Nat)}

private theorem sameArgument_after (ht : f.seating.text ∉ f.seating.reason)
    (hd : f.seating.dropdown ∉ f.seating.selectors) (hms : ∀ m ∈ ms, m.Fits f.seating)
    (hms' : ∀ m ∈ ms', m.Fits f.seating) (h : f.streamOf ms' .argument = f.streamOf ms .argument) :
    (f.after ms').1 = (f.after ms).1 ∧
      (f.after ms).2.SameArgument f.seating (f.after ms').2 := by
  obtain ⟨hcontroller, hsame⟩ := sameArgument_streamOf ht hd hms
  obtain ⟨hcontroller', hsame'⟩ := sameArgument_streamOf ht hd hms'
  rw [h] at hcontroller' hsame'
  exact ⟨hcontroller'.trans hcontroller.symm, hsame.symm.trans hsame'⟩

private theorem reason_after (ht : f.seating.text ∉ f.seating.reason)
    (hms : ∀ m ∈ ms, m.Fits f.seating) (hms' : ∀ m ∈ ms', m.Fits f.seating)
    (h : f.streamOf ms' .reason = f.streamOf ms .reason) :
    ∀ r ∈ f.seating.layout.reason, (f.after ms').2.control r = (f.after ms).2.control r := by
  intro r hr
  rw [reason_streamOf ht hms' r hr, h, ← reason_streamOf ht hms r hr]

/-- Whether a control other than the argument fields is disabled depends on the submissions, and
on those only if it is locked. -/
theorem disabled_after (hms : ∀ m ∈ ms, m.Fits f.seating) (hms' : ∀ m ∈ ms', m.Fits f.seating)
    {r : Ref} (ht : r ≠ .field f.seating.text) (hd : r ≠ .select f.seating.dropdown)
    (h : r ∈ f.begin.controller.locked →
      f.streamOf ms' .submission = f.streamOf ms .submission) :
    ((f.after ms').2.control r).disabled = ((f.after ms).2.control r).disabled := by
  rw [Bool.eq_iff_iff, disabled_after_iff ht hd hms, disabled_after_iff ht hd hms']
  have hsubmit (hr : r ∈ f.begin.controller.locked) : .event .submit ∈ ms' ↔ .event .submit ∈ ms :=
    calc Move.event .submit ∈ ms' ↔ .event .submit ∈ f.streamOf ms' .submission := by
          rw [mem_streamOf]
          exact (and_iff_left rfl).symm
      _ ↔ .event .submit ∈ f.streamOf ms .submission := by rw [h hr]
      _ ↔ .event .submit ∈ ms := by
          rw [mem_streamOf]
          exact and_iff_left rfl
  rw [and_congr_right hsubmit]

/-- After the same arguments and reasons, the controls are the same. For locked selectors it takes
the same submissions as well. -/
theorem control_after (ht : f.seating.text ∉ f.seating.reason)
    (hd : f.seating.dropdown ∉ f.seating.selectors) (hms : ∀ m ∈ ms, m.Fits f.seating)
    (hms' : ∀ m ∈ ms', m.Fits f.seating)
    (hargument : f.streamOf ms' .argument = f.streamOf ms .argument)
    (hreason : f.streamOf ms' .reason = f.streamOf ms .reason) {r : Ref}
    (h : r ∈ f.begin.controller.locked →
      f.streamOf ms' .submission = f.streamOf ms .submission) :
    (f.after ms').2.control r = (f.after ms).2.control r := by
  obtain ⟨-, hsame⟩ := sameArgument_after ht hd hms hms' hargument
  by_cases hr : r ∈ f.seating.layout.reason
  · exact reason_after ht hms hms' hreason r hr
  by_cases htext : r = .field f.seating.text
  · rw [htext, hsame.text]
  by_cases hdropdown : r = .select f.seating.dropdown
  · rw [hdropdown, hsame.dropdown]
  · exact Control.eq_of_enabled (hsame.others r hr) (disabled_after hms hms' htext hdropdown h)

/-! ## The theorem -/

/-- The three streams of a form are independent of each other, whatever happens and in whatever
order. `keep` tells which moves of a history are not left out.

- Without any of the reasons and submissions, the controller is the same, every further move is
  answered alike, and the argument fields, the sections and the values of the selectors are the
  same.
- Without any of what is about the argument, all reason fields are the same, and the same selectors
  are disabled.
- Without any of the submissions, everything is the same, except that locked selectors may be
  disabled.
- Histories with the same streams end in the same state, however the streams are interleaved. -/
theorem streams_independent (f : Setup) (ht : f.seating.text ∉ f.seating.reason)
    (hd : f.seating.dropdown ∉ f.seating.selectors) :
    (∀ (ms : List (Move Ref Nat)) (keep : Move Ref Nat → Bool), (∀ m ∈ ms, m.Fits f.seating) →
      (∀ m ∈ ms, m.stream f.seating = .argument → keep m = true) →
      let all := f.after ms
      let kept := f.after (ms.filter keep)
      kept.1 = all.1 ∧
      (∀ m : Move Ref Nat, m.Fits f.seating →
        (kept.1.move kept.2 m).outcome = (all.1.move all.2 m).outcome) ∧
      kept.2.control (.field f.seating.text) = all.2.control (.field f.seating.text) ∧
      kept.2.control (.select f.seating.dropdown) = all.2.control (.select f.seating.dropdown) ∧
      kept.2.shown = all.2.shown ∧
      ∀ i ∈ f.seating.selectors,
        (kept.2.control (.select i)).value = (all.2.control (.select i)).value) ∧
    (∀ (ms : List (Move Ref Nat)) (keep : Move Ref Nat → Bool), (∀ m ∈ ms, m.Fits f.seating) →
      (∀ m ∈ ms, m.stream f.seating ≠ .argument → keep m = true) →
      let all := f.after ms
      let kept := f.after (ms.filter keep)
      (∀ i ∈ f.seating.reason, kept.2.control (.field i) = all.2.control (.field i)) ∧
      ∀ i ∈ f.seating.selectors,
        (kept.2.control (.select i)).disabled = (all.2.control (.select i)).disabled) ∧
    (∀ (ms : List (Move Ref Nat)) (keep : Move Ref Nat → Bool), (∀ m ∈ ms, m.Fits f.seating) →
      (∀ m ∈ ms, m.stream f.seating ≠ .submission → keep m = true) →
      let all := f.after ms
      let kept := f.after (ms.filter keep)
      kept.1 = all.1 ∧ kept.2.shown = all.2.shown ∧
      (∀ r ∉ f.begin.controller.locked, kept.2.control r = all.2.control r) ∧
      ∀ r ∈ f.begin.controller.locked,
        (kept.2.control r).enabled = (all.2.control r).enabled) ∧
    ∀ ms ms' : List (Move Ref Nat), (∀ m ∈ ms, m.Fits f.seating) →
      (∀ m ∈ ms', m.Fits f.seating) → (∀ s, f.streamOf ms' s = f.streamOf ms s) →
      f.after ms' = f.after ms := by
  have hfilter {ms : List (Move Ref Nat)} (hms : ∀ m ∈ ms, m.Fits f.seating)
      (keep : Move Ref Nat → Bool) : ∀ m ∈ ms.filter keep, m.Fits f.seating :=
    fun m hm ↦ hms m (List.mem_filter.mp hm).1
  refine ⟨?_, ?_, ?_, ?_⟩
  · intro ms keep hms hkeep all kept
    obtain ⟨hcontroller, hsame⟩ :=
      sameArgument_after ht hd hms (hfilter hms keep) (streamOf_filter hkeep)
    refine ⟨hcontroller, ?_, hsame.text, hsame.dropdown, hsame.shown, ?_⟩
    · intro m hm
      show (kept.1.move kept.2 m).outcome = _
      rw [hcontroller]
      exact Controller.outcome_move hsame (f.layout_after ms) hm
    · exact fun i _ ↦ hsame.value Seating.select_notMem_reason
  · intro ms keep hms hkeep all kept
    constructor
    · intro i hi
      apply reason_after ht hms (hfilter hms keep)
      · exact streamOf_filter fun m hm hs ↦ hkeep m hm (by rw [hs]; decide)
      · exact Seating.field_mem_reason.mpr hi
    · intro i hi
      apply disabled_after hms (hfilter hms keep) (by simp)
      · rw [ne_eq, Ref.select.injEq]
        exact ne_of_mem_of_not_mem hi hd
      · intro _
        exact streamOf_filter fun m hm hs ↦ hkeep m hm (by rw [hs]; decide)
  · intro ms keep hms hkeep all kept
    have hargument : f.streamOf (ms.filter keep) .argument = f.streamOf ms .argument :=
      streamOf_filter fun m hm hs ↦ hkeep m hm (by rw [hs]; decide)
    have hreason : f.streamOf (ms.filter keep) .reason = f.streamOf ms .reason :=
      streamOf_filter fun m hm hs ↦ hkeep m hm (by rw [hs]; decide)
    obtain ⟨hcontroller, hsame⟩ := sameArgument_after ht hd hms (hfilter hms keep) hargument
    refine ⟨hcontroller, hsame.shown, ?_, ?_⟩
    · intro r hr
      exact control_after ht hd hms (hfilter hms keep) hargument hreason fun h ↦ absurd h hr
    · intro r hr
      apply hsame.others
      rintro hmem
      obtain ⟨i, -, rfl⟩ := List.mem_map.mp hmem
      exact f.field_notMem_locked i (f.locked_after [] ▸ hr)
  · intro ms ms' hms hms' hstreams
    obtain ⟨hcontroller, hsame⟩ := sameArgument_after ht hd hms hms' (hstreams .argument)
    apply Prod.ext hcontroller
    apply Panel.ext
    · intro r
      exact control_after ht hd hms hms' (hstreams .argument) (hstreams .reason)
        fun _ ↦ hstreams .submission
    · exact hsame.shown

/-- With the sample form, it makes no difference whether it is submitted and the reason typed at the
end or at the beginning. The text is there without the reason, and the reason without the text. -/
theorem streams_independent_sample :
    let shuffled : List (Move Ref Nat) :=
      [.event .submit, .event (.typeReason (.field 1) "on call"),
        .event (.choose (.select 0) "edit"), .event (.choose (.select 0) "gone"),
        .edit (.value (.field 0) "team-b")]
    sample.after shuffled = sample.after sampleMoves ∧
      ((sample.after (sampleMoves.take 3)).2.control (.field 0)).value = "team-b" ∧
      ((sample.after (sampleMoves.drop 3)).2.control (.field 1)).value = "on call" ∧
      ((sample.after (sampleMoves.take 4)).2.control (.select 1)).enabled =
        ((sample.after sampleMoves).2.control (.select 1)).enabled := by
  intro shuffled
  obtain ⟨hargument, hothers, hsubmission, hall⟩ :=
    sample.streams_independent (by decide) (by decide)
  obtain ⟨-, -, htext, -⟩ := hargument sampleMoves (fun m ↦ m.stream sample.seating = .argument)
    (by decide) (by decide)
  obtain ⟨hreason, -⟩ := hothers sampleMoves (fun m ↦ m.stream sample.seating ≠ .argument)
    (by decide) (by decide)
  obtain ⟨-, -, -, hlocked⟩ := hsubmission sampleMoves
    (fun m ↦ m.stream sample.seating ≠ .submission) (by decide) (by decide)
  refine ⟨?_, ?_, ?_, ?_⟩
  · exact hall sampleMoves shuffled (by decide) (by decide) fun s ↦ by cases s <;> rfl
  · exact (congrArg Control.value htext).trans (by decide +kernel)
  · exact (congrArg Control.value (hreason 1 (by decide))).trans (by decide +kernel)
  · exact hlocked (.select 1) (by decide +kernel)

end Setup

end AccessForm
