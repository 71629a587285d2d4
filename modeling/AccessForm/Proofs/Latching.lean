import AccessForm.Proofs.Attendance
import AccessForm.Proofs.Hosting
import AccessForm.Proofs.Seclusion
import Mathlib.Data.List.Induction

/-!
# Guards and submissions

A guard listens to submissions at its own element and nowhere else, and nobody but its listener
tells it of one. So all that matters for a latch is which submissions were heard at the element
since the guard was bound (`SubmittedSince`), whatever else happened to the page. The latch is
closed exactly if there was one (`submitted_iff_submittedSince`), and a submission is prevented
exactly if the latch of a guard around its target was closed before it
(`Attended.answer_dispatch_submit`).

Within one submission every guard around the target is told once. This is where it matters that a
way up passes no element twice and that no listener is registered twice.
-/

namespace AccessForm

/-- A guard after it heard of a submission, or not. -/
def BoundGuard.hearing (g : BoundGuard) (heard : Bool) : BoundGuard :=
  { g with latch := { g.latch with submitted := g.latch.submitted || heard } }

theorem BoundGuard.hearing_false (g : BoundGuard) : g.hearing false = g := by
  rw [hearing, Bool.or_false]

private theorem BoundGuard.hearing_hearing (g : BoundGuard) (a b : Bool) :
    (g.hearing a).hearing b = g.hearing (a || b) := by
  simp only [hearing, Bool.or_assoc]

private theorem BoundGuard.map_hearing_eq_self {gs : List BoundGuard} {heard : BoundGuard → Bool}
    (h : ∀ g ∈ gs, heard g = false) : (gs.map fun g ↦ g.hearing (heard g)) = gs := by
  refine (List.map_congr_left fun g hg ↦ ?_).trans (List.map_id gs)
  rw [h g hg, g.hearing_false, id_eq]

/-- Whether a listener tells a guard of submissions. -/
def Listener.latches (l : Listener) (id : BindingId) : Bool := l.reaction == .latch && l.owner == id

private theorem Document.nodup_lineage (d : Document) (id : NodeId) : (d.lineage id).Nodup := by
  induction id using Nat.strongRecOn with
  | ind id ih =>
    obtain hnone | ⟨n, hn⟩ := Option.eq_none_or_eq_some (d.find? id)
    · rw [lineage_eq, hnone]
      exact List.nodup_nil
    have hlineage : d.lineage id = id :: (n.parent.map d.lineage).getD [] := by
      rw [lineage_eq, hn]
    rw [hlineage]
    cases hp : n.parent with
    | none => exact List.nodup_singleton id
    | some p =>
      have hlt := parent_lt_of_find? hn hp
      refine List.nodup_cons.mpr ⟨fun hmem ↦ ?_, ih p hlt⟩
      exact Nat.lt_irrefl id (Nat.lt_of_le_of_lt (le_of_mem_lineage hmem) hlt)

namespace Site

variable {s s' s'' : Site} {d : Document} {g : BoundGuard} {l : Listener} {ls : List Listener}
  {root target : NodeId} {id : BindingId}

/-! ## What listeners do -/

private theorem latch_submit (latch : Latch NodeId) (d : Document) :
    (latch.submit d).latch = { latch with submitted := true } := by
  rw [Latch.submit]
  split
  · next h => rw [← h]
  · rfl

private theorem verdict_submit (latch : Latch NodeId) (d : Document) :
    (latch.submit d).verdict = .suppress ↔ latch.submitted = true := by
  rw [Latch.submit]
  split
  · next h => simp [h]
  · next h => simp [h]

namespace Orderly

variable (h : s.Orderly)
include h

theorem eq_of_guard? {k : BoundGuard} (hk : s.guard? id = some k) (hg : g ∈ s.guards)
    (hid : g.id = id) : g = k := by
  have hkid : k.id = id := by simpa using List.find?_some hk
  exact List.inj_on_of_nodup_map h.nodup_guards hg (List.mem_of_find?_eq_some hk)
    (hid.trans hkid.symm)

theorem guards_judge (id : BindingId) :
    (s.judge id).site.guards = s.guards.map fun g ↦ g.hearing (g.id == id) := by
  rw [Site.judge]
  cases hk : s.guard? id with
  | none =>
    refine (BoundGuard.map_hearing_eq_self fun g hg ↦ ?_).symm
    exact Bool.eq_false_iff.mpr (List.find?_eq_none.mp hk g hg)
  | some k =>
    refine List.map_congr_left fun g hg ↦ ?_
    split
    · next hid =>
      rw [h.eq_of_guard? hk hg hid, latch_submit, List.find?_some hk, BoundGuard.hearing,
        Bool.or_true]
    · next hid => rw [beq_false_of_ne hid, g.hearing_false]

private theorem answer_judge (id : BindingId) : (s.judge id).answer = true ↔
    ∃ g ∈ s.guards, g.latch.submitted = true ∧ g.id = id := by
  rw [Site.judge]
  cases hk : s.guard? id with
  | none =>
    simp only [Bool.false_eq_true, false_iff, not_exists, not_and]
    exact fun g hg _ hid ↦ List.find?_eq_none.mp hk g hg (beq_iff_eq.mpr hid)
  | some k =>
    simp only [decide_eq_true_eq, verdict_submit]
    constructor
    · exact fun hsub ↦ ⟨k, List.mem_of_find?_eq_some hk, hsub, by simpa using List.find?_some hk⟩
    · rintro ⟨g, hg, hsub, hid⟩
      exact h.eq_of_guard? hk hg hid ▸ hsub

private theorem guards_react (l : Listener) :
    (s.react l).site.guards = s.guards.map fun g ↦ g.hearing (l.latches g.id) := by
  cases hr : l.reaction with
  | latch =>
    rw [Site.react, hr]
    refine (h.guards_judge l.owner).trans (List.map_congr_left fun g _ ↦ ?_)
    rw [Listener.latches, hr, BEq.comm (a := g.id)]
    rfl
  | select | noteReason | release =>
    rw [Site.react, hr]
    refine (s.guards_call _ _).trans (BoundGuard.map_hearing_eq_self fun g _ ↦ ?_).symm
    rw [Listener.latches, hr]
    rfl

private theorem answer_react (l : Listener) : (s.react l).answer = true ↔
    ∃ g ∈ s.guards, g.latch.submitted = true ∧ l.latches g.id = true := by
  cases hr : l.reaction with
  | latch =>
    rw [Site.react, hr]
    refine (h.answer_judge l.owner).trans (exists_congr fun g ↦ ?_)
    rw [Listener.latches, hr, beq_self_eq_true, Bool.true_and, beq_iff_eq, eq_comm (a := l.owner)]
  | select | noteReason | release =>
    rw [Site.react, hr]
    simp [Site.inform, Listener.latches, hr]

end Orderly

/-- After an event, guards remember whether a listener told them of it. -/
theorem Orderly.guards_reactAll (h : s.Orderly) (ls : List Listener) :
    (s.reactAll ls).site.guards = s.guards.map fun g ↦ g.hearing (ls.any (·.latches g.id)) := by
  induction ls generalizing s with
  | nil => exact (BoundGuard.map_hearing_eq_self fun _ _ ↦ rfl).symm
  | cons l ls ih =>
    refine (ih (h.persists (h.react l))).trans ?_
    rw [h.guards_react, List.map_map]
    refine List.map_congr_left fun g _ ↦ ?_
    exact g.hearing_hearing _ _

/-- No guard is told twice. -/
def TellsOnce (ls : List Listener) : Prop :=
  ls.Pairwise fun l m ↦ ∀ id, l.latches id = true → m.latches id = false

/-- An event is prevented if a guard is told of it that remembers an earlier one. -/
theorem Orderly.answer_reactAll (h : s.Orderly) (honce : TellsOnce ls) :
    (s.reactAll ls).answer = true ↔
      ∃ g ∈ s.guards, g.latch.submitted = true ∧ ∃ l ∈ ls, l.latches g.id = true := by
  induction ls generalizing s with
  | nil => simp [Site.reactAll]
  | cons l ls ih =>
    obtain ⟨hfirst, hlater⟩ := List.pairwise_cons.mp honce
    rw [Site.reactAll, Bool.or_eq_true, h.answer_react, ih (h.persists (h.react l)) hlater,
      h.guards_react]
    constructor
    · rintro (⟨g, hg, hsub, hl⟩ | ⟨k, hk, hsub, m, hm, hlatch⟩)
      · exact ⟨g, hg, hsub, l, List.mem_cons_self, hl⟩
      · obtain ⟨g, hg, rfl⟩ := List.mem_map.mp hk
        refine ⟨g, hg, ?_, m, List.mem_cons_of_mem _ hm, hlatch⟩
        -- what the guard remembers is not this event, since the first listener is another's
        have hother : l.latches g.id = false := by
          by_contra htold
          have hnot := hfirst m hm g.id (Bool.not_eq_false _ ▸ htold)
          exact absurd hlatch (Bool.eq_false_iff.mp hnot)
        rwa [BoundGuard.hearing, hother, Bool.or_false] at hsub
    · rintro ⟨g, hg, hsub, m, hm, hlatch⟩
      obtain rfl | hm := List.mem_cons.mp hm
      · exact .inl ⟨g, hg, hsub, hlatch⟩
      · refine .inr ⟨_, List.mem_map_of_mem hg, ?_, m, hm, hlatch⟩
        rw [BoundGuard.hearing, hsub, Bool.true_or]

/-! ## Who is told -/

theorem mem_audience {event : String} : l ∈ s.audience target event ↔
    l ∈ s.listeners ∧ l.target ∈ s.document.lineage target ∧ l.reaction.event = event := by
  rw [audience, List.mem_flatMap]
  constructor
  · rintro ⟨a, ha, hl⟩
    obtain ⟨hmem, hcond⟩ := List.mem_filter.mp hl
    rw [Bool.and_eq_true, beq_iff_eq, beq_iff_eq] at hcond
    exact ⟨hmem, hcond.1 ▸ ha, hcond.2⟩
  · rintro ⟨hmem, htarget, hevent⟩
    refine ⟨l.target, htarget, List.mem_filter.mpr ⟨hmem, ?_⟩⟩
    rw [hevent, Bool.and_eq_true, beq_self_eq_true, beq_self_eq_true]
    exact ⟨rfl, rfl⟩

private theorem nodup_audience (h : s.listeners.Nodup) (target : NodeId) (event : String) :
    (s.audience target event).Nodup := by
  refine List.nodup_flatMap.mpr ⟨fun a _ ↦ h.filter _, ?_⟩
  refine (s.document.nodup_lineage target).imp fun {a b} hne ↦ List.disjoint_left.mpr ?_
  intro l hl hl'
  have htarget := (List.mem_filter.mp hl).2
  have htarget' := (List.mem_filter.mp hl').2
  rw [Bool.and_eq_true, beq_iff_eq] at htarget htarget'
  exact hne (htarget.1.symm.trans htarget'.1)

namespace Attended

variable (h : Attended d s) (ho : s.Orderly)
include h

private theorem latch_mem_listeners (hg : g ∈ s.guards) : ⟨g.root, g.id, .latch⟩ ∈ s.listeners := by
  have hpost : g.post ∈ s.posts := mem_posts.mpr (.inr ⟨g, hg, rfl⟩)
  exact h.listeners.mem_iff.mpr
    (List.mem_flatMap.mpr ⟨g.post, hpost, List.mem_singleton.mpr rfl⟩)

private theorem exists_guard_of_latch (hl : l ∈ s.listeners) (hlatch : l.reaction = .latch) :
    ∃ g ∈ s.guards, l = ⟨g.root, g.id, .latch⟩ := by
  obtain ⟨p, hp, hlp⟩ := List.mem_flatMap.mp (h.listeners.mem_iff.mp hl)
  obtain ⟨f, -, rfl⟩ | ⟨g, hg, rfl⟩ := mem_posts.mp hp
  · exact absurd hlatch (of_mem_formListeners hlp).2.1
  · exact ⟨g, hg, List.mem_singleton.mp hlp⟩

include ho

private theorem eq_of_latches (hg : g ∈ s.guards) (hl : l ∈ s.listeners)
    (hlatches : l.latches g.id = true) : l = ⟨g.root, g.id, .latch⟩ := by
  rw [Listener.latches, Bool.and_eq_true, beq_iff_eq, beq_iff_eq] at hlatches
  obtain ⟨k, hk, rfl⟩ := h.exists_guard_of_latch hl hlatches.1
  rw [List.inj_on_of_nodup_map ho.nodup_guards hk hg hlatches.2]

/-- A guard is told of submissions in its element. -/
theorem latches_audience_iff (hg : g ∈ s.guards) (target : NodeId) (event : String) :
    (∃ l ∈ s.audience target event, l.latches g.id = true) ↔
      event = "submit" ∧ g.root ∈ s.document.lineage target := by
  constructor
  · rintro ⟨l, hl, hlatches⟩
    obtain ⟨hmem, htarget, hevent⟩ := mem_audience.mp hl
    rw [h.eq_of_latches ho hg hmem hlatches] at htarget hevent
    exact ⟨hevent.symm, htarget⟩
  · rintro ⟨rfl, hroot⟩
    refine ⟨⟨g.root, g.id, .latch⟩, mem_audience.mpr ⟨h.latch_mem_listeners hg, hroot, rfl⟩, ?_⟩
    rw [Listener.latches, beq_self_eq_true, beq_self_eq_true]
    rfl

private theorem tellsOnce_audience (target : NodeId) (event : String) :
    TellsOnce (s.audience target event) := by
  refine (nodup_audience (h.nodup_listeners ho) target event).imp_of_mem ?_
  intro l m hl hm hne id hlatches
  by_contra htwice
  rw [Bool.not_eq_false] at htwice
  have hreaction : l.reaction = .latch := by
    rw [Listener.latches, Bool.and_eq_true, beq_iff_eq] at hlatches
    exact hlatches.1
  obtain ⟨g, hg, rfl⟩ := h.exists_guard_of_latch (mem_audience.mp hl).1 hreaction
  have hid : g.id = id := by
    rw [Listener.latches, Bool.and_eq_true, beq_iff_eq, beq_iff_eq] at hlatches
    exact hlatches.2
  exact hne (h.eq_of_latches ho hg (mem_audience.mp hm).1 (hid ▸ htwice)).symm

private theorem guards_dispatch (target : NodeId) (event : String) :
    (s.dispatch target event).site.guards = s.guards.map fun g ↦
      g.hearing (decide (event = "submit" ∧ g.root ∈ s.document.lineage target)) := by
  refine (ho.guards_reactAll _).trans (List.map_congr_left fun g hg ↦ ?_)
  congr 1
  rw [Bool.eq_iff_iff, List.any_eq_true, decide_eq_true_iff]
  exact h.latches_audience_iff ho hg target event

/-- A submission is prevented if a guard around its target remembers an earlier one. -/
theorem answer_dispatch_submit (target : NodeId) :
    (s.dispatch target "submit").answer = true ↔
      ∃ g ∈ s.guards, g.latch.submitted = true ∧ g.root ∈ s.document.lineage target := by
  refine (ho.answer_reactAll (h.tellsOnce_audience ho target "submit")).trans ?_
  refine exists_congr fun g ↦ and_congr_right fun hg ↦ and_congr_right fun _ ↦ ?_
  rw [h.latches_audience_iff ho hg, and_iff_right rfl]

private theorem guards_act (id : BindingId) (a : Act) : (s.act id a).guards =
    s.guards.map fun g ↦ g.hearing (decide (a.Submits s.document g.root)) := by
  have hnone : s.guards = s.guards.map fun g ↦ g.hearing false :=
    (BoundGuard.map_hearing_eq_self fun _ _ ↦ rfl).symm
  have hentered (target : NodeId) (v event : String) (hevent : event ≠ "submit") :
      ((s.edit (·.setValue target v)).dispatch target event).site.guards =
        s.guards.map fun g ↦ g.hearing false := by
    have hset := s.persists_setValue target v
    refine ((h.persists hset).guards_dispatch (ho.persists hset) target event).trans ?_
    refine List.map_congr_left fun g _ ↦ ?_
    rw [decide_eq_false fun hsubmit ↦ hevent hsubmit.1]
  cases a with
  | select p => exact (s.guards_call id _).trans hnone
  | derive => exact (s.guards_call id _).trans hnone
  | choose target v => exact hentered target v "change" (by decide)
  | typeText target v => exact hentered target v "input" (by decide)
  | dispatch target event => exact h.guards_dispatch ho target event

end Attended

/-! ## Since a guard was bound -/

/-- Whether an operation is a submission that is heard at an element. -/
def Operation.Submits (d : Document) (root : NodeId) : Operation → Prop
  | .act _ a => a.Submits d root
  | _ => False

instance (d : Document) (root : NodeId) : DecidablePred (Operation.Submits d root)
  | .act _ a => inferInstanceAs (Decidable (a.Submits d root))
  | .bindForm _ | .bindGuard _ | .bindPage _ | .releaseForm _ | .releaseGuard _ | .releasePage _ =>
    inferInstanceAs (Decidable False)

/-- Whether in the course of several operations a submission is heard at an element after the
binding of a number was made. -/
def SubmittedSince (id : BindingId) (root : NodeId) (s : Site) : List Operation → Prop
  | [] => False
  | op :: ops =>
    id < s.next ∧ op.Submits s.document root ∨ SubmittedSince id root (s.operate op) ops

instance decidableSubmittedSince (id : BindingId) (root : NodeId) :
    ∀ (s : Site) (ops : List Operation), Decidable (SubmittedSince id root s ops)
  | _, [] => inferInstanceAs (Decidable False)
  | s, op :: ops =>
    have := decidableSubmittedSince id root (s.operate op) ops
    inferInstanceAs (Decidable (id < s.next ∧ op.Submits s.document root ∨
      SubmittedSince id root (s.operate op) ops))

theorem operateAll_concat (s : Site) (ops : List Operation) (op : Operation) :
    s.operateAll (ops ++ [op]) = (s.operateAll ops).operate op := by
  rw [operateAll_append]
  rfl

private theorem submittedSince_concat (s : Site) (ops : List Operation) (op : Operation) :
    SubmittedSince id root s (ops ++ [op]) ↔ SubmittedSince id root s ops ∨
      id < (s.operateAll ops).next ∧ op.Submits (s.operateAll ops).document root := by
  induction ops generalizing s with
  | nil => simp [SubmittedSince, operateAll]
  | cons first ops ih =>
    rw [List.cons_append, SubmittedSince, SubmittedSince, ih, or_assoc]
    rfl

/-- What no operation but an act does to the guards. -/
structure Ages (s s' : Site) : Prop where
  /-- Numbers are only used up. -/
  next_le : s.next ≤ s'.next
  /-- Guards are as they were, or they are new and remember nothing. -/
  guards (g : BoundGuard) : g ∈ s'.guards → g ∈ s.guards ∨ s.next ≤ g.id ∧ g.latch.submitted = false

namespace Ages

private theorem refl (s : Site) : s.Ages s := ⟨Nat.le_refl _, fun _ hg ↦ .inl hg⟩

private theorem trans (h : s.Ages s') (h' : s'.Ages s'') : s.Ages s'' where
  next_le := Nat.le_trans h.next_le h'.next_le
  guards g hg := by
    obtain hg | ⟨hid, hsub⟩ := h'.guards g hg
    · exact h.guards g hg
    · exact .inr ⟨Nat.le_trans h.next_le hid, hsub⟩

theorem bindForm (s : Site) (root : NodeId) : s.Ages (s.bindForm root).site := by
  cases hplan : planForm s.document root with
  | error e =>
    rw [Site.bindForm, hplan]
    exact .refl s
  | ok plan =>
    rw [bindForm_eq (planForm_eq_ok_iff.mp hplan)]
    exact ⟨Nat.le_succ _, fun _ hg ↦ .inl hg⟩

theorem bindGuard (s : Site) (root : NodeId) : s.Ages (s.bindGuard root).site := by
  cases hplan : planGuard s.document root with
  | error e =>
    rw [Site.bindGuard, hplan]
    exact .refl s
  | ok latch =>
    have hopen : latch.submitted = false := by
      simp only [planGuard, bind_eq_ok_iff] at hplan
      obtain ⟨-, -, settings, -, hfound⟩ := hplan
      split at hfound
      · split at hfound
        · cases hfound
          rfl
        · cases hfound
      · cases hfound
    rw [Site.bindGuard, hplan]
    refine ⟨Nat.le_succ _, fun g hg ↦ ?_⟩
    obtain hg | hg := List.mem_append.mp hg
    · exact .inl hg
    · rw [List.mem_singleton.mp hg]
      exact .inr ⟨Nat.le_refl _, hopen⟩

private theorem releaseForm (s : Site) (id : BindingId) : s.Ages (s.releaseForm id) := by
  rw [Site.releaseForm]
  split
  · exact .refl s
  · exact ⟨Nat.le_refl _, fun _ hg ↦ .inl hg⟩

private theorem releaseGuard (s : Site) (id : BindingId) : s.Ages (s.releaseGuard id) := by
  rw [Site.releaseGuard]
  split
  · exact .refl s
  · exact ⟨Nat.le_refl _, fun _ hg ↦ .inl (List.mem_filter.mp hg).1⟩

end Ages

private theorem ages_operate (s : Site) (op : Operation) :
    (∃ id a, op = .act id a) ∨ s.Ages (s.operate op) ∧ ∀ d root, ¬ op.Submits d root := by
  have hbindForm (t : Site) (r : NodeId) (ht : s.Ages t) : s.Ages (t.bindForm r).site :=
    ht.trans (.bindForm t r)
  have hbindGuard (t : Site) (r : NodeId) (ht : s.Ages t) : s.Ages (t.bindGuard r).site :=
    ht.trans (.bindGuard t r)
  have hreleaseForm (t : Site) (id : BindingId) (ht : s.Ages t) : s.Ages (t.releaseForm id) :=
    ht.trans (.releaseForm t id)
  have hreleaseGuard (t : Site) (id : BindingId) (ht : s.Ages t) : s.Ages (t.releaseGuard id) :=
    ht.trans (.releaseGuard t id)
  cases op with
  | act id a => exact .inl ⟨id, a, rfl⟩
  | bindForm root => exact .inr ⟨.bindForm s root, fun _ _ ↦ not_false⟩
  | bindGuard root => exact .inr ⟨.bindGuard s root, fun _ _ ↦ not_false⟩
  | bindPage root =>
    refine .inr ⟨?_, fun _ _ ↦ not_false⟩
    cases root with
    | none => exact .refl s
    | some root => exact bindEach_keeps hbindGuard (bindEach_keeps hbindForm (.refl s) _) _
  | releaseForm id => exact .inr ⟨.releaseForm s id, fun _ _ ↦ not_false⟩
  | releaseGuard id => exact .inr ⟨.releaseGuard s id, fun _ _ ↦ not_false⟩
  | releasePage page =>
    exact .inr ⟨foldl_keeps hreleaseGuard (foldl_keeps hreleaseForm (.refl s) _) _,
      fun _ _ ↦ not_false⟩

private theorem next_le_operate (s : Site) (op : Operation) : s.next ≤ (s.operate op).next := by
  obtain ⟨id, a, rfl⟩ | ⟨hages, -⟩ := s.ages_operate op
  · exact Nat.le_of_eq (s.stays_act id a).next.symm
  · exact hages.next_le

private theorem lt_next_of_submittedSince {ops : List Operation}
    (h : SubmittedSince id root s ops) : id < (s.operateAll ops).next := by
  induction ops using List.reverseRecOn with
  | nil => exact h.elim
  | append_singleton ops op ih =>
    rw [operateAll_concat]
    refine Nat.lt_of_lt_of_le ?_ (next_le_operate _ op)
    obtain h | h := (submittedSince_concat s ops op).mp h
    · exact ih h
    · exact h.1

/-- A guard remembers exactly the submissions that were heard at its element since it was bound. -/
theorem submitted_iff_submittedSince (d : Document) (ops : List Operation) :
    ∀ g ∈ (operateAll { document := d } ops).guards,
      (g.latch.submitted = true ↔ SubmittedSince g.id g.root { document := d } ops) := by
  induction ops using List.reverseRecOn with
  | nil => exact fun g hg ↦ absurd hg List.not_mem_nil
  | append_singleton ops op ih =>
    intro g hg
    obtain ⟨ho, h⟩ := attended_operateAll d ops
    rw [operateAll_concat] at hg
    rw [submittedSince_concat]
    obtain ⟨id, a, rfl⟩ | ⟨hages, hnot⟩ := (operateAll { document := d } ops).ages_operate op
    · rw [operate, h.guards_act ho] at hg
      obtain ⟨k, hk, rfl⟩ := List.mem_map.mp hg
      have hyoung := ho.young k.post (mem_posts.mpr (.inr ⟨k, hk, rfl⟩))
      rw [BoundGuard.hearing, Bool.or_eq_true, decide_eq_true_iff]
      exact or_congr (ih k hk) (and_iff_right hyoung).symm
    · rw [or_iff_left fun hsubmits ↦ hnot _ _ hsubmits.2]
      obtain hold | ⟨hid, hopen⟩ := hages.guards g hg
      · exact ih g hold
      · -- a new guard has not heard of anything yet
        refine iff_of_false (by simp [hopen]) fun hsince ↦ ?_
        exact Nat.not_lt.mpr hid (lt_next_of_submittedSince hsince)

end Site

end AccessForm
