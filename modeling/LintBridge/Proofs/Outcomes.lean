import LintBridge.Proofs.History
import LintBridge.Proofs.Tickets
import Mathlib.Algebra.Group.Nat.Defs

namespace LintBridge.Validation.Bench

open Validator

variable {b : Bench}

def after (b : Bench) (es : List Event) : Bench := es.foldl (fun b e => (b.step e).1) b

def outcomes (b : Bench) (es : List Event) : List (Nat × Outcome) :=
  History.course (fun b e => (b.step e).1) (fun b e => (b.step e).2.outcomes) b es

def Tracked (es : List Event) (u : Uri) : Prop := Standing (.track u) (.forget u) es

@[simp] theorem after_nil (b : Bench) : b.after [] = b := rfl

@[simp] theorem after_cons (b : Bench) (e : Event) (es : List Event) :
    b.after (e :: es) = (b.step e).1.after es := rfl

theorem after_append (b : Bench) (es later : List Event) : b.after (es ++ later) = (b.after es).after later :=
  List.foldl_append

theorem step_keeps {P : Validator → Prop} (hP : Kept P) (e : Event) (h : P b.validator) :
    P (b.step e).1.validator := by
  cases e with
  | track u => exact hP.track _ u h
  | forget u => exact hP.forget _ u h
  | validate u => exact hP.start _ b.validations u h
  | finish path index o =>
      simp only [step]
      split
      · exact h
      · exact hP.finish _ _ o h

theorem after_keeps {P : Validator → Prop} (hP : Kept P) (es : List Event) (h : P b.validator) :
    P (b.after es).validator := by
  induction es generalizing b with
  | nil => exact h
  | cons e es ih => exact ih (step_keeps hP e h)

theorem sound_after (es : List Event) : (after {} es).validator.Sound := after_keeps Sound.kept es .initial

theorem get?_step (b : Bench) (e : Event) (u : Uri) (ht : e ≠ .track u) (hf : e ≠ .forget u)
    (hv : e ≠ .validate u) : (b.step e).1.validator.latest.get? u = b.validator.latest.get? u := by
  cases e with
  | track w =>
      have hw : u ≠ w := fun h => ht (h ▸ rfl)
      simp [step, get?_track, hw]
  | forget w =>
      have hw : u ≠ w := fun h => hf (h ▸ rfl)
      simp [step, get?_forget, hw]
  | validate w =>
      have hw : u ≠ w := fun h => hv (h ▸ rfl)
      exact get?_start_of_ne b.validator b.validations hw
  | finish path index o =>
      simp only [step]
      split <;> rfl

theorem nextTicket_le_step (b : Bench) (e : Event) :
    b.validator.nextTicket ≤ (b.step e).1.validator.nextTicket := by
  have hP : Kept (b.validator.nextTicket ≤ ·.nextTicket) := by
    refine ⟨?_, fun _ _ h => h, ?_, fun _ _ _ h => h⟩
    · intro v u h
      rwa [nextTicket_track]
    · intro v id u h
      exact Nat.le_trans h (v.nextTicket_start id u).1
  exact step_keeps hP e (Nat.le_refl _)

theorem tracked_iff (es : List Event) (u : Uri) :
    Tracked es u ↔ (after {} es).validator.latest.get? u ≠ none := by
  induction es using List.reverseRecOn with
  | nil => simp [Tracked, Standing.not_nil]
  | append_singleton es e ih =>
      rw [Tracked, Standing.concat_iff, ← Tracked, ih, after_append, after_cons, after_nil]
      generalize after {} es = b
      by_cases ht : e = .track u
      · subst e; simp [step, get?_track]
      by_cases hf : e = .forget u
      · subst e; simp [step, get?_forget]
      by_cases hv : e = .validate u
      · subst e
        simp only [reduceCtorEq, ne_eq, not_false_eq_true, true_and, false_or]
        exact (get?_start_ne_none b.validator b.validations u u).symm
      · rw [get?_step b e u ht hf hv]
        simp [ht, hf]

theorem latest_after {r : Run} (h : b.validator.latest.get? r.uri = some r.ticket) {es : List Event}
    (hf : .forget r.uri ∉ es) (hv : .validate r.uri ∉ es) :
    (b.after es).validator.latest.get? r.uri = some r.ticket := by
  induction es generalizing b with
  | nil => exact h
  | cons e es ih =>
      simp only [List.mem_cons, not_or] at hf hv
      refine ih ?_ hf.2 hv.2
      by_cases ht : e = .track r.uri
      · subst e; simp [step, get?_track, h]
      · rw [get?_step b e r.uri ht (Ne.symm hf.1) (Ne.symm hv.1)]; exact h

/-- The first closing or validation of its document overtakes a run for good. -/
theorem overtaken_after {r : Run} (hp : 0 < r.ticket) (hl : r.ticket < b.validator.nextTicket)
    (hu : r.uri.filePath? = some r.path) (h : b.validator.latest.get? r.uri = some r.ticket)
    {es : List Event} (he : .forget r.uri ∈ es ∨ .validate r.uri ∈ es) :
    (b.after es).validator.Overtaken r := by
  induction es generalizing b with
  | nil => simp at he
  | cons e es ih =>
      rw [after_cons]
      by_cases hf : e = .forget r.uri
      · subst e
        exact after_keeps (Overtaken.kept r) es (.of_forget hp hl)
      by_cases hv : e = .validate r.uri
      · subst e
        exact after_keeps (Overtaken.kept r) es (.of_start hp hl hu h b.validations)
      · have he : .forget r.uri ∈ es ∨ .validate r.uri ∈ es := by
          simpa [Ne.symm hf, Ne.symm hv] using he
        have hn : r.ticket < (b.step e).1.validator.nextTicket :=
          Nat.lt_of_lt_of_le hl (nextTicket_le_step b e)
        have hs : (b.after [e]).validator.latest.get? r.uri = some r.ticket :=
          latest_after h (by simpa using Ne.symm hf) (by simpa using Ne.symm hv)
        exact ih hn hs he

theorem mem_runs_step {e : Event} {r : Run} (h : r ∈ (b.step e).1.validator.runs) :
    r ∈ b.validator.runs ∨ r.validation = b.validations ∧ (b.step e).1.validations = b.validations + 1 := by
  cases e with
  | track u => exact .inl (by simpa [step] using h)
  | forget u => exact .inl h
  | validate u =>
      obtain h | h := mem_runs_start h
      · exact .inl h
      · exact .inr ⟨h, rfl⟩
  | finish path index o =>
      simp only [step] at h
      split at h
      · exact .inl h
      · exact .inl (List.mem_filter.mp h).1

theorem validations_le_step (b : Bench) (e : Event) : b.validations ≤ (b.step e).1.validations := by
  cases e with
  | track u | forget u => exact Nat.le_refl _
  | validate u => exact Nat.le_succ _
  | finish path index o =>
      simp only [step]
      split <;> exact Nat.le_refl _

theorem validation_lt_after (es : List Event) :
    ∀ r ∈ (after {} es).validator.runs, r.validation < (after {} es).validations := by
  induction es using List.reverseRecOn with
  | nil => simp
  | append_singleton es e ih =>
      intro r hr
      rw [after_append] at hr ⊢
      obtain h | ⟨h, hn⟩ := mem_runs_step hr
      · exact Nat.lt_of_lt_of_le (ih r h) (validations_le_step _ e)
      · rw [after_cons, after_nil, hn, h]; exact Nat.lt_succ_self _

theorem eq_of_validation_eq {r : Run} (hlt : r.validation < b.validations)
    (hb : ∀ s ∈ b.validator.runs, s.validation = r.validation → s = r) (es : List Event) :
    ∀ s ∈ (b.after es).validator.runs, s.validation = r.validation → s = r := by
  induction es generalizing b with
  | nil => exact hb
  | cons e es ih =>
      refine ih (Nat.lt_of_lt_of_le hlt (validations_le_step b e)) ?_
      intro s hs he
      obtain h | ⟨h, -⟩ := mem_runs_step hs
      · exact hb s h he
      · omega

/-- Every ticket is paid for by a validation, so a counter of 64 bits does not overflow before there have been
as many of them. -/
theorem nextTicket_le_after (es : List Event) :
    (after {} es).validator.nextTicket ≤ (after {} es).validations + 1 := by
  induction es using List.reverseRecOn with
  | nil => exact Nat.le_refl _
  | append_singleton es e ih =>
      rw [after_append, after_cons, after_nil]
      generalize after {} es = b at ih ⊢
      cases e with
      | track u => simpa [step] using ih
      | forget u => exact ih
      | validate u =>
          exact Nat.le_trans (b.validator.nextTicket_start b.validations u).2 (Nat.succ_le_succ ih)
      | finish path index o =>
          simp only [step]
          split <;> exact ih

theorem mem_runs_after {r : Run} (hr : r ∈ b.validator.runs) (es : List Event) :
    (∃ o, (r.validation, o) ∈ b.outcomes es) ∨ r ∈ (b.after es).validator.runs := by
  induction es generalizing b with
  | nil => exact .inr hr
  | cons e es ih =>
      have hstep : (∃ o, (r.validation, o) ∈ (b.step e).2.outcomes) ∨ r ∈ (b.step e).1.validator.runs := by
        cases e with
        | track u => exact .inr (by simpa [step] using hr)
        | forget u => exact .inr hr
        | validate u =>
            refine .inr ?_
            simp only [step]
            obtain ⟨-, hs⟩ | ⟨path, -, -, hs⟩ | ⟨path, t, -, -, hs⟩ :=
              start_cases b.validator b.validations u
            · rw [hs]; exact hr
            · rw [hs]; exact hr
            · rw [hs]; exact List.mem_append_left _ hr
        | finish path index o =>
            simp only [step]
            split
            · exact .inr hr
            · rename_i s _
              by_cases hv : r.validation = s.validation
              · exact .inl ⟨_, by rw [hv]; exact List.mem_singleton_self _⟩
              · exact .inr (List.mem_filter.mpr ⟨hr, by simpa using hv⟩)
      obtain ⟨o, ho⟩ | h := hstep
      · exact .inl ⟨o, List.mem_append_left _ ho⟩
      · obtain ⟨o, ho⟩ | h := ih h
        · exact .inl ⟨o, List.mem_append_right _ ho⟩
        · exact .inr h

theorem mem_outcomes_finish {path : Bytes} {index id : Nat} {o : Tool.Output} {outcome : Outcome}
    (h : (id, outcome) ∈ (b.step (.finish path index o)).2.outcomes) :
    ∃ r ∈ b.validator.runs, r.validation = id ∧ b.validator.judge r o = outcome := by
  simp only [step] at h
  split at h
  · simp at h
  · rename_i r hr
    obtain ⟨rfl, rfl⟩ := by simpa using h
    exact ⟨r, (List.mem_filter.mp (List.mem_of_getElem? hr)).1, rfl, rfl⟩

theorem outcomes_finish_of_mem {r : Run} (hr : r ∈ b.validator.runs) (o : Tool.Output) :
    ∃ index, (b.step (.finish r.path index o)).2.outcomes = [(r.validation, b.validator.judge r o)] := by
  have hw : r ∈ b.validator.waiting r.path := List.mem_filter.mpr ⟨hr, by simp⟩
  obtain ⟨index, hi⟩ := List.mem_iff_getElem?.mp hw
  exact ⟨index, by simp [step, hi, finish]⟩

theorem step_validate_open {u : Uri} {path : Bytes} (hu : u.filePath? = some path) {t : Nat}
    (ho : b.validator.latest.get? u = some t) :
    (b.step (.validate u)).1 = ⟨⟨b.validator.nextTicket + 1, b.validator.latest.set u b.validator.nextTicket,
      b.validator.runs ++ [b.validator.nextRun b.validations u path]⟩, b.validations + 1⟩ := by
  simp [step, start_open hu ho]

theorem latest_after_iff {r : Run} (hp : 0 < r.ticket) (hl : r.ticket < b.validator.nextTicket)
    (hu : r.uri.filePath? = some r.path) (h : b.validator.latest.get? r.uri = some r.ticket) (es : List Event) :
    (b.after es).validator.latest.get? r.uri = some r.ticket ↔ .forget r.uri ∉ es ∧ .validate r.uri ∉ es := by
  constructor
  · intro hlatest
    by_contra hn
    have he : .forget r.uri ∈ es ∨ .validate r.uri ∈ es := by
      by_contra hno
      exact hn ⟨fun hf => hno (.inl hf), fun hv => hno (.inr hv)⟩
    exact (overtaken_after hp hl hu h he).not_latest hlatest
  · rintro ⟨hf, hv⟩
    exact latest_after h hf hv

/-- A validation of a local file that begins while its document is open gets a run. When that run ends, the
validation is closed if the document is not open, completed if it has been neither closed nor validated again
since, and superseded otherwise. Fewer than 2^64 - 1 validations leave the tickets below 2^64. -/
theorem finish_outcome_iff (es later : List Event) {u : Uri} {path : Bytes} (hu : u.filePath? = some path)
    (ht : Tracked es u) (o : Tool.Output) :
    (∀ p index outcome, ((after {} es).validations, outcome) ∈
        ((after {} (es ++ .validate u :: later)).step (.finish p index o)).2.outcomes →
      (outcome = .closed ↔ ¬ Tracked (es ++ .validate u :: later) u) ∧
      (outcome = .completed (.ofOutput o) ↔ .forget u ∉ later ∧ .validate u ∉ later) ∧
      (outcome = .superseded ↔
        Tracked (es ++ .validate u :: later) u ∧ (.forget u ∈ later ∨ .validate u ∈ later))) ∧
    ((∃ outcome, ((after {} es).validations, outcome) ∈ (after {} (es ++ [.validate u])).outcomes later) ∨
      ∃ index outcome, ((after {} (es ++ .validate u :: later)).step (.finish path index o)).2.outcomes =
        [((after {} es).validations, outcome)]) ∧
    ((after {} (es ++ .validate u :: later)).validations < 2 ^ 64 - 1 →
      (after {} (es ++ .validate u :: later)).validator.nextTicket < 2 ^ 64) := by
  have hs := sound_after es
  have hlt := validation_lt_after es
  have hnext := nextTicket_le_after (es ++ .validate u :: later)
  obtain ⟨t, ho⟩ := Option.ne_none_iff_exists'.mp ((tracked_iff es u).mp ht)
  rw [tracked_iff]
  refine and_assoc.mp ⟨?_, by omega⟩
  simp only [after_append, after_cons, after_nil]
  generalize after {} es = b at hs hlt ho ⊢
  rw [step_validate_open hu ho]
  set r := b.validator.nextRun b.validations u path with hr
  set c : Bench := ⟨⟨b.validator.nextTicket + 1, b.validator.latest.set u b.validator.nextTicket,
    b.validator.runs ++ [r]⟩, b.validations + 1⟩ with hc
  have honly : ∀ s ∈ (c.after later).validator.runs, s.validation = r.validation → s = r := by
    refine eq_of_validation_eq (b := c) (Nat.lt_succ_self _) ?_ later
    intro s hs he
    obtain hs | rfl := by simpa [hc] using hs
    · exact absurd (hlt s hs) (by rw [he]; exact Nat.lt_irrefl _)
    · rfl
  have hlatest : (c.after later).validator.latest.get? u = some r.ticket ↔
      .forget u ∉ later ∧ .validate u ∉ later :=
    latest_after_iff (r := r) hs.next_pos (Nat.lt_succ_self _) hu (Table.get?_set_self _ _ _) later
  constructor
  · intro p index outcome hm
    obtain ⟨s, hsr, hv, rfl⟩ := mem_outcomes_finish hm
    obtain rfl : s = r := honly s hsr hv
    refine ⟨?_, ?_, ?_⟩
    · rw [judge_eq_closed_iff, not_not]; rfl
    · rw [judge_eq_completed_iff]; exact hlatest
    · rw [judge_eq_superseded_iff]
      refine and_congr_right fun _ => (not_congr hlatest).trans ?_
      tauto
  · obtain h | h := mem_runs_after (b := c) (r := r) (by simp [hc]) later
    · exact .inl h
    · obtain ⟨index, hi⟩ := outcomes_finish_of_mem h o
      exact .inr ⟨index, _, hi⟩

/-- A document that is closed and opened again while the tool runs on it. -/
theorem finish_outcome_iff_reopened :
    let u : Uri := { scheme := "file", authority := some {}, path := .segments ["a.sql"] }
    (0, .superseded) ∈ ((after {} [.track u, .validate u, .forget u, .track u]).step
      (.finish (bytesOf "/a.sql") 0 {})).2.outcomes ∧
    (Outcome.superseded = .superseded ↔ Tracked [.track u, .validate u, .forget u, .track u] u ∧
      (.forget u ∈ [Event.forget u, .track u] ∨ .validate u ∈ [Event.forget u, .track u])) := by
  intro u
  have hm : (0, Outcome.superseded) ∈ ((after {} [.track u, .validate u, .forget u, .track u]).step
      (.finish (bytesOf "/a.sql") 0 {})).2.outcomes := by decide +kernel
  have hu : u.filePath? = some (bytesOf "/a.sql") := by decide +kernel
  exact ⟨hm, ((finish_outcome_iff [.track u] [.forget u, .track u] hu ⟨[], [], rfl, by simp⟩ {}).1 _ _ _ hm).2.2⟩

end LintBridge.Validation.Bench
