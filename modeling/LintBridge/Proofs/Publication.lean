import LintBridge.Proofs.Sessions

namespace LintBridge

open Validation (Outcome Report Run Validator)

namespace Bridge

variable {b : Bridge} {id : Nat} {u : Uri} {r : Report} {ds : List Diagnostic}

/-- A validation whose run was completed, and that has not got its settings yet. -/
def Stalled (b : Bridge) (id : Nat) (u : Uri) (r : Report) : Prop :=
  ⟨id, u, none, some (.completed r)⟩ ∈ b.jobs

instance (b : Bridge) (id : Nat) (u : Uri) (r : Report) : Decidable (b.Stalled id u r) :=
  inferInstanceAs (Decidable (_ ∈ b.jobs))

def Waits (b : Bridge) (id : Nat) : Prop := ∃ t ∈ b.jobs, t.id = id ∧ t.settings = none

/-- A validation that was begun before, and that its document has gone on without while its run was under way. -/
structure Passed (b : Bridge) (id : Nat) (u : Uri) : Prop where
  id_lt : id < b.nextJob
  overtaken : ∀ r ∈ b.validator.runs, r.validation = id → r.uri = u → b.validator.Overtaken r

theorem Stalled.waits (h : b.Stalled id u r) : b.Waits id := ⟨_, h, rfl, rfl⟩

theorem published?_eq_some_iff (t : Job) : t.published? = some (id, u, ds) ↔
    ∃ r s, t = ⟨id, u, some s, some (.completed r)⟩ ∧ r.shown? s = some ds := by
  obtain ⟨id', u', s, o⟩ := t
  constructor
  · intro h
    cases s with
    | none => cases h
    | some s =>
        cases o with
        | none => cases h
        | some o =>
            cases o with
            | superseded | closed | unsupported => cases h
            | completed r =>
                obtain ⟨ds', hs, he⟩ := Option.map_eq_some_iff.mp h
                cases he
                exact ⟨r, s, rfl, hs⟩
  · rintro ⟨r, s, ht, hs⟩
    cases ht
    simp [Job.published?, hs]

theorem verdict?_eq_some {e : Event} {o : Outcome} (h : b.verdict? id e = some o) :
    ∃ r ∈ b.validator.runs, r.validation = id ∧ ∃ out, e = .finished id out ∧ o = b.validator.judge r out := by
  cases e with
  | opened | saved | closed | configured | answered | elapsed => cases h
  | finished validation out =>
      simp only [verdict?] at h
      split at h
      · rename_i hid
        subst id
        obtain ⟨r, hr, rfl⟩ := Option.map_eq_some_iff.mp h
        exact ⟨r, List.mem_of_find?_eq_some hr, by simpa using List.find?_some hr, out, rfl, rfl⟩
      · cases h

theorem quiet_of_triggered {e : Event} (h : u ∈ b.triggered e) (id : Nat) :
    b.found? id e = none ∧ b.verdict? id e = none := by
  cases e with
  | opened | saved | configured => exact ⟨rfl, rfl⟩
  | closed | answered | finished | elapsed => cases h

theorem found?_eq_none {e : Event} {o : Outcome} (h : b.verdict? id e = some o) : b.found? id e = none := by
  cases e with
  | finished => rfl
  | opened | saved | closed | configured | answered | elapsed => cases h

theorem verdict?_eq_none (h : b.Linked) {t : Job} (ht : t ∈ b.jobs) (ho : t.outcome ≠ none) (e : Event) :
    b.verdict? t.id e = none := by
  cases hv : b.verdict? t.id e with
  | none => rfl
  | some o =>
      obtain ⟨r, hr, hid, -⟩ := verdict?_eq_some hv
      obtain ⟨t', ht', hid', -, hn⟩ := h.job_of_run hr
      obtain rfl := h.eq_of_id_eq ht' ht (hid'.trans hid)
      exact absurd hn ho

theorem progress_eq_iff (h : b.Coherent) {t : Job} (ht : t ∈ b.jobs) (e : Event) (s : Option Settings) :
    b.progress e t = ⟨id, u, s, some (.completed r)⟩ ↔
      t = ⟨id, u, none, some (.completed r)⟩ ∧ b.found? id e = s ∨
      t = ⟨id, u, s, none⟩ ∧ b.verdict? id e = some (.completed r) := by
  constructor
  · intro hp
    have hs := (conclusion?_eq_none_iff t).mp (h.settled t ht)
    have hv := verdict?_eq_none h.toLinked ht
    obtain ⟨id', u', s', o'⟩ := t
    simp only [progress, Job.mk.injEq] at hp
    obtain ⟨rfl, rfl, hf, ho⟩ := hp
    cases o' with
    | none =>
        -- the run ends now, so that the settings were there before
        have ho : b.verdict? id' e = some (.completed r) := by simpa using ho
        rw [found?_eq_none ho, Option.none_or] at hf
        exact .inr ⟨by rw [hf], ho⟩
    | some o =>
        obtain rfl : s' = none := by simpa using hs
        have hv : b.verdict? id' e = none := hv (by simp) e
        rw [hv, Option.none_or] at ho
        rw [Option.or_none] at hf
        exact .inl ⟨by rw [ho], hf⟩
  · rintro (⟨rfl, hf⟩ | ⟨rfl, hv⟩)
    · have hv : b.verdict? id e = none := verdict?_eq_none h.toLinked ht (by simp) e
      simp [progress, hf, hv]
    · simp [progress, found?_eq_none hv, hv]

theorem mem_published_iff (h : b.Coherent) (e : Event) : (id, u, ds) ∈ b.published e ↔
    ∃ r s, r.shown? s = some ds ∧ (b.Stalled id u r ∧ b.found? id e = some s ∨
      ⟨id, u, some s, none⟩ ∈ b.jobs ∧ b.verdict? id e = some (.completed r)) := by
  have hm : (id, u, ds) ∈ b.published e ↔ ∃ t ∈ b.jobs, (b.progress e t).published? = some (id, u, ds) := by
    simp [published, List.mem_filterMap]
  rw [hm]
  constructor
  · rintro ⟨t, ht, hp⟩
    obtain ⟨r, s, hp, hs⟩ := (published?_eq_some_iff _).mp hp
    refine ⟨r, s, hs, ?_⟩
    obtain ⟨rfl, hf⟩ | ⟨rfl, hv⟩ := (progress_eq_iff h ht e _).mp hp
    · exact .inl ⟨ht, hf⟩
    · exact .inr ⟨ht, hv⟩
  · rintro ⟨r, s, hs, ⟨ht, hf⟩ | ⟨ht, hv⟩⟩
    · exact ⟨_, ht, (published?_eq_some_iff _).mpr ⟨r, s, (progress_eq_iff h ht e _).mpr (.inl ⟨rfl, hf⟩), hs⟩⟩
    · exact ⟨_, ht, (published?_eq_some_iff _).mpr ⟨r, s, (progress_eq_iff h ht e _).mpr (.inr ⟨rfl, hv⟩), hs⟩⟩

theorem mem_jobs_step (h : b.Coherent) (e : Event) {t : Job} (ht : t.id < b.nextJob) :
    t ∈ (b.step e).1.jobs ↔ Job.conclusion? t = none ∧ ∃ t' ∈ b.jobs, b.progress e t' = t := by
  obtain ⟨news, hn, hj⟩ := jobs_step h.settled e
  have hnew : t ∉ news := fun hm => absurd (hn t hm).1 (by omega)
  rw [hj]
  simp [hnew, and_comm]

theorem waits_step (h : b.Coherent) (hid : id < b.nextJob) (e : Event) :
    (b.step e).1.Waits id ↔ b.Waits id ∧ b.found? id e = none := by
  constructor
  · rintro ⟨t, ht, rfl, hs⟩
    obtain ⟨-, t', ht', rfl⟩ := (mem_jobs_step h e hid).mp ht
    obtain ⟨hf, hs⟩ := Option.or_eq_none_iff.mp hs
    exact ⟨⟨t', ht', rfl, hs⟩, hf⟩
  · rintro ⟨⟨t, ht, rfl, hs⟩, hf⟩
    have hp : (b.progress e t).settings = none := Option.or_eq_none_iff.mpr ⟨hf, hs⟩
    have hm : b.progress e t ∈ (b.step e).1.jobs :=
      (mem_jobs_step (t := b.progress e t) h e hid).mpr ⟨(conclusion?_eq_none_iff _).mpr (.inl hp), t, ht, rfl⟩
    exact ⟨_, hm, rfl, hp⟩

/-- A validation is stalled after a step if it was so before and got no settings, or if its run was completed in
the step and it had none. -/
theorem stalled_step (h : b.Coherent) (hid : id < b.nextJob) (e : Event) : (b.step e).1.Stalled id u r ↔
    b.Stalled id u r ∧ b.found? id e = none ∨
      ⟨id, u, none, none⟩ ∈ b.jobs ∧ b.verdict? id e = some (.completed r) := by
  rw [Stalled, mem_jobs_step h e hid]
  constructor
  · rintro ⟨-, t, ht, hp⟩
    obtain ⟨rfl, hf⟩ | ⟨rfl, hv⟩ := (progress_eq_iff h ht e _).mp hp
    · exact .inl ⟨ht, hf⟩
    · exact .inr ⟨ht, hv⟩
  · rintro (⟨ht, hf⟩ | ⟨ht, hv⟩)
    · exact ⟨rfl, _, ht, (progress_eq_iff h ht e _).mpr (.inl ⟨rfl, hf⟩)⟩
    · exact ⟨rfl, _, ht, (progress_eq_iff h ht e _).mpr (.inr ⟨rfl, hv⟩)⟩

theorem Stalled.id_lt {e : Event} (hs : (b.step e).1.Stalled id u r) (h : b.Coherent) : id < b.nextJob := by
  obtain ⟨news, hn, hj⟩ := jobs_step h.settled e
  rw [Stalled, hj] at hs
  obtain hm | hm := List.mem_append.mp hs
  · obtain ⟨t, ht, he⟩ := List.mem_map.mp (List.mem_filter.mp hm).1
    have hid : t.id = id := congrArg Job.id he
    exact hid ▸ h.ids_lt t ht
  · exact absurd rfl ((hn _ hm).2 r)

theorem waits_of_found {e : Event} {s : Settings} (h : b.Linked) (hf : b.found? id e = some s) : b.Waits id := by
  have hw {ws : List Settings.Waiter} {v : Settings} (hsub : ∀ w ∈ ws, w ∈ b.cache.waiters)
      (hl : (ws.map fun w => (w.lookup, v)).lookup id = some s) : b.Waits id := by
    rw [lookup_waiters] at hl
    split at hl
    · rename_i ha
      obtain ⟨w, hw, rfl⟩ := (awaited_iff _ _).mp ha
      exact h.job_of_waiter (hsub w hw)
    · cases hl
  cases e with
  | opened | saved | closed | configured | finished => cases hf
  | answered pull reply =>
      simp only [found?] at hf
      split at hf
      · exact hw (fun w hm => (List.mem_filter.mp hm).1) hf
      · cases hf
  | elapsed ms => exact hw (fun w hm => (List.mem_filter.mp hm).1) hf

theorem run_of_verdict (h : b.Linked) {e : Event} {s : Option Settings} {o : Outcome}
    (ht : ⟨id, u, s, none⟩ ∈ b.jobs) (hv : b.verdict? id e = some o) :
    ∃ run ∈ b.validator.runs, run.validation = id ∧ run.uri = u ∧
      ∃ out, e = .finished id out ∧ o = b.validator.judge run out := by
  obtain ⟨run, hr, hid, out, he, hj⟩ := verdict?_eq_some hv
  obtain ⟨t, ht', hid', hu, -⟩ := h.job_of_run hr
  obtain rfl := h.eq_of_id_eq ht' ht (hid'.trans hid)
  exact ⟨run, hr, hid, hu.symm, out, he, hj⟩

theorem opened_of_verdict (h : b.Linked) {e : Event} {s : Option Settings} (ht : ⟨id, u, s, none⟩ ∈ b.jobs)
    (hv : b.verdict? id e = some (.completed r)) : u ∈ b.cache.opened := by
  obtain ⟨run, -, -, rfl, out, -, hj⟩ := run_of_verdict h ht hv
  rw [h.opened_iff]
  intro hn
  rw [(Validator.judge_eq_closed_iff _ run out).mpr hn] at hj
  cases hj

theorem stalled_or_opened (h : b.Coherent) {e : Event} (hs : (b.step e).1.Stalled id u r) :
    b.Stalled id u r ∨ u ∈ (b.step e).1.cache.opened := by
  obtain ⟨hs, -⟩ | ⟨ht, hv⟩ := (stalled_step h (hs.id_lt h) e).mp hs
  · exact .inl hs
  · obtain ⟨-, -, -, out, rfl, -⟩ := verdict?_eq_some hv
    exact .inr ((mem_opened_step b _ u).mpr (.inr ⟨by simp, opened_of_verdict h.toLinked ht hv⟩))

namespace Passed

theorem kept (id : Nat) (u : Uri) : Kept (·.Passed id u) where
  welcome b w h := by
    refine ⟨h.id_lt, fun r hr hid hu => ?_⟩
    have hr : r ∈ (b.validator.track w).runs := hr
    rw [Validator.runs_track] at hr
    exact (h.overtaken r hr hid hu).track w
  spawn b w h := by
    refine ⟨Nat.lt_succ_of_lt h.id_lt, fun r hr hid hu => ?_⟩
    obtain hr | hr := Validator.mem_runs_start hr
    · exact (h.overtaken r hr hid hu).start _ w
    · -- the new run belongs to a later validation
      exact absurd h.id_lt (by omega)
  closed b w h := ⟨h.id_lt, fun r hr hid hu => (h.overtaken r hr hid hu).forget w⟩
  reconfigure _ _ h := ⟨h.id_lt, h.overtaken⟩
  answered _ _ _ _ _ h := ⟨h.id_lt, h.overtaken⟩
  finished b _ s o _ h :=
    ⟨h.id_lt, fun r hr hid hu => (h.overtaken r (List.mem_filter.mp hr).1 hid hu).finish s o⟩
  elapsed _ _ h := ⟨h.id_lt, h.overtaken⟩
  requests _ _ _ _ h := ⟨h.id_lt, h.overtaken⟩

theorem of_closed (h : b.Linked) (hid : id < b.nextJob) (u : Uri) : (b.step (.closed u)).1.Passed id u := by
  refine ⟨hid, ?_⟩
  rintro r hr - rfl
  exact .of_forget (h.sound.run_pos r hr) (h.sound.run_lt r hr)

theorem of_spawn (h : b.Linked) (hid : id < b.nextJob) (hu : u ∈ b.cache.opened) : (b.spawn u).1.Passed id u := by
  refine ⟨Nat.lt_succ_of_lt hid, ?_⟩
  rintro r hr hid' rfl
  obtain hr | hr := Validator.mem_runs_start hr
  · obtain ⟨t, ht⟩ := Option.ne_none_iff_exists'.mp ((h.opened_iff r.uri).mp hu)
    exact .of_start (h.sound.run_pos r hr) (h.sound.run_lt r hr) (h.sound.run_path r hr) ht _
  · exact absurd hid (by omega)

theorem of_spawnAll (h : b.Coherent) (hid : id < b.nextJob) (hu : u ∈ b.cache.opened) {us : List Uri}
    (hus : u ∈ us) : (b.spawnAll us).1.Passed id u := by
  induction us generalizing b with
  | nil => cases hus
  | cons w us ih =>
      rw [spawnAll_cons_fst]
      by_cases hw : u = w
      · subst w
        exact (kept id u).spawnAll (of_spawn h.toLinked hid hu) us
      · refine ih (Coherent.kept.spawn b w h) (Nat.lt_succ_of_lt hid) ?_ (List.mem_of_ne_of_mem hw hus)
        rwa [opened_spawn]

/-- When the next validation of a document begins, all that were begun before are passed. -/
theorem of_triggered (h : b.Coherent) (hid : id < b.nextJob) {e : Event} (hu : u ∈ b.triggered e) :
    (b.step e).1.Passed id u := by
  cases e with
  | opened w =>
      obtain rfl := List.mem_singleton.mp hu
      have ho : u ∈ (b.welcome u).cache.opened := (Settings.Cache.mem_openDocument _ _ _).mpr (.inl rfl)
      rw [step_opened]
      exact of_spawn (h.toLinked.welcome u) hid ho
  | saved w =>
      simp only [triggered] at hu
      split at hu
      · rename_i ho
        obtain rfl := List.mem_singleton.mp hu
        rw [step_saved_open ho]
        exact of_spawn h.toLinked hid (by simpa [Settings.Cache.isOpen] using ho)
      · cases hu
  | configured payload =>
      have ho : u ∈ (b.reconfigure payload).cache.opened := by
        change u ∈ (b.cache.change payload).opened
        rw [Settings.Cache.change_opened]
        exact hu
      rw [(step_configured b payload).1]
      exact of_spawnAll (Coherent.kept.reconfigure b payload h) hid ho ho
  | closed | answered | finished | elapsed => cases hu

theorem verdict?_ne (hp : b.Passed id u) (h : b.Linked) {s : Option Settings} (ht : ⟨id, u, s, none⟩ ∈ b.jobs)
    (e : Event) : b.verdict? id e ≠ some (.completed r) := by
  intro hv
  obtain ⟨run, hr, hid, hu, out, -, hj⟩ := run_of_verdict h ht hv
  exact (hp.overtaken run hr hid hu).judge_ne out r hj.symm

theorem stalled_step_iff (hp : b.Passed id u) (h : b.Coherent) (e : Event) :
    (b.step e).1.Stalled id u r ↔ b.Stalled id u r ∧ b.found? id e = none := by
  rw [stalled_step h hp.id_lt e]
  exact or_iff_left fun ⟨ht, hv⟩ => hp.verdict?_ne h.toLinked ht e hv

theorem mem_published_iff (hp : b.Passed id u) (h : b.Coherent) (e : Event) : (id, u, ds) ∈ b.published e ↔
    ∃ r s, b.Stalled id u r ∧ b.found? id e = some s ∧ r.shown? s = some ds := by
  rw [Bridge.mem_published_iff h e]
  constructor
  · rintro ⟨r, s, hs, ⟨ht, hf⟩ | ⟨ht, hv⟩⟩
    · exact ⟨r, s, ht, hf, hs⟩
    · exact absurd hv (hp.verdict?_ne h.toLinked ht e)
  · rintro ⟨r, s, ht, hf, hs⟩
    exact ⟨r, s, hs, .inl ⟨ht, hf⟩⟩

end Passed

end Bridge

namespace Session

variable {s : Session} {id : Nat} {u : Uri} {r : Report} {ds : List Diagnostic}

theorem waits_step (h : s.bridge.Coherent) (hid : id < s.bridge.nextJob) (e : Event) :
    (s.step e).1.bridge.Waits id ↔ s.bridge.Waits id ∧ s.found? id e = none := by
  cases hx : s.handled? e with
  | some x =>
      rw [step_handled hx, found?, hx]
      exact Bridge.waits_step h hid x
  | none =>
      rw [(step_unhandled hx).bridge, found?, hx]
      exact (and_iff_left rfl).symm

theorem stalled_step_iff (h : s.bridge.Coherent) (hp : s.bridge.Passed id u) (e : Event) :
    (s.step e).1.bridge.Stalled id u r ↔ s.bridge.Stalled id u r ∧ s.found? id e = none := by
  cases hx : s.handled? e with
  | some x =>
      rw [step_handled hx, found?, hx]
      exact hp.stalled_step_iff h x
  | none =>
      rw [(step_unhandled hx).bridge, found?, hx]
      exact (and_iff_left rfl).symm

theorem stalled_or_opened (h : s.bridge.Coherent) {e : Event} (hs : (s.step e).1.bridge.Stalled id u r) :
    s.bridge.Stalled id u r ∨ u ∈ (s.step e).1.bridge.cache.opened := by
  cases hx : s.handled? e with
  | some x =>
      rw [step_handled hx] at hs ⊢
      exact Bridge.stalled_or_opened h hs
  | none =>
      rw [(step_unhandled hx).bridge] at hs
      exact .inl hs

theorem waits_of_found (h : s.bridge.Coherent) {e : Event} {v : Settings} (hf : s.found? id e = some v) :
    s.bridge.Waits id := by
  obtain ⟨x, -, hf⟩ := Option.bind_eq_some_iff.mp hf
  exact Bridge.waits_of_found h.toLinked hf

theorem stalled_after (h : s.bridge.Coherent) (hp : s.bridge.Passed id u) (es : List Event) :
    (s.after es).bridge.Stalled id u r ↔ s.bridge.Stalled id u r ∧ (s.after es).bridge.Waits id := by
  induction es using List.reverseRecOn with
  | nil => exact ⟨fun hs => ⟨hs, hs.waits⟩, fun hs => hs.1⟩
  | append_singleton es e ih =>
      have hc := after_keeps Bridge.Coherent.kept es h
      have hp := after_keeps (Bridge.Passed.kept id u) es hp
      rw [after_append, after_cons, after_nil, stalled_step_iff hc hp e, ih, waits_step hc hp.id_lt e, and_assoc]

theorem mem_published_after (h : s.bridge.Coherent) (hp : s.bridge.Passed id u) (es : List Event) (e : Event) :
    (id, u, ds) ∈ (s.after es).published e ↔ (s.after es).lifecycle ≠ .exited ∧
      ∃ r v, s.bridge.Stalled id u r ∧ (s.after es).found? id e = some v ∧ r.shown? v = some ds := by
  have hc := after_keeps Bridge.Coherent.kept es h
  have hq := after_keeps (Bridge.Passed.kept id u) es hp
  rw [mem_published_iff]
  refine and_congr_right fun _ => ?_
  constructor
  · rintro ⟨x, hx, hm⟩
    obtain ⟨r, v, hs, hf, hv⟩ := (hq.mem_published_iff hc x).mp hm
    exact ⟨r, v, ((stalled_after h hp es).mp hs).1, by rw [found?, hx]; exact hf, hv⟩
  · rintro ⟨r, v, hs, hf, hv⟩
    have hw := (stalled_after h hp es).mpr ⟨hs, waits_of_found hc hf⟩
    obtain ⟨x, hx, hf⟩ := Option.bind_eq_some_iff.mp hf
    exact ⟨x, hx, (hq.mem_published_iff hc x).mpr ⟨r, v, hw, hf, hv⟩⟩

theorem mem_published_passed {before : List Event} {c : Event} {x : Bridge.Event}
    (hx : (after {} before).handled? c = some x) (hid : id < (after {} before).bridge.nextJob)
    (hf : (after {} before).bridge.found? id x = none) (hv : (after {} before).bridge.verdict? id x = none)
    (hp : ((after {} before).bridge.step x).1.Passed id u) (later : List Event) (e : Event) :
    (id, u, ds) ∈ (after {} (before ++ c :: later)).published e ↔
      (after {} (before ++ c :: later)).lifecycle ≠ .exited ∧
      ∃ r v, (after {} before).bridge.Stalled id u r ∧ (after {} (before ++ c :: later)).found? id e = some v ∧
        r.shown? v = some ds := by
  have hc := coherent_after before
  have hb : ((after {} before).step c).1.bridge = ((after {} before).bridge.step x).1 := by rw [step_handled hx]
  -- the event itself brings nothing to the validation
  have hs (r : Report) : ((after {} before).step c).1.bridge.Stalled id u r ↔
      (after {} before).bridge.Stalled id u r := by
    rw [hb, Bridge.stalled_step hc hid x, hf, hv]
    simp
  have hc' : ((after {} before).step c).1.bridge.Coherent := step_keeps Bridge.Coherent.kept c hc
  rw [after_append, after_cons, mem_published_after hc' (hb ▸ hp) later e]
  simp only [hs]

/-- The diagnostics of a validation whose document is validated anew are shown if and only if its run had been
completed by then and only its settings were missing, namely when they become known. -/
theorem superseded_published_iff {before : List Event} {start : Event} {u : Uri} {id : Nat}
    (hu : u ∈ (after {} before).triggered start) (hid : id < (after {} before).bridge.nextJob)
    (later : List Event) (e : Event) :
    ((after {} (before ++ start :: later)).step e).2.filterMap Effect.published? =
      ((after {} (before ++ start :: later)).published e).map (·.2) ∧
    ∀ ds, (id, u, ds) ∈ (after {} (before ++ start :: later)).published e ↔
      (after {} (before ++ start :: later)).lifecycle ≠ .exited ∧
      ∃ r v, (after {} before).bridge.Stalled id u r ∧
        (after {} (before ++ start :: later)).found? id e = some v ∧ r.shown? v = some ds := by
  refine ⟨published_step (coherent_after _).settled e, fun ds => ?_⟩
  cases hx : (after {} before).handled? start with
  | none => simp [triggered, hx] at hu
  | some x =>
      have hu : u ∈ (after {} before).bridge.triggered x := by simpa [triggered, hx] using hu
      obtain ⟨hf, hv⟩ := Bridge.quiet_of_triggered hu id
      exact mem_published_passed hx hid hf hv (.of_triggered (coherent_after before) hid hu) later e

/-- The run of the first validation ends before the configuration changes, the editor answers for the second one
first, and the older diagnostics replace the newer. -/
theorem superseded_published_iff_of_late_answer :
    let u : Uri := { scheme := "file", authority := some {}, path := .segments ["a.sql"] }
    let old : Report := .ofOutput { stdout := "R1:1:old\n" }
    let new : Report := .ofOutput { stdout := "R1:2:new\n" }
    let before := [greeting true, about "textDocument/didOpen" u.text,
      .finished (bytesOf "/a.sql") 0 { stdout := "R1:1:old\n" }]
    let start := reconfiguration (.obj [])
    let finish := .finished (bytesOf "/a.sql") 0 { stdout := "R1:2:new\n" }
    let reply (index : Nat) := .configuration u.text index (.result (.arr [.obj []]))
    (u ∈ (after {} before).triggered start ∧ 0 < (after {} before).bridge.nextJob) ∧
    (after {} (before ++ [start, finish])).published (reply 1) = [(1, u, new.diagnostics)] ∧
    (0, u, old.diagnostics) ∈ (after {} (before ++ [start, finish, reply 1])).published (reply 0) := by
  intro u old new before start finish reply
  have hu : u ∈ (after {} before).triggered start := by decide +kernel
  have hid : 0 < (after {} before).bridge.nextJob := by decide +kernel
  have hs : (after {} before).bridge.Stalled 0 u old := by decide +kernel
  have hf : (after {} (before ++ [start, finish, reply 1])).found? 0 (reply 0) = some {} := by decide +kernel
  have hl : (after {} (before ++ [start, finish, reply 1])).lifecycle ≠ .exited := by decide +kernel
  have hv : old.shown? {} = some old.diagnostics := by decide +kernel
  refine ⟨⟨hu, hid⟩, by decide +kernel, ?_⟩
  exact ((superseded_published_iff hu hid [finish, reply 1] (reply 0)).2 _).mpr ⟨hl, old, {}, hs, hf, hv⟩

theorem closing_of_stalled {es : List Event} (hs : (after {} es).bridge.Stalled id u r) (ho : ¬ IsOpen es u) :
    ∃ before c since, es = before ++ c :: since ∧ (after {} before).handled? c = some (.closed u) ∧
      IsOpen before u ∧ (after {} before).bridge.Stalled id u r := by
  induction es using List.reverseRecOn with
  | nil => cases hs
  | append_singleton es e ih =>
      rw [← mem_opened_after, after_append, after_cons, after_nil] at ho
      rw [after_append, after_cons, after_nil] at hs
      obtain hs | hs := stalled_or_opened (coherent_after es) hs
      · by_cases hes : IsOpen es u
        · -- it was open until now
          refine ⟨es, e, [], rfl, ?_, hes, hs⟩
          by_contra hne
          exact ho ((mem_opened_step _ e u).mpr (.inr ⟨hne, (mem_opened_after es u).mpr hes⟩))
        · obtain ⟨before, c, since, rfl, hc, hb, hs⟩ := ih hs hes
          exact ⟨before, c, since ++ [e], by simp, hc, hb, hs⟩
      · exact absurd hs ho

/-- For a document that is not open diagnostics are shown if and only if they are those of a validation whose run
had been completed when the document was closed, and whose settings become known only now. -/
theorem closed_published_iff {es : List Event} {u : Uri} (ho : ¬ IsOpen es u) (e : Event) (ds : List Diagnostic) :
    .send (.publish u ds) ∈ ((after {} es).step e).2 ↔ (after {} es).lifecycle ≠ .exited ∧
      ∃ before c since id r v, es = before ++ c :: since ∧ (after {} before).handled? c = some (.closed u) ∧
        IsOpen before u ∧ (after {} before).bridge.Stalled id u r ∧ (after {} es).found? id e = some v ∧
        r.shown? v = some ds := by
  have hc := coherent_after es
  rw [publish_mem_step hc.settled e]
  constructor
  · rintro ⟨id, hm⟩
    obtain ⟨hl, x, hx, hm⟩ := (mem_published_iff _ _ _).mp hm
    obtain ⟨r, v, hv, ⟨hs, hf⟩ | ⟨ht, hj⟩⟩ := (Bridge.mem_published_iff hc x).mp hm
    · obtain ⟨before, c, since, rfl, hx', hb, hs⟩ := closing_of_stalled hs ho
      exact ⟨hl, before, c, since, id, r, v, rfl, hx', hb, hs, by rw [found?, hx]; exact hf, hv⟩
    · exact absurd ((mem_opened_after es u).mp (Bridge.opened_of_verdict hc.toLinked ht hj)) ho
  · rintro ⟨hl, before, c, since, id, r, v, rfl, hx, -, hs, hf, hv⟩
    have hb := coherent_after before
    have hid : id < (after {} before).bridge.nextJob := hb.ids_lt _ hs
    have hp : ((after {} before).bridge.step (.closed u)).1.Passed id u := .of_closed hb.toLinked hid u
    exact ⟨id, (mem_published_passed hx hid rfl rfl hp since e).mpr ⟨hl, r, v, hs, hf, hv⟩⟩

/-- The document is closed between the end of the run and the answer of the editor. -/
theorem closed_published_iff_of_late_answer :
    let u : Uri := { scheme := "file", authority := some {}, path := .segments ["a.sql"] }
    let old : Report := .ofOutput { stdout := "R1:1:old\n" }
    let before := [greeting true, about "textDocument/didOpen" u.text,
      .finished (bytesOf "/a.sql") 0 { stdout := "R1:1:old\n" }]
    let close := about "textDocument/didClose" u.text
    let reply := .configuration u.text 0 (.result (.arr [.obj []]))
    ¬ IsOpen (before ++ [close]) u ∧
      .send (.publish u old.diagnostics) ∈ ((after {} (before ++ [close])).step reply).2 := by
  intro u old before close reply
  have ho : ¬ IsOpen (before ++ [close]) u := by rw [← mem_opened_after]; decide +kernel
  have hb : IsOpen before u := by rw [← mem_opened_after]; decide +kernel
  have hr : (after {} before).lifecycle = .ready := by decide +kernel
  have hd : document? Protocol.closeParams Protocol.documentId (document u.text) = some u := by decide +kernel
  have hc : (after {} before).handled? close = some (.closed u) := handled?_closed hr hd
  have hs : (after {} before).bridge.Stalled 0 u old := by decide +kernel
  have hf : (after {} (before ++ [close])).found? 0 reply = some {} := by decide +kernel
  have hl : (after {} (before ++ [close])).lifecycle ≠ .exited := by decide +kernel
  have hv : old.shown? {} = some old.diagnostics := by decide +kernel
  exact ⟨ho, (closed_published_iff ho _ _).mpr ⟨hl, before, close, [], 0, old, {}, rfl, hc, hb, hs, hf, hv⟩⟩

end Session
end LintBridge
