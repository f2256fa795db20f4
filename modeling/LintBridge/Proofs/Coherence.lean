import LintBridge.Proofs.Jobs
import Mathlib.Data.List.Nodup

namespace LintBridge

open Settings (Cache Reply Waiter)
open Validation (Outcome Run Validator)

namespace Settings.Cache

structure Untouched (c d : Cache) : Prop where
  pulls : d.pulls = c.pulls
  pushed : d.pushed = c.pushed
  opened : d.opened = c.opened

theorem untouched_bind (c : Cache) (u : Uri) : c.Untouched (c.bind u).1 ∧ (c.bind u).1.waiters = c.waiters := by
  unfold bind
  split
  · exact ⟨⟨rfl, rfl, rfl⟩, rfl⟩
  · have hi (d : Cache) (p : Prop) [Decidable p] (stored : Table Uri Nat) :
        d.Untouched (if p then { d with stored := stored } else d) ∧
          (if p then { d with stored := stored } else d).waiters = d.waiters := by
      by_cases hp : p
      · rw [if_pos hp]; exact ⟨⟨rfl, rfl, rfl⟩, rfl⟩
      · rw [if_neg hp]; exact ⟨⟨rfl, rfl, rfl⟩, rfl⟩
    obtain ⟨ht, hw⟩ := hi (c.issue u).1 ((c.issue u).1.isOpen u = true) _
    exact ⟨⟨ht.pulls, ht.pushed, ht.opened⟩, hw⟩

theorem get_cases (c : Cache) (now lookup : Nat) (u : Uri) :
    c.Untouched (c.get now lookup u).1 ∧
    ((∃ s, (c.get now lookup u).2.found = some s ∧ (c.get now lookup u).1.waiters = c.waiters) ∨
      ∃ w : Waiter, w.lookup = lookup ∧ (c.get now lookup u).2.found = none ∧
        (c.get now lookup u).1.waiters = c.waiters ++ [w]) := by
  obtain ⟨hb, hw⟩ := untouched_bind c u
  unfold get
  split
  · generalize c.bind u = d at hb hw ⊢
    obtain ⟨d, id, issued⟩ := d
    dsimp only at hb hw ⊢
    split
    · rename_i s _
      exact ⟨hb, .inl ⟨s, rfl, hw⟩⟩
    · split
      · exact ⟨hb, .inl ⟨{}, rfl, hw⟩⟩
      · refine ⟨⟨hb.pulls, hb.pushed, hb.opened⟩, .inr ⟨⟨lookup, id, now + d.patience⟩, rfl, rfl, ?_⟩⟩
        rw [← hw]
  · exact ⟨⟨rfl, rfl, rfl⟩, .inl ⟨c.pushed, rfl, rfl⟩⟩

theorem mem_openDocument (c : Cache) (u w : Uri) : w ∈ (c.openDocument u).opened ↔ w = u ∨ w ∈ c.opened := by
  unfold openDocument
  split
  · rename_i h
    have hu : u ∈ c.opened := by simpa [isOpen] using h
    constructor
    · exact .inr
    · rintro (rfl | hw)
      · exact hu
      · exact hw
  · simp [or_comm]

theorem mem_closeDocument (c : Cache) (u w : Uri) : w ∈ (c.closeDocument u).opened ↔ w ≠ u ∧ w ∈ c.opened := by
  simp [closeDocument, and_comm]

theorem change_waiters (c : Cache) (payload : Json) : (c.change payload).waiters = c.waiters := by
  unfold change; split <;> rfl

end Settings.Cache

namespace Bridge

variable {b : Bridge}

structure Linked (b : Bridge) : Prop where
  ids_lt : ∀ t ∈ b.jobs, t.id < b.nextJob
  ids_nodup : (b.jobs.map Job.id).Nodup
  /-- Each validation without an outcome has one run. -/
  runs_eq : b.validator.runs.map (fun r => (r.validation, r.uri)) =
    (b.jobs.filter (·.outcome.isNone)).map fun t => (t.id, t.uri)
  /-- Each validation without settings has one lookup that waits. -/
  waiters_eq : b.cache.waiters.map Waiter.lookup = (b.jobs.filter (·.settings.isNone)).map Job.id
  sound : b.validator.Sound
  opened_iff : ∀ u, u ∈ b.cache.opened ↔ b.validator.latest.get? u ≠ none

namespace Linked

theorem initial : Linked {} where
  ids_lt := by simp
  ids_nodup := by simp
  runs_eq := rfl
  waiters_eq := rfl
  sound := .initial
  opened_iff := by simp

theorem eq_of_id_eq (h : b.Linked) {t t' : Job} (ht : t ∈ b.jobs) (ht' : t' ∈ b.jobs) (hid : t.id = t'.id) :
    t = t' :=
  List.inj_on_of_nodup_map h.ids_nodup ht ht' hid

theorem job_of_run (h : b.Linked) {r : Run} (hr : r ∈ b.validator.runs) :
    ∃ t ∈ b.jobs, t.id = r.validation ∧ t.uri = r.uri ∧ t.outcome = none := by
  have hm := List.mem_map_of_mem (f := fun r => (r.validation, r.uri)) hr
  rw [h.runs_eq] at hm
  obtain ⟨t, ht, he⟩ := List.mem_map.mp hm
  obtain ⟨ht, ho⟩ := List.mem_filter.mp ht
  obtain ⟨hid, hu⟩ := Prod.mk.inj he
  exact ⟨t, ht, hid, hu, Option.isNone_iff_eq_none.mp ho⟩

theorem find?_run (h : b.Linked) {r : Run} (hr : r ∈ b.validator.runs) :
    b.validator.runs.find? (·.validation = r.validation) = some r := by
  have hn : (b.validator.runs.map Run.validation).Nodup := by
    have he := congrArg (List.map Prod.fst) h.runs_eq
    rw [List.map_map, List.map_map] at he
    exact he ▸ h.ids_nodup.sublist (List.filter_sublist.map _)
  obtain ⟨r', hf⟩ : ∃ r', b.validator.runs.find? (·.validation = r.validation) = some r' := by
    rw [← Option.isSome_iff_exists, List.find?_isSome]
    exact ⟨r, hr, by simp⟩
  have hv : r'.validation = r.validation := by simpa using List.find?_some hf
  rw [hf, List.inj_on_of_nodup_map hn (List.mem_of_find?_eq_some hf) hr hv]

theorem job_of_waiter (h : b.Linked) {w : Waiter} (hw : w ∈ b.cache.waiters) :
    ∃ t ∈ b.jobs, t.id = w.lookup ∧ t.settings = none := by
  have hm := List.mem_map_of_mem (f := Waiter.lookup) hw
  rw [h.waiters_eq] at hm
  obtain ⟨t, ht, hid⟩ := List.mem_map.mp hm
  obtain ⟨ht, hs⟩ := List.mem_filter.mp ht
  exact ⟨t, ht, hid, Option.isNone_iff_eq_none.mp hs⟩

theorem settle (h : b.Linked) : b.settle.1.Linked where
  ids_lt t ht := h.ids_lt t (List.mem_filter.mp ht).1
  ids_nodup := h.ids_nodup.sublist (List.filter_sublist.map _)
  runs_eq := by
    have hf : b.settle.1.jobs.filter (·.outcome.isNone) = b.jobs.filter (·.outcome.isNone) := by
      simp only [Bridge.settle, List.filter_filter]
      refine List.filter_congr fun t _ => ?_
      cases ho : t.outcome with
      | none => simp [(conclusion?_eq_none_iff t).mpr (.inr ho)]
      | some o => simp
    rw [hf]; exact h.runs_eq
  waiters_eq := by
    have hf : b.settle.1.jobs.filter (·.settings.isNone) = b.jobs.filter (·.settings.isNone) := by
      simp only [Bridge.settle, List.filter_filter]
      refine List.filter_congr fun t _ => ?_
      cases hs : t.settings with
      | none => simp [(conclusion?_eq_none_iff t).mpr (.inl hs)]
      | some s => simp
    rw [hf]; exact h.waiters_eq
  sound := h.sound
  opened_iff := h.opened_iff

theorem enlist (h : b.Linked) (u : Uri) : (b.enlist u).Linked := by
  obtain ⟨hu, hw⟩ := b.cache.get_cases b.now b.nextJob u
  refine ⟨?_, ?_, ?_, ?_, h.sound.start _ u, ?_⟩
  · intro t ht
    obtain ht | rfl := by simpa [Bridge.enlist] using ht
    · exact Nat.lt_succ_of_lt (h.ids_lt t ht)
    · exact Nat.lt_succ_self _
  · -- the new number is larger than all that are in use
    have hn : b.nextJob ∉ b.jobs.map Job.id := by
      intro hm
      obtain ⟨t, ht, he⟩ := List.mem_map.mp hm
      exact absurd (h.ids_lt t ht) (by omega)
    have hm : (b.enlist u).jobs.map Job.id = b.jobs.map Job.id ++ [b.nextJob] := by
      simp [Bridge.enlist, beginning]
    rw [hm, List.nodup_append_comm]
    exact List.nodup_cons.mpr ⟨hn, h.ids_nodup⟩
  · have hj : (b.enlist u).jobs = b.jobs ++ [b.beginning u] := rfl
    rw [hj, List.filter_append, List.map_append, ← h.runs_eq]
    obtain ⟨-, hs⟩ | ⟨path, -, -, hs⟩ | ⟨path, t, -, -, hs⟩ := Validator.start_cases b.validator b.nextJob u
    · simp [Bridge.enlist, beginning, hs, Validation.Start.outcome?]
    · simp [Bridge.enlist, beginning, hs, Validation.Start.outcome?]
    · simp [Bridge.enlist, beginning, hs, Validation.Start.outcome?, Validator.nextRun]
  · have hj : (b.enlist u).jobs = b.jobs ++ [b.beginning u] := rfl
    rw [hj, List.filter_append, List.map_append, ← h.waiters_eq]
    obtain ⟨s, hf, hw⟩ | ⟨w, hl, hf, hw⟩ := hw
    · simp [Bridge.enlist, beginning, hf, hw]
    · simp [Bridge.enlist, beginning, hf, hw, hl]
  · intro w
    have hs := Validator.get?_start_ne_none b.validator b.nextJob u w
    change w ∈ (b.cache.get b.now b.nextJob u).1.opened ↔ _
    rw [hu.opened, h.opened_iff]
    exact hs.symm

theorem welcome (h : b.Linked) (u : Uri) : (b.welcome u).Linked where
  ids_lt := h.ids_lt
  ids_nodup := h.ids_nodup
  runs_eq := (congrArg _ (b.validator.runs_track u)).trans h.runs_eq
  waiters_eq := by
    have hw : (b.welcome u).cache.waiters = b.cache.waiters := by
      unfold Bridge.welcome Cache.openDocument
      split <;> rfl
    rw [hw]; exact h.waiters_eq
  sound := h.sound.track u
  opened_iff w := by
    change w ∈ (b.cache.openDocument u).opened ↔ (b.validator.track u).latest.get? w ≠ none
    rw [Cache.mem_openDocument, Validator.get?_track, h.opened_iff]
    by_cases hw : w = u <;> simp [hw]

theorem close (h : b.Linked) (u : Uri) : (b.step (.closed u)).1.Linked where
  ids_lt := h.ids_lt
  ids_nodup := h.ids_nodup
  runs_eq := h.runs_eq
  waiters_eq := h.waiters_eq
  sound := h.sound.forget u
  opened_iff w := by
    change w ∈ (b.cache.closeDocument u).opened ↔ (b.validator.forget u).latest.get? w ≠ none
    rw [Cache.mem_closeDocument, Validator.get?_forget, h.opened_iff]
    by_cases hw : w = u <;> simp [hw]

theorem reconfigure (h : b.Linked) (payload : Json) : (b.reconfigure payload).Linked where
  ids_lt := h.ids_lt
  ids_nodup := h.ids_nodup
  runs_eq := h.runs_eq
  waiters_eq := (congrArg _ (b.cache.change_waiters payload)).trans h.waiters_eq
  sound := h.sound
  opened_iff w := by
    change w ∈ (b.cache.change payload).opened ↔ _
    rw [Cache.change_opened]
    exact h.opened_iff w

theorem lookups_nodup (h : b.Linked) : (b.cache.waiters.map Waiter.lookup).Nodup := by
  rw [h.waiters_eq]
  exact h.ids_nodup.sublist (List.filter_sublist.map _)

theorem waiters_filter (h : b.Linked) (keep : Waiter → Bool) :
    (b.cache.waiters.filter keep).map Waiter.lookup =
      (b.jobs.filter fun t => !awaited (b.cache.waiters.filter (!keep ·)) t.id && t.settings.isNone).map Job.id := by
  have hkeep : ∀ w ∈ b.cache.waiters, keep w = !awaited (b.cache.waiters.filter (!keep ·)) w.lookup := by
    intro w hw
    cases hk : keep w with
    | false =>
        have ha : awaited (b.cache.waiters.filter (!keep ·)) w.lookup = true :=
          (awaited_iff _ _).mpr ⟨w, List.mem_filter.mpr ⟨hw, by simp [hk]⟩, rfl⟩
        rw [ha]; rfl
    | true =>
        have ha : ¬ awaited (b.cache.waiters.filter (!keep ·)) w.lookup = true := by
          intro ha
          obtain ⟨v, hv, he⟩ := (awaited_iff _ _).mp ha
          obtain ⟨hv, hk'⟩ := List.mem_filter.mp hv
          obtain rfl := List.inj_on_of_nodup_map h.lookups_nodup hv hw he
          simp [hk] at hk'
        rw [Bool.eq_false_iff.mpr ha]; rfl
  rw [List.filter_congr hkeep, ← List.filter_filter]
  have hf {α : Type} (f : α → Nat) (l : List α) (p : Nat → Bool) :
      (l.filter fun a => p (f a)).map f = (l.map f).filter p := by
    rw [List.filter_map]; rfl
  rw [hf Waiter.lookup _ fun i => !awaited (b.cache.waiters.filter (!keep ·)) i,
    hf Job.id _ fun i => !awaited (b.cache.waiters.filter (!keep ·)) i, h.waiters_eq]

def resolve (ws : List Waiter) (s : Settings) (t : Job) : Job :=
  { t with settings := (if awaited ws t.id then some s else none).or t.settings }

theorem resolve_isNone (ws : List Waiter) (s : Settings) (t : Job) :
    (resolve ws s t).settings.isNone = (!awaited ws t.id && t.settings.isNone) := by
  unfold resolve
  cases awaited ws t.id <;> simp

/-- Some of the waiting lookups get their settings, by an answer or because their time is up. -/
theorem resolved (h : b.Linked) (keep : Waiter → Bool) (s : Settings) (c : Cache)
    (hw : c.waiters = b.cache.waiters.filter keep) (ho : c.opened = b.cache.opened) (now : Nat)
    (unread : Table Nat String) :
    ({ b with
      cache := c
      jobs := b.jobs.map (resolve (b.cache.waiters.filter (!keep ·)) s)
      now := now
      unread := unread } : Bridge).Linked where
  ids_lt t ht := by
    obtain ⟨t', ht', rfl⟩ := List.mem_map.mp ht
    exact h.ids_lt t' ht'
  ids_nodup := by
    rw [List.map_map]
    exact h.ids_nodup
  runs_eq := by
    rw [List.filter_map, List.map_map]
    exact h.runs_eq
  waiters_eq := by
    rw [hw, h.waiters_filter keep, List.filter_map, List.map_map]
    refine congrArg _ (List.filter_congr fun t _ => ?_)
    exact (resolve_isNone _ s t).symm
  sound := h.sound
  opened_iff u := by
    change u ∈ c.opened ↔ _
    rw [ho]
    exact h.opened_iff u

theorem answered (h : b.Linked) {pull : Nat} (hp : b.cache.unanswered.any (·.id = pull) = true) (r : Reply)
    (unread : Table Nat String) :
    ({ b with
      cache := (b.cache.answer pull r).1
      jobs := b.jobs.map (b.progress (.answered pull r))
      unread := unread } : Bridge).Linked := by
  have hj : b.jobs.map (b.progress (.answered pull r)) =
      b.jobs.map (resolve (b.cache.waiters.filter fun w => !decide (w.pull ≠ pull)) (Settings.ofReply r)) := by
    have hf : b.cache.waiters.filter (fun w => !decide (w.pull ≠ pull)) =
        b.cache.waiters.filter fun w => w.pull = pull := by simp
    rw [hf]
    refine List.map_congr_left fun t _ => ?_
    simp only [progress, found?, hp, if_true, verdict?, Option.none_or, resolve, ← lookup_waiters]
    rfl
  rw [hj]
  exact h.resolved (fun w => decide (w.pull ≠ pull)) _ (b.cache.answer pull r).1 rfl rfl b.now unread

theorem expired (h : b.Linked) (ms : Nat) :
    ({ b with
      cache := (b.cache.expire (b.now + ms)).1
      jobs := b.jobs.map (b.progress (.elapsed ms))
      now := b.now + ms } : Bridge).Linked := by
  have hj : b.jobs.map (b.progress (.elapsed ms)) =
      b.jobs.map (resolve (b.cache.waiters.filter fun w => !decide (b.now + ms < w.deadline)) {}) := by
    have hf : b.cache.waiters.filter (fun w => !decide (b.now + ms < w.deadline)) =
        b.cache.waiters.filter fun w => w.deadline ≤ b.now + ms :=
      List.filter_congr fun w _ => by rw [← decide_not]; exact decide_eq_decide.mpr Nat.not_lt
    rw [hf]
    refine List.map_congr_left fun t _ => ?_
    simp only [progress, found?, verdict?, Option.none_or, resolve, ← lookup_waiters]
    rfl
  rw [hj]
  exact h.resolved (fun w => decide (b.now + ms < w.deadline)) _ (b.cache.expire (b.now + ms)).1 rfl rfl _ b.unread

theorem finished (h : b.Linked) {r : Run} {validation : Nat}
    (hr : b.validator.runs.find? (·.validation = validation) = some r) (o : Tool.Output) :
    ({ b with
      validator := (b.validator.finish r o).1
      jobs := b.jobs.map (b.progress (.finished validation o)) } : Bridge).Linked where
  ids_lt t ht := by
    obtain ⟨t', ht', rfl⟩ := List.mem_map.mp ht
    exact h.ids_lt t' ht'
  ids_nodup := by
    rw [List.map_map]
    exact h.ids_nodup
  runs_eq := by
    obtain rfl : r.validation = validation := by simpa using List.find?_some hr
    have hf : (b.jobs.map (b.progress (.finished r.validation o))).filter (·.outcome.isNone) =
        ((b.jobs.filter (·.outcome.isNone)).filter fun t => decide (t.id ≠ r.validation)).map
          (b.progress (.finished r.validation o)) := by
      rw [List.filter_map, List.filter_filter]
      refine congrArg _ (List.filter_congr fun t _ => ?_)
      by_cases ht : t.id = r.validation
      · simp [progress, verdict?, ht, hr]
      · simp [progress, verdict?, ht]
    have hp : ∀ p : Nat × Uri → Bool, (b.validator.runs.filter fun r => p (r.validation, r.uri)).map
        (fun r => (r.validation, r.uri)) = ((b.jobs.filter (·.outcome.isNone)).filter fun t => p (t.id, t.uri)).map
          fun t => (t.id, t.uri) := by
      intro p
      have he := congrArg (List.filter p) h.runs_eq
      rwa [List.filter_map, List.filter_map] at he
    rw [hf, List.map_map]
    exact hp fun p => decide (p.1 ≠ r.validation)
  waiters_eq := by
    rw [List.filter_map, List.map_map]
    exact h.waiters_eq
  sound := h.sound.finish r o
  opened_iff := h.opened_iff

end Linked

theorem opened_spawn (b : Bridge) (u : Uri) : (b.spawn u).1.cache.opened = b.cache.opened :=
  (b.cache.get_cases b.now b.nextJob u).1.opened

theorem opened_spawnAll (b : Bridge) (us : List Uri) : (b.spawnAll us).1.cache.opened = b.cache.opened := by
  induction us generalizing b with
  | nil => rfl
  | cons u us ih => rw [spawnAll_cons_fst, ih, opened_spawn]

theorem mem_opened_step (b : Bridge) (e : Event) (u : Uri) :
    u ∈ (b.step e).1.cache.opened ↔ e = .opened u ∨ e ≠ .closed u ∧ u ∈ b.cache.opened := by
  cases e with
  | opened w =>
      rw [step_opened, opened_spawn]
      change u ∈ (b.cache.openDocument w).opened ↔ _
      rw [Cache.mem_openDocument]
      simp [eq_comm]
  | saved w =>
      by_cases ho : b.cache.isOpen w = true
      · rw [step_saved_open ho, opened_spawn]; simp
      · rw [(step_saved_closed ho).1]; simp
  | closed w =>
      change u ∈ (b.cache.closeDocument w).opened ↔ _
      rw [Cache.mem_closeDocument]
      simp [eq_comm]
  | configured payload =>
      rw [(step_configured b payload).1, opened_spawnAll]
      change u ∈ (b.cache.change payload).opened ↔ _
      rw [Cache.change_opened]
      simp
  | answered pull r =>
      by_cases hp : b.cache.unanswered.any (·.id = pull) = true
      · obtain ⟨unread, hs⟩ := (step_answered hp r).1
        rw [hs]
        change u ∈ b.cache.opened ↔ _
        simp
      · rw [step_answered_unknown hp]; simp
  | finished validation o =>
      cases hr : b.validator.runs.find? (·.validation = validation) with
      | none => rw [step_finished_unknown hr]; simp
      | some r =>
          rw [(step_finished hr o).1]
          change u ∈ b.cache.opened ↔ _
          simp
  | elapsed ms =>
      rw [(step_elapsed b ms).1]
      change u ∈ b.cache.opened ↔ _
      simp

structure Kept (P : Bridge → Prop) : Prop where
  welcome : ∀ b u, P b → P (b.welcome u)
  spawn : ∀ b u, P b → P (b.spawn u).1
  closed : ∀ b u, P b → P (b.step (.closed u)).1
  reconfigure : ∀ b payload, P b → P (b.reconfigure payload)
  answered : ∀ (b : Bridge) pull r unread, b.cache.unanswered.any (·.id = pull) = true → P b →
    P ({ b with
      cache := (b.cache.answer pull r).1
      jobs := b.jobs.map (b.progress (.answered pull r))
      unread := unread } : Bridge).settle.1
  finished : ∀ (b : Bridge) validation r o, b.validator.runs.find? (·.validation = validation) = some r → P b →
    P ({ b with
      validator := (b.validator.finish r o).1
      jobs := b.jobs.map (b.progress (.finished validation o)) } : Bridge).settle.1
  elapsed : ∀ (b : Bridge) ms, P b →
    P ({ b with
      cache := (b.cache.expire (b.now + ms)).1
      jobs := b.jobs.map (b.progress (.elapsed ms))
      now := b.now + ms } : Bridge).settle.1
  /-- Whether the editor can be asked for settings does not matter, and requests may be taken back. -/
  requests : ∀ (b : Bridge) pulls unanswered, unanswered ⊆ b.cache.unanswered → P b →
    P { b with cache := { b.cache with pulls := pulls, unanswered := unanswered } }

namespace Kept

variable {P : Bridge → Prop}

theorem spawnAll (hP : Kept P) (h : P b) (us : List Uri) : P (b.spawnAll us).1 := by
  induction us generalizing b with
  | nil => exact h
  | cons u us ih => exact ih (hP.spawn b u h)

theorem step (hP : Kept P) (h : P b) (e : Event) : P (b.step e).1 := by
  cases e with
  | opened u => exact hP.spawn _ u (hP.welcome b u h)
  | saved u =>
      by_cases ho : b.cache.isOpen u = true
      · rw [step_saved_open ho]; exact hP.spawn b u h
      · rw [(step_saved_closed ho).1]; exact h
  | closed u => exact hP.closed b u h
  | configured payload =>
      rw [(step_configured b payload).1]
      exact hP.spawnAll (hP.reconfigure b payload h) _
  | answered pull r =>
      by_cases hp : b.cache.unanswered.any (·.id = pull) = true
      · obtain ⟨unread, hs⟩ := (step_answered hp r).1
        rw [hs]
        exact hP.answered b pull r unread hp h
      · rw [step_answered_unknown hp]; exact h
  | finished validation o =>
      cases hr : b.validator.runs.find? (·.validation = validation) with
      | none => rw [step_finished_unknown hr]; exact h
      | some r => rw [(step_finished hr o).1]; exact hP.finished b validation r o hr h
  | elapsed ms => rw [(step_elapsed b ms).1]; exact hP.elapsed b ms h

end Kept

structure Coherent (b : Bridge) : Prop extends Linked b where
  settled : b.Settled

namespace Coherent

theorem initial : Coherent {} := ⟨.initial, by simp [Settled]⟩

theorem of_settle (h : b.Linked) : b.settle.1.Coherent := ⟨h.settle, settled_settle b⟩

theorem kept : Kept Coherent where
  welcome _ u h := ⟨h.toLinked.welcome u, h.settled⟩
  spawn _ u h := of_settle (h.toLinked.enlist u)
  closed _ u h := ⟨h.toLinked.close u, h.settled⟩
  reconfigure _ payload h := ⟨h.toLinked.reconfigure payload, h.settled⟩
  answered _ _ r unread hp h := of_settle (h.toLinked.answered hp r unread)
  finished _ _ _ o hr h := of_settle (h.toLinked.finished hr o)
  elapsed _ ms h := of_settle (h.toLinked.expired ms)
  requests _ _ _ _ h := ⟨⟨h.ids_lt, h.ids_nodup, h.runs_eq, h.waiters_eq, h.sound, h.opened_iff⟩, h.settled⟩

end Coherent

end Bridge

end LintBridge
