import LintBridge.Proofs.Sessions
import Mathlib.Algebra.Group.Nat.Defs

namespace LintBridge

open Settings (Cache)
open Validation (Run Validator)

theorem Settings.Cache.nodup_openDocument {c : Cache} (h : c.opened.Nodup) (u : Uri) :
    (c.openDocument u).opened.Nodup := by
  unfold openDocument
  split
  · exact h
  · rename_i ho
    have hu : u ∉ c.opened := by simpa [isOpen] using ho
    change (c.opened ++ [u]).Nodup
    rw [List.nodup_append_comm]
    exact List.nodup_cons.mpr ⟨hu, h⟩

namespace Validation.Validator

variable {v : Validator}

theorem nodup_keys_track (h : v.latest.keys.Nodup) (u : Uri) : (v.track u).latest.keys.Nodup := by
  unfold track
  split
  · exact h
  · exact Table.nodup_keys_set h u 0

theorem nodup_keys_start (h : v.latest.keys.Nodup) (id : Nat) (u : Uri) :
    (v.start id u).1.latest.keys.Nodup := by
  obtain ⟨-, hs⟩ | ⟨path, -, -, hs⟩ | ⟨path, t, -, -, hs⟩ := start_cases v id u
  · rw [hs]; exact h
  · rw [hs]; exact h
  · rw [hs]; exact Table.nodup_keys_set h u _

theorem Sound.current_le_one (h : v.Sound) (u : Uri) :
    (v.runs.filter fun r => r.uri = u ∧ v.latest.get? u = some r.ticket).length ≤ 1 := by
  cases ho : v.latest.get? u with
  | none => simp
  | some t =>
      -- the tickets of these runs are distinct and all the same
      have hn : ((v.runs.filter fun r => r.uri = u ∧ some t = some r.ticket).map Run.ticket).Nodup :=
        h.tickets_nodup.sublist (List.filter_sublist.map _)
      have ht : ∀ x ∈ (v.runs.filter fun r => r.uri = u ∧ some t = some r.ticket).map Run.ticket, x = t := by
        intro x hx
        obtain ⟨r, hr, rfl⟩ := List.mem_map.mp hx
        have hr := (List.mem_filter.mp hr).2
        simp only [Option.some.injEq, decide_eq_true_eq] at hr
        exact hr.2.symm
      rw [List.eq_replicate_of_mem ht, List.nodup_replicate, List.length_map] at hn
      exact hn

end Validation.Validator

namespace Bridge

variable {b : Bridge}

structure Distinct (b : Bridge) : Prop where
  opened : b.cache.opened.Nodup
  latest : b.validator.latest.keys.Nodup

theorem Distinct.kept : Kept Distinct where
  welcome _ u h := ⟨Cache.nodup_openDocument h.opened u, Validator.nodup_keys_track h.latest u⟩
  spawn b u h := ⟨(opened_spawn b u).symm ▸ h.opened, Validator.nodup_keys_start h.latest b.nextJob u⟩
  closed _ u h := ⟨h.opened.sublist List.filter_sublist, Table.nodup_keys_erase h.latest u⟩
  reconfigure b payload h := ⟨(b.cache.change_opened payload).symm ▸ h.opened, h.latest⟩
  answered _ _ _ _ _ h := ⟨h.opened, h.latest⟩
  finished _ _ _ _ _ h := ⟨h.opened, h.latest⟩
  elapsed _ _ h := ⟨h.opened, h.latest⟩
  requests _ _ _ _ h := ⟨h.opened, h.latest⟩

/-- A validation takes one ticket at most, and the first ticket is one. -/
theorem kept_nextTicket : Kept fun b => b.validator.nextTicket ≤ b.nextJob + 1 where
  welcome b u h := Nat.le_trans (Nat.le_of_eq (b.validator.nextTicket_track u)) h
  spawn b u h := Nat.le_trans (b.validator.nextTicket_start b.nextJob u).2 (Nat.succ_le_succ h)
  closed _ _ h := h
  reconfigure _ _ h := h
  answered _ _ _ _ _ h := h
  finished _ _ _ _ _ h := h
  elapsed _ _ h := h
  requests _ _ _ _ h := h

theorem nextJob_spawnAll (b : Bridge) (us : List Uri) : (b.spawnAll us).1.nextJob = b.nextJob + us.length := by
  induction us generalizing b with
  | nil => rfl
  | cons u us ih =>
      have hu : (b.spawn u).1.nextJob = b.nextJob + 1 := rfl
      rw [spawnAll_cons_fst, ih, hu, List.length_cons]
      omega

theorem nextJob_step (b : Bridge) (e : Event) : (b.step e).1.nextJob = b.nextJob + (b.triggered e).length := by
  cases e with
  | opened u => rfl
  | saved u =>
      by_cases ho : b.cache.isOpen u = true
      · rw [step_saved_open ho, triggered, if_pos ho]; rfl
      · rw [(step_saved_closed ho).1, triggered, if_neg ho]; rfl
  | closed u => rfl
  | configured payload =>
      rw [(step_configured b payload).1, nextJob_spawnAll]
      change b.nextJob + (b.cache.change payload).opened.length = _
      rw [Cache.change_opened]
      rfl
  | answered pull r =>
      by_cases hp : b.cache.unanswered.any (·.id = pull) = true
      · obtain ⟨unread, hs⟩ := (step_answered hp r).1
        rw [hs]
        rfl
      · rw [step_answered_unknown hp]; rfl
  | finished validation o =>
      cases hr : b.validator.runs.find? (·.validation = validation) with
      | none => rw [step_finished_unknown hr]; rfl
      | some r => rw [(step_finished hr o).1]; rfl
  | elapsed ms => rw [(step_elapsed b ms).1]; rfl

/-- The cache and the validator have the same documents open, and the tickets of the runs that have not ended
tell them apart. -/
structure Agreement (b : Bridge) : Prop where
  opened : b.cache.opened.Perm b.validator.latest.keys
  opened_nodup : b.cache.opened.Nodup
  latest_lt : ∀ e ∈ b.validator.latest, e.2 < b.validator.nextTicket
  tickets_nodup : (b.validator.runs.map Run.ticket).Nodup
  ticket_ne_zero : ∀ r ∈ b.validator.runs, r.ticket ≠ 0
  current_le_one : ∀ u,
    (b.validator.runs.filter fun r => r.uri = u ∧ b.validator.latest.get? u = some r.ticket).length ≤ 1

theorem Linked.agreement (h : b.Linked) (hd : b.Distinct) : b.Agreement where
  opened := by
    rw [List.perm_ext_iff_of_nodup hd.opened hd.latest]
    intro u
    rw [h.opened_iff, Table.mem_keys_iff]
  opened_nodup := hd.opened
  latest_lt e he := h.sound.latest_lt e.1 e.2 (Table.get?_of_mem hd.latest he)
  tickets_nodup := h.sound.tickets_nodup
  ticket_ne_zero r hr := Nat.ne_of_gt (h.sound.run_pos r hr)
  current_le_one := h.sound.current_le_one

end Bridge

namespace Session

def validated (s : Session) (es : List Event) : List Uri := s.course triggered es

theorem nextJob_step (s : Session) (e : Event) :
    (s.step e).1.bridge.nextJob = s.bridge.nextJob + (s.triggered e).length := by
  unfold triggered
  cases hx : s.handled? e with
  | some x => rw [step_handled hx]; exact s.bridge.nextJob_step x
  | none => rw [(step_unhandled hx).bridge]; rfl

theorem nextJob_after (s : Session) (es : List Event) :
    (s.after es).bridge.nextJob = s.bridge.nextJob + (s.validated es).length := by
  induction es generalizing s with
  | nil => rfl
  | cons e es ih =>
      have hv : s.validated (e :: es) = s.triggered e ++ (s.step e).1.validated es := rfl
      rw [after_cons, ih, nextJob_step, hv, List.length_append]
      omega

/-- After every step of a session the parts of the bridge agree with each other and with what the editor has told,
and the next ticket fits in a machine word as long as the validations can be counted in one. -/
theorem parts_agree_after (es : List Event) :
    (after {} es).bridge.Agreement ∧
    (∀ u, u ∈ (after {} es).bridge.cache.opened ↔ IsOpen es u) ∧
    ((validated {} es).length < 2 ^ 64 - 1 → (after {} es).bridge.validator.nextTicket < 2 ^ 64) := by
  refine ⟨?_, mem_opened_after es, ?_⟩
  · have hd : (after {} es).bridge.Distinct := after_keeps Bridge.Distinct.kept es ⟨.nil, .nil⟩
    exact (coherent_after es).toLinked.agreement hd
  · intro hv
    have hn : (after {} es).bridge.validator.nextTicket ≤ (after {} es).bridge.nextJob + 1 :=
      after_keeps Bridge.kept_nextTicket es (Nat.le_refl 1)
    have hj : (after {} es).bridge.nextJob = 0 + (validated {} es).length := nextJob_after {} es
    omega

/-- A document is opened again while the tool still runs for it, and one that is no file is opened twice: both runs
go on, and no document is entered twice. -/
theorem parts_agree_after_of_reopening :
    let u : Uri := { scheme := "file", authority := some {}, path := .segments ["a.sql"] }
    let w : Uri := { scheme := "untitled", path := .plain "b" }
    let es := [greeting true, about "textDocument/didOpen" u.text, about "textDocument/didClose" u.text,
      about "textDocument/didOpen" u.text, about "textDocument/didOpen" w.text, about "textDocument/didOpen" w.text]
    (validated {} es).length < 2 ^ 64 - 1 ∧
    (after {} es).bridge.validator.runs.map Run.ticket = [1, 2] ∧
    (after {} es).bridge.cache.opened = [u, w] ∧
    (after {} es).bridge.Agreement ∧ IsOpen es u ∧ IsOpen es w ∧
    (after {} es).bridge.validator.nextTicket < 2 ^ 64 := by
  intro u w es
  have hv : (validated {} es).length < 2 ^ 64 - 1 := by decide +kernel
  have hr : (after {} es).bridge.validator.runs.map Run.ticket = [1, 2] := by decide +kernel
  have ho : (after {} es).bridge.cache.opened = [u, w] := by decide +kernel
  obtain ⟨ha, hi, hn⟩ := parts_agree_after es
  exact ⟨hv, hr, ho, ha, (hi u).mp (by simp [ho]), (hi w).mp (by simp [ho]), hn hv⟩

end Session

end LintBridge
