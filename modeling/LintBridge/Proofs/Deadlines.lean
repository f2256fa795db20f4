import LintBridge.Proofs.Accounts
import LintBridge.Proofs.Requests

namespace LintBridge

open Settings (Cache Pull Reply Waiter)
open Validation (Outcome Report Run)

namespace Settings.Cache

variable {c : Cache}

theorem change_eq (c : Cache) (payload : Json) : c.change payload =
    { c with stored := (c.change payload).stored, pushed := (c.change payload).pushed } := by
  unfold change
  split <;> rfl

theorem get_fields (c : Cache) (now lookup : Nat) (u : Uri) :
    (c.get now lookup u).1.answers = c.answers ∧ (c.get now lookup u).1.patience = c.patience := by
  rw [get_eq]
  split
  · rw [await_fst]
    exact c.bind_fields u
  · exact ⟨rfl, rfl⟩

theorem unanswered_bind (c : Cache) (u : Uri) : ∀ p ∈ c.unanswered, p ∈ (c.bind u).1.unanswered := by
  intro p hp
  obtain ⟨k, -, -, hb⟩ | ⟨-, hb⟩ := c.bind_cases u
  · rw [hb]; exact hp
  · rw [hb]; exact List.mem_append_left _ hp

theorem unanswered_get (c : Cache) (now lookup : Nat) (u : Uri) :
    ∀ p ∈ c.unanswered, p ∈ (c.get now lookup u).1.unanswered := by
  intro p hp
  rw [get_eq]
  split
  · rw [await_fst]
    exact c.unanswered_bind u p hp
  · exact hp

theorem mem_waiters_get {now lookup : Nat} {u : Uri} {w : Waiter} (hw : w ∈ (c.get now lookup u).1.waiters) :
    w ∈ c.waiters ∨ c.pulls = true ∧ w = ⟨lookup, (c.bind u).2.1, now + c.patience⟩ ∧ 0 < c.patience ∧
      c.answers.get? (c.bind u).2.1 = none := by
  have hb := (untouched_bind c u).2
  have hf := c.bind_fields u
  rw [get_eq] at hw
  split at hw
  · rename_i hp
    unfold await at hw
    split at hw
    · rename_i ha
      rw [hf.1, hf.2] at ha
      obtain hw | hw := List.mem_append.mp hw
      · exact .inl (hb ▸ hw)
      · rw [List.mem_singleton, hf.2] at hw
        exact .inr ⟨hp, hw, Nat.pos_of_ne_zero ha.2, ha.1⟩
    · exact .inl (hb ▸ hw)
  · exact .inl hw

def Covered (c : Cache) : Prop :=
  ∀ u k, c.stored.get? u = some k → c.answers.get? k = none → ⟨k, u⟩ ∈ c.unanswered

namespace Covered

theorem initial : Covered {} := by
  intro u k hk
  cases hk

theorem openDocument (h : c.Covered) (u : Uri) : (c.openDocument u).Covered := by
  rw [openDocument_eq]
  exact h

theorem closeDocument (h : c.Covered) (u : Uri) : (c.closeDocument u).Covered := by
  intro w k hk ha
  by_cases hw : w = u
  · subst w
    simp [Cache.closeDocument] at hk
  · rw [Cache.closeDocument, Table.get?_erase_of_ne _ hw] at hk
    exact h w k hk ha

theorem change (h : c.Covered) (payload : Json) : (c.change payload).Covered := by
  unfold Cache.change
  split
  · intro u k hk
    cases hk
  · exact h

theorem bind (h : c.Covered) (u : Uri) : (c.bind u).1.Covered := by
  obtain ⟨k, -, -, hb⟩ | ⟨-, hb⟩ := c.bind_cases u
  · rw [hb]; exact h
  · rw [hb]
    intro w k hk ha
    by_cases ho : c.isOpen u = true
    · simp only [ask, ho, if_true] at hk
      by_cases hw : w = u
      · subst w
        rw [Table.get?_set_self, Option.some.injEq] at hk
        subst k
        exact List.mem_append_right _ (List.mem_singleton_self _)
      · rw [Table.get?_set_of_ne _ _ hw] at hk
        exact List.mem_append_left _ (h w k hk ha)
    · simp only [ask, ho] at hk
      exact List.mem_append_left _ (h w k hk ha)

theorem get (h : c.Covered) (now lookup : Nat) (u : Uri) : (c.get now lookup u).1.Covered := by
  rw [get_eq]
  split
  · rw [await_fst]
    exact h.bind u
  · exact h

theorem answer (h : c.Covered) (pull : Nat) (r : Reply) : (c.answer pull r).1.Covered := by
  intro u k hk ha
  have ha : (c.answers.set pull (ofReply r)).get? k = none := ha
  by_cases hkp : k = pull
  · rw [hkp, Table.get?_set_self] at ha
    cases ha
  · rw [Table.get?_set_of_ne _ _ hkp] at ha
    exact List.mem_filter.mpr ⟨h u k hk ha, by simpa using hkp⟩

theorem mem_unanswered (h : c.Covered) {u : Uri} (ha : c.answers.get? (c.bind u).2.1 = none) :
    ⟨(c.bind u).2.1, u⟩ ∈ (c.bind u).1.unanswered := by
  obtain ⟨k, -, hs, hb⟩ | ⟨-, hb⟩ := c.bind_cases u
  · rw [hb] at ha ⊢
    exact h u k hs ha
  · rw [hb]
    exact List.mem_append_right _ (List.mem_singleton_self _)

end Covered

end Settings.Cache

namespace Outset

def request? (x : Outset) : Option Nat :=
  if x.bridge.cache.pulls then some (x.bridge.cache.bind x.uri).2.1 else none

structure Awaits (x : Outset) (w : Waiter) : Prop where
  lookup : w.lookup = x.number
  request : x.request? = some w.pull
  deadline : w.deadline = x.bridge.now + x.bridge.cache.patience

end Outset

namespace Bridge

variable {b : Bridge}

theorem Linked.run_of_job (h : b.Linked) {t : Job} (ht : t ∈ b.jobs) (ho : t.outcome = none) :
    ∃ r ∈ b.validator.runs, r.validation = t.id ∧ r.uri = t.uri := by
  have hm : t ∈ b.jobs.filter (·.outcome.isNone) := List.mem_filter.mpr ⟨ht, by simp [ho]⟩
  have hm := List.mem_map_of_mem (f := fun t : Job => (t.id, t.uri)) hm
  rw [← h.runs_eq] at hm
  obtain ⟨r, hr, he⟩ := List.mem_map.mp hm
  obtain ⟨hid, hu⟩ := Prod.mk.inj he
  exact ⟨r, hr, hid, hu⟩

theorem Linked.waiter_of_job (h : b.Linked) {t : Job} (ht : t ∈ b.jobs) (hs : t.settings = none) :
    ∃ w ∈ b.cache.waiters, w.lookup = t.id := by
  have hm : t ∈ b.jobs.filter (·.settings.isNone) := List.mem_filter.mpr ⟨ht, by simp [hs]⟩
  have hm := List.mem_map_of_mem (f := Job.id) hm
  rw [← h.waiters_eq] at hm
  exact List.mem_map.mp hm

theorem kept_patience : Kept fun b => b.cache.patience = 2000 where
  welcome b u h := by
    change (b.cache.openDocument u).patience = 2000
    rw [Cache.openDocument_eq]
    exact h
  spawn b u h := (b.cache.get_fields b.now b.nextJob u).2.trans h
  closed _ _ h := h
  reconfigure b payload h := by
    change (b.cache.change payload).patience = 2000
    rw [Cache.change_eq]
    exact h
  answered _ _ _ _ _ h := h
  finished _ _ _ _ _ h := h
  elapsed _ _ h := h
  requests _ _ _ _ h := h

theorem kept_answers (k : Nat) : Kept fun b => b.cache.answers.get? k ≠ none where
  welcome b u h := by
    change (b.cache.openDocument u).answers.get? k ≠ none
    rw [Cache.openDocument_eq]
    exact h
  spawn b u h := by
    change (b.cache.get b.now b.nextJob u).1.answers.get? k ≠ none
    rw [(b.cache.get_fields b.now b.nextJob u).1]
    exact h
  closed _ _ h := h
  reconfigure b payload h := by
    change (b.cache.change payload).answers.get? k ≠ none
    rw [Cache.change_eq]
    exact h
  answered b pull r _ _ h := by
    change (b.cache.answers.set pull (Settings.ofReply r)).get? k ≠ none
    by_cases hk : k = pull
    · rw [hk, Table.get?_set_self]; simp
    · rw [Table.get?_set_of_ne _ _ hk]; exact h
  finished _ _ _ _ _ h := h
  elapsed _ _ h := h
  requests _ _ _ _ h := h

def Patient (b : Bridge) : Prop := ∀ w ∈ b.cache.waiters, b.now < w.deadline ∧ b.cache.answers.get? w.pull = none

theorem Patient.kept : Kept Patient where
  welcome b u h := by
    intro w hw
    change w ∈ (b.cache.openDocument u).waiters at hw
    change b.now < w.deadline ∧ (b.cache.openDocument u).answers.get? w.pull = none
    rw [Cache.openDocument_eq] at hw ⊢
    exact h w hw
  spawn b u h := by
    intro w hw
    change b.now < w.deadline ∧ (b.cache.get b.now b.nextJob u).1.answers.get? w.pull = none
    rw [(b.cache.get_fields b.now b.nextJob u).1]
    obtain hw | ⟨-, rfl, hp, ha⟩ := Cache.mem_waiters_get hw
    · exact h w hw
    · refine ⟨?_, ha⟩
      dsimp only
      omega
  closed _ _ h := h
  reconfigure b payload h := by
    intro w hw
    change w ∈ (b.cache.change payload).waiters at hw
    change b.now < w.deadline ∧ (b.cache.change payload).answers.get? w.pull = none
    rw [Cache.change_eq] at hw ⊢
    exact h w hw
  answered b pull r _ _ h := by
    intro w hw
    obtain ⟨hw, hne⟩ := List.mem_filter.mp hw
    refine ⟨(h w hw).1, ?_⟩
    change (b.cache.answers.set pull (Settings.ofReply r)).get? w.pull = none
    rw [Table.get?_set_of_ne _ _ (by simpa using hne)]
    exact (h w hw).2
  finished _ _ _ _ _ h := h
  elapsed b ms h := by
    intro w hw
    obtain ⟨hw, hlt⟩ := List.mem_filter.mp hw
    exact ⟨of_decide_eq_true hlt, (h w hw).2⟩
  requests _ _ _ _ h := h

theorem covered_prepared (h : b.cache.Covered) (e : Event) : (b.prepared e).cache.Covered := by
  cases e with
  | opened u => exact h.openDocument u
  | closed u => exact h.closeDocument u
  | configured payload => exact h.change payload
  | saved | answered | finished | elapsed => exact h

theorem unanswered_spawnAll (b : Bridge) (us : List Uri) :
    ∀ p ∈ b.cache.unanswered, p ∈ (b.spawnAll us).1.cache.unanswered := by
  induction us generalizing b with
  | nil => intro p hp; exact hp
  | cons u us ih =>
      intro p hp
      exact ih (b.spawn u).1 p (b.cache.unanswered_get b.now b.nextJob u p hp)

theorem waiters_spawnAll (h : b.cache.Covered) (us : List Uri) : (b.spawnAll us).1.cache.Covered ∧
    ∀ w ∈ (b.spawnAll us).1.cache.waiters, w ∈ b.cache.waiters ∨
      ∃ x ∈ b.outsetsOf us, x.Awaits w ∧ ⟨w.pull, x.uri⟩ ∈ (b.spawnAll us).1.cache.unanswered := by
  induction us generalizing b with
  | nil => exact ⟨h, fun w hw => .inl hw⟩
  | cons u us ih =>
      obtain ⟨hc, hws⟩ := ih (b := (b.spawn u).1) (h.get b.now b.nextJob u)
      refine ⟨hc, fun w hw => ?_⟩
      obtain hw | ⟨x, hx, hxw, hp⟩ := hws w hw
      · obtain hw | ⟨hp, rfl, -, ha⟩ := Cache.mem_waiters_get hw
        · exact .inl hw
        · have hm : ⟨(b.cache.bind u).2.1, u⟩ ∈ (b.cache.get b.now b.nextJob u).1.unanswered := by
            rw [Cache.get_eq, if_pos hp, Cache.await_fst]
            exact h.mem_unanswered ha
          exact .inr ⟨⟨b, u⟩, List.mem_cons_self, ⟨rfl, by simp [Outset.request?, hp], rfl⟩,
            unanswered_spawnAll (b.spawn u).1 us _ hm⟩
      · exact .inr ⟨x, List.mem_cons_of_mem _ hx, hxw, hp⟩

theorem unanswered_prepared (b : Bridge) (e : Event) :
    (b.prepared e).cache.unanswered = b.cache.unanswered ∧ (b.prepared e).cache.waiters = b.cache.waiters := by
  cases e with
  | opened u =>
      change (b.cache.openDocument u).unanswered = _ ∧ (b.cache.openDocument u).waiters = _
      rw [Cache.openDocument_eq]
      exact ⟨rfl, rfl⟩
  | configured payload =>
      change (b.cache.change payload).unanswered = _ ∧ (b.cache.change payload).waiters = _
      rw [Cache.change_eq]
      exact ⟨rfl, rfl⟩
  | closed | saved | answered | finished | elapsed => exact ⟨rfl, rfl⟩

/-- A lookup that waits after a step waited before, and its request is still to be answered if it was, or it is that
of a validation that begins in the step. -/
theorem waiters_step (h : b.cache.Covered) (e : Event) : (b.step e).1.cache.Covered ∧
    ∀ w ∈ (b.step e).1.cache.waiters,
      (w ∈ b.cache.waiters ∧ ∀ u, ⟨w.pull, u⟩ ∈ b.cache.unanswered → ⟨w.pull, u⟩ ∈ (b.step e).1.cache.unanswered) ∨
      ∃ x ∈ b.outsets e, x.Awaits w ∧ ⟨w.pull, x.uri⟩ ∈ (b.step e).1.cache.unanswered := by
  cases he : e.isProgress with
  | false =>
      rw [(step_prepared b he).1]
      obtain ⟨hc, hws⟩ := waiters_spawnAll (covered_prepared h e) (b.triggered e)
      obtain ⟨hu, hw⟩ := b.unanswered_prepared e
      refine ⟨hc, fun w hm => ?_⟩
      obtain hm | hx := hws w hm
      · rw [hw] at hm
        refine .inl ⟨hm, fun u hp => ?_⟩
        rw [← hu] at hp
        exact unanswered_spawnAll _ _ _ hp
      · exact .inr hx
  | true =>
      cases e with
      | answered pull r =>
          by_cases hp : b.cache.unanswered.any (·.id = pull) = true
          · obtain ⟨unread, hs⟩ := (step_answered hp r).1
            rw [hs]
            refine ⟨h.answer pull r, fun w hw => ?_⟩
            obtain ⟨hw, hne⟩ := List.mem_filter.mp hw
            exact .inl ⟨hw, fun u hu => List.mem_filter.mpr ⟨hu, hne⟩⟩
          · rw [step_answered_unknown hp]
            exact ⟨h, fun w hw => .inl ⟨hw, fun _ hu => hu⟩⟩
      | finished validation o =>
          cases hf : b.validator.runs.find? (·.validation = validation) with
          | none =>
              rw [step_finished_unknown hf]
              exact ⟨h, fun w hw => .inl ⟨hw, fun _ hu => hu⟩⟩
          | some run =>
              rw [(step_finished hf o).1]
              exact ⟨h, fun w hw => .inl ⟨hw, fun _ hu => hu⟩⟩
      | elapsed ms =>
          rw [(step_elapsed b ms).1]
          exact ⟨h, fun w hw => .inl ⟨(List.mem_filter.mp hw).1, fun _ hu => hu⟩⟩
      | opened | saved | closed | configured => cases he

theorem now_spawnAll (b : Bridge) (us : List Uri) : (b.spawnAll us).1.now = b.now := by
  induction us generalizing b with
  | nil => rfl
  | cons u us ih => exact ih (b.spawn u).1

theorem now_prepared (b : Bridge) (e : Event) : (b.prepared e).now = b.now := by
  cases e <;> rfl

theorem now_outsetsOf (b : Bridge) (us : List Uri) : ∀ x ∈ b.outsetsOf us, x.bridge.now = b.now := by
  induction us generalizing b with
  | nil => simp [outsetsOf]
  | cons u us ih =>
      intro x hx
      obtain rfl | hx := List.mem_cons.mp hx
      · rfl
      · exact ih (b.spawn u).1 x hx

theorem now_outsets {e : Event} {x : Outset} (hx : x ∈ b.outsets e) : x.bridge.now = b.now := by
  rw [now_outsetsOf _ _ x hx, now_prepared]

end Bridge

namespace Session

variable {s : Session} {es : List Event} {e : Event}

def Event.span : Event → Nat
  | .elapsed ms => ms
  | _ => 0

def elapsed (es : List Event) : Nat := History.elapsed Event.span es

theorem now_step (s : Session) (e : Event) : (s.step e).1.bridge.now = s.bridge.now + e.span := by
  cases hx : s.handled? e with
  | none =>
      rw [(step_unhandled hx).bridge]
      cases e with
      | elapsed ms => cases hx
      | message | configuration | registration | finished => rfl
  | some x =>
      rw [step_handled hx]
      cases e with
      | message m =>
          change (s.bridge.step x).1.now = _
          rw [(Bridge.step_prepared _ (isProgress_of_message hx)).1, Bridge.now_spawnAll, Bridge.now_prepared]
          rfl
      | configuration scope index a =>
          simp only [handled?] at hx
          split at hx
          · cases hx
          · obtain ⟨p, hp, rfl⟩ := Option.map_eq_some_iff.mp hx
            change (s.bridge.step (.answered p.id _)).1.now = _
            by_cases hu : s.bridge.cache.unanswered.any (·.id = p.id) = true
            · obtain ⟨unread, hs⟩ := (Bridge.step_answered hu _).1
              rw [hs]
              rfl
            · rw [Bridge.step_answered_unknown hu]; rfl
      | registration index a => cases hx
      | finished path index o =>
          obtain ⟨r, -, rfl⟩ := Option.map_eq_some_iff.mp hx
          change (s.bridge.step (.finished r.validation o)).1.now = _
          cases hf : s.bridge.validator.runs.find? (·.validation = r.validation) with
          | none => rw [Bridge.step_finished_unknown hf]; rfl
          | some run => rw [(Bridge.step_finished hf o).1]; rfl
      | elapsed ms =>
          obtain rfl := Option.some.inj hx
          change (s.bridge.step (.elapsed ms)).1.now = _
          rw [(Bridge.step_elapsed _ ms).1]; rfl

theorem now_after (es : List Event) : (after {} es).bridge.now = elapsed es := by
  have hn := History.clock_foldl (fun s : Session => s.bridge.now) now_step {} es
  exact hn.trans (Nat.zero_add _)

def BegunAt (es : List Event) (x : Outset) (start : Nat) : Prop :=
  ∃ before e later, es = before ++ e :: later ∧ x ∈ (after {} before).outsets e ∧ elapsed before = start

theorem now_outsets {x : Outset} (hx : x ∈ s.outsets e) : x.bridge.now = s.bridge.now := by
  unfold outsets at hx
  cases hy : s.handled? e with
  | none => rw [hy] at hx; cases hx
  | some y => rw [hy] at hx; exact Bridge.now_outsets hx

theorem begunAt_iff {x : Outset} {start : Nat} : BegunAt es x start ↔ Begun es x ∧ x.bridge.now = start := by
  constructor
  · rintro ⟨before, e, later, rfl, hx, rfl⟩
    refine ⟨⟨before, e, later, rfl, hx⟩, ?_⟩
    rw [now_outsets hx, now_after]
  · rintro ⟨⟨before, e, later, rfl, hx⟩, rfl⟩
    refine ⟨before, e, later, rfl, hx, ?_⟩
    rw [now_outsets hx, now_after]

def Answered (es : List Event) (k : Nat) : Prop := Once (fun s e => ∃ r, s.handled? e = some (.answered k r)) es

theorem Answered.answers {k : Nat} (h : Answered es k) : (after {} es).bridge.cache.answers.get? k ≠ none := by
  obtain ⟨before, e, later, rfl, r, hx⟩ := h
  have hs : ((after {} before).step e).1.bridge.cache.answers.get? k ≠ none := by
    have hp : (after {} before).bridge.cache.unanswered.any (·.id = k) = true := by
      cases e with
      | configuration scope index a =>
          simp only [handled?] at hx
          split at hx
          · cases hx
          · obtain ⟨p, hp, he⟩ := Option.map_eq_some_iff.mp hx
            cases he
            exact List.any_eq_true.mpr ⟨p, (List.mem_filter.mp (List.mem_of_getElem? hp)).1, by simp⟩
      | message m => cases isProgress_of_message hx
      | registration index a => cases hx
      | finished path index o => obtain ⟨r, -, he⟩ := Option.map_eq_some_iff.mp hx; cases he
      | elapsed ms => cases hx
    obtain ⟨unread, hs⟩ := (Bridge.step_answered hp r).1
    rw [step_handled hx, hs]
    change ((after {} before).bridge.cache.answers.set k (Settings.ofReply r)).get? k ≠ none
    rw [Table.get?_set_self]
    simp
  rw [after_append]
  exact after_keeps (Bridge.kept_answers k) later hs

theorem patient_after (es : List Event) : (after {} es).bridge.Patient :=
  after_keeps Bridge.Patient.kept es (by simp [Bridge.Patient])

theorem patience_after (es : List Event) : (after {} es).bridge.cache.patience = 2000 :=
  after_keeps Bridge.kept_patience es rfl

theorem patience_outset {x : Outset} (h : Begun es x) : x.bridge.cache.patience = 2000 := by
  obtain ⟨before, e, later, rfl, hx⟩ := h
  unfold outsets at hx
  cases hy : (after {} before).handled? e with
  | none => rw [hy] at hx; cases hx
  | some y => rw [hy] at hx; exact Bridge.kept_patience.outsets (patience_after before) y x hx

/-- As long as the session goes on, no request is taken back. -/
theorem bridge_unhandled (hl : s.lifecycle ≠ .exited) (h : s.handled? e = none) :
    (s.step e).1.bridge = { s.bridge with cache := { s.bridge.cache with pulls := s.pullsAfter e } } := by
  have ht : s.takenBack? e = none := by
    cases e with
    | configuration scope index a => simpa [handled?, hl, takenBack?] using h
    | message | registration | finished | elapsed => rfl
  rw [(step_unhandled h).bridge, remaining_eq_self ht]

theorem waiters_after (hl : (after {} es).lifecycle ≠ .exited) : (after {} es).bridge.cache.Covered ∧
    ∀ w ∈ (after {} es).bridge.cache.waiters, ∃ x, Begun es x ∧ x.Awaits w ∧
      ⟨w.pull, x.uri⟩ ∈ (after {} es).bridge.cache.unanswered := by
  induction es using List.reverseRecOn with
  | nil => exact ⟨.initial, by simp⟩
  | append_singleton es e ih =>
      have hb := not_exited_before hl
      obtain ⟨hc, hws⟩ := ih hb
      rw [after_concat]
      cases hx : (after {} es).handled? e with
      | none =>
          rw [bridge_unhandled hb hx]
          refine ⟨hc, fun w hw => ?_⟩
          obtain ⟨x, hbx, ha, hp⟩ := hws w hw
          exact ⟨x, hbx.append [e], ha, hp⟩
      | some y =>
          rw [step_handled hx]
          obtain ⟨hc, hstep⟩ := Bridge.waiters_step hc y
          refine ⟨hc, fun w hw => ?_⟩
          obtain ⟨hw, hp⟩ | ⟨x, hxy, ha, hp⟩ := hstep w hw
          · obtain ⟨x, hbx, ha, hu⟩ := hws w hw
            exact ⟨x, hbx.append [e], ha, hp x.uri hu⟩
          · have hxe : x ∈ (after {} es).outsets e := by
              rw [outsets, hx]
              exact hxy
            exact ⟨x, Once.concat_iff.mpr (.inr hxe), ha, hp⟩

def AwaitsAnswer (es : List Event) (x : Outset) : Prop :=
  ∃ k, x.request? = some k ∧ ⟨k, x.uri⟩ ∈ (after {} es).bridge.cache.unanswered ∧ ¬ Answered es k

theorem awaits_answer (hl : (after {} es).lifecycle ≠ .exited) {t : Job} (ht : t ∈ (after {} es).bridge.jobs)
    (hs : t.settings = none) {x : Outset} (hx : Begun es x) (hid : x.number = t.id) :
    AwaitsAnswer es x ∧ elapsed es < x.bridge.now + 2000 := by
  obtain ⟨w, hw, hwt⟩ := (coherent_after es).waiter_of_job ht hs
  obtain ⟨y, hy, ha, hu⟩ := (waiters_after hl).2 w hw
  obtain rfl : y = x := hy.eq hx (ha.lookup.symm.trans (hwt.trans hid.symm))
  obtain ⟨hlt, hn⟩ := patient_after es w hw
  rw [ha.deadline, patience_outset hx, now_after] at hlt
  exact ⟨⟨w.pull, ha.request, hu, fun hk => hk.answers hn⟩, hlt⟩

theorem run_or_awaits (hl : (after {} es).lifecycle ≠ .exited) {t : Job} (ht : t ∈ (after {} es).bridge.jobs)
    {x : Outset} (hx : Begun es x) (hid : x.number = t.id) :
    (∃ r ∈ (after {} es).bridge.validator.runs, r.validation = t.id ∧ r.uri = t.uri) ∨
      AwaitsAnswer es x ∧ elapsed es < x.bridge.now + 2000 := by
  obtain hs | ho := (Bridge.conclusion?_eq_none_iff t).mp ((coherent_after es).settled t ht)
  · exact .inr (awaits_answer hl ht hs hx hid)
  · exact .inl ((coherent_after es).run_of_job ht ho)

theorem over_of_completed (hl : (after {} es).lifecycle ≠ .exited) {x : Outset} (hx : Begun es x) {r : Run}
    {o : Tool.Output} {outcome : Outcome} (hid : x.number = r.validation) (hr : Ended es r o outcome)
    (hw : (∀ k, x.request? = some k → Answered es k) ∨ x.bridge.now + 2000 ≤ elapsed es) : Over es x.number := by
  obtain ⟨t, ht, htx⟩ | ho := job_or_over hx
  · have hj := hr.judged
    rw [← hid, ← htx] at hj
    have ho : t.outcome = some outcome := (Aspect.held_iff (A := outcomes) es t ht outcome).mpr hj
    have hc := (Bridge.conclusion?_eq_none_iff t).mp ((coherent_after es).settled t ht)
    rw [ho] at hc
    obtain hs | hc := hc
    · obtain ⟨⟨k, hk, -, hn⟩, hlt⟩ := awaits_answer hl ht hs hx htx.symm
      obtain hw | hw := hw
      · exact absurd (hw k hk) hn
      · omega
    · cases hc
  · exact ho

/-- In a session that goes on, every validation that has not ended has its run under way, or it waits for an answer of
the editor that is still to come and has begun less than two seconds ago; it ends when it has had its settings and its
outcome and not otherwise. So the account of a completed run has been told as soon as its request is answered or two
seconds have passed. -/
theorem no_validation_stuck (es : List Event) (hl : (after {} es).lifecycle ≠ .exited) :
    (∀ t ∈ (after {} es).bridge.jobs, ∃ x start, BegunAt es x start ∧ x.number = t.id ∧ x.uri = t.uri ∧
      ((∃ r ∈ (after {} es).bridge.validator.runs, r.validation = t.id ∧ r.uri = t.uri) ∨
        AwaitsAnswer es x ∧ elapsed es < start + 2000)) ∧
    (∀ x start, BegunAt es x start → (Over es x.number ↔ ∀ t ∈ (after {} es).bridge.jobs, t.id ≠ x.number)) ∧
    (∀ x start r o, BegunAt es x start → x.number = r.validation → Ended es r o (.completed (.ofOutput o)) →
      (∀ k, x.request? = some k → Answered es k) ∨ start + 2000 ≤ elapsed es →
      ∃ v, Returned es r.validation v ∧ ∃ before e later, es = before ++ e :: later ∧
        (Account.mk r o v).messages <:+: (after {} before).sent e) := by
  refine ⟨?_, ?_, ?_⟩
  · intro t ht
    obtain ⟨x, hx, hid, hu⟩ := begun_of_job es t ht
    exact ⟨x, x.bridge.now, begunAt_iff.mpr ⟨hx, rfl⟩, hid, hu, run_or_awaits hl ht hx hid⟩
  · intro x start hx
    constructor
    · intro ho t ht hid
      rw [← hid] at ho
      exact ho.notMem ht
    · intro hn
      obtain ⟨t, ht, hid⟩ | ho := job_or_over (begunAt_iff.mp hx).1
      · exact absurd hid (hn t ht)
      · exact ho
  · intro x start r o hx hid hr hw
    obtain ⟨hb, rfl⟩ := begunAt_iff.mp hx
    obtain ⟨⟨v, hv⟩, -⟩ := over_of_completed hl hb hid hr hw
    rw [hid] at hv
    obtain ⟨before, e, later, rfl, -, hs⟩ := Ready.told (a := ⟨r, o, v⟩) ⟨hr, hv⟩ hl
    exact ⟨v, hv, before, e, later, rfl, hs⟩

/-- The editor never answers, and the configuration changes while the first validation waits. -/
theorem no_validation_stuck_of_silence :
    let u : Uri := { scheme := "file", authority := some {}, path := .segments ["a.sql"] }
    let o : Tool.Output := { stdout := "R1:1:x\n" }
    let es := [greeting true, about "textDocument/didOpen" u.text, .finished (bytesOf "/a.sql") 0 o, .elapsed 1500,
      reconfiguration (.obj []), .elapsed 500]
    let x : Outset := ⟨(after {} [greeting true]).bridge.welcome u, u⟩
    let r : Run := ⟨0, u, bytesOf "/a.sql", 1⟩
    (after {} es).lifecycle ≠ .exited ∧ BegunAt es x 0 ∧ Ended es r o (.completed (.ofOutput o)) ∧
    0 + 2000 ≤ elapsed es ∧ ∃ v, Returned es 0 v ∧ ∃ before e later, es = before ++ e :: later ∧
      (Account.mk r o v).messages <:+: (after {} before).sent e := by
  intro u o es x r
  have hl : (after {} es).lifecycle ≠ .exited := by decide +kernel
  have hx : BegunAt es x 0 := ⟨es.take 1, es[1], es.drop 2, rfl, by decide +kernel, rfl⟩
  have hr : Ended es r o (.completed (.ofOutput o)) :=
    ⟨es.take 2, es[2], es.drop 3, rfl, ⟨bytesOf "/a.sql", 0, rfl, by decide +kernel⟩, by decide +kernel⟩
  have ht : 0 + 2000 ≤ elapsed es := by decide
  exact ⟨hl, hx, hr, ht, (no_validation_stuck es hl).2.2 x 0 r o hx (by decide +kernel) hr (.inr ht)⟩

end Session

end LintBridge
