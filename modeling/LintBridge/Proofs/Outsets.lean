import LintBridge.Proofs.Agreement
import LintBridge.Proofs.Alone

namespace LintBridge

open Settings (Cache Lookup Waiter)
open Validation (Run Start Validator)

/-- A validation that begins: its document, and the bridge as it finds it. -/
structure Outset where
  bridge : Bridge
  uri : Uri
  deriving DecidableEq

namespace Outset

def number (x : Outset) : Nat := x.bridge.nextJob

def lookup (x : Outset) : Lookup := (x.bridge.cache.get x.bridge.now x.number x.uri).2

def start (x : Outset) : Start := (x.bridge.validator.start x.number x.uri).2

def job (x : Outset) : Job := ⟨x.number, x.uri, x.lookup.found, x.start.outcome?⟩

theorem number_of_run {x : Outset} {r : Run} (h : x.start.run? = some r) : r.validation = x.number := by
  unfold start at h
  obtain ⟨-, hs⟩ | ⟨path, -, -, hs⟩ | ⟨path, t, -, -, hs⟩ :=
    Validator.start_cases x.bridge.validator x.number x.uri
  · rw [hs] at h; cases h
  · rw [hs] at h; cases h
  · rw [hs] at h; cases h; rfl

theorem run_of_opened {x : Outset} (h : x.bridge.Linked) (ho : x.uri ∈ x.bridge.cache.opened) :
    x.start.run? = x.uri.filePath?.map (x.bridge.validator.nextRun x.number x.uri) := by
  unfold start
  obtain ⟨hp, hs⟩ | ⟨path, -, hn, -⟩ | ⟨path, t, hp, -, hs⟩ :=
    Validator.start_cases x.bridge.validator x.number x.uri
  · rw [hs, hp]; rfl
  · exact absurd hn ((h.opened_iff x.uri).mp ho)
  · rw [hs, hp]; rfl

end Outset

namespace Bridge

variable {b : Bridge}

def outsetsOf (b : Bridge) : List Uri → List Outset
  | [] => []
  | u :: us => ⟨b, u⟩ :: (b.spawn u).1.outsetsOf us

/-- The validations that an event begins, each with the bridge as those before it have left it. -/
def outsets (b : Bridge) (e : Event) : List Outset := (b.prepared e).outsetsOf (b.triggered e)

theorem number_outsetsOf (b : Bridge) (us : List Uri) :
    (b.outsetsOf us).map Outset.number = List.range' b.nextJob us.length := by
  induction us generalizing b with
  | nil => rfl
  | cons u us ih =>
      have hn : (b.spawn u).1.nextJob = b.nextJob + 1 := rfl
      rw [outsetsOf, List.map_cons, ih, hn, List.length_cons, List.range'_succ]
      rfl

theorem Kept.outsetsOf {P : Bridge → Prop} (hP : Kept P) (h : P b) (us : List Uri) :
    ∀ x ∈ b.outsetsOf us, P x.bridge := by
  induction us generalizing b with
  | nil => simp [Bridge.outsetsOf]
  | cons u us ih =>
      intro x hx
      obtain rfl | hx := List.mem_cons.mp hx
      · exact h
      · exact ih (hP.spawn b u h) x hx

theorem Kept.outsets {P : Bridge → Prop} (hP : Kept P) (h : P b) (e : Event) : ∀ x ∈ b.outsets e, P x.bridge :=
  hP.outsetsOf (hP.prepared h e) _

theorem outsets_eq_nil {e : Event} (he : e.isProgress = true) : b.outsets e = [] := by
  cases e with
  | answered | finished | elapsed => rfl
  | opened | saved | closed | configured => cases he

theorem mem_triggered_iff (b : Bridge) (e : Event) (u : Uri) : u ∈ b.triggered e ↔
    e = .opened u ∨ u ∈ b.cache.opened ∧ (e = .saved u ∨ ∃ payload, e = .configured payload) := by
  cases e with
  | opened w => simp [triggered, eq_comm]
  | saved w =>
      by_cases ho : b.cache.isOpen w = true
      · have hw : w ∈ b.cache.opened := by simpa [Cache.isOpen] using ho
        simp only [triggered, if_pos ho, List.mem_singleton, reduceCtorEq, Event.saved.injEq, exists_false, or_false,
          false_or]
        constructor
        · rintro rfl
          exact ⟨hw, rfl⟩
        · rintro ⟨-, rfl⟩
          rfl
      · have hw : w ∉ b.cache.opened := by simpa [Cache.isOpen] using ho
        simp only [triggered, if_neg ho, List.not_mem_nil, reduceCtorEq, Event.saved.injEq, exists_false, or_false,
          false_or, false_iff]
        rintro ⟨hu, rfl⟩
        exact hw hu
  | configured payload => simp [triggered]
  | closed | answered | finished | elapsed => simp [triggered]

theorem triggered_nodup (h : b.Distinct) (e : Event) : (b.triggered e).Nodup := by
  cases e with
  | opened u => exact List.nodup_singleton u
  | saved u =>
      simp only [triggered]
      split
      · exact List.nodup_singleton u
      · exact List.nodup_nil
  | configured payload => exact h.opened
  | closed | answered | finished | elapsed => exact List.nodup_nil

theorem mem_opened_prepared {e : Event} {u : Uri} (hu : u ∈ b.triggered e) : u ∈ (b.prepared e).cache.opened := by
  obtain rfl | ⟨ho, rfl | ⟨payload, rfl⟩⟩ := (mem_triggered_iff b e u).mp hu
  · exact (b.cache.mem_openDocument u u).mpr (.inl rfl)
  · exact ho
  · change u ∈ (b.cache.change payload).opened
    rwa [Cache.change_opened]

theorem runs_prepared (b : Bridge) (e : Event) : (b.prepared e).validator.runs = b.validator.runs := by
  cases e with
  | opened u => exact b.validator.runs_track u
  | saved | closed | configured | answered | finished | elapsed => rfl

theorem le_number_of_outset {e : Event} {x : Outset} (h : x ∈ b.outsets e) : b.nextJob ≤ x.number := by
  have hm := List.mem_map_of_mem (f := Outset.number) h
  rw [outsets, number_outsetsOf, nextJob_prepared] at hm
  exact (List.mem_range'_1.mp hm).1

theorem runs_spawn (b : Bridge) (u : Uri) :
    (b.spawn u).1.validator.runs = b.validator.runs ++ (Outset.mk b u).start.run?.toList := by
  change (b.validator.start b.nextJob u).1.runs = b.validator.runs ++ (b.validator.start b.nextJob u).2.run?.toList
  obtain ⟨-, hs⟩ | ⟨path, -, -, hs⟩ | ⟨path, t, -, -, hs⟩ := Validator.start_cases b.validator b.nextJob u
  · rw [hs]; simp [Start.run?]
  · rw [hs]; simp [Start.run?]
  · rw [hs]; rfl

theorem runs_spawnAll (b : Bridge) (us : List Uri) :
    (b.spawnAll us).1.validator.runs = b.validator.runs ++ (b.outsetsOf us).filterMap (·.start.run?) := by
  induction us generalizing b with
  | nil => simp [spawnAll, outsetsOf]
  | cons u us ih =>
      rw [spawnAll_cons_fst, ih, runs_spawn, outsetsOf, List.filterMap_cons, List.append_assoc]
      cases (Outset.mk b u).start.run? <;> rfl

theorem started_spawnAll (b : Bridge) (us : List Uri) : (b.spawnAll us).2.filterMap Effect.run? =
    ((b.outsetsOf us).filterMap (·.start.run?)).map fun r => (r.validation, r.path) := by
  induction us generalizing b with
  | nil => rfl
  | cons u us ih =>
      rw [spawnAll_cons_snd, List.filterMap_append, ih, outsetsOf, List.filterMap_cons, spawn_started, runPath?]
      cases hr : (Outset.mk b u).start.run? with
      | none =>
          have hr : (b.validator.start b.nextJob u).2.run? = none := hr
          simp [hr]
      | some r =>
          have hv : r.validation = b.nextJob := Outset.number_of_run hr
          have hr : (b.validator.start b.nextJob u).2.run? = some r := hr
          simp [hr, hv]

end Bridge

namespace Session

theorem bridgeEvent?_begins {method : Protocol.Method} {params : Json} {x : Bridge.Event}
    (h : bridgeEvent? method params = some x) : x.isProgress = false := by
  unfold bridgeEvent? at h
  split at h
  · obtain ⟨w, -, rfl⟩ := Option.map_eq_some_iff.mp h; rfl
  · obtain ⟨w, -, rfl⟩ := Option.map_eq_some_iff.mp h; rfl
  · obtain ⟨w, -, rfl⟩ := Option.map_eq_some_iff.mp h; rfl
  · split at h
    · obtain ⟨w, -, rfl⟩ := Option.map_eq_some_iff.mp h; rfl
    · cases h
  · cases h

theorem isProgress_of_message {s : Session} {m : Incoming} {x : Bridge.Event} (h : s.handled? (.message m) = some x) :
    x.isProgress = false := by
  simp only [handled?] at h
  split at h
  · obtain ⟨params, -, hx⟩ := Option.bind_eq_some_iff.mp h
    exact bridgeEvent?_begins hx
  · cases h

end Session

end LintBridge
