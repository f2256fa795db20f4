import LintBridge.Proofs.Outsets

namespace LintBridge

open Validation (Run Validator)

namespace Bridge

variable {b : Bridge}

namespace Event

def opens (u : Uri) : Event → Bool
  | .opened w => w = u
  | _ => false

def closes (u : Uri) : Event → Bool
  | .closed w => w = u
  | _ => false

def saves (u : Uri) : Event → Bool
  | .saved w => w = u
  | _ => false

def changes : Event → Bool
  | .configured _ => true
  | _ => false

end Event

/-- The events that come while a document is open, if it is known whether it is open before the first of them. -/
def whileOpen (u : Uri) : Bool → List Event → List Event
  | _, [] => []
  | isOpen, e :: es => (if isOpen then [e] else []) ++ whileOpen u (e.opens u || isOpen && !e.closes u) es

def started (b : Bridge) (e : Event) : List Run :=
  (b.step e).1.validator.runs.filter fun r => b.nextJob ≤ r.validation

theorem filter_runs_eq_nil (h : b.Linked) {rs : List Run} (hr : ∀ r ∈ rs, r ∈ b.validator.runs) :
    rs.filter (fun r => b.nextJob ≤ r.validation) = [] := by
  rw [List.filter_eq_nil_iff]
  intro r hm hle
  have hlt := validation_lt h r (hr r hm)
  simp only [decide_eq_true_eq] at hle
  omega

theorem mem_runs_progress {e : Event} (he : e.isProgress = true) : ∀ r ∈ (b.step e).1.validator.runs, r ∈ b.validator.runs := by
  intro r hr
  cases e with
  | answered pull reply =>
      by_cases hp : b.cache.unanswered.any (·.id = pull) = true
      · obtain ⟨unread, hs⟩ := (step_answered hp reply).1
        rw [hs] at hr
        exact hr
      · rw [step_answered_unknown hp] at hr; exact hr
  | finished validation o =>
      cases hf : b.validator.runs.find? (·.validation = validation) with
      | none => rw [step_finished_unknown hf] at hr; exact hr
      | some run =>
          rw [(step_finished hf o).1] at hr
          exact (List.mem_filter.mp hr).1
  | elapsed ms => rw [(step_elapsed b ms).1] at hr; exact hr
  | opened | saved | closed | configured => cases he

theorem started_eq (h : b.Linked) (e : Event) : b.started e = (b.outsets e).filterMap (·.start.run?) := by
  unfold started
  cases he : e.isProgress with
  | true => rw [filter_runs_eq_nil h (mem_runs_progress he), outsets_eq_nil he]; rfl
  | false =>
      rw [(step_prepared b he).1, runs_spawnAll, runs_prepared, List.filter_append,
        filter_runs_eq_nil h fun r hr => hr, List.nil_append]
      apply List.filter_eq_self.mpr
      intro r hr
      obtain ⟨x, hx, hr⟩ := List.mem_filterMap.mp hr
      have hle : b.nextJob ≤ x.number := le_number_of_outset hx
      rw [Outset.number_of_run hr]
      exact decide_eq_true hle

theorem mem_runs_step {e : Event} {r : Run} (hr : r ∈ (b.step e).1.validator.runs) :
    r ∈ b.validator.runs ∨ b.nextJob ≤ r.validation := by
  cases he : e.isProgress with
  | true => exact .inl (mem_runs_progress he r hr)
  | false =>
      rw [(step_prepared b he).1, runs_spawnAll, runs_prepared] at hr
      obtain hr | hr := List.mem_append.mp hr
      · exact .inl hr
      · obtain ⟨x, hx, hr⟩ := List.mem_filterMap.mp hr
        rw [Outset.number_of_run hr]
        exact .inr (le_number_of_outset hx)

theorem run_effects_step (h : b.Linked) (e : Event) :
    (b.step e).2.filterMap Effect.run? = (b.started e).map fun r => (r.validation, r.path) := by
  rw [started_eq h]
  cases he : e.isProgress with
  | true => rw [outsets_eq_nil he, (calm_step b he).started]; rfl
  | false =>
      obtain ⟨-, notes, hn, hs⟩ := step_prepared b he
      rw [hs, List.filterMap_append, hn.started, started_spawnAll]
      rfl

theorem paths_outsetsOf (h : b.Linked) {us : List Uri} (hn : us.Nodup) (ho : ∀ u ∈ us, u ∈ b.cache.opened) (u : Uri) :
    (((b.outsetsOf us).filterMap (·.start.run?)).filter (·.uri = u)).map Run.path =
      if u ∈ us then u.filePath?.toList else [] := by
  induction us generalizing b with
  | nil => rfl
  | cons w us ih =>
      obtain ⟨hw, hn⟩ := List.nodup_cons.mp hn
      obtain ⟨hwo, ho⟩ := List.forall_mem_cons.mp ho
      have hl : (b.spawn w).1.Linked := (Linked.enlist h w).settle
      have ih := ih hl hn (fun v hv => by rw [opened_spawn]; exact ho v hv)
      have hr : (Outset.mk b w).start.run? = w.filePath?.map (b.validator.nextRun b.nextJob w) :=
        Outset.run_of_opened h hwo
      rw [outsetsOf, List.filterMap_cons, hr]
      by_cases hu : u = w
      · subst u
        rw [if_neg hw] at ih
        cases hp : w.filePath? with
        | none => simp [ih]
        | some path => simp [ih, Validator.nextRun]
      · have hwu : w ≠ u := Ne.symm hu
        cases hp : w.filePath? with
        | none => simp [ih, hu]
        | some path => simp [ih, hu, hwu, Validator.nextRun]

/-- An event starts one run for each document whose validation it begins, if that is a local file. -/
theorem paths_started (h : b.Coherent) (hd : b.Distinct) (e : Event) (u : Uri) :
    ((b.started e).filter (·.uri = u)).map Run.path = if u ∈ b.triggered e then u.filePath?.toList else [] := by
  rw [started_eq h.toLinked]
  exact paths_outsetsOf (Coherent.kept.prepared h e).toLinked (triggered_nodup hd e) (fun _ => mem_opened_prepared) u

theorem count_triggered (b : Bridge) (e : Event) (u : Uri) : (if u ∈ b.triggered e then 1 else 0) =
    [e].countP (·.opens u) + (if b.cache.isOpen u then [e] else []).countP (·.saves u) +
      (if b.cache.isOpen u then [e] else []).countP (·.changes) := by
  cases ho : b.cache.isOpen u with
  | true =>
      have hm : u ∈ b.cache.opened := by simpa [Settings.Cache.isOpen] using ho
      cases e with
      | saved w => simp [mem_triggered_iff, hm, Event.opens, Event.saves, Event.changes]
      | opened w => simp [mem_triggered_iff, hm, Event.opens, Event.saves, Event.changes]
      | closed | configured | answered | finished | elapsed =>
          simp [mem_triggered_iff, hm, Event.opens, Event.saves, Event.changes]
  | false =>
      have hm : u ∉ b.cache.opened := by simpa [Settings.Cache.isOpen] using ho
      cases e with
      | opened w => simp [mem_triggered_iff, hm, Event.opens]
      | saved | closed | configured | answered | finished | elapsed => simp [mem_triggered_iff, hm, Event.opens]

theorem isOpen_step (b : Bridge) (e : Event) (u : Uri) :
    (b.step e).1.cache.isOpen u = (e.opens u || b.cache.isOpen u && !e.closes u) := by
  have hm := mem_opened_step b e u
  rw [Bool.eq_iff_iff]
  cases e with
  | closed w => simp [Settings.Cache.isOpen, Event.opens, Event.closes, hm, and_comm]
  | opened | saved | configured | answered | finished | elapsed =>
      simp [Settings.Cache.isOpen, Event.opens, Event.closes, hm]

end Bridge

namespace Session

open Bridge (whileOpen)

variable {s : Session}

/-- The runs that an event starts: those under way after it whose validations were not there before. -/
def started (s : Session) (e : Event) : List Run :=
  (s.step e).1.bridge.validator.runs.filter fun r => s.bridge.nextJob ≤ r.validation

def launches (s : Session) (es : List Event) : List Run := s.course started es

theorem started_handled {e : Event} {x : Bridge.Event} (h : s.handled? e = some x) :
    s.started e = s.bridge.started x := by
  rw [started, step_handled h]
  rfl

theorem started_unhandled (hl : s.bridge.Linked) {e : Event} (h : s.handled? e = none) : s.started e = [] := by
  rw [started, (step_unhandled h).bridge]
  exact Bridge.filter_runs_eq_nil hl fun r hr => hr

theorem run_mute (lifecycle : Lifecycle) (fs : List Effect) :
    (mute lifecycle fs).filterMap Effect.run? = fs.filterMap Effect.run? := by
  unfold mute
  split
  · rw [List.filterMap_filter]
    apply List.filterMap_congr
    intro f _
    cases f <;> rfl
  · rfl

theorem run_effects_step (hl : s.bridge.Linked) (e : Event) :
    (s.step e).2.filterMap Effect.run? = (s.started e).map fun r => (r.validation, r.path) := by
  cases hx : s.handled? e with
  | some x => rw [started_handled hx, step_handled hx, run_mute, Bridge.run_effects_step hl]
  | none => rw [started_unhandled hl hx, (step_unhandled hx).silent.started]; rfl

theorem paths_started (h : s.bridge.Coherent) (hd : s.bridge.Distinct) (e : Event) (u : Uri) :
    ((s.started e).filter (·.uri = u)).map Run.path = if u ∈ s.triggered e then u.filePath?.toList else [] := by
  unfold triggered
  cases hx : s.handled? e with
  | some x =>
      rw [started_handled hx]
      exact Bridge.paths_started h hd x u
  | none =>
      rw [started_unhandled h.toLinked hx]
      rfl

theorem isOpen_step (s : Session) (e : Event) (u : Uri) : (s.step e).1.bridge.cache.isOpen u =
    ((s.handled? e).elim (s.bridge.cache.isOpen u) fun x => x.opens u || s.bridge.cache.isOpen u && !x.closes u) := by
  cases hx : s.handled? e with
  | some x => rw [step_handled hx]; exact s.bridge.isOpen_step x u
  | none => rw [(step_unhandled hx).bridge]; rfl

theorem length_launches (h : s.bridge.Coherent) (hd : s.bridge.Distinct) {u : Uri} {path : Bytes}
    (hp : u.filePath? = some path) (es : List Event) :
    ((s.launches es).filter (·.uri = u)).length = (s.history es).countP (·.opens u) +
      (whileOpen u (s.bridge.cache.isOpen u) (s.history es)).countP (·.saves u) +
      (whileOpen u (s.bridge.cache.isOpen u) (s.history es)).countP (·.changes) := by
  induction es generalizing s with
  | nil => rfl
  | cons e es ih =>
      have ih := ih (step_keeps Bridge.Coherent.kept e h) (step_keeps Bridge.Distinct.kept e hd)
      have hs : ((s.started e).filter (·.uri = u)).length = if u ∈ s.triggered e then 1 else 0 := by
        rw [← List.length_map Run.path, paths_started h hd e u, hp]
        split <;> rfl
      have hl : s.launches (e :: es) = s.started e ++ (s.step e).1.launches es := rfl
      have hh : s.history (e :: es) = (s.handled? e).toList ++ (s.step e).1.history es := rfl
      rw [hl, hh, List.filter_append, List.length_append, ih, hs, isOpen_step, triggered]
      cases hx : s.handled? e with
      | none => simp
      | some x =>
          have hc := s.bridge.count_triggered x u
          have hw (rest : List Bridge.Event) : whileOpen u (s.bridge.cache.isOpen u) ([x] ++ rest) =
              (if s.bridge.cache.isOpen u then [x] else []) ++
                whileOpen u (x.opens u || s.bridge.cache.isOpen u && !x.closes u) rest := rfl
          simp only [Option.map_some, Option.getD_some, Option.elim_some, Option.toList_some]
          rw [hw, List.countP_append, List.countP_append, List.countP_append, hc]
          omega

theorem launches_append (s : Session) (es later : List Event) :
    s.launches (es ++ later) = s.launches es ++ (s.after es).launches later := History.course_append _ s es later

theorem mem_runs_step {e : Event} {r : Run} (hr : r ∈ (s.step e).1.bridge.validator.runs) :
    r ∈ s.bridge.validator.runs ∨ r ∈ s.started e := by
  have hn : r ∈ s.bridge.validator.runs ∨ s.bridge.nextJob ≤ r.validation := by
    cases hx : s.handled? e with
    | some x => rw [step_handled hx] at hr; exact Bridge.mem_runs_step hr
    | none => rw [(step_unhandled hx).bridge] at hr; exact .inl hr
  obtain hn | hn := hn
  · exact .inl hn
  · exact .inr (List.mem_filter.mpr ⟨hr, decide_eq_true hn⟩)

theorem launched_of_mem_runs (es : List Event) :
    ∀ r ∈ (after {} es).bridge.validator.runs, r ∈ launches {} es := by
  induction es using List.reverseRecOn with
  | nil => simp
  | append_singleton es e ih =>
      intro r hr
      rw [launches_append, List.mem_append]
      rw [after_append] at hr
      obtain hr | hr := mem_runs_step hr
      · exact .inl (ih r hr)
      · exact .inr (List.mem_append_left _ hr)

theorem path_of_launched (h : s.bridge.Coherent) (es : List Event) :
    ∀ r ∈ s.launches es, r.uri.filePath? = some r.path := by
  induction es generalizing s with
  | nil => exact fun r hr => absurd hr List.not_mem_nil
  | cons e es ih =>
      have hc : (s.step e).1.bridge.Coherent := step_keeps Bridge.Coherent.kept e h
      intro r hr
      obtain hr | hr := List.mem_append.mp hr
      · exact hc.sound.run_path r (List.mem_filter.mp hr).1
      · exact ih hc r hr

/-- One more event calls for a run of the tool: it opens the document, or it saves it or changes the configuration
while the document is open. -/
def Calls (es : List Event) (e : Event) (u : Uri) : Prop :=
  ∃ x, (after {} es).handled? e = some x ∧
    (x = .opened u ∨ IsOpen es u ∧ (x = .saved u ∨ ∃ payload, x = .configured payload))

theorem mem_triggered_after (es : List Event) (e : Event) (u : Uri) :
    u ∈ (after {} es).triggered e ↔ Calls es e u := by
  unfold triggered Calls
  rw [← mem_opened_after]
  cases hx : (after {} es).handled? e with
  | none => simp
  | some x => simp [Bridge.mem_triggered_iff]

theorem distinct_after (es : List Event) : (after {} es).bridge.Distinct :=
  after_keeps Bridge.Distinct.kept es ⟨.nil, .nil⟩

/-- The tool is started for a local file in the steps that call for it, once in each of them and on its path, whatever
is known of the settings, and for other documents it is never started. -/
theorem runs_started_when_called (es : List Event) (u : Uri) :
    (∀ before e later, es = before ++ e :: later →
      ((after {} before).step e).2.filterMap Effect.run? =
        ((after {} before).started e).map (fun r => (r.validation, r.path)) ∧
      (Calls before e u → (((after {} before).started e).filter (·.uri = u)).map Run.path = u.filePath?.toList) ∧
      (¬ Calls before e u → ((after {} before).started e).filter (·.uri = u) = [])) ∧
    (∀ path, u.filePath? = some path → ((launches {} es).filter (·.uri = u)).length =
      (history {} es).countP (·.opens u) + (whileOpen u false (history {} es)).countP (·.saves u) +
        (whileOpen u false (history {} es)).countP (·.changes)) ∧
    (u.filePath? = none → ∀ r ∈ launches {} es, r.uri ≠ u) := by
  refine ⟨?_, ?_, ?_⟩
  · intro before e later _
    have hc := coherent_after before
    have hp := paths_started hc (distinct_after before) e u
    rw [← mem_triggered_after]
    refine ⟨run_effects_step hc.toLinked e, ?_, ?_⟩
    · intro ht
      rw [hp, if_pos ht]
    · intro ht
      rw [if_neg ht, List.map_eq_nil_iff] at hp
      exact hp
  · intro path hp
    exact length_launches (s := {}) .initial ⟨.nil, .nil⟩ hp es
  · intro hn r hr hu
    have hp := path_of_launched (s := {}) .initial es r hr
    rw [hu, hn] at hp
    cases hp

/-- A document is opened twice, saved and closed, and the configuration changes before and after that; the last
saving and the last change find it closed. The editor never tells the settings. -/
theorem runs_started_when_called_of_closing :
    let u : Uri := { scheme := "file", authority := some {}, path := .segments ["a.sql"] }
    let w : Uri := { scheme := "untitled", path := .plain "b" }
    let es := [greeting true, about "textDocument/didOpen" u.text, about "textDocument/didOpen" w.text,
      about "textDocument/didOpen" u.text, about "textDocument/didSave" u.text, reconfiguration (.obj []),
      about "textDocument/didClose" u.text, about "textDocument/didSave" u.text, reconfiguration (.obj [])]
    u.filePath? = some (bytesOf "/a.sql") ∧ w.filePath? = none ∧
    Calls (es.take 4) es[4] u ∧
    (((after {} (es.take 4)).started es[4]).filter (·.uri = u)).map Run.path = [bytesOf "/a.sql"] ∧
    ¬ Calls (es.take 7) es[7] u ∧ ((after {} (es.take 7)).started es[7]).filter (·.uri = u) = [] ∧
    ((launches {} es).filter (·.uri = u)).length = 2 + 1 + 1 ∧ ∀ r ∈ launches {} es, r.uri ≠ w := by
  intro u w es
  have hu : u.filePath? = some (bytesOf "/a.sql") := by decide +kernel
  have hw : w.filePath? = none := by decide +kernel
  have ho : (history {} es).countP (·.opens u) = 2 := by decide +kernel
  have hs : (whileOpen u false (history {} es)).countP (·.saves u) = 1 := by decide +kernel
  have hc : (whileOpen u false (history {} es)).countP (·.changes) = 1 := by decide +kernel
  have hsaved : Calls (es.take 4) es[4] u := (mem_triggered_after _ _ u).mp (by decide +kernel)
  have hlate : ¬ Calls (es.take 7) es[7] u := mt (mem_triggered_after _ _ u).mpr (by decide +kernel)
  obtain ⟨hstep, hcount, hnone⟩ := runs_started_when_called es u
  refine ⟨hu, hw, hsaved, ?_, hlate, (hstep _ _ (es.drop 8) rfl).2.2 hlate, ?_,
    (runs_started_when_called es w).2.2 hw⟩
  · rw [(hstep _ _ (es.drop 5) rfl).2.1 hsaved, hu]
    rfl
  · rw [hcount _ hu, ho, hs, hc]

end Session

end LintBridge
