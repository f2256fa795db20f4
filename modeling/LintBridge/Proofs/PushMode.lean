import LintBridge.Proofs.Publication

namespace LintBridge

open Validation (Report Run Validator)

namespace Validation.Validator

variable {v : Validator}

theorem latest_start (h : v.Sound) {id : Nat} {u : Uri} {r : Run} (hr : r ∈ (v.start id u).1.runs)
    (hl : (v.start id u).1.latest.get? r.uri = some r.ticket) :
    r.validation = id ∨ r ∈ v.runs ∧ r.uri ≠ u ∧ v.latest.get? r.uri = some r.ticket := by
  obtain hold | hnew := mem_runs_start hr
  · refine .inr ⟨hold, ?_⟩
    by_cases hu : r.uri = u
    · subst u
      cases ho : v.latest.get? r.uri with
      | none => rw [start_closed (h.run_path r hold) ho, ho] at hl; cases hl
      | some t =>
          have hov := Overtaken.of_start (h.run_pos r hold) (h.run_lt r hold) (h.run_path r hold) ho id
          exact absurd hl hov.not_latest
    · rw [get?_start_of_ne v id hu] at hl
      exact ⟨hu, hl⟩
  · exact .inl hnew

end Validation.Validator

namespace Bridge

variable {b : Bridge} {s : Settings} {us : List Uri}

/-- All validations under way have their settings, and those that may still be completed have the settings in force,
except for some documents that are yet to be validated anew. A change begins a validation of every open document, and
so no run that read the earlier settings is completed any more. -/
structure Pushing (b : Bridge) (s : Settings) (us : List Uri) : Prop where
  pulls : b.cache.pulls = false
  pushed : b.cache.pushed = s
  known : ∀ t ∈ b.jobs, t.settings ≠ none
  current : ∀ r ∈ b.validator.runs, r.uri ∉ us → b.validator.latest.get? r.uri = some r.ticket →
    ∀ t ∈ b.jobs, t.id = r.validation → t.settings = some s

namespace Pushing

theorem initial : Pushing {} {} [] := ⟨rfl, rfl, by simp, by simp⟩

theorem mono {ws : List Uri} (h : b.Pushing s us) (hs : ∀ u ∈ us, u ∈ ws) : b.Pushing s ws :=
  { h with current := fun r hr hu => h.current r hr fun hm => hu (hs _ hm) }

theorem not_waits (h : b.Pushing s us) (id : Nat) : ¬ b.Waits id := by
  rintro ⟨t, ht, -, hs⟩
  exact h.known t ht hs

theorem found?_eq_none (h : b.Pushing s us) (hl : b.Linked) (id : Nat) (e : Event) : b.found? id e = none := by
  cases hf : b.found? id e with
  | none => rfl
  | some v => exact absurd (waits_of_found hl hf) (h.not_waits id)

theorem beginning (h : b.Pushing s us) (u : Uri) : (b.beginning u).settings = some s := by
  simp [Bridge.beginning, Settings.Cache.get, h.pulls, h.pushed]

theorem spawn {u : Uri} (h : b.Pushing s (u :: us)) (hc : b.Coherent) : (b.spawn u).1.Pushing s us := by
  have hj (t : Job) (ht : t ∈ (b.spawn u).1.jobs) : t ∈ b.jobs ∨ t = b.beginning u := by
    rw [jobs_spawn hc.settled u] at ht
    exact (List.mem_append.mp ht).imp_right fun hm => List.mem_singleton.mp (List.mem_filter.mp hm).1
  have hg := (b.cache.get_cases b.now b.nextJob u).1
  refine ⟨hg.pulls.trans h.pulls, hg.pushed.trans h.pushed, ?_, ?_⟩
  · intro t ht
    obtain ht | rfl := hj t ht
    · exact h.known t ht
    · rw [h.beginning u]; simp
  · intro r hr hu hl t ht hid
    obtain hr | ⟨hr, hne, hl⟩ := Validator.latest_start hc.sound hr hl
    · -- the run of the validation that has just begun
      obtain ht | rfl := hj t ht
      · exact absurd (hc.ids_lt t ht) (by omega)
      · exact h.beginning u
    · obtain ⟨t', ht', hid', -⟩ := hc.job_of_run hr
      obtain ht | rfl := hj t ht
      · exact h.current r hr (by simp [hne, hu]) hl t ht hid
      · have hlt := hc.ids_lt t' ht'
        have hn : (b.beginning u).id = b.nextJob := rfl
        omega

theorem spawnAll (h : b.Pushing s us) (hc : b.Coherent) : (b.spawnAll us).1.Pushing s [] := by
  induction us generalizing b with
  | nil => exact h
  | cons u us ih => exact ih (h.spawn hc) (Coherent.kept.spawn b u hc)

theorem welcome (h : b.Pushing s us) (u : Uri) : (b.welcome u).Pushing s (u :: us) := by
  have ho : (b.cache.openDocument u).pulls = b.cache.pulls ∧ (b.cache.openDocument u).pushed = b.cache.pushed := by
    unfold Settings.Cache.openDocument
    split
    · exact ⟨rfl, rfl⟩
    · exact ⟨rfl, rfl⟩
  refine ⟨ho.1.trans h.pulls, ho.2.trans h.pushed, h.known, ?_⟩
  intro r hr hu hl
  have hr : r ∈ (b.validator.track u).runs := hr
  have hl : (b.validator.track u).latest.get? r.uri = some r.ticket := hl
  obtain ⟨hne, hu⟩ := not_or.mp (List.mem_cons.not.mp hu)
  rw [Validator.runs_track] at hr
  rw [Validator.get?_track, if_neg hne] at hl
  exact h.current r hr hu hl

theorem closed (h : b.Pushing s us) (u : Uri) : (b.step (.closed u)).1.Pushing s us := by
  refine ⟨h.pulls, h.pushed, h.known, ?_⟩
  intro r hr hu hl
  have hl : (b.validator.forget u).latest.get? r.uri = some r.ticket := hl
  rw [Validator.get?_forget] at hl
  split at hl
  · cases hl
  · exact h.current r hr hu hl

/-- A change leaves every document that is open to be validated anew, and of the others no run is the latest. -/
theorem reconfigure (h : b.Pushing s us) (hc : b.Coherent) (payload : Json) :
    (b.reconfigure payload).Pushing (Settings.ofChange payload) (b.reconfigure payload).cache.opened := by
  have hp : (b.reconfigure payload).cache = { b.cache with pushed := Settings.ofChange payload } := by
    simp [Bridge.reconfigure, Settings.Cache.change, h.pulls]
  have ho := (Coherent.kept.reconfigure b payload hc).opened_iff
  refine ⟨by rw [hp]; exact h.pulls, by rw [hp], h.known, ?_⟩
  intro r hr hu hl
  -- a document with a latest ticket is open
  exact absurd ((ho r.uri).mpr (by rw [hl]; simp)) hu

theorem progressed (h : b.Pushing s us) (hc : b.Coherent) {e : Event} {c : Bridge}
    (hj : c.jobs = b.jobs.map (b.progress e)) (hp : c.cache.pulls = b.cache.pulls)
    (hv : c.cache.pushed = b.cache.pushed) (hl : c.validator.latest = b.validator.latest)
    (hr : ∀ r ∈ c.validator.runs, r ∈ b.validator.runs) : c.settle.1.Pushing s us := by
  have hm (t : Job) (ht : t ∈ c.settle.1.jobs) : ∃ t' ∈ b.jobs, t'.id = t.id ∧ t'.settings = t.settings := by
    have ht : t ∈ c.jobs := (List.mem_filter.mp ht).1
    rw [hj] at ht
    obtain ⟨t', ht', rfl⟩ := List.mem_map.mp ht
    exact ⟨t', ht', rfl, by simp [progress, h.found?_eq_none hc.toLinked]⟩
  refine ⟨hp.trans h.pulls, hv.trans h.pushed, ?_, ?_⟩
  · intro t ht
    obtain ⟨t', ht', -, hs⟩ := hm t ht
    exact hs ▸ h.known t' ht'
  · intro r hm' hu hl' t ht hid
    obtain ⟨t', ht', hid', hs⟩ := hm t ht
    have hl' : c.validator.latest.get? r.uri = some r.ticket := hl'
    rw [hl] at hl'
    exact hs ▸ h.current r (hr r hm') hu hl' t' ht' (hid'.trans hid)

end Pushing

def Event.payload? : Event → Option Json
  | .configured payload => some payload
  | _ => none

theorem Pushing.step (h : b.Pushing s []) (hc : b.Coherent) (e : Event) :
    (b.step e).1.Pushing ((e.payload?.map Settings.ofChange).getD s) [] := by
  cases e with
  | opened u => exact (h.welcome u).spawn (Coherent.kept.welcome b u hc)
  | saved u =>
      by_cases ho : b.cache.isOpen u = true
      · rw [step_saved_open ho]
        exact (h.mono (by simp)).spawn hc
      · rw [(step_saved_closed ho).1]; exact h
  | closed u => exact h.closed u
  | configured payload =>
      rw [(step_configured b payload).1]
      exact (h.reconfigure hc payload).spawnAll (Coherent.kept.reconfigure b payload hc)
  | answered pull r =>
      by_cases hp : b.cache.unanswered.any (·.id = pull) = true
      · obtain ⟨unread, hs⟩ := (step_answered hp r).1
        rw [hs]
        exact h.progressed hc rfl rfl rfl rfl fun _ hr => hr
      · rw [step_answered_unknown hp]; exact h
  | finished validation o =>
      cases hr : b.validator.runs.find? (·.validation = validation) with
      | none => rw [step_finished_unknown hr]; exact h
      | some r =>
          rw [(step_finished hr o).1]
          exact h.progressed hc rfl rfl rfl rfl fun _ hr => (List.mem_filter.mp hr).1
  | elapsed ms =>
      rw [(step_elapsed b ms).1]
      exact h.progressed hc rfl rfl rfl rfl fun _ hr => hr

theorem Pushing.mem_published_iff (h : b.Pushing s []) (hc : b.Coherent) {r : Run} (hr : r ∈ b.validator.runs)
    (o : Tool.Output) (u : Uri) (ds : List Diagnostic) :
    (∃ id, (id, u, ds) ∈ b.published (.finished r.validation o)) ↔ r.uri = u ∧
      b.validator.judge r o = .completed (.ofOutput o) ∧ (Report.ofOutput o).shown? s = some ds := by
  have hv (id : Nat) : b.verdict? id (.finished r.validation o) =
      if id = r.validation then some (b.validator.judge r o) else none := by
    simp [verdict?, hc.find?_run hr]
  obtain ⟨t, ht, hid, hu, ho⟩ := hc.job_of_run hr
  have hs : b.validator.judge r o = .completed (.ofOutput o) → t.settings = some s := by
    intro hj
    exact h.current r hr (by simp) ((Validator.judge_eq_completed_iff _ r o).mp hj) t ht hid
  constructor
  · rintro ⟨id, hm⟩
    obtain ⟨p, v, hp, ⟨hst, -⟩ | ⟨ht', hj⟩⟩ := (Bridge.mem_published_iff hc _).mp hm
    · exact absurd hst.waits (h.not_waits id)
    · rw [hv id] at hj
      split at hj
      · rename_i he
        obtain rfl := hc.eq_of_id_eq ht ht' (hid.trans he.symm)
        have hj : b.validator.judge r o = .completed p := Option.some.inj hj
        obtain rfl := Validator.eq_ofOutput_of_judge hj
        obtain rfl : v = s := Option.some.inj (hs hj)
        exact ⟨hu.symm, hj, hp⟩
      · cases hj
  · rintro ⟨rfl, hj, hp⟩
    have ht' : (⟨r.validation, r.uri, some s, none⟩ : Job) ∈ b.jobs := by
      rw [← hid, ← hu, ← hs hj, ← ho]
      exact ht
    exact ⟨r.validation, (Bridge.mem_published_iff hc _).mpr ⟨_, s, hp, .inr ⟨ht', by rw [hv, if_pos rfl, hj]⟩⟩⟩

theorem Pushing.eq_finished (h : b.Pushing s []) (hc : b.Coherent) {e : Event} {id : Nat} {u : Uri}
    {ds : List Diagnostic} (hm : (id, u, ds) ∈ b.published e) : ∃ o, e = .finished id o := by
  obtain ⟨p, v, -, ⟨hs, -⟩ | ⟨-, hj⟩⟩ := (Bridge.mem_published_iff hc e).mp hm
  · exact absurd hs.waits (h.not_waits id)
  · obtain ⟨-, -, -, o, he, -⟩ := verdict?_eq_some hj
    exact ⟨o, he⟩

end Bridge

namespace Session

def handshakes (s : Session) (es : List Event) : List Json := s.course (fun s e => (s.handshake? e).toList) es

/-- The settings of the most recent change of the configuration, or the defaults if there was none. -/
def inForce (history : List Bridge.Event) : Settings :=
  ((history.filterMap Bridge.Event.payload?).getLast?.map Settings.ofChange).getD {}

theorem handshakes_concat (s : Session) (es : List Event) (e : Event) :
    s.handshakes (es ++ [e]) = s.handshakes es ++ ((s.after es).handshake? e).toList := History.course_concat _ s es e

theorem inForce_concat (history : List Bridge.Event) (e : Bridge.Event) :
    inForce (history ++ [e]) = (e.payload?.map Settings.ofChange).getD (inForce history) := by
  unfold inForce
  cases he : e.payload? with
  | none => simp [he]
  | some payload => simp [he]

theorem pushing_after {es : List Event} (h : ∀ params ∈ handshakes {} es, offers "configuration" params = false) :
    (after {} es).bridge.Pushing (inForce (history {} es)) [] := by
  induction es using List.reverseRecOn with
  | nil => exact .initial
  | append_singleton es e ih =>
      simp only [handshakes_concat, List.mem_append, Option.mem_toList] at h
      have hp := ih fun params hm => h params (.inl hm)
      rw [after_concat, history_concat]
      cases hx : (after {} es).handled? e with
      | some x =>
          rw [step_handled hx]
          simpa [inForce_concat] using hp.step (coherent_after es) x
      | none =>
          have hpulls : (after {} es).pullsAfter e = false := by
            unfold pullsAfter
            cases hh : (after {} es).handshake? e with
            | none => exact hp.pulls
            | some params => exact h params (.inr hh)
          rw [(step_unhandled hx).bridge, hpulls, Option.toList_none, List.append_nil]
          exact ⟨rfl, hp.pushed, hp.known, hp.current⟩

/-- In a session whose editor does not offer to be asked for settings, diagnostics are shown when a run is
completed, and they are limited and held back as the settings say that are in force then. -/
theorem pushed_published_iff {es : List Event}
    (h : ∀ params ∈ handshakes {} es, offers "configuration" params = false) (e : Event) (u : Uri)
    (ds : List Diagnostic) :
    .send (.publish u ds) ∈ ((after {} es).step e).2 ↔ (after {} es).lifecycle ≠ .exited ∧
      ∃ path index o r, e = .finished path index o ∧
        ((after {} es).bridge.validator.waiting path)[index]? = some r ∧ r.uri = u ∧
        (after {} es).bridge.validator.judge r o = .completed (.ofOutput o) ∧
        (Report.ofOutput o).shown? (inForce (history {} es)) = some ds := by
  have hc := coherent_after es
  have hp := pushing_after h
  rw [publish_mem_step hc.settled e]
  constructor
  · rintro ⟨id, hm⟩
    obtain ⟨hl, x, hx, hb⟩ := (mem_published_iff _ e _).mp hm
    obtain ⟨o, rfl⟩ := hp.eq_finished hc hb
    obtain ⟨path, index, r, rfl, hw, rfl⟩ := handled?_eq_finished_iff.mp hx
    have hr : r ∈ (after {} es).bridge.validator.runs := (List.mem_filter.mp (List.mem_of_getElem? hw)).1
    exact ⟨hl, path, index, o, r, rfl, hw, (hp.mem_published_iff hc hr o u ds).mp ⟨_, hb⟩⟩
  · rintro ⟨hl, path, index, o, r, rfl, hw, hd⟩
    have hr : r ∈ (after {} es).bridge.validator.runs := (List.mem_filter.mp (List.mem_of_getElem? hw)).1
    obtain ⟨id, hm⟩ := (hp.mem_published_iff hc hr o u ds).mpr hd
    have hx : (after {} es).handled? (.finished path index o) = some (.finished r.validation o) :=
      handled?_eq_finished_iff.mpr ⟨path, index, r, rfl, hw, rfl⟩
    exact ⟨id, (mem_published_iff _ _ _).mpr ⟨hl, _, hx, hm⟩⟩

/-- The configuration changes while the tool runs for the first time: that run is of no account, and of the findings
of the next one only the first is shown. -/
theorem pushed_published_iff_of_change :
    let u : Uri := { scheme := "file", authority := some {}, path := .segments ["a.sql"] }
    let limit : Json := .obj [("analysis-tool-settings", .obj [("maxNumberOfProblems", .int 1)])]
    let report := "R1:1:first\nR1:2:second\n"
    let es := [greeting false, about "textDocument/didOpen" u.text, reconfiguration limit,
      .finished (bytesOf "/a.sql") 0 { stdout := report }]
    (∀ params ∈ handshakes {} es, offers "configuration" params = false) ∧
    inForce (history {} es) = { maxProblems := 1 } ∧
    .send (.publish u ((Diagnostic.ofReport report).take 1)) ∈
      ((after {} es).step (.finished (bytesOf "/a.sql") 0 { stdout := report })).2 := by
  intro u limit report es
  have h : ∀ params ∈ handshakes {} es, offers "configuration" params = false := by decide +kernel
  have hi : inForce (history {} es) = { maxProblems := 1 } := by decide +kernel
  have hl : (after {} es).lifecycle ≠ .exited := by decide +kernel
  have hw : ((after {} es).bridge.validator.waiting (bytesOf "/a.sql"))[0]? = some ⟨1, u, bytesOf "/a.sql", 2⟩ := by
    decide +kernel
  have hj : (after {} es).bridge.validator.judge ⟨1, u, bytesOf "/a.sql", 2⟩ { stdout := report } =
      .completed (.ofOutput { stdout := report }) := by decide +kernel
  have hs : (Report.ofOutput { stdout := report }).shown? (inForce (history {} es)) =
      some ((Diagnostic.ofReport report).take 1) := by rw [hi]; decide +kernel
  exact ⟨h, hi, (pushed_published_iff h _ _ _).mpr ⟨hl, _, _, _, _, rfl, hw, rfl, hj, hs⟩⟩

end Session
end LintBridge
