import LintBridge.Proofs.Decoding
import LintBridge.Proofs.Tickets
import LintBridge.Tool.Run

namespace LintBridge.Tool

open Report (Lined Reading)

namespace Trace

/-- Whether a run is cut off: the process has not ended when the limit has passed. -/
def CutOff (t : Trace) (limit : Option Duration) : Prop :=
  ∃ l, limit = some l ∧ (t.ending = none ∨ l.nanos ≤ t.elapsed.nanos)

def Ends (t : Trace) (limit : Option Duration) : Prop := t.ending ≠ none ∨ limit ≠ none

/-- What a process can have written when its run ends: all that it ever writes, or the beginning of it if it is cut
off. -/
structure Wrote (t : Trace) (limit : Option Duration) (written : Bytes) : Prop where
  isPrefix : written <+: t.stdout
  whole : ¬ t.CutOff limit → written = t.stdout

variable {t : Trace} {limit : Option Duration} {written : Bytes}

theorem filter_outlasts_eq_some_iff (t : Trace) (limit : Option Duration) (l : Duration) :
    limit.filter t.outlasts = some l ↔ limit = some l ∧ (t.ending = none ∨ l.nanos ≤ t.elapsed.nanos) := by
  simp [Option.filter_eq_some_iff, outlasts]

theorem filter_outlasts_eq_none (h : ¬ t.CutOff limit) : limit.filter t.outlasts = none := by
  apply Option.eq_none_iff_forall_ne_some.mpr
  intro l hl
  exact h ⟨l, (filter_outlasts_eq_some_iff t limit l).mp hl⟩

theorem output_of_cutOff (h : t.CutOff limit) : ∃ l, t.output limit = .failed (.timeout l) := by
  obtain ⟨l, hl⟩ := h
  exact ⟨l, by rw [output, (filter_outlasts_eq_some_iff t limit l).mpr hl]⟩

theorem output_of_not_cutOff (h : ¬ t.CutOff limit) : t.output limit =
    { stdout := textOf t.stdout, stderr := textOf t.stderr, failure := t.ending.bind failure? } := by
  rw [output, filter_outlasts_eq_none h]

theorem ends_iff_of_not_cutOff (h : ¬ t.CutOff limit) : t.Ends limit ↔ t.ending ≠ none := by
  constructor
  · rintro (he | hl) hn
    · exact he hn
    · obtain ⟨l, hl⟩ := Option.ne_none_iff_exists'.mp hl
      exact h ⟨l, hl, .inl hn⟩
  · exact .inl

theorem failure?_eq_none_iff (e : Ending) : failure? e = none ↔ e = .exited 0 := by
  unfold failure?
  split <;> simp_all

theorem stdout_of_cutOff (h : t.CutOff limit) : (t.output limit).stdout = "" := by
  obtain ⟨l, ho⟩ := output_of_cutOff h
  rw [ho, Output.failed]

theorem stdout_of_not_cutOff (hw : t.Wrote limit written) (h : ¬ t.CutOff limit) :
    (t.output limit).stdout = textOf written := by
  rw [output_of_not_cutOff h, hw.whole h]

theorem stdout_eq_iff (hw : t.Wrote limit written) :
    (t.output limit).stdout = textOf written ↔ (t.CutOff limit → written = []) := by
  by_cases hc : t.CutOff limit
  · rw [stdout_of_cutOff hc, eq_comm, textOf_eq_empty_iff]
    simp [hc]
  · simp [stdout_of_not_cutOff hw hc, hc]

theorem failure_eq_none_iff (he : t.Ends limit) :
    (t.output limit).failure = none ↔ t.ending = some (.exited 0) ∧ ¬ t.CutOff limit := by
  by_cases hc : t.CutOff limit
  · obtain ⟨l, ho⟩ := output_of_cutOff hc
    rw [ho]
    simp [Output.failed, hc]
  · rw [output_of_not_cutOff hc]
    obtain ⟨e, hn⟩ := Option.ne_none_iff_exists'.mp ((ends_iff_of_not_cutOff hc).mp he)
    simp [hn, failure?_eq_none_iff, hc]

theorem diagnostics_eq_iff (hw : t.Wrote limit written) {ls : List (List Char)} {tail : List Char} {fs : List Finding}
    (hl : Lined (Utf8.lossy written) ls tail) (hr : Reading ls fs) :
    Diagnostic.ofReport (t.output limit).stdout = fs.map Diagnostic.ofFinding ↔ (t.CutOff limit → fs = []) := by
  have hp : LintBridge.Report.parse (textOf written) = fs := by
    rw [Report.parse_textOf, hl.lines_eq]
    exact (Report.filterMap_readLine?_eq_iff ls fs).mpr hr
  by_cases hc : t.CutOff limit
  · have hn : Diagnostic.ofReport "" = [] := rfl
    rw [stdout_of_cutOff hc, hn, eq_comm, List.map_eq_nil_iff]
    simp [hc]
  · simp [stdout_of_not_cutOff hw hc, Diagnostic.ofReport, hp, hc]

end Trace

variable {c : Config} {files : Files} {path : Bytes} {t : Trace}

theorem run_of_attempt (h : attempt c files path = .ok t) : run c files path = t.output c.limit := by
  rw [run, h]

theorem duration?_isSome_iff (h : attempt c files path = .ok t) :
    (duration? c files path).isSome ↔ t.Ends c.limit := by
  rw [duration?, h]
  by_cases hc : t.CutOff c.limit
  · obtain ⟨l, hl⟩ := hc
    have he : t.Ends c.limit := .inr (by simp [hl.1])
    simp [(t.filter_outlasts_eq_some_iff c.limit l).mpr hl, he]
  · simp [Trace.filter_outlasts_eq_none hc, Trace.ends_iff_of_not_cutOff hc, Option.isSome_iff_ne_none]

/-- The text of a run is what its process wrote, and the validation reports all findings in it, unless it was cut off
after it had written something; and the run counts as failed unless the process ended cleanly before the limit. -/
theorem report_kept_iff (t : Trace) (limit : Option Duration) (written : Bytes) (he : t.Ends limit)
    (hw : t.Wrote limit written) :
    ((t.output limit).stdout = textOf written ↔ (t.CutOff limit → written = [])) ∧
    ((t.output limit).failure = none ↔ t.ending = some (.exited 0) ∧ ¬ t.CutOff limit) ∧
    (∀ (v : Validation.Validator) r report ls tail fs, v.judge r (t.output limit) = .completed report →
      Lined (Utf8.lossy written) ls tail → Reading ls fs →
      (report.diagnostics = fs.map Diagnostic.ofFinding ↔ (t.CutOff limit → fs = []))) ∧
    ∀ c files path, attempt c files path = .ok t →
      run c files path = t.output c.limit ∧ ((duration? c files path).isSome ↔ t.Ends c.limit) := by
  refine ⟨t.stdout_eq_iff hw, t.failure_eq_none_iff he, ?_, ?_⟩
  · intro v r report ls tail fs hj hl hr
    rw [Validation.Validator.eq_ofOutput_of_judge hj]
    exact t.diagnostics_eq_iff hw hl hr
  · intro c files path h
    exact ⟨run_of_attempt h, duration?_isSome_iff h⟩

/-- A process that has written one line by the limit and would write another: the first line is lost, though without the
limit both are there. -/
theorem report_kept_iff_of_pause :
    let t : Trace := { stdout := bytesOf "R1:3:bad\nR2:4:late\n", elapsed := .ofMillis 5000 }
    let limit := some (Duration.ofMillis 500)
    let written := bytesOf "R1:3:bad\n"
    t.Ends limit ∧ t.Wrote limit written ∧ t.CutOff limit ∧
    (t.output limit).stdout ≠ "R1:3:bad\n" ∧ (t.output limit).failure ≠ none ∧
    (t.output none).stdout = "R1:3:bad\nR2:4:late\n" ∧ (t.output none).failure = none := by
  intro t limit written
  have he : t.Ends limit := .inl (by decide)
  have hc : t.CutOff limit := ⟨.ofMillis 500, rfl, .inr (by decide)⟩
  have hw : t.Wrote limit written := ⟨by decide +kernel, fun h => absurd hc h⟩
  have hn : ¬ t.CutOff none := by
    rintro ⟨l, hl, -⟩
    cases hl
  obtain ⟨hs, hf, -⟩ := report_kept_iff t limit written he hw
  obtain ⟨hs', hf', -⟩ := report_kept_iff t none t.stdout (.inl (by decide)) ⟨List.prefix_rfl, fun _ => rfl⟩
  have ht : textOf written = "R1:3:bad\n" := by decide +kernel
  have ht' : textOf t.stdout = "R1:3:bad\nR2:4:late\n" := by decide +kernel
  refine ⟨he, hw, hc, ?_, ?_, ?_, ?_⟩
  · rw [← ht]
    exact fun h => absurd (hs.mp h hc) (by decide +kernel)
  · exact fun h => (hf.mp h).2 hc
  · rw [← ht']
    exact hs'.mpr fun h => absurd h hn
  · exact hf'.mpr ⟨rfl, hn⟩

end LintBridge.Tool
