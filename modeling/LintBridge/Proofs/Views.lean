import LintBridge.Proofs.Mirror

namespace LintBridge

open Settings (Cache Pull Reply Waiter)
open Validation (Outcome Report Run Validator)

/-- Another document than `u` that neither its text nor its path takes for `u`, or `u` itself. -/
structure Uri.Apart (u w : Uri) : Prop where
  text : w.text = u.text → w = u
  path : ∀ path, u.filePath? = some path → w.filePath? = some path → w = u

/-- The number of a validation among those of its document, if the documents of all validations so far are known. -/
def rank (log : List Uri) (u : Uri) (id : Nat) : Nat := (log.take id).count u

theorem rank_append {log : List Uri} {id : Nat} (h : id ≤ log.length) (more : List Uri) (u : Uri) :
    rank (log ++ more) u id = rank log u id := by
  rw [rank, List.take_append_of_le_length h, rank]

theorem rank_length (log : List Uri) (u : Uri) : rank log u log.length = log.count u := by
  rw [rank, List.take_length]

theorem rank_replicate {n id : Nat} (h : id ≤ n) (u : Uri) : rank (List.replicate n u) u id = id := by
  simp [rank, List.take_replicate, Nat.min_eq_left h]

namespace Bridge

variable {b b' : Bridge}

def ended (b : Bridge) : List Uri → List (Nat × Uri × Outcome)
  | [] => []
  | u :: us => ((b.beginning u).outcome.map fun o => (b.nextJob, u, o)).toList ++ (b.spawn u).1.ended us

def decided (b : Bridge) (e : Event) : List (Nat × Uri × Outcome) :=
  b.jobs.filterMap (fun t => (b.verdict? t.id e).map fun o => (t.id, t.uri, o)) ++
    (b.prepared e).ended (b.triggered e)

end Bridge

/-- What a step does for a document: the runs that it starts on its path and the outcomes that it brings, each with
the number of the validation among those of the document, how often it asks for the settings, and the diagnostics
that it shows. -/
structure View where
  started : List Nat := []
  asked : Nat := 0
  outcomes : List (Nat × Outcome) := []
  shown : List (List Diagnostic) := []
  deriving DecidableEq

namespace View

def of (u : Uri) (num : Nat → Nat) (fs : List Effect) (decided : List (Nat × Uri × Outcome)) : View where
  started := (fs.filterMap Effect.run?).filterMap fun r => if u.filePath? = some r.2 then some (num r.1) else none
  asked := (fs.filterMap Effect.asked?).count u
  outcomes := decided.filterMap fun d => if d.2.1 = u then some (num d.1, d.2.2) else none
  shown := (fs.filterMap Effect.published?).filterMap fun p => if p.1 = u then some p.2 else none

def append (v w : View) : View where
  started := v.started ++ w.started
  asked := v.asked + w.asked
  outcomes := v.outcomes ++ w.outcomes
  shown := v.shown ++ w.shown

@[simp] theorem empty_append (v : View) : append {} v = v := by simp [append]

theorem of_append (u : Uri) (num : Nat → Nat) (fs gs : List Effect) (ds es : List (Nat × Uri × Outcome)) :
    of u num (fs ++ gs) (ds ++ es) = (of u num fs ds).append (of u num gs es) := by
  simp [of, append, List.filterMap_append, List.count_append]

theorem of_silent (u : Uri) (num : Nat → Nat) {fs : List Effect} (h : Silent fs) : of u num fs [] = {} := by
  simp [of, h.started, h.asked, h.published]

end View

namespace Bridge

variable {b b' : Bridge}

theorem calm_publication (u : Uri) (s : Settings) (r : Report) : Calm (publication u s r) := by
  unfold publication
  refine .append (.append (.append ?_ ?_) ?_) ?_
  all_goals split <;> simp [Calm, note, noteWith, tell, Effect.run?, Effect.asked?]

theorem calm_conclusion (u : Uri) (s : Settings) (o : Outcome) : Calm (conclusion u s o) := by
  cases o with
  | completed r => exact calm_publication u s r
  | superseded | closed => simp [Calm, conclusion]
  | unsupported => exact (Logs.cons _ .nil).calm

theorem calm_settle (b : Bridge) : Calm b.settle.2 := by
  intro f hf
  obtain ⟨fs, hfs, hf⟩ := List.mem_flatten.mp hf
  obtain ⟨t, -, hc⟩ := List.mem_filterMap.mp hfs
  simp only [Job.conclusion?, Option.bind_eq_bind, Option.pure_def] at hc
  obtain ⟨s, -, hc⟩ := Option.bind_eq_some_iff.mp hc
  obtain ⟨o, -, hc⟩ := Option.bind_eq_some_iff.mp hc
  cases hc
  exact calm_conclusion t.uri s o f hf

theorem calm_step (b : Bridge) {e : Event} (he : e.isProgress = true) : Calm (b.step e).2 := by
  have hnil : Calm [] := by simp [Calm]
  cases e with
  | answered pull r =>
      simp only [step]
      split
      · exact hnil
      · refine .append ?_ (calm_settle _)
        split
        · exact hnil
        · exact (logs_warn _).calm
  | finished validation o =>
      simp only [step]
      split
      · exact hnil
      · exact (((logs_toolNotes o).append (logs_outcomeNotes _ o _)).calm).append (calm_settle _)
  | elapsed ms => exact ((logs_timeoutNotes b _).calm).append (calm_settle _)
  | opened | saved | closed | configured => cases he

def runPath? (b : Bridge) (u : Uri) : Option Bytes := (b.validator.start b.nextJob u).2.run?.map Run.path

theorem filePath?_of_runPath? {u : Uri} {path : Bytes} (h : b.runPath? u = some path) : u.filePath? = some path := by
  unfold runPath? at h
  obtain ⟨-, he⟩ | ⟨p, -, -, he⟩ | ⟨p, t, hp, -, he⟩ := Validator.start_cases b.validator b.nextJob u
  · rw [he] at h; cases h
  · rw [he] at h; cases h
  · rw [he] at h; cases h; exact hp

theorem spawn_started (b : Bridge) (u : Uri) :
    (b.spawn u).2.filterMap Effect.run? = ((b.runPath? u).map fun path => (b.nextJob, path)).toList := by
  have hr : (b.runPath? u).map (fun path => (b.nextJob, path)) =
      (b.validator.start b.nextJob u).2.run?.map fun r => (r.validation, r.path) := by
    unfold runPath?
    obtain ⟨-, he⟩ | ⟨path, -, -, he⟩ | ⟨path, t, -, -, he⟩ := Validator.start_cases b.validator b.nextJob u
    all_goals rw [he]; rfl
  rw [hr]
  simp only [spawn, List.filterMap_append, (logs_warn _).calm.started, (calm_settle _).started, List.append_nil]
  cases (b.cache.get b.now b.nextJob u).2.issued <;> cases (b.validator.start b.nextJob u).2.run? <;> rfl

theorem spawn_asked (b : Bridge) (u : Uri) : (b.spawn u).2.filterMap Effect.asked? =
    ((b.cache.get b.now b.nextJob u).2.issued.map Pull.uri).toList := by
  simp only [spawn, List.filterMap_append, (logs_warn _).calm.asked, (calm_settle _).asked, List.append_nil]
  cases (b.cache.get b.now b.nextJob u).2.issued <;> cases (b.validator.start b.nextJob u).2.run? <;> rfl

def viewSpawn (u : Uri) (num : Nat → Nat) (b : Bridge) (w : Uri) : View :=
  View.of u num (b.spawn w).2 ((b.beginning w).outcome.map fun o => (b.nextJob, w, o)).toList

theorem viewSpawn_self (h : b.Settled) (u : Uri) (num : Nat → Nat) : b.viewSpawn u num u = {
    started := ((b.runPath? u).map fun _ => num b.nextJob).toList
    asked := ((b.cache.get b.now b.nextJob u).2.issued.map Pull.uri).toList.count u
    outcomes := ((b.beginning u).outcome.map fun o => (num b.nextJob, o)).toList } := by
  rw [viewSpawn, View.of, spawn_started, spawn_asked, published_spawn h]
  congr 1
  · cases hp : b.runPath? u with
    | none => rfl
    | some path => simp [filePath?_of_runPath? hp]
  · cases (b.beginning u).outcome <;> simp

theorem viewSpawn_other (h : b.Settled) {u w : Uri} (hw : u.Apart w) (hne : w ≠ u) (num : Nat → Nat) :
    b.viewSpawn u num w = {} := by
  rw [viewSpawn, View.of, spawn_started, spawn_asked, published_spawn h]
  congr 1
  · cases hp : b.runPath? w with
    | none => rfl
    | some path =>
        have hu : u.filePath? ≠ some path := fun hu => hne (hw.path path hu (filePath?_of_runPath? hp))
        simp [hu]
  · cases hi : (b.cache.get b.now b.nextJob w).2.issued with
    | none => rfl
    | some p => simp [Cache.uri_of_issued hi, hne]
  · cases (b.beginning w).outcome <;> simp [hne]

theorem of_spawnAll_cons (u : Uri) (num : Nat → Nat) (b : Bridge) (w : Uri) (ws : List Uri) :
    View.of u num (b.spawnAll (w :: ws)).2 (b.ended (w :: ws)) =
      (b.viewSpawn u num w).append (View.of u num ((b.spawn w).1.spawnAll ws).2 ((b.spawn w).1.ended ws)) := by
  rw [spawnAll_cons_snd, ended, View.of_append]
  rfl

def view (u : Uri) (num : Nat → Nat) (b : Bridge) (e : Event) : View := View.of u num (b.step e).2 (b.decided e)

theorem view_prepared (u : Uri) (num : Nat → Nat) {e : Event} (he : e.isProgress = false) :
    b.view u num e =
      View.of u num ((b.prepared e).spawnAll (b.triggered e)).2 ((b.prepared e).ended (b.triggered e)) := by
  have hd : b.decided e = [] ++ (b.prepared e).ended (b.triggered e) := by
    have hv : ∀ id, b.verdict? id e = none := by
      intro id
      cases e with
      | opened | saved | closed | configured => rfl
      | answered | finished | elapsed => cases he
    simp [decided, hv]
  obtain ⟨-, notes, hn, hf⟩ := b.step_prepared he
  rw [view, hd, hf, View.of_append, View.of_silent u num hn, View.empty_append]

theorem outcomes_of_jobs (u : Uri) (num : Nat → Nat) (ts : List Job) (verdict : Nat → Option Outcome) :
    (ts.filterMap fun t => (verdict t.id).map fun o => (t.id, t.uri, o)).filterMap
        (fun d => if d.2.1 = u then some (num d.1, d.2.2) else none) =
      (ts.filter (·.uri = u)).filterMap fun t => (verdict t.id).map fun o => (num t.id, o) := by
  induction ts with
  | nil => rfl
  | cons t ts ih =>
      by_cases hu : t.uri = u <;> cases hv : verdict t.id <;> simp [hu, hv, ih]

theorem uri_of_published? {t : Job} {x : Nat × Uri × List Diagnostic} (h : t.published? = some x) : x.2.1 = t.uri := by
  unfold Job.published? at h
  split at h
  · obtain ⟨ds, -, rfl⟩ := Option.map_eq_some_iff.mp h
    rfl
  · cases h

theorem shown_of_jobs (u : Uri) (ts : List Job) :
    ((ts.filterMap Job.published?).map (·.2)).filterMap (fun p => if p.1 = u then some p.2 else none) =
      (ts.filter (·.uri = u)).filterMap fun t => t.published?.map (·.2.2) := by
  induction ts with
  | nil => rfl
  | cons t ts ih =>
      cases hp : t.published? with
      | none => by_cases hu : t.uri = u <;> simp [hu, hp, ih]
      | some x =>
          have hx : x.2.1 = t.uri := uri_of_published? hp
          by_cases hu : t.uri = u <;> simp [hu, hp, ih, hx]

theorem view_progress (h : b.Settled) (u : Uri) (num : Nat → Nat) {e : Event} (he : e.isProgress = true) :
    b.view u num e = {
      outcomes := (b.jobs.filter (·.uri = u)).filterMap fun t => (b.verdict? t.id e).map fun o => (num t.id, o)
      shown := ((b.jobs.map (b.progress e)).filter (·.uri = u)).filterMap fun t => t.published?.map (·.2.2) } := by
  have hd : b.decided e = b.jobs.filterMap fun t => (b.verdict? t.id e).map fun o => (t.id, t.uri, o) := by
    have ht : b.triggered e = [] := by
      cases e with
      | answered | finished | elapsed => rfl
      | opened | saved | closed | configured => cases he
    simp [decided, ht, ended]
  rw [view, View.of, hd, (calm_step b he).started, (calm_step b he).asked, published_step h, published,
    outcomes_of_jobs u num b.jobs (b.verdict? · e), shown_of_jobs]
  simp

end Bridge

end LintBridge
