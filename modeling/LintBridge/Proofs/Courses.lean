import LintBridge.Proofs.Launches
import LintBridge.Proofs.Publication

namespace LintBridge

open Validation (Outcome Report Run Validator)

namespace Bridge

variable {b : Bridge}

/-- The validations with what an event brings to them and those that it begins, before any of them ends. -/
def pending (b : Bridge) (e : Event) : List Job := b.jobs.map (b.progress e) ++ (b.outsets e).map Outset.job

theorem jobs_outsetsOf (h : b.Settled) (us : List Uri) : (b.spawnAll us).1.jobs =
    b.jobs ++ ((b.outsetsOf us).map Outset.job).filter fun t => (Job.conclusion? t).isNone := by
  induction us generalizing b with
  | nil => simp [spawnAll, outsetsOf]
  | cons u us ih =>
      have hj : (Outset.mk b u).job = b.beginning u := rfl
      rw [spawnAll_cons_fst, ih (settled_spawn b u), jobs_spawn h, outsetsOf, List.map_cons, hj, List.append_assoc,
        ← List.filter_append, List.singleton_append]

theorem jobs_step_eq (h : b.Settled) (e : Event) :
    (b.step e).1.jobs = (b.pending e).filter fun t => (Job.conclusion? t).isNone := by
  unfold pending
  cases he : e.isProgress with
  | true => rw [(step_progress h he).1, outsets_eq_nil he, List.map_nil, List.append_nil]
  | false =>
      rw [(step_prepared b he).1, jobs_outsetsOf (h.prepared e), jobs_prepared, List.filter_append,
        (h.idle fun id => found?_of_prepared he id).1]
      rfl

end Bridge

namespace Session

variable {s : Session} {es : List Event} {e : Event}

def outsets (s : Session) (e : Event) : List Outset := ((s.handled? e).map s.bridge.outsets).getD []

def verdict? (s : Session) (id : Nat) (e : Event) : Option Outcome := (s.handled? e).bind (s.bridge.verdict? id)

def progress (s : Session) (e : Event) (t : Job) : Job :=
  { t with settings := (s.found? t.id e).or t.settings, outcome := (s.verdict? t.id e).or t.outcome }

def pending (s : Session) (e : Event) : List Job := s.bridge.jobs.map (s.progress e) ++ (s.outsets e).map Outset.job

theorem pending_handled {x : Bridge.Event} (h : s.handled? e = some x) : s.pending e = s.bridge.pending x := by
  simp [pending, Bridge.pending, outsets, h, progress, Bridge.progress, found?, verdict?]

theorem pending_unhandled (h : s.handled? e = none) : s.pending e = s.bridge.jobs := by
  have hp : s.progress e = id := by
    funext t
    simp [progress, found?, verdict?, h]
  simp [pending, outsets, h, hp]

theorem jobs_step (h : s.bridge.Settled) (e : Event) :
    (s.step e).1.bridge.jobs = (s.pending e).filter fun t => (Bridge.Job.conclusion? t).isNone := by
  cases hx : s.handled? e with
  | some x => rw [step_handled hx, pending_handled hx]; exact Bridge.jobs_step_eq h x
  | none => rw [(step_unhandled hx).bridge, pending_unhandled hx]; exact h.filter_eq_self.symm

theorem numbers_outsets (s : Session) (e : Event) :
    (s.outsets e).map Outset.number = List.range' s.bridge.nextJob (s.triggered e).length := by
  unfold outsets triggered
  cases s.handled? e with
  | none => rfl
  | some x =>
      have hn := (s.bridge.prepared x).number_outsetsOf (s.bridge.triggered x)
      rw [Bridge.nextJob_prepared] at hn
      exact hn

theorem number_bounds {x : Outset} (hx : x ∈ s.outsets e) :
    s.bridge.nextJob ≤ x.number ∧ x.number < (s.step e).1.bridge.nextJob := by
  have hm := List.mem_map_of_mem (f := Outset.number) hx
  rw [numbers_outsets] at hm
  rw [nextJob_step]
  exact List.mem_range'_1.mp hm

theorem eq_of_number_eq {x y : Outset} (hx : x ∈ s.outsets e) (hy : y ∈ s.outsets e) (hn : x.number = y.number) :
    x = y := by
  have hd : ((s.outsets e).map Outset.number).Nodup := by
    rw [numbers_outsets]
    exact List.nodup_range'
  exact List.inj_on_of_nodup_map hd hx hy hn

theorem nextJob_le_step (s : Session) (e : Event) : s.bridge.nextJob ≤ (s.step e).1.bridge.nextJob := by
  rw [nextJob_step]
  omega

def Once (P : Session → Event → Prop) (es : List Event) : Prop :=
  ∃ before e later, es = before ++ e :: later ∧ P (after {} before) e

namespace Once

variable {P : Session → Event → Prop}

theorem not_nil : ¬ Once P [] := by
  rintro ⟨before, e, later, h, -⟩
  simp at h

theorem concat_iff : Once P (es ++ [e]) ↔ Once P es ∨ P (after {} es) e := by
  constructor
  · rintro ⟨before, x, later, h, hp⟩
    obtain rfl | ⟨rest, y, rfl⟩ := List.eq_nil_or_concat later
    · obtain ⟨rfl, hx⟩ := List.append_inj' h rfl
      cases hx
      exact .inr hp
    · have h : es ++ [e] = (before ++ x :: rest) ++ [y] := by simpa using h
      obtain ⟨rfl, -⟩ := List.append_inj' h rfl
      exact .inl ⟨before, x, rest, rfl, hp⟩
  · rintro (⟨before, x, later, rfl, hp⟩ | hp)
    · exact ⟨before, x, later ++ [e], by simp, hp⟩
    · exact ⟨es, e, [], rfl, hp⟩

theorem append (h : Once P es) (later : List Event) : Once P (es ++ later) := by
  obtain ⟨before, x, rest, rfl, hp⟩ := h
  exact ⟨before, x, rest ++ later, by simp, hp⟩

end Once

def Begun (es : List Event) (x : Outset) : Prop := Once (fun s e => x ∈ s.outsets e) es

theorem Begun.number_lt {x : Outset} (h : Begun es x) : x.number < (after {} es).bridge.nextJob := by
  induction es using List.reverseRecOn with
  | nil => exact absurd h Once.not_nil
  | append_singleton es e ih =>
      rw [after_concat]
      obtain h | h := Once.concat_iff.mp h
      · exact Nat.lt_of_lt_of_le (ih h) (nextJob_le_step _ e)
      · exact (number_bounds h).2

theorem Begun.eq {x y : Outset} (hx : Begun es x) (hy : Begun es y) (hn : x.number = y.number) : x = y := by
  induction es using List.reverseRecOn with
  | nil => exact absurd hx Once.not_nil
  | append_singleton es e ih =>
      obtain hx' | hx' := Once.concat_iff.mp hx
      · obtain hy' | hy' := Once.concat_iff.mp hy
        · exact ih hx' hy'
        · have := Begun.number_lt hx'
          have := (number_bounds hy').1
          omega
      · obtain hy' | hy' := Once.concat_iff.mp hy
        · have := Begun.number_lt hy'
          have := (number_bounds hx').1
          omega
        · exact eq_of_number_eq hx' hy' hn

/-- One of the two things that a validation waits for: what it holds of it, what an event brings to it, and what it
has of it from the start. An event brings it only to a validation that does not hold it yet. -/
structure Aspect (α : Type) where
  held : Job → Option α
  brought : Session → Nat → Event → Option α
  initial : Outset → Option α
  held_progress : ∀ s e t, held (s.progress e t) = (brought s t.id e).or (held t)
  held_job : ∀ x, held x.job = initial x
  awaited : ∀ s e id a, s.bridge.Linked → brought s id e = some a → ∃ t ∈ s.bridge.jobs, t.id = id ∧ held t = none

def lookups : Aspect Settings where
  held := Job.settings
  brought := found?
  initial x := x.lookup.found
  held_progress _ _ _ := rfl
  held_job _ := rfl
  awaited s e id v hl hf := by
    obtain ⟨y, -, hf⟩ := Option.bind_eq_some_iff.mp hf
    exact Bridge.waits_of_found hl hf

def outcomes : Aspect Outcome where
  held := Job.outcome
  brought := verdict?
  initial x := x.start.outcome?
  held_progress _ _ _ := rfl
  held_job _ := rfl
  awaited s e id o hl hv := by
    obtain ⟨y, -, hv⟩ := Option.bind_eq_some_iff.mp hv
    obtain ⟨r, hr, rfl, -⟩ := Bridge.verdict?_eq_some hv
    obtain ⟨t, ht, hid, -, ho⟩ := hl.job_of_run hr
    exact ⟨t, ht, hid, ho⟩

namespace Aspect

variable {α : Type} {A : Aspect α} {id : Nat} {a : α}

/-- A step gives it to a validation, which is under way or begins in the step. -/
def Gives (A : Aspect α) (s : Session) (e : Event) (id : Nat) (a : α) : Prop :=
  A.brought s id e = some a ∨ ∃ x ∈ s.outsets e, x.number = id ∧ A.initial x = some a

def Given (A : Aspect α) (es : List Event) (id : Nat) (a : α) : Prop := Once (fun s e => A.Gives s e id a) es

theorem Given.append (h : A.Given es id a) (later : List Event) : A.Given (es ++ later) id a := Once.append h later

theorem brought_lt (h : s.bridge.Linked) (hb : A.brought s id e = some a) : id < s.bridge.nextJob := by
  obtain ⟨t, ht, rfl, -⟩ := A.awaited s e id a h hb
  exact h.ids_lt t ht

theorem gives_iff_brought (hid : id < s.bridge.nextJob) : A.Gives s e id a ↔ A.brought s id e = some a := by
  constructor
  · rintro (hb | ⟨x, hx, rfl, -⟩)
    · exact hb
    · have := (number_bounds hx).1
      omega
  · exact .inl

theorem gives_iff_initial (h : s.bridge.Linked) {x : Outset} (hx : x ∈ s.outsets e) :
    A.Gives s e x.number a ↔ A.initial x = some a := by
  constructor
  · rintro (hb | ⟨y, hy, hn, hi⟩)
    · have := brought_lt h hb
      have := (number_bounds hx).1
      omega
    · rwa [← eq_of_number_eq hy hx hn]
  · intro hi
    exact .inr ⟨x, hx, rfl, hi⟩

theorem Given.id_lt (h : A.Given es id a) : id < (after {} es).bridge.nextJob := by
  induction es using List.reverseRecOn with
  | nil => exact absurd h Once.not_nil
  | append_singleton es e ih =>
      have hle := nextJob_le_step (after {} es) e
      rw [after_concat]
      obtain h | hb | ⟨x, hx, rfl, -⟩ := Once.concat_iff.mp h
      · exact Nat.lt_of_lt_of_le (ih h) hle
      · exact Nat.lt_of_lt_of_le (brought_lt (coherent_after es).toLinked hb) hle
      · exact (number_bounds hx).2

/-- Before any validation of a step ends, all hold what they have been given up to this step, if that was so before. -/
theorem held_pending_of (h : ∀ t ∈ (after {} es).bridge.jobs, ∀ a, A.held t = some a ↔ A.Given es t.id a) (e : Event) :
    ∀ t ∈ (after {} es).pending e, ∀ a, A.held t = some a ↔ A.Given (es ++ [e]) t.id a := by
  have hl := (coherent_after es).toLinked
  intro t ht a
  rw [Given, Once.concat_iff]
  obtain ht | ht := List.mem_append.mp ht
  · obtain ⟨old, hold, rfl⟩ := List.mem_map.mp ht
    have hid : ((after {} es).progress e old).id = old.id := rfl
    rw [hid, gives_iff_brought (hl.ids_lt old hold), A.held_progress]
    change _ ↔ A.Given es old.id a ∨ _
    rw [← h old hold a]
    cases hb : A.brought (after {} es) old.id e with
    | none => simp
    | some c =>
        -- what is brought was not there before
        obtain ⟨t, ht, hid, hn⟩ := A.awaited _ e old.id c hl hb
        obtain rfl := hl.eq_of_id_eq ht hold hid
        simp [hn]
  · obtain ⟨x, hx, rfl⟩ := List.mem_map.mp ht
    have hid : x.job.id = x.number := rfl
    rw [hid, gives_iff_initial hl hx, A.held_job]
    constructor
    · exact .inr
    · rintro (hg | hi)
      · have := Given.id_lt hg
        have := (number_bounds hx).1
        omega
      · exact hi

theorem held_iff (es : List Event) :
    ∀ t ∈ (after {} es).bridge.jobs, ∀ a, A.held t = some a ↔ A.Given es t.id a := by
  induction es using List.reverseRecOn with
  | nil => simp
  | append_singleton es e ih =>
      intro t ht
      rw [after_concat, jobs_step (coherent_after es).settled] at ht
      exact held_pending_of ih e t (List.mem_filter.mp ht).1

theorem held_pending {t : Job} (ht : t ∈ (after {} es).pending e) (a : α) :
    A.held t = some a ↔ A.Given (es ++ [e]) t.id a :=
  held_pending_of (held_iff es) e t ht a

theorem not_gives (hg : A.Given es id a) (c : α) : ¬ A.Gives (after {} es) e id c := by
  intro hc
  rw [gives_iff_brought hg.id_lt] at hc
  obtain ⟨t, ht, rfl, hn⟩ := A.awaited _ e id c (coherent_after es).toLinked hc
  rw [(held_iff es t ht a).mpr hg] at hn
  cases hn

theorem Given.eq {c : α} (ha : A.Given es id a) (hc : A.Given es id c) : a = c := by
  induction es using List.reverseRecOn with
  | nil => exact absurd ha Once.not_nil
  | append_singleton es e ih =>
      obtain ha' | ha' := Once.concat_iff.mp ha
      · obtain hc' | hc' := Once.concat_iff.mp hc
        · exact ih ha' hc'
        · exact absurd hc' (not_gives ha' c)
      · obtain hc' | hc' := Once.concat_iff.mp hc
        · exact absurd ha' (not_gives hc' a)
        · have hl := (coherent_after es).toLinked
          obtain hb | ⟨x, hx, rfl, hi⟩ := ha'
          · have hc' := (gives_iff_brought (brought_lt hl hb)).mp hc'
            rw [hb] at hc'
            exact Option.some.inj hc'
          · have hc' := (gives_iff_initial hl hx).mp hc'
            rw [hi] at hc'
            exact Option.some.inj hc'

end Aspect

def Returned (es : List Event) (id : Nat) (v : Settings) : Prop := lookups.Given es id v

def Judged (es : List Event) (id : Nat) (o : Outcome) : Prop := outcomes.Given es id o

theorem begun_of_pending (ih : ∀ t ∈ (after {} es).bridge.jobs, ∃ x, Begun es x ∧ x.number = t.id ∧ x.uri = t.uri)
    {t : Job} (ht : t ∈ (after {} es).pending e) : ∃ x, Begun (es ++ [e]) x ∧ x.number = t.id ∧ x.uri = t.uri := by
  obtain ht | ht := List.mem_append.mp ht
  · obtain ⟨old, hold, rfl⟩ := List.mem_map.mp ht
    obtain ⟨x, hx, hid, hu⟩ := ih old hold
    exact ⟨x, hx.append [e], hid, hu⟩
  · obtain ⟨x, hx, rfl⟩ := List.mem_map.mp ht
    exact ⟨x, Once.concat_iff.mpr (.inr hx), rfl, rfl⟩

theorem begun_of_job (es : List Event) :
    ∀ t ∈ (after {} es).bridge.jobs, ∃ x, Begun es x ∧ x.number = t.id ∧ x.uri = t.uri := by
  induction es using List.reverseRecOn with
  | nil => simp
  | append_singleton es e ih =>
      intro t ht
      rw [after_concat, jobs_step (coherent_after es).settled] at ht
      exact begun_of_pending ih (List.mem_filter.mp ht).1

theorem begun_pending {t : Job} (ht : t ∈ (after {} es).pending e) :
    ∃ x, Begun (es ++ [e]) x ∧ x.number = t.id ∧ x.uri = t.uri :=
  begun_of_pending (begun_of_job es) ht

/-- A validation has all that it waits for. -/
def Over (es : List Event) (id : Nat) : Prop := (∃ v, Returned es id v) ∧ ∃ o, Judged es id o

theorem Over.append {id : Nat} (h : Over es id) (later : List Event) : Over (es ++ later) id := by
  obtain ⟨⟨v, hv⟩, o, ho⟩ := h
  exact ⟨⟨v, Aspect.Given.append hv later⟩, o, Aspect.Given.append ho later⟩

theorem Over.notMem {t : Job} (h : Over es t.id) : t ∉ (after {} es).bridge.jobs := by
  intro ht
  obtain ⟨⟨v, hv⟩, o, ho⟩ := h
  have hs : t.settings = some v := (Aspect.held_iff (A := lookups) es t ht v).mpr hv
  have ho : t.outcome = some o := (Aspect.held_iff (A := outcomes) es t ht o).mpr ho
  obtain hn | hn := (Bridge.conclusion?_eq_none_iff t).mp ((coherent_after es).settled t ht)
  · rw [hs] at hn; cases hn
  · rw [ho] at hn; cases hn

theorem pending_or_over_of {x : Outset}
    (ih : Begun es x → (∃ t ∈ (after {} es).bridge.jobs, t.id = x.number) ∨ Over es x.number)
    (h : Begun (es ++ [e]) x) : (∃ t ∈ (after {} es).pending e, t.id = x.number) ∨ Over es x.number := by
  obtain h | h := Once.concat_iff.mp h
  · obtain ⟨t, ht, hid⟩ | ho := ih h
    · exact .inl ⟨_, List.mem_append_left _ (List.mem_map_of_mem ht), hid⟩
    · exact .inr ho
  · exact .inl ⟨x.job, List.mem_append_right _ (List.mem_map_of_mem h), rfl⟩

/-- A validation that has begun is under way until it has all that it waits for. -/
theorem job_or_over {x : Outset} (h : Begun es x) :
    (∃ t ∈ (after {} es).bridge.jobs, t.id = x.number) ∨ Over es x.number := by
  induction es using List.reverseRecOn with
  | nil => exact absurd h Once.not_nil
  | append_singleton es e ih =>
      obtain ⟨t, ht, hid⟩ | ho := pending_or_over_of ih h
      · rw [← hid]
        by_cases hc : Bridge.Job.conclusion? t = none
        · left
          rw [after_concat, jobs_step (coherent_after es).settled]
          exact ⟨t, List.mem_filter.mpr ⟨ht, by simp [hc]⟩, rfl⟩
        · right
          rw [Bridge.conclusion?_eq_none_iff, not_or] at hc
          obtain ⟨v, hv⟩ := Option.ne_none_iff_exists'.mp hc.1
          obtain ⟨o, ho⟩ := Option.ne_none_iff_exists'.mp hc.2
          exact ⟨⟨v, (Aspect.held_pending (A := lookups) ht v).mp hv⟩,
            o, (Aspect.held_pending (A := outcomes) ht o).mp ho⟩
      · exact .inr (ho.append [e])

theorem pending_or_over {x : Outset} (h : Begun (es ++ [e]) x) :
    (∃ t ∈ (after {} es).pending e, t.id = x.number) ∨ Over es x.number :=
  pending_or_over_of job_or_over h

theorem nodup_pending (es : List Event) (e : Event) : (((after {} es).pending e).map Job.id).Nodup := by
  have hl := (coherent_after es).toLinked
  have hm : ((after {} es).pending e).map Job.id =
      (after {} es).bridge.jobs.map Job.id ++ ((after {} es).outsets e).map Outset.number := by
    rw [pending, List.map_append, List.map_map, List.map_map]
    rfl
  rw [hm, numbers_outsets, List.nodup_append]
  refine ⟨hl.ids_nodup, List.nodup_range', ?_⟩
  rintro id hid n hn rfl
  -- the new numbers are larger than those in use
  obtain ⟨t, ht, rfl⟩ := List.mem_map.mp hid
  have := hl.ids_lt t ht
  have := (List.mem_range'_1.mp hn).1
  omega

def Ends (s : Session) (e : Event) (r : Run) (o : Tool.Output) : Prop :=
  ∃ path index, e = .finished path index o ∧ (s.bridge.validator.waiting path)[index]? = some r

def Ended (es : List Event) (r : Run) (o : Tool.Output) (outcome : Outcome) : Prop :=
  Once (fun s e => s.Ends e r o ∧ outcome = s.bridge.validator.judge r o) es

namespace Ends

variable {r : Run} {o : Tool.Output}

theorem mem_runs (h : s.Ends e r o) : r ∈ s.bridge.validator.runs := by
  obtain ⟨path, index, -, hr⟩ := h
  exact (List.mem_filter.mp (List.mem_of_getElem? hr)).1

theorem verdict? (hl : s.bridge.Linked) (h : s.Ends e r o) :
    s.verdict? r.validation e = some (s.bridge.validator.judge r o) := by
  have hf := hl.find?_run h.mem_runs
  obtain ⟨path, index, rfl, hr⟩ := h
  have hx : s.handled? (.finished path index o) = some (.finished r.validation o) :=
    handled?_eq_finished_iff.mpr ⟨path, index, r, rfl, hr, rfl⟩
  simp [Session.verdict?, hx, Bridge.verdict?, hf]

theorem of_verdict (hl : s.bridge.Linked) {id : Nat} {outcome : Outcome} (h : s.verdict? id e = some outcome) :
    ∃ r o, s.Ends e r o ∧ r.validation = id ∧ outcome = s.bridge.validator.judge r o := by
  obtain ⟨y, hx, hv⟩ := Option.bind_eq_some_iff.mp h
  obtain ⟨r, hr, rfl, o, rfl, ho⟩ := Bridge.verdict?_eq_some hv
  obtain ⟨path, index, r', he, hw, hid⟩ := handled?_eq_finished_iff.mp hx
  have hs : s.Ends e r' o := ⟨path, index, he, hw⟩
  -- a run is known by its validation
  have hf := hl.find?_run hs.mem_runs
  rw [hid, hl.find?_run hr] at hf
  obtain rfl := Option.some.inj hf
  exact ⟨r, o, hs, rfl, ho⟩

end Ends

namespace Ended

variable {r r' : Run} {o o' : Tool.Output} {outcome outcome' : Outcome}

theorem judged (h : Ended es r o outcome) : Judged es r.validation outcome := by
  obtain ⟨before, e, later, rfl, hs, ho⟩ := h
  refine ⟨before, e, later, rfl, .inl ?_⟩
  rw [ho]
  exact hs.verdict? (coherent_after before).toLinked

theorem begun (h : Ended es r o outcome) : ∃ x, Begun es x ∧ x.number = r.validation ∧ x.uri = r.uri := by
  obtain ⟨before, e, later, rfl, hs, -⟩ := h
  obtain ⟨t, ht, hid, hu, -⟩ := (coherent_after before).job_of_run hs.mem_runs
  obtain ⟨x, hx, hn, hxu⟩ := begun_of_job before t ht
  exact ⟨x, hx.append _, hn.trans hid, hxu.trans hu⟩

theorem not_ends (h : Ended es r o outcome) (hv : r.validation = r'.validation) :
    ¬ (after {} es).Ends e r' o' := by
  intro hs
  obtain ⟨t, ht, hid, -, hn⟩ := (coherent_after es).job_of_run hs.mem_runs
  have hg : Judged es t.id outcome := by
    rw [hid, ← hv]
    exact h.judged
  have ho : t.outcome = some outcome := (Aspect.held_iff (A := outcomes) es t ht outcome).mpr hg
  rw [hn] at ho
  cases ho

theorem eq (h : Ended es r o outcome) (h' : Ended es r' o' outcome') (hv : r.validation = r'.validation) :
    r = r' ∧ o = o' := by
  induction es using List.reverseRecOn with
  | nil => exact absurd h Once.not_nil
  | append_singleton es e ih =>
      obtain h | ⟨hs, -⟩ := Once.concat_iff.mp h
      · obtain h' | ⟨hs', -⟩ := Once.concat_iff.mp h'
        · exact ih h h'
        · exact absurd hs' (not_ends h hv)
      · obtain h' | ⟨hs', -⟩ := Once.concat_iff.mp h'
        · exact absurd hs (not_ends h' hv.symm)
        · obtain ⟨path, index, rfl, hr⟩ := hs
          obtain ⟨path', index', he, hr'⟩ := hs'
          cases he
          rw [hr] at hr'
          exact ⟨Option.some.inj hr', rfl⟩

end Ended

theorem Ended.append {r : Run} {o : Tool.Output} {outcome : Outcome} (h : Ended es r o outcome) (later : List Event) :
    Ended (es ++ later) r o outcome :=
  Once.append h later

theorem start_not_completed (x : Outset) (report : Report) : x.start.outcome? ≠ some (.completed report) :=
  Bridge.beginning_not_completed x.bridge x.uri report

theorem ended_of_judged {id : Nat} {report : Report} (h : Judged es id (.completed report)) :
    ∃ r o, Ended es r o (.completed (.ofOutput o)) ∧ r.validation = id ∧ report = .ofOutput o := by
  obtain ⟨before, e, later, rfl, hv | ⟨x, -, -, hi⟩⟩ := h
  · obtain ⟨r, o, hs, hid, ho⟩ := Ends.of_verdict (coherent_after before).toLinked hv
    obtain rfl := Validator.eq_ofOutput_of_judge ho.symm
    exact ⟨r, o, ⟨before, e, later, rfl, hs, ho⟩, hid, rfl⟩
  · exact absurd hi (start_not_completed x report)

end Session

end LintBridge
