import LintBridge.Proofs.NormalForm
import LintBridge.Proofs.Outsets

namespace LintBridge

open Settings (Pull)
open Validation (Outcome Run)

def View.muted (lifecycle : Lifecycle) (v : View) : View :=
  if lifecycle = .exited then { v with asked := 0, shown := [] } else v

theorem View.muted_empty (lifecycle : Lifecycle) : View.muted lifecycle {} = {} := by
  unfold muted; split <;> rfl

namespace Session

open Protocol (Method)

variable {s s' : Session} {u : Uri}

def Event.document? : Event → Option Uri
  | .message m => (m.params.bind (bridgeEvent? (Method.ofName m.method))).bind Bridge.Event.document?
  | _ => none

/-- Whether an event concerns another document: a message about it, the answer to a request for its settings or the
end of a run on a path that is not that of `u`. -/
def Event.foreign (u : Uri) : Event → Bool
  | .message m => (Event.document? (.message m)).any (· ≠ u)
  | .configuration scope _ _ => scope ≠ u.text
  | .registration _ _ => false
  | .finished path _ _ => u.filePath? ≠ some path
  | .elapsed _ => false

def arranged (s : Session) (order : List Uri) : Session :=
  { s with bridge := { s.bridge with cache := { s.bridge.cache with opened := order } } }

def decided (s : Session) (e : Event) : List (Nat × Uri × Outcome) := ((s.handled? e).map s.bridge.decided).getD []

def view (u : Uri) (begun : List Uri) (s : Session) (e : Event) : View :=
  View.of u (rank (begun ++ s.triggered e) u) (s.step e).2 (s.decided e)

/-- A session in which some events happen, with the documents of its validations and with what each event does for a
document. The open documents have no order that anybody could rely on: it may be a new one at every event. -/
inductive Plays (u : Uri) : List Event → Session → List Uri → List (Event × View) → Prop
  | fresh : Plays u [] {} [] []
  | step {es : List Event} {s : Session} {begun order : List Uri} {vs : List (Event × View)}
      (h : Plays u es s begun vs) (ho : order.Perm s.bridge.cache.opened) (e : Event) :
      Plays u (es ++ [e]) ((s.arranged order).step e).1 (begun ++ (s.arranged order).triggered e)
        (vs ++ [(e, (s.arranged order).view u begun e)])

def played (u : Uri) (es : List Event) : Session × List Uri × List (Event × View) :=
  es.foldl (fun (s, begun, vs) e => ((s.step e).1, begun ++ s.triggered e, vs ++ [(e, s.view u begun e)])) ({}, [], [])

def Shows (u : Uri) (es : List Event) (vs : List (Event × View)) : Prop := ∃ s begun, Plays u es s begun vs

theorem of_mute (u : Uri) (num : Nat → Nat) (lifecycle : Lifecycle) (fs : List Effect)
    (ds : List (Nat × Uri × Outcome)) :
    View.of u num (mute lifecycle fs) ds = (View.of u num fs ds).muted lifecycle := by
  by_cases hl : lifecycle = .exited
  · have hrun : (fs.filter fun f => f.sent?.isNone).filterMap Effect.run? = fs.filterMap Effect.run? := by
      rw [List.filterMap_filter]
      refine List.filterMap_congr fun f _ => ?_
      cases f <;> rfl
    have hask : (fs.filter fun f => f.sent?.isNone).filterMap Effect.asked? = [] := by
      rw [List.filterMap_filter]
      refine List.filterMap_eq_nil_iff.mpr fun f _ => ?_
      cases f <;> rfl
    have hshow : (fs.filter fun f => f.sent?.isNone).filterMap Effect.published? = [] := by
      rw [List.filterMap_filter]
      refine List.filterMap_eq_nil_iff.mpr fun f _ => ?_
      cases f <;> rfl
    simp [View.of, View.muted, mute, hl, hrun, hask, hshow]
  · simp [View.muted, mute, hl]

theorem view_handled {e : Event} {x : Bridge.Event} (hx : s.handled? e = some x) (u : Uri) (begun : List Uri) :
    s.view u begun e =
      (s.bridge.view u (rank (begun ++ s.bridge.triggered x) u) x).muted s.lifecycle := by
  rw [view, triggered, decided, hx, step_handled hx, of_mute]
  rfl

theorem view_unhandled {e : Event} (hx : s.handled? e = none) (u : Uri) (begun : List Uri) : s.view u begun e = {} := by
  rw [view, decided, hx]
  exact View.of_silent u _ (step_unhandled hx).silent

def shell (s : Session) : Lifecycle × Bool × Nat × Nat := (s.lifecycle, s.folders, s.registrations, s.busy)

theorem shell_notification (s : Session) (b : Bridge) (hp : b.cache.pulls = s.bridge.cache.pulls) (method : Method)
    (params : Json) :
    (({ s with bridge := b } : Session).notification method params).1.shell =
      (s.notification method params).1.shell := by
  cases method with
  | handshakeDone =>
      simp only [notification]
      split
      · simp only [confirm, hp]
        split <;> rfl
      · rfl
  | foldersChanged => simp only [notification]; split <;> rfl
  | opened | saved | closed | configured | handshakeRequest | shutdown | exit | cancel | unserved | unheeded
    | unknown => simp only [notification]; split <;> rfl

theorem shell_receive (s : Session) (b : Bridge) (hp : b.cache.pulls = s.bridge.cache.pulls) (m : Incoming) :
    (({ s with bridge := b } : Session).receive m).1.shell = (s.receive m).1.shell := by
  unfold receive
  generalize Method.ofName m.method = method
  cases method with
  | unknown => dsimp only; split <;> rfl
  | exit => rfl
  | cancel => rfl
  | handshakeRequest =>
      dsimp only
      by_cases hl : s.lifecycle = .fresh
      · rw [if_pos hl, if_pos hl]
        unfold shakeHands
        split
        · rfl
        · split <;> rfl
      · rw [if_neg hl, if_neg hl]; rfl
  | shutdown =>
      dsimp only
      by_cases hl : s.lifecycle = .ready
      · rw [if_pos hl, if_pos hl]
        unfold shutDown
        split <;> rfl
      · rw [if_neg hl, if_neg hl]; rfl
  | unserved shape =>
      dsimp only
      by_cases hl : s.lifecycle = .ready
      · rw [if_neg (not_not.mpr hl), if_neg (not_not.mpr hl)]
        split <;> rfl
      · rw [if_pos hl, if_pos hl]; rfl
  | handshakeDone | opened | saved | closed | configured | foldersChanged | unheeded =>
      dsimp only
      by_cases hl : s.lifecycle = .ready
      · rw [if_neg (not_not.mpr hl), if_neg (not_not.mpr hl)]
        split
        · rfl
        · exact shell_notification s b hp _ _
        · rfl
      · rw [if_pos hl, if_pos hl]; rfl

/-- What an event does to the rest of a session depends on the bridge only by whether the editor can be asked. -/
theorem shell_step (hs : s'.shell = s.shell) (hp : s'.bridge.cache.pulls = s.bridge.cache.pulls) (e : Event) :
    (s'.step e).1.shell = (s.step e).1.shell := by
  obtain ⟨l, b', fo, re, bu⟩ := s'
  obtain ⟨hl, hfo, hre, hbu⟩ : l = s.lifecycle ∧ fo = s.folders ∧ re = s.registrations ∧ bu = s.busy := by
    simpa [shell] using hs
  subst hl hfo hre hbu
  cases e with
  | message m =>
      simp only [step]
      by_cases hl : s.lifecycle = .exited
      · rw [if_pos hl, if_pos hl]; rfl
      · rw [if_neg hl, if_neg hl]
        exact shell_receive s b' hp m
  | configuration scope index a =>
      have hself (t : Session) : (t.step (.configuration scope index a)).1.shell = t.shell := by
        simp only [step]
        split
        · rfl
        · split <;> rfl
      rw [hself, hself]; rfl
  | registration index a =>
      simp only [step]
      split
      · split <;> rfl
      · rfl
  | finished path index o =>
      have hself (t : Session) : (t.step (.finished path index o)).1.shell = t.shell := by
        simp only [step]
        split <;> rfl
      rw [hself, hself]; rfl
  | elapsed ms => rfl

theorem handled?_message {m : Incoming} {x : Bridge.Event} (h : s.handled? (.message m) = some x) :
    x.isProgress = false ∧ Event.document? (.message m) = x.document? := by
  refine ⟨isProgress_of_message h, ?_⟩
  simp only [handled?] at h
  split at h
  · rw [Event.document?, h]; rfl
  · cases h

theorem shell_document {m : Incoming} {w : Uri} (h : Event.document? (.message m) = some w) :
    (s.step (.message m)).1.shell = s.shell ∧ s.handshake? (.message m) = none := by
  obtain ⟨x, hx, -⟩ := Option.bind_eq_some_iff.mp h
  obtain ⟨params, -, hx⟩ := Option.bind_eq_some_iff.mp hx
  simp only [step, receive, handshake?]
  generalize Method.ofName m.method = method at hx ⊢
  cases method with
  | opened | saved | closed | configured =>
      refine ⟨?_, rfl⟩
      dsimp only
      split
      · rfl
      · split
        · rfl
        · split
          · rfl
          · simp only [notification]; split <;> rfl
          · rfl
  | handshakeRequest | handshakeDone | shutdown | exit | cancel | foldersChanged | unserved | unheeded
    | unknown => cases hx

theorem shell_foreign {e : Event} (he : e.foreign u = true) :
    (s.step e).1.shell = s.shell ∧ s.handshake? e = none := by
  cases e with
  | message m =>
      obtain ⟨w, hw⟩ : ∃ w, Event.document? (.message m) = some w := by
        cases hd : Event.document? (.message m) with
        | none => simp [Event.foreign, hd] at he
        | some w => exact ⟨w, rfl⟩
      exact shell_document hw
  | configuration scope index a =>
      refine ⟨?_, rfl⟩
      simp only [step]
      split
      · rfl
      · split <;> rfl
  | finished path index o =>
      refine ⟨?_, rfl⟩
      simp only [step]
      split <;> rfl
  | registration | elapsed => cases he

structure Mirrors (u : Uri) (begun : List Uri) (s s' : Session) : Prop where
  shell : s'.shell = s.shell
  bridge : Bridge.Alike u begun s.bridge s'.bridge
  regular : s.bridge.Regular
  alone : s'.bridge.Regular
  within : s.bridge.Within u.Apart

/-- At an event the two sessions do the same for the document, and they stay alike. The second one has only
validations of the document. -/
structure Agree (u : Uri) (begun : List Uri) (s s' : Session) (e : Event) : Prop where
  mirrors : Mirrors u (begun ++ s.triggered e) (s.step e).1 (s'.step e).1
  alone : List.replicate s'.bridge.nextJob u ++ s'.triggered e = List.replicate (s'.step e).1.bridge.nextJob u
  view : s.view u begun e = s'.view u (List.replicate s'.bridge.nextJob u) e

namespace Mirrors

variable {begun : List Uri}

theorem initial (u : Uri) : Mirrors u [] {} {} where
  shell := rfl
  bridge := ⟨id, id, id, .initial u⟩
  regular := .initial
  alone := .initial
  within := .initial _

theorem lifecycle (hm : Mirrors u begun s s') : s'.lifecycle = s.lifecycle := congrArg Prod.fst hm.shell

theorem pulls (hm : Mirrors u begun s s') : s'.bridge.cache.pulls = s.bridge.cache.pulls := by
  obtain ⟨f, g, h, hb⟩ := hm.bridge
  exact hb.cache.pulls

theorem arranged (hm : Mirrors u begun s s') {order : List Uri} (ho : order.Perm s.bridge.cache.opened) :
    Mirrors u begun (s.arranged order) s' := by
  obtain ⟨f, g, h, hb⟩ := hm.bridge
  refine { hm with
    bridge := ⟨f, g, h, { hb with cache := { hb.cache with opened := ?_ } }⟩, regular := ?_, within := ?_ }
  · rw [hb.cache.opened, ← ho.count_eq]
    rfl
  · have hn := hm.regular.numbered
    exact { hm.regular with
      opened_iff := fun w => ho.mem_iff.trans (hm.regular.opened_iff w)
      numbered := ⟨hn.stored, hn.answers, hn.unanswered, hn.waiters⟩ }
  · exact { hm.within with opened := fun w hw => hm.within.opened w (ho.mem_iff.mp hw) }

/-- Alone, a document has no order that could be changed. -/
theorem arranged_alone (hm : Mirrors u begun s s') {order : List Uri} (ho : order.Perm s'.bridge.cache.opened) :
    s'.arranged order = s' := by
  obtain ⟨f, g, h, hb⟩ := hm.bridge
  have he : order = s'.bridge.cache.opened := by
    rw [hb.cache.opened] at ho ⊢
    exact List.perm_replicate.mp ho
  rw [he]
  rfl

variable {f g h : Nat → Nat}

theorem waitingPulls (hm : Mirrors u begun s s') (hb : s.bridge.Mirrors u f g h begun s'.bridge) :
    s.waitingPulls u.text = (s'.waitingPulls u.text).map fun p => { p with id := g p.id } := by
  have hs : s.waitingPulls u.text = s.bridge.cache.unanswered.filter (·.uri = u) := by
    refine List.filter_congr fun p hp => decide_eq_decide.mpr ?_
    exact ⟨(hm.within.unanswered p hp).text, fun hu => by rw [hu]⟩
  have hs' : s'.waitingPulls u.text = s'.bridge.cache.unanswered := by
    refine List.filter_eq_self.mpr fun p hp => decide_eq_true ?_
    have hr := List.mem_map_of_mem (f := fun p : Pull => { p with id := g p.id }) hp
    rw [← hb.cache.unanswered] at hr
    have hu : p.uri = u := of_decide_eq_true (List.mem_filter.mp hr).2
    rw [hu]
  rw [hs, hs', hb.cache.unanswered]

theorem waiting (hm : Mirrors u begun s s') (hb : s.bridge.Mirrors u f g h begun s'.bridge) {path : Bytes}
    (hp : u.filePath? = some path) :
    s.bridge.validator.waiting path = (s'.bridge.validator.waiting path).map (Run.renumber f h) := by
  have hs : s.bridge.validator.waiting path = s.bridge.validator.runs.filter (·.uri = u) := by
    refine List.filter_congr fun r hr => decide_eq_decide.mpr ?_
    have hrp := hm.regular.sound.run_path r hr
    constructor
    · rintro rfl
      exact (hm.within.runs r hr).path r.path hp hrp
    · rintro hu
      rw [hu, hp] at hrp
      exact (Option.some.inj hrp).symm
  have hs' : s'.bridge.validator.waiting path = s'.bridge.validator.runs := by
    refine List.filter_eq_self.mpr fun r hr => decide_eq_true ?_
    have hrp := hm.alone.sound.run_path r hr
    rw [hb.validator.uri_of_mem hr, hp] at hrp
    exact (Option.some.inj hrp).symm
  rw [hs, hs', hb.validator.runs]

theorem handled (hm : Mirrors u begun s s') (hb : s.bridge.Mirrors u f g h begun s'.bridge) {e : Event}
    (he : e.foreign u = false) : (s.handled? e = none ∧ s'.handled? e = none) ∨
      ∃ x x', s.handled? e = some x ∧ s'.handled? e = some x' ∧ Bridge.Mirrors.Shared u f g s'.bridge x x' := by
  cases e with
  | message m =>
      have hs : s'.handled? (.message m) = s.handled? (.message m) := by simp only [handled?, hm.lifecycle]
      rw [hs]
      cases hx : s.handled? (.message m) with
      | none => exact .inl ⟨rfl, rfl⟩
      | some x =>
          obtain ⟨hp, hd⟩ := handled?_message hx
          refine .inr ⟨x, x, rfl, rfl, ?_⟩
          simp only [Event.foreign, hd] at he
          cases x with
          | opened w =>
              obtain rfl : w = u := by simpa [Bridge.Event.document?] using he
              exact .opened
          | saved w =>
              obtain rfl : w = u := by simpa [Bridge.Event.document?] using he
              exact .saved
          | closed w =>
              obtain rfl : w = u := by simpa [Bridge.Event.document?] using he
              exact .closed
          | configured payload => exact .configured payload
          | answered | finished | elapsed => cases hp
  | configuration scope index a =>
      obtain rfl : scope = u.text := by simpa [Event.foreign] using he
      simp only [handled?, hm.lifecycle]
      by_cases hl : s.lifecycle = .exited
      · rw [if_pos hl, if_pos hl]; exact .inl ⟨rfl, rfl⟩
      · rw [if_neg hl, if_neg hl, hm.waitingPulls hb, List.getElem?_map]
        cases hp : (s'.waitingPulls u.text)[index]? with
        | none => exact .inl ⟨rfl, rfl⟩
        | some p =>
            have hmem : p ∈ s'.bridge.cache.unanswered := (List.mem_filter.mp (List.mem_of_getElem? hp)).1
            exact .inr ⟨_, _, rfl, rfl, .answered hmem _⟩
  | registration index a => exact .inl ⟨rfl, rfl⟩
  | finished path index o =>
      have hpath : u.filePath? = some path := by simpa [Event.foreign] using he
      simp only [handled?, hm.waiting hb hpath, List.getElem?_map]
      cases hr : (s'.bridge.validator.waiting path)[index]? with
      | none => exact .inl ⟨rfl, rfl⟩
      | some r =>
          have hmem : r ∈ s'.bridge.validator.runs := (List.mem_filter.mp (List.mem_of_getElem? hr)).1
          exact .inr ⟨_, _, rfl, rfl, .finished hmem o⟩
  | elapsed ms => exact .inr ⟨_, _, rfl, rfl, .elapsed ms⟩

theorem handled_other (hm : Mirrors u begun s s') {e : Event} (he : e.foreign u = true) {x : Bridge.Event}
    (hx : s.handled? e = some x) : Bridge.Mirrors.Strange u s.bridge x ∧ x.document? = e.document? := by
  cases e with
  | message m =>
      obtain ⟨hp, hd⟩ := handled?_message hx
      refine ⟨?_, hd.symm⟩
      simp only [Event.foreign, hd] at he
      cases x with
      | opened w => exact .opened (by simpa [Bridge.Event.document?] using he)
      | saved w => exact .saved (by simpa [Bridge.Event.document?] using he)
      | closed w => exact .closed (by simpa [Bridge.Event.document?] using he)
      | configured payload => cases he
      | answered | finished | elapsed => cases hp
  | configuration scope index a =>
      simp only [handled?] at hx
      split at hx
      · cases hx
      · obtain ⟨p, hp, rfl⟩ := Option.map_eq_some_iff.mp hx
        obtain ⟨hmem, ht⟩ := List.mem_filter.mp (List.mem_of_getElem? hp)
        refine ⟨.answered hmem (fun hu => ?_) _, rfl⟩
        have ht : p.uri.text = scope := of_decide_eq_true ht
        have hne : scope ≠ u.text := by simpa [Event.foreign] using he
        exact hne (by rw [← ht, hu])
  | registration index a => cases he
  | finished path index o =>
      obtain ⟨r, hr, rfl⟩ := Option.map_eq_some_iff.mp hx
      obtain ⟨hmem, hp⟩ := List.mem_filter.mp (List.mem_of_getElem? hr)
      refine ⟨.finished hmem (fun hu => ?_) o, rfl⟩
      have hp : r.path = path := of_decide_eq_true hp
      have hne : u.filePath? ≠ some path := by simpa [Event.foreign] using he
      exact hne (by rw [← hu, ← hp]; exact hm.regular.sound.run_path r hmem)
  | elapsed ms => cases he

theorem remaining (hm : Mirrors u begun s s') (hb : s.bridge.Mirrors u f g h begun s'.bridge) {e : Event}
    (he : e.foreign u = false) :
    Settings.Cache.Mirrors u f g s'.bridge.nextJob { s.bridge.cache with unanswered := s.remaining e }
      { s'.bridge.cache with unanswered := s'.remaining e } := by
  have ht : s.takenBack? e = (s'.takenBack? e).map fun p => { p with id := g p.id } := by
    cases e with
    | configuration scope index a =>
        obtain rfl : scope = u.text := by simpa [Event.foreign] using he
        rw [takenBack?, takenBack?, hm.waitingPulls hb, List.getElem?_map]
    | message | registration | finished | elapsed => rfl
  cases hp : s'.takenBack? e with
  | none =>
      rw [remaining_eq_self hp, remaining_eq_self (by rw [ht, hp]; rfl)]
      exact hb.cache
  | some p =>
      have hmem : p ∈ s'.bridge.cache.unanswered := by
        cases e with
        | configuration scope index a => exact (List.mem_filter.mp (List.mem_of_getElem? hp)).1
        | message | registration | finished | elapsed => cases hp
      have hd := hb.cache.drop hm.alone.numbered (hm.alone.numbered.unanswered p hmem)
      simpa only [Session.remaining, ht, hp, Option.map_some, Option.all_some] using hd

theorem remaining_other (hm : Mirrors u begun s s') (hb : s.bridge.Mirrors u f g h begun s'.bridge) {e : Event}
    (he : e.foreign u = true) :
    Settings.Cache.Mirrors u f g s'.bridge.nextJob { s.bridge.cache with unanswered := s.remaining e }
      s'.bridge.cache := by
  cases hp : s.takenBack? e with
  | none => rw [remaining_eq_self hp]; exact hb.cache
  | some p =>
      obtain ⟨hmem, hu⟩ : p ∈ s.bridge.cache.unanswered ∧ p.uri ≠ u := by
        cases e with
        | configuration scope index a =>
            obtain ⟨hmem, ht⟩ := List.mem_filter.mp (List.mem_of_getElem? hp)
            have ht : p.uri.text = scope := of_decide_eq_true ht
            have hne : scope ≠ u.text := by simpa [Event.foreign] using he
            exact ⟨hmem, fun hu => hne (by rw [← ht, hu])⟩
        | message | registration | finished | elapsed => cases hp
      have hd := hb.cache.drop_other hm.alone.numbered hmem hu
      simpa only [Session.remaining, hp, Option.all_some] using hd

theorem step_unhandled (hm : Mirrors u begun s s') {e : Event} (he : e.foreign u = false) (hx : s.handled? e = none)
    (hx' : s'.handled? e = none) : Agree u begun s s' e := by
  obtain ⟨f, g, h, hb⟩ := hm.bridge
  have hbridge := (Session.step_unhandled hx).bridge
  have hbridge' := (Session.step_unhandled hx').bridge
  have hpulls : s'.pullsAfter e = s.pullsAfter e := by
    have hh : s'.handshake? e = s.handshake? e := by
      cases e <;> simp only [handshake?, hm.lifecycle]
    rw [pullsAfter, pullsAfter, hh, hm.pulls]
  have ht : s.triggered e = [] := by rw [triggered, hx]; rfl
  have ht' : s'.triggered e = [] := by rw [triggered, hx']; rfl
  refine ⟨⟨shell_step hm.shell hm.pulls e, ⟨f, g, h, ?_⟩, step_keeps Bridge.Regular.kept e hm.regular,
    step_keeps Bridge.Regular.kept e hm.alone, ?_⟩, ?_, ?_⟩
  · rw [ht, List.append_nil, hbridge, hbridge', hpulls]
    exact { hb with cache := { hm.remaining hb he with pulls := rfl } }
  · rw [hbridge]
    exact { hm.within with unanswered := fun p hp => hm.within.unanswered p (List.mem_filter.mp hp).1 }
  · rw [ht', List.append_nil, hbridge']
  · rw [view_unhandled hx, view_unhandled hx']

theorem step_handled (hm : Mirrors u begun s s') (hb : s.bridge.Mirrors u f g h begun s'.bridge) {e : Event}
    {x x' : Bridge.Event} (hx : s.handled? e = some x) (hx' : s'.handled? e = some x')
    (hsh : Bridge.Mirrors.Shared u f g s'.bridge x x') : Agree u begun s s' e := by
  have ht : s.triggered e = s.bridge.triggered x := by rw [triggered, hx]; rfl
  have ht' : s'.triggered e = s'.bridge.triggered x' := by rw [triggered, hx']; rfl
  -- alone, all validations are of the document
  have hrep : List.replicate s'.bridge.nextJob u ++ s'.bridge.triggered x' =
      List.replicate (s'.bridge.nextJob + (s'.bridge.triggered x').length) u := by
    rw [hb.triggered hsh, List.filter_eq, List.replicate_append_replicate, List.length_replicate]
  have hrank : ∀ i < s'.bridge.nextJob + (s'.bridge.triggered x').length,
      rank (List.replicate s'.bridge.nextJob u ++ s'.bridge.triggered x') u i = i := by
    intro i hi
    rw [hrep]
    exact rank_replicate (Nat.le_of_lt hi) u
  obtain ⟨⟨f', g', h', hs⟩, hv⟩ := hb.step hm.regular hm.alone hm.within hsh hrank
  have hnext : (s'.step e).1.bridge.nextJob = s'.bridge.nextJob + (s'.bridge.triggered x').length := by
    rw [Session.step_handled hx', ← hs.count_log, List.count_append, hb.count_log, hb.triggered hsh, List.filter_eq,
      List.length_replicate]
  refine ⟨⟨shell_step hm.shell hm.pulls e, ?_, step_keeps Bridge.Regular.kept e hm.regular,
    step_keeps Bridge.Regular.kept e hm.alone, ?_⟩, ?_, ?_⟩
  · rw [ht, Session.step_handled hx, Session.step_handled hx']
    exact ⟨f', g', h', hs⟩
  · rw [Session.step_handled hx]
    refine hm.within.step fun w hd => ?_
    cases hsh with
    | opened | saved | closed => cases hd; exact ⟨fun _ => rfl, fun _ _ _ => rfl⟩
    | configured | answered | finished | elapsed => cases hd
  · rw [ht', hnext, hrep]
  · rw [view_handled hx, view_handled hx', hm.lifecycle, hv]

theorem step (hm : Mirrors u begun s s') {e : Event} (he : e.foreign u = false) : Agree u begun s s' e := by
  obtain ⟨f, g, h, hb⟩ := hm.bridge
  obtain ⟨hx, hx'⟩ | ⟨x, x', hx, hx', hsh⟩ := hm.handled hb he
  · exact hm.step_unhandled he hx hx'
  · exact hm.step_handled hb hx hx' hsh

theorem step_other (hm : Mirrors u begun s s') {e : Event} (he : e.foreign u = true)
    (hd : ∀ w, e.document? = some w → u.Apart w) :
    Mirrors u (begun ++ s.triggered e) (s.step e).1 s' ∧ s.view u begun e = {} := by
  obtain ⟨f, g, h, hb⟩ := hm.bridge
  obtain ⟨hshell, hshake⟩ := shell_foreign (s := s) he
  have hreg := step_keeps Bridge.Regular.kept e hm.regular
  cases hx : s.handled? e with
  | none =>
      have hbridge := (Session.step_unhandled hx).bridge
      have ht : s.triggered e = [] := by rw [triggered, hx]; rfl
      have hpulls : s.pullsAfter e = s.bridge.cache.pulls := by rw [pullsAfter, hshake]; rfl
      refine ⟨⟨hm.shell.trans hshell.symm, ⟨f, g, h, ?_⟩, hreg, hm.alone, ?_⟩, view_unhandled hx u begun⟩
      · rw [ht, List.append_nil, hbridge, hpulls]
        exact { hb with cache := hm.remaining_other hb he }
      · rw [hbridge]
        exact { hm.within with unanswered := fun p hp => hm.within.unanswered p (List.mem_filter.mp hp).1 }
  | some x =>
      have ht : s.triggered e = s.bridge.triggered x := by rw [triggered, hx]; rfl
      obtain ⟨hst, hdoc⟩ := hm.handled_other he hx
      have hdoc' : ∀ w, x.document? = some w → u.Apart w := fun w hw => hd w (hdoc.symm.trans hw)
      obtain ⟨hs, hv⟩ := hb.step_other hm.regular hm.alone hm.within hst hdoc'
      refine ⟨⟨hm.shell.trans hshell.symm, ?_, hreg, hm.alone, ?_⟩, ?_⟩
      · rw [ht, Session.step_handled hx]
        exact hs
      · rw [Session.step_handled hx]
        exact hm.within.step hdoc'
      · rw [view_handled hx, hv, View.muted_empty]

end Mirrors

namespace Plays

variable {es : List Event} {begun begun' : List Uri} {vs vs' : List (Event × View)}

theorem nil_inv (h : Plays u [] s begun vs) : s = {} ∧ begun = [] ∧ vs = [] := by
  generalize hl : [] = l at h
  cases h with
  | fresh => exact ⟨rfl, rfl, rfl⟩
  | step h ho e => exact absurd hl (by simp)

theorem concat_inv {e : Event} (h : Plays u (es ++ [e]) s begun vs) :
    ∃ s₀ begun₀ vs₀ order, Plays u es s₀ begun₀ vs₀ ∧ order.Perm s₀.bridge.cache.opened ∧
      s = ((s₀.arranged order).step e).1 ∧ begun = begun₀ ++ (s₀.arranged order).triggered e ∧
      vs = vs₀ ++ [(e, (s₀.arranged order).view u begun₀ e)] := by
  generalize hl : es ++ [e] = l at h
  cases h with
  | fresh => exact absurd hl (by simp)
  | step h ho e' =>
      obtain ⟨rfl, he⟩ := List.append_inj' hl rfl
      cases he
      exact ⟨_, _, _, _, h, ho, rfl, rfl, rfl⟩

theorem map_fst (h : Plays u es s begun vs) : vs.map Prod.fst = es := by
  induction h with
  | fresh => rfl
  | step _ _ e ih => simp [ih]

theorem mirrors (h : Plays u es s begun vs) (hd : ∀ w ∈ es.filterMap Event.document?, u.Apart w)
    (h' : Plays u (es.filter fun e => !e.foreign u) s' begun' vs') :
    Mirrors u begun s s' ∧ begun' = List.replicate s'.bridge.nextJob u ∧
    vs' = vs.filter (fun x => !x.1.foreign u) ∧ ∀ x ∈ vs, x.1.foreign u = true → x.2 = {} := by
  induction h generalizing s' begun' vs' with
  | fresh =>
      obtain ⟨rfl, rfl, rfl⟩ := nil_inv h'
      exact ⟨.initial u, rfl, rfl, by simp⟩
  | @step es s begun order vs h ho e ih =>
      have hes : ∀ w ∈ es.filterMap Event.document?, u.Apart w := fun w hw => hd w (by simp [hw])
      have hw : ∀ w, e.document? = some w → u.Apart w := fun w hw => hd w (by simp [hw])
      rw [List.filter_append] at h'
      cases he : e.foreign u with
      | true =>
          rw [List.filter_cons_of_neg (by simp [he]), List.filter_nil, List.append_nil] at h'
          obtain ⟨hm, hb, hv, hvs⟩ := ih hes h'
          obtain ⟨hs, hview⟩ := (hm.arranged ho).step_other he hw
          refine ⟨hs, hb, ?_, ?_⟩
          · rw [List.filter_append, List.filter_cons_of_neg (by simp [he]), List.filter_nil, List.append_nil]
            exact hv
          · intro x hx hf
            obtain hx | rfl := by simpa using hx
            · exact hvs x hx hf
            · exact hview
      | false =>
          rw [List.filter_cons_of_pos (by simp [he]), List.filter_nil] at h'
          obtain ⟨s₀, begun₀, vs₀, order', h₀, ho', rfl, rfl, rfl⟩ := concat_inv h'
          obtain ⟨hm, rfl, hv, hvs⟩ := ih hes h₀
          obtain ⟨hs, hb, hview⟩ := (hm.arranged ho).step he
          rw [hm.arranged_alone ho', hv]
          refine ⟨hs, hb, ?_, ?_⟩
          · rw [List.filter_append, List.filter_cons_of_pos (by simp [he]), List.filter_nil, hview]
          · intro x hx hf
            obtain hx | rfl := by simpa using hx
            · exact hvs x hx hf
            · rw [he] at hf; cases hf

theorem of_played (u : Uri) (es : List Event) :
    Plays u es (played u es).1 (played u es).2.1 (played u es).2.2 := by
  induction es using List.reverseRecOn with
  | nil => exact .fresh
  | append_singleton es e ih =>
      rw [played, List.foldl_concat]
      exact ih.step (List.Perm.refl _) e

end Plays

theorem exists_parse_of_document? {e : Event} {w : Uri} (h : e.document? = some w) : ∃ t, Uri.parse t = .ok w := by
  have hdoc {shape doc : Protocol.Shape} {params : Json} {x : Uri} (hx : document? shape doc params = some x) :
      ∃ t, Uri.parse t = .ok x := by
    unfold document? at hx
    split at hx
    · obtain ⟨_, -, hx⟩ := Option.bind_eq_some_iff.mp hx
      obtain ⟨t, -, hx⟩ := Option.bind_eq_some_iff.mp hx
      refine ⟨t, ?_⟩
      cases hp : Uri.parse t with
      | error => rw [hp] at hx; cases hx
      | ok y =>
          rw [hp] at hx
          rw [Option.some.inj hx]
    · cases hx
  cases e with
  | message m =>
      obtain ⟨x, hx, hw⟩ := Option.bind_eq_some_iff.mp h
      obtain ⟨params, -, hx⟩ := Option.bind_eq_some_iff.mp hx
      unfold bridgeEvent? at hx
      split at hx
      · obtain ⟨y, hy, rfl⟩ := Option.map_eq_some_iff.mp hx
        cases hw
        exact hdoc hy
      · obtain ⟨y, hy, rfl⟩ := Option.map_eq_some_iff.mp hx
        cases hw
        exact hdoc hy
      · obtain ⟨y, hy, rfl⟩ := Option.map_eq_some_iff.mp hx
        cases hw
        exact hdoc hy
      · split at hx
        · obtain ⟨y, -, rfl⟩ := Option.map_eq_some_iff.mp hx
          cases hw
        · cases hx
      · cases hx
  | configuration | registration | finished | elapsed => cases h

theorem eq_of_filter_eq {p : Event → Bool} {vs vs' : List (Event × View)} (he : vs.map Prod.fst = vs'.map Prod.fst)
    (hf : vs.filter (fun x => p x.1) = vs'.filter (fun x => p x.1)) (h : ∀ x ∈ vs, p x.1 = false → x.2 = {})
    (h' : ∀ x ∈ vs', p x.1 = false → x.2 = {}) : vs = vs' := by
  induction vs generalizing vs' with
  | nil => exact (List.map_eq_nil_iff.mp he.symm).symm
  | cons x vs ih =>
      cases vs' with
      | nil => cases he
      | cons y vs' =>
          obtain ⟨hxy, he⟩ := List.cons.inj he
          have hrest := ih he
          have ht : ∀ z ∈ vs, p z.1 = false → z.2 = {} := fun z hz => h z (List.mem_cons_of_mem x hz)
          have ht' : ∀ z ∈ vs', p z.1 = false → z.2 = {} := fun z hz => h' z (List.mem_cons_of_mem y hz)
          cases hp : p x.1 with
          | true =>
              have hp' : p y.1 = true := hxy ▸ hp
              rw [List.filter_cons_of_pos (by exact hp), List.filter_cons_of_pos (by exact hp')] at hf
              obtain ⟨hx, hf⟩ := List.cons.inj hf
              rw [hx, hrest hf ht ht']
          | false =>
              have hp' : p y.1 = false := hxy ▸ hp
              rw [List.filter_cons_of_neg (by simp [hp]), List.filter_cons_of_neg (by simp [hp'])] at hf
              have hx : x = y :=
                Prod.ext hxy ((h x List.mem_cons_self hp).trans (h' y List.mem_cons_self hp').symm)
              rw [hx, hrest hf ht ht']

/-- What a session does for a document is determined by its events, whatever the order of the open documents, and is
what it does without the events that concern other documents: these do nothing for it. -/
theorem shows_iff_alone {text : String} {u : Uri} (hu : Uri.parse text = .ok u) {es : List Event}
    (hp : ∀ w ∈ es.filterMap Event.document?, ∀ path, u.filePath? = some path → w.filePath? = some path → w = u) :
    ∃ vs, (∀ vs', Shows u es vs' ↔ vs' = vs) ∧
      (∀ vs', Shows u (es.filter fun e => !e.foreign u) vs' ↔ vs' = vs.filter fun x => !x.1.foreign u) ∧
      ∀ x ∈ vs, x.1.foreign u = true → x.2 = {} := by
  have hd : ∀ w ∈ es.filterMap Event.document?, u.Apart w := by
    intro w hw
    obtain ⟨e, -, he⟩ := List.mem_filterMap.mp hw
    obtain ⟨t, ht⟩ := exists_parse_of_document? he
    exact ⟨fun h => Uri.eq_of_text_eq ht hu h, hp w hw⟩
  have hall := Plays.of_played u es
  have halone := Plays.of_played u (es.filter fun e => !e.foreign u)
  obtain ⟨-, -, hv, hnone⟩ := hall.mirrors hd halone
  refine ⟨(played u es).2.2, fun vs' => ⟨?_, ?_⟩, fun vs' => ⟨?_, ?_⟩, hnone⟩
  · rintro ⟨s, begun, h⟩
    obtain ⟨-, -, hv', hnone'⟩ := h.mirrors hd halone
    refine eq_of_filter_eq (p := fun e => !e.foreign u) (h.map_fst.trans hall.map_fst.symm) (hv'.symm.trans hv) ?_ ?_
    · simpa using hnone'
    · simpa using hnone
  · rintro rfl
    exact ⟨_, _, hall⟩
  · rintro ⟨s, begun, h⟩
    exact (hall.mirrors hd h).2.2.1
  · rintro rfl
    exact ⟨_, _, hv ▸ halone⟩

/-- While a run on another document never ends, the document is validated twice, the first run is superseded, and the
findings of the second are shown. -/
theorem shows_iff_alone_of_hanging_run :
    let u : Uri := { scheme := "file", authority := some {}, path := .segments ["a.sql"] }
    let w : Uri := { scheme := "file", authority := some {}, path := .segments ["b.sql"] }
    let report := "R1:1:first\n"
    let es := [greeting true, about "textDocument/didOpen" w.text, about "textDocument/didOpen" u.text,
      .configuration w.text 0 (.result (.arr [.null])), reconfiguration .null,
      .finished (bytesOf "/a.sql") 0 { stdout := report }, .finished (bytesOf "/b.sql") 0 { stdout := report },
      .configuration u.text 1 (.result (.arr [.obj []])), .finished (bytesOf "/a.sql") 0 { stdout := report }]
    let views : List View := [{}, {}, { started := [0], asked := 1 }, {}, { started := [1], asked := 1 },
      { outcomes := [(0, .superseded)] }, {}, {},
      { outcomes := [(1, .completed (.ofOutput { stdout := report }))], shown := [Diagnostic.ofReport report] }]
    Uri.parse "file:///a.sql" = .ok u ∧
    (∀ x ∈ es.filterMap Event.document?, ∀ path, u.filePath? = some path → x.filePath? = some path → x = u) ∧
    es.map (Event.foreign u) = [false, true, false, true, false, false, true, false, false] ∧
    ∃ vs, vs.map Prod.snd = views ∧
      (∀ vs', Shows u es vs' ↔ vs' = vs) ∧
      (∀ vs', Shows u (es.filter fun e => !e.foreign u) vs' ↔ vs' = vs.filter fun x => !x.1.foreign u) ∧
      ∀ x ∈ vs, x.1.foreign u = true → x.2 = {} := by
  intro u w report es views
  have hu : Uri.parse "file:///a.sql" = .ok u := by rfl
  have hdocs : es.filterMap Event.document? = [w, u] := by decide +kernel
  have hp : ∀ x ∈ es.filterMap Event.document?, ∀ path, u.filePath? = some path → x.filePath? = some path →
      x = u := by
    rw [hdocs]
    intro x hx path hpath hxpath
    have hne : w.filePath? ≠ u.filePath? := by decide +kernel
    simp only [List.mem_cons, List.not_mem_nil, or_false] at hx
    obtain rfl | rfl := hx
    · exact absurd (hxpath.trans hpath.symm) hne
    · rfl
  have hforeign : es.map (Event.foreign u) = [false, true, false, true, false, false, true, false, false] := by
    decide +kernel
  have hviews : (played u es).2.2.map Prod.snd = views := by decide +kernel
  obtain ⟨vs, hall, halone, hnone⟩ := shows_iff_alone hu hp
  have hvs := (hall _).mp ⟨_, _, Plays.of_played u es⟩
  exact ⟨hu, hp, hforeign, vs, by rw [← hvs, hviews], hall, halone, hnone⟩

end Session

end LintBridge
