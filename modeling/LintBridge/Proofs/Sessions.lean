import LintBridge.Proofs.Coherence
import LintBridge.Proofs.History
import LintBridge.Server.Session

namespace LintBridge.Session

open Protocol (Method)

variable {s : Session}

def handled? (s : Session) : Event → Option Bridge.Event
  | .message m =>
      if s.lifecycle = .ready ∧ m.id.isNone then m.params.bind (bridgeEvent? (Method.ofName m.method)) else none
  | .configuration scope index a =>
      if s.lifecycle = .exited then none
      else (s.waitingPulls scope)[index]?.map fun p => .answered p.id (replyOf p.uri a)
  | .registration _ _ => none
  | .finished path index o => (s.bridge.validator.waiting path)[index]?.map fun r => .finished r.validation o
  | .elapsed ms => some (.elapsed ms)

def handshake? (s : Session) : Event → Option Json
  | .message m =>
      match Method.ofName m.method with
      | .handshakeRequest =>
          if s.lifecycle = .fresh ∧ m.id.isSome then m.params.filter Protocol.handshake.accepts else none
      | _ => none
  | _ => none

theorem receive_handled {m : Incoming} {x : Bridge.Event} (h : s.handled? (.message m) = some x) :
    s.receive m = s.pass x ∧ s.lifecycle = .ready := by
  simp only [handled?] at h
  split at h
  · rename_i hc
    obtain ⟨hl, hid⟩ := hc
    obtain ⟨params, hp, hx⟩ := Option.bind_eq_some_iff.mp h
    have hid : m.id = none := by simpa using hid
    refine ⟨?_, hl⟩
    unfold receive
    generalize Method.ofName m.method = method at hx ⊢
    cases method with
    | opened | saved | closed | configured => simp [hl, hid, hp, notification, hx]
    | handshakeRequest | handshakeDone | shutdown | exit | cancel | foldersChanged | unserved | unheeded
      | unknown => cases hx
  · cases h

theorem step_handled {e : Event} {x : Bridge.Event} (h : s.handled? e = some x) :
    s.step e = ({ s with bridge := (s.bridge.step x).1 }, mute s.lifecycle (s.bridge.step x).2) := by
  cases e with
  | message m =>
      obtain ⟨hr, hl⟩ := receive_handled h
      simp [step, hl, hr, pass, mute]
  | configuration scope index a =>
      simp only [handled?] at h
      split at h
      · cases h
      · rename_i hl
        obtain ⟨p, hp, rfl⟩ := Option.map_eq_some_iff.mp h
        simp [step, hp, hl, pass, mute]
  | registration index a => cases h
  | finished path index o =>
      obtain ⟨r, hr, rfl⟩ := Option.map_eq_some_iff.mp h
      simp [step, hr, complete, pass]
  | elapsed ms =>
      obtain rfl := Option.some.inj h
      rfl

theorem handled?_eq_finished_iff {e : Event} {validation : Nat} {o : Tool.Output} :
    s.handled? e = some (.finished validation o) ↔ ∃ path index r, e = .finished path index o ∧
      (s.bridge.validator.waiting path)[index]? = some r ∧ r.validation = validation := by
  constructor
  · intro h
    cases e with
    | message m =>
        simp only [handled?] at h
        split at h
        · obtain ⟨params, -, hx⟩ := Option.bind_eq_some_iff.mp h
          unfold bridgeEvent? at hx
          split at hx
          all_goals simp at hx
        · cases h
    | configuration scope index a =>
        simp only [handled?] at h
        split at h
        · cases h
        · obtain ⟨p, -, hx⟩ := Option.map_eq_some_iff.mp h
          cases hx
    | registration index a => cases h
    | finished path index o' =>
        obtain ⟨r, hr, hx⟩ := Option.map_eq_some_iff.mp h
        cases hx
        exact ⟨path, index, r, rfl, hr, rfl⟩
    | elapsed ms => cases h
  · rintro ⟨path, index, r, rfl, hr, rfl⟩
    simp [handled?, hr]

theorem handled?_closed {s : Session} {params : Json} {u : Uri} (hl : s.lifecycle = .ready)
    (hd : document? Protocol.closeParams Protocol.documentId params = some u) :
    s.handled? (.message { method := "textDocument/didClose", params := some params }) = some (.closed u) := by
  have hm : Method.ofName "textDocument/didClose" = .closed := by rfl
  simp [handled?, hl, hm, bridgeEvent?, hd]

def pullsAfter (s : Session) (e : Event) : Bool :=
  ((s.handshake? e).map (offers "configuration")).getD s.bridge.cache.pulls

structure Quiet (s : Session) (x : Session × List Effect) : Prop where
  bridge : x.1.bridge = s.bridge
  silent : Silent x.2

namespace Quiet

theorem refl (s : Session) : Quiet s (s, []) := ⟨rfl, rfl, rfl, rfl⟩

theorem refuse (s : Session) (id : Option Json) (why : Refusal) : Quiet s (s, refuse id why) := by
  cases id with
  | none => exact refl s
  | some id => exact ⟨rfl, rfl, rfl, rfl⟩

theorem confirm (s : Session) : Quiet s s.confirm := by
  unfold Session.confirm
  split
  · exact ⟨rfl, rfl, rfl, rfl⟩
  · exact ⟨rfl, rfl, rfl, rfl⟩

theorem shutDown (s : Session) (m : Incoming) : Quiet s (s.shutDown m) := by
  unfold Session.shutDown
  cases hid : m.id with
  | none => exact ⟨rfl, rfl, rfl, rfl⟩
  | some id =>
      cases m.params with
      | none => exact ⟨rfl, rfl, rfl, rfl⟩
      | some params => exact ⟨rfl, rfl, rfl, rfl⟩

end Quiet

/-- The request that an answer takes back if it comes when nobody hears it any more. -/
def takenBack? (s : Session) : Event → Option Settings.Pull
  | .configuration scope index _ => (s.waitingPulls scope)[index]?
  | _ => none

def remaining (s : Session) (e : Event) : List Settings.Pull :=
  s.bridge.cache.unanswered.filter fun q => (s.takenBack? e).all fun p => q.id ≠ p.id

theorem remaining_eq_self {e : Event} (h : s.takenBack? e = none) : s.remaining e = s.bridge.cache.unanswered := by
  simp [remaining, h]

structure Unmoved (s : Session) (e : Event) (x : Session × List Effect) : Prop where
  bridge : x.1.bridge =
    { s.bridge with cache := { s.bridge.cache with pulls := s.pullsAfter e, unanswered := s.remaining e } }
  silent : Silent x.2

theorem Quiet.unmoved {e : Event} {x : Session × List Effect} (h : Quiet s x) (he : s.handshake? e = none)
    (ht : s.takenBack? e = none) : s.Unmoved e x := by
  refine ⟨?_, h.silent⟩
  rw [h.bridge, pullsAfter, he, remaining_eq_self ht]
  rfl

theorem receive_handshake {m : Incoming} (hm : Method.ofName m.method = .handshakeRequest) :
    s.Unmoved (.message m) (s.receive m) := by
  have hr : s.receive m = if s.lifecycle = .fresh then s.shakeHands m else (s, refuse m.id .invalidRequest) := by
    simp only [receive, hm]
  by_cases hf : s.lifecycle = .fresh
  · rw [hr, if_pos hf]
    cases hid : m.id with
    | none =>
        have hs : s.shakeHands m = (s, []) := by simp only [shakeHands, hid]
        rw [hs]
        exact (Quiet.refl s).unmoved (by simp [handshake?, hm, hid]) rfl
    | some id =>
        cases hp : m.params.filter Protocol.handshake.accepts with
        | none =>
            have hs : s.shakeHands m = (s, refuse m.id .invalidParams) := by simp only [shakeHands, hid, hp]
            rw [hs]
            exact (Quiet.refuse s _ _).unmoved (by simp only [handshake?, hm, hp, ite_self]) rfl
        | some params =>
            have hh : s.handshake? (.message m) = some params := by simp [handshake?, hm, hf, hid, hp]
            simp only [shakeHands, hid, hp]
            exact ⟨by rw [pullsAfter, hh, remaining_eq_self rfl]; rfl, rfl, rfl, rfl⟩
  · rw [hr, if_neg hf]
    exact (Quiet.refuse s _ _).unmoved (by simp [handshake?, hm, hf]) rfl

inductive Reception (s : Session) (m : Incoming) : Session × List Effect → Prop
  | ignored : Reception s m (s, [])
  | refused (why : Refusal) : Reception s m (s, refuse m.id why)
  | exit : Reception s m ({ s with lifecycle := .exited }, [])
  | handshake (h : Method.ofName m.method = .handshakeRequest) : Reception s m (s.shakeHands m)
  | handshakeDone : Reception s m s.confirm
  | shutDown : Reception s m (s.shutDown m)
  | foldersChanged : Reception s m (s, [Bridge.note .info .session "Workspace folder change event received",
      Bridge.tell "Workspace folder change event received."])

theorem Reception.notification {m : Incoming} {method : Method} {params : Json}
    (h : bridgeEvent? method params = none) : s.Reception m (s.notification method params) := by
  cases method with
  | handshakeDone =>
      simp only [Session.notification]
      split
      · exact .handshakeDone
      · exact .ignored
  | foldersChanged =>
      simp only [Session.notification]
      split
      · exact .foldersChanged
      · exact .ignored
  | opened | saved | closed | configured | handshakeRequest | shutdown | exit | cancel | unserved | unheeded
    | unknown => simp only [Session.notification, h]; exact .ignored

theorem reception {m : Incoming} (h : s.handled? (.message m) = none) : s.Reception m (s.receive m) := by
  -- a notification gets as far as its parameters only in a session that is ready
  have hnone : s.lifecycle = .ready → m.id = none → ∀ params, m.params = some params →
      bridgeEvent? (Method.ofName m.method) params = none := by
    intro hl hid params hp
    simpa [handled?, hl, hid, hp] using h
  have hh : Method.ofName m.method = .handshakeRequest → s.Reception m (s.shakeHands m) := .handshake
  unfold receive
  generalize Method.ofName m.method = method at hnone hh ⊢
  cases method with
  | unknown =>
      dsimp only
      split
      · exact .ignored
      · exact .refused _
  | exit => exact .exit
  | cancel => exact .refused _
  | handshakeRequest =>
      dsimp only
      split
      · exact hh rfl
      · exact .refused _
  | shutdown =>
      dsimp only
      split
      · exact .shutDown
      · exact .refused _
  | unserved shape =>
      dsimp only
      split
      · exact .refused _
      · split
        · exact .refused _
        · exact .refused _
  | handshakeDone | opened | saved | closed | configured | foldersChanged | unheeded =>
      dsimp only
      by_cases hl : s.lifecycle = .ready
      · rw [if_neg (not_not.mpr hl)]
        cases hid : m.id with
        | some id =>
            have hr : s.Reception m (s, refuse m.id .invalidRequest) := .refused _
            rw [hid] at hr
            exact hr
        | none =>
            cases hp : m.params with
            | none => exact .ignored
            | some params => exact .notification (hnone hl hid params hp)
      · rw [if_pos hl]; exact .refused _

theorem receive_unhandled {m : Incoming} (h : s.handled? (.message m) = none) :
    s.Unmoved (.message m) (s.receive m) := by
  by_cases hm : Method.ofName m.method = .handshakeRequest
  · exact receive_handshake hm
  have he : s.handshake? (.message m) = none := by simp only [handshake?]
  refine Quiet.unmoved ?_ he rfl
  have hr := reception h
  generalize s.receive m = x at hr ⊢
  cases hr with
  | ignored => exact Quiet.refl s
  | refused why => exact Quiet.refuse s m.id why
  | exit => exact ⟨rfl, rfl, rfl, rfl⟩
  | handshake hh => exact absurd hh hm
  | handshakeDone => exact Quiet.confirm s
  | shutDown => exact Quiet.shutDown s m
  | foldersChanged => exact ⟨rfl, rfl, rfl, rfl⟩

theorem step_unhandled {e : Event} (h : s.handled? e = none) : s.Unmoved e (s.step e) := by
  cases e with
  | message m =>
      by_cases hl : s.lifecycle = .exited
      · have hs : s.step (.message m) = (s, []) := by simp only [step, hl, if_true]
        rw [hs]
        refine (Quiet.refl s).unmoved ?_ rfl
        simp only [handshake?, hl, reduceCtorEq, false_and, if_false]
        split <;> rfl
      · have hs : s.step (.message m) = s.receive m := by simp only [step, hl, if_false]
        rw [hs]
        exact receive_unhandled h
  | configuration scope index a =>
      simp only [step]
      cases hp : (s.waitingPulls scope)[index]? with
      | none => exact (Quiet.refl s).unmoved rfl hp
      | some p =>
          by_cases hl : s.lifecycle = .exited
          · simp only [hl, if_true]
            refine ⟨?_, rfl, rfl, rfl⟩
            simp [dropPull, pullsAfter, handshake?, remaining, takenBack?, hp]
          · simp [handled?, hl, hp] at h
  | registration index a =>
      simp only [step]
      split
      · split
        · exact Quiet.unmoved ⟨rfl, rfl, rfl, rfl⟩ rfl rfl
        · exact Quiet.unmoved ⟨rfl, rfl, rfl, rfl⟩ rfl rfl
      · exact (Quiet.refl s).unmoved rfl rfl
  | finished path index o =>
      have hr : (s.bridge.validator.waiting path)[index]? = none := by
        cases hr : (s.bridge.validator.waiting path)[index]? with
        | none => rfl
        | some r => simp [handled?, hr] at h
      have hs : s.step (.finished path index o) = (s, []) := by simp only [step, hr]
      rw [hs]
      exact (Quiet.refl s).unmoved rfl rfl
  | elapsed ms => cases h

theorem step_keeps {P : Bridge → Prop} (hP : Bridge.Kept P) (e : Event) (h : P s.bridge) :
    P (s.step e).1.bridge := by
  cases hx : s.handled? e with
  | some x => rw [step_handled hx]; exact hP.step h x
  | none =>
      rw [(step_unhandled hx).bridge]
      exact hP.requests _ _ _ List.filter_sublist.subset h

def after (s : Session) (es : List Event) : Session := es.foldl (fun s e => (s.step e).1) s

def course {α : Type} (f : Session → Event → List α) (s : Session) (es : List Event) : List α :=
  History.course (fun s e => (s.step e).1) f s es

/-- The events that reach the bridge in the course of some events, the oldest first. -/
def history (s : Session) (es : List Event) : List Bridge.Event := s.course (fun s e => (s.handled? e).toList) es

@[simp] theorem after_nil (s : Session) : s.after [] = s := rfl

@[simp] theorem after_cons (s : Session) (e : Event) (es : List Event) :
    s.after (e :: es) = (s.step e).1.after es := rfl

theorem after_append (s : Session) (es later : List Event) : s.after (es ++ later) = (s.after es).after later :=
  List.foldl_append

theorem after_concat (s : Session) (es : List Event) (e : Event) : s.after (es ++ [e]) = ((s.after es).step e).1 :=
  after_append s es [e]

theorem history_concat (s : Session) (es : List Event) (e : Event) :
    s.history (es ++ [e]) = s.history es ++ ((s.after es).handled? e).toList := History.course_concat _ s es e

theorem after_keeps {P : Bridge → Prop} (hP : Bridge.Kept P) (es : List Event) (h : P s.bridge) :
    P (s.after es).bridge := by
  induction es generalizing s with
  | nil => exact h
  | cons e es ih => exact ih (step_keeps hP e h)

theorem coherent_after (es : List Event) : (after {} es).bridge.Coherent :=
  after_keeps Bridge.Coherent.kept es .initial

/-- Whether a document is open after some events, as the editor has told: it has been opened, and it has not
been closed since. -/
def IsOpen (es : List Event) (u : Uri) : Prop := Standing (.opened u) (.closed u) (history {} es)

theorem mem_opened_step (s : Session) (e : Event) (u : Uri) : u ∈ (s.step e).1.bridge.cache.opened ↔
    s.handled? e = some (.opened u) ∨ s.handled? e ≠ some (.closed u) ∧ u ∈ s.bridge.cache.opened := by
  cases hx : s.handled? e with
  | some x =>
      rw [step_handled hx]
      simpa using Bridge.mem_opened_step s.bridge x u
  | none =>
      rw [(step_unhandled hx).bridge]
      simp

theorem mem_opened_after (es : List Event) (u : Uri) :
    u ∈ (after {} es).bridge.cache.opened ↔ IsOpen es u := by
  induction es using List.reverseRecOn with
  | nil => exact iff_of_false List.not_mem_nil Standing.not_nil
  | append_singleton es e ih =>
      rw [after_concat, mem_opened_step, ih, IsOpen, IsOpen, history_concat]
      cases hx : (after {} es).handled? e with
      | none => simp
      | some x => simp [Standing.concat_iff]

/-- What is shown in the editor because of an event, each with the validation that it comes from. After the
exit nothing gets there. -/
def published (s : Session) (e : Event) : List (Nat × Uri × List Diagnostic) :=
  if s.lifecycle = .exited then [] else ((s.handled? e).map s.bridge.published).getD []

def found? (s : Session) (id : Nat) (e : Event) : Option Settings := (s.handled? e).bind (s.bridge.found? id)

def triggered (s : Session) (e : Event) : List Uri := ((s.handled? e).map s.bridge.triggered).getD []

theorem published_step (h : s.bridge.Settled) (e : Event) :
    (s.step e).2.filterMap Effect.published? = (s.published e).map (·.2) := by
  cases hx : s.handled? e with
  | some x =>
      rw [step_handled hx, published, hx, mute]
      by_cases hl : s.lifecycle = .exited
      · simp only [hl, if_true, List.map_nil, List.filterMap_eq_nil_iff]
        intro f hf
        obtain ⟨-, hf⟩ := List.mem_filter.mp hf
        cases f with
        | send m => cases hf
        | respond r | run id path | log x => rfl
      · simpa [hl] using Bridge.published_step h x
  | none =>
      rw [(step_unhandled hx).silent.published, published, hx]
      simp

theorem publish_mem_step (h : s.bridge.Settled) (e : Event) (u : Uri) (ds : List Diagnostic) :
    .send (.publish u ds) ∈ (s.step e).2 ↔ ∃ id, (id, u, ds) ∈ s.published e := by
  rw [← Effect.mem_filterMap_published?, published_step h e]
  simp

theorem mem_published_iff (s : Session) (e : Event) (x : Nat × Uri × List Diagnostic) :
    x ∈ s.published e ↔ s.lifecycle ≠ .exited ∧ ∃ y, s.handled? e = some y ∧ x ∈ s.bridge.published y := by
  unfold published
  by_cases hl : s.lifecycle = .exited
  · simp [hl]
  · cases s.handled? e <;> simp [hl]

def greeting (configuration : Bool) : Event :=
  .message { method := "initialize", id := some (.int 1), params := some (.obj
    [("capabilities", .obj [("workspace", .obj [("configuration", .bool configuration)])])]) }

def document (uri : String) : Json :=
  .obj [("textDocument", .obj
    [("uri", .str uri), ("languageId", .str "sql"), ("version", .int 1), ("text", .str "")])]

def about (method uri : String) : Event := .message { method := method, params := some (document uri) }

def reconfiguration (settings : Json) : Event :=
  .message { method := "workspace/didChangeConfiguration", params := some (.obj [("settings", settings)]) }

end LintBridge.Session
