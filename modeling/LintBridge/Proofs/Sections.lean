import LintBridge.Settings
import Mathlib.Algebra.Group.Nat.Defs

namespace LintBridge

namespace Json

/-- The value that an object gives for a key: of several fields with the key the first counts. -/
def Has (j : Json) (key : String) (v : Json) : Prop :=
  ∃ before after, j = .obj (before ++ (key, v) :: after) ∧ ∀ field ∈ before, field.1 ≠ key

theorem has_obj_iff (fields : List (String × Json)) (key : String) (v : Json) :
    (Json.obj fields).Has key v ↔ fields.lookup key = some v := by
  rw [List.lookup_eq_some_iff, Has]
  simp only [Json.obj.injEq, bne_iff_ne, ne_comm]

theorem get?_eq_some_iff (j : Json) (key : String) (v : Json) : j.get? key = some v ↔ j.Has key v := by
  cases j with
  | obj fields => exact (has_obj_iff fields key v).symm
  | null | bool | int | float | str | arr => simp [get?, Has]

theorem bool?_eq_some_iff (j : Json) (b : Bool) : j.bool? = some b ↔ j = .bool b := by
  cases j <;> simp [bool?]

end Json

namespace Settings

def IsCount (v : Json) (n : Nat) : Prop := v = .int n ∧ n ≤ 2 ^ 64 - 1

def IsFlag (v : Json) (b : Bool) : Prop := v = .bool b

/-- A part of a section: what the section gives for it, or the default if it gives nothing. -/
def Part {α : Type} (given : Json → Prop) (Is : Json → α → Prop) (default x : α) : Prop :=
  (∃ v, given v ∧ Is v x) ∨ (∀ v, ¬ given v) ∧ x = default

inductive Section : Json → Settings → Prop
  | object {fields : List (String × Json)} {max : Nat} {always : Bool} :
      Part ((Json.obj fields).Has "maxNumberOfProblems") IsCount 1000 max →
      Part ((Json.obj fields).Has "alwaysPublish") IsFlag false always → Section (.obj fields) ⟨max, always⟩
  | array {items : List Json} {max : Nat} {always : Bool} : items.length ≤ 2 →
      Part (items[0]? = some ·) IsCount 1000 max →
      Part (items[1]? = some ·) IsFlag false always → Section (.arr items) ⟨max, always⟩

section Parts

variable {α : Type} {Is : Json → α → Prop} {default x : α}

theorem part_some_iff (v : Json) : Part (some v = some ·) Is default x ↔ Is v x := by
  simp [Part]

theorem part_none_iff : Part (none = some ·) Is default x ↔ x = default := by
  simp [Part]

theorem part_has_iff (fields : List (String × Json)) (key : String) :
    Part ((Json.obj fields).Has key) Is default x ↔ Part (fields.lookup key = some ·) Is default x := by
  simp only [Part, Json.has_obj_iff]

end Parts

theorem count?_eq_some_iff (v : Json) (n : Nat) : count? v = some n ↔ IsCount v n := by
  constructor
  · intro h
    unfold count? at h
    split at h
    · split at h
      · rename_i m hm
        obtain rfl := Option.some.inj h
        exact ⟨rfl, hm⟩
      · cases h
    · cases h
  · rintro ⟨rfl, h⟩
    exact if_pos h

theorem readCount_eq_ok_iff (given : Option Json) (n : Nat) :
    readCount given = .ok n ↔ Part (given = some ·) IsCount 1000 n := by
  cases given with
  | none =>
      rw [part_none_iff, readCount]
      simp [eq_comm]
  | some v =>
      rw [part_some_iff, ← count?_eq_some_iff, readCount]
      cases count? v <;> simp

theorem readFlag_eq_ok_iff (given : Option Json) (b : Bool) :
    readFlag given = .ok b ↔ Part (given = some ·) IsFlag false b := by
  cases given with
  | none =>
      rw [part_none_iff, readFlag]
      simp [eq_comm]
  | some v =>
      rw [part_some_iff, IsFlag, ← Json.bool?_eq_some_iff, readFlag]
      cases v.bool? <;> simp

/-- In whatever order the two values are looked at, both have to be right. -/
theorem readParts_eq_ok_iff (max always : Option Json) (m : Nat) (a : Bool) : readParts max always = .ok ⟨m, a⟩ ↔
    Part (max = some ·) IsCount 1000 m ∧ Part (always = some ·) IsFlag false a := by
  rw [← readCount_eq_ok_iff, ← readFlag_eq_ok_iff, readParts]
  cases readCount max <;> cases readFlag always <;> simp

theorem readNamed_eq_ok_iff (max always : Option Json) (m : Nat) (a : Bool) :
    readNamed max always = .ok ⟨m, a⟩ ↔ readParts max always = .ok ⟨m, a⟩ := by
  rw [readNamed, readParts]
  cases readCount max <;> cases readFlag always <;> simp

theorem section_obj_iff (fields : List (String × Json)) (m : Nat) (a : Bool) :
    Section (.obj fields) ⟨m, a⟩ ↔
      readParts (fields.lookup "maxNumberOfProblems") (fields.lookup "alwaysPublish") = .ok ⟨m, a⟩ := by
  rw [readParts_eq_ok_iff, ← part_has_iff, ← part_has_iff]
  constructor
  · rintro (⟨hm, ha⟩ | _)
    exact ⟨hm, ha⟩
  · rintro ⟨hm, ha⟩
    exact .object hm ha

theorem section_arr_iff (items : List Json) (m : Nat) (a : Bool) :
    Section (.arr items) ⟨m, a⟩ ↔ items.length ≤ 2 ∧ readParts items[0]? items[1]? = .ok ⟨m, a⟩ := by
  rw [readParts_eq_ok_iff]
  constructor
  · rintro (_ | ⟨hl, hm, ha⟩)
    exact ⟨hl, hm, ha⟩
  · rintro ⟨hl, hm, ha⟩
    exact .array hl hm ha

theorem read_arr_eq_ok_iff (items : List Json) (s : Settings) :
    read (.arr items) = .ok s ↔ items.length ≤ 2 ∧ readParts items[0]? items[1]? = .ok s := by
  obtain _ | ⟨m, _ | ⟨a, _ | ⟨item, rest⟩⟩⟩ := items
  · simp [read]
  · simp [read]
  · simp [read]
  · -- the two values are read before the length is found to be wrong
    simp only [read, List.length_cons]
    cases readParts (some m) (some a) <;> simp

theorem read_eq_ok_iff (v : Json) (s : Settings) : read v = .ok s ↔ Section v s := by
  obtain ⟨m, a⟩ := s
  cases v with
  | obj fields =>
      rw [section_obj_iff, read, readNamed_eq_ok_iff]
      rfl
  | arr items => rw [section_arr_iff, read_arr_eq_ok_iff]
  | null | bool | int | float | str =>
      simp only [read, reduceCtorEq, false_iff]
      rintro ⟨⟩

theorem ofValue_eq_iff (v : Json) (s : Settings) :
    ofValue v = s ↔ Section v s ∨ (∀ t, ¬ Section v t) ∧ s = ⟨1000, false⟩ := by
  simp only [← read_eq_ok_iff, ofValue]
  cases read v with
  | error e => simp [Except.toOption, eq_comm]
  | ok t => simp [Except.toOption]

theorem ofValue_congr {v w : Json} (h : ∀ s, Section v s ↔ Section w s) : ofValue v = ofValue w := by
  rw [ofValue_eq_iff]
  simp only [h]
  exact (ofValue_eq_iff w _).mp rfl

theorem ofValue_obj_eq_arr {fields : List (String × Json)} {max always : Json}
    (hm : (Json.obj fields).Has "maxNumberOfProblems" max) (ha : (Json.obj fields).Has "alwaysPublish" always) :
    ofValue (.obj fields) = ofValue (.arr [max, always]) := by
  rw [Json.has_obj_iff] at hm ha
  apply ofValue_congr
  rintro ⟨m, a⟩
  rw [section_obj_iff, section_arr_iff, hm, ha]
  simp

theorem ofChange_of_has {payload v : Json} (h : payload.Has "analysis-tool-settings" v) :
    ofChange payload = ofValue v := by
  have hg : payload.get? Config.settingsSection = some v := (Json.get?_eq_some_iff ..).mpr h
  rw [ofChange, hg]

theorem ofChange_of_not_has {payload : Json} (h : ∀ v, ¬ payload.Has "analysis-tool-settings" v) :
    ofChange payload = ⟨1000, false⟩ := by
  have hg : payload.get? Config.settingsSection = none :=
    Option.eq_none_iff_forall_ne_some.mpr fun v hv => h v ((Json.get?_eq_some_iff ..).mp hv)
  rw [ofChange, hg]

/-- The settings of a value are those of the section that it is, or the defaults as a whole. An object and an array that
give the same two values agree, and a payload counts only by its section. -/
theorem sections_all_or_nothing :
    (∀ v s, ofValue v = s ↔ Section v s ∨ (∀ t, ¬ Section v t) ∧ s = ⟨1000, false⟩) ∧
    (∀ fields max always, (Json.obj fields).Has "maxNumberOfProblems" max →
      (Json.obj fields).Has "alwaysPublish" always → ofValue (.obj fields) = ofValue (.arr [max, always])) ∧
    ∀ payload : Json, (∀ v, payload.Has "analysis-tool-settings" v → ofChange payload = ofValue v) ∧
      ((∀ v, ¬ payload.Has "analysis-tool-settings" v) → ofChange payload = ⟨1000, false⟩) :=
  ⟨ofValue_eq_iff, fun _ _ _ => ofValue_obj_eq_arr, fun _ => ⟨fun _ => ofChange_of_has, ofChange_of_not_has⟩⟩

/-- The largest number there is, after a flag that is null: the number does not count either. -/
theorem sections_all_or_nothing_of_null :
    let fields := [("theme", Json.str "dark"), ("alwaysPublish", .null),
      ("maxNumberOfProblems", .int 18446744073709551615)]
    let payload := Json.obj [("other", .obj []), ("analysis-tool-settings", .obj fields)]
    (Json.obj fields).Has "maxNumberOfProblems" (.int 18446744073709551615) ∧
    (Json.obj fields).Has "alwaysPublish" .null ∧ payload.Has "analysis-tool-settings" (.obj fields) ∧
    (∀ t, ¬ Section (.obj fields) t) ∧ ofChange payload = ⟨1000, false⟩ ∧
    ofValue (.arr [.int 18446744073709551615, .null]) = ⟨1000, false⟩ := by
  intro fields payload
  have hm : (Json.obj fields).Has "maxNumberOfProblems" (.int 18446744073709551615) := (Json.has_obj_iff ..).mpr rfl
  have ha : (Json.obj fields).Has "alwaysPublish" .null := (Json.has_obj_iff ..).mpr rfl
  have hp : payload.Has "analysis-tool-settings" (.obj fields) := (Json.has_obj_iff ..).mpr rfl
  have hn : ∀ t, ¬ Section (.obj fields) t := by
    intro t ht
    have hr : Except.error (Fault.badFlag .null) = Except.ok t := (read_eq_ok_iff _ t).mpr ht
    cases hr
  obtain ⟨hv, hs, hc⟩ := sections_all_or_nothing
  have hd : ofValue (.obj fields) = ⟨1000, false⟩ := (hv _ _).mpr (.inr ⟨hn, rfl⟩)
  exact ⟨hm, ha, hp, hn, ((hc payload).1 _ hp).trans hd, (hs fields _ _ hm ha).symm.trans hd⟩

end Settings

end LintBridge
