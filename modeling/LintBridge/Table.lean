namespace LintBridge

/-- A finite table as a list of entries, at most one for each key. -/
abbrev Table (κ ν : Type) := List (κ × ν)

namespace Table

variable {κ ν : Type} [DecidableEq κ]

def get? (t : Table κ ν) (k : κ) : Option ν := (t.find? (·.1 = k)).map (·.2)

def erase (t : Table κ ν) (k : κ) : Table κ ν := t.filter (·.1 ≠ k)

def set (t : Table κ ν) (k : κ) (v : ν) : Table κ ν := t.erase k ++ [(k, v)]

def keys (t : Table κ ν) : List κ := t.map (·.1)

@[simp] theorem get?_nil (k : κ) : get? ([] : Table κ ν) k = none := rfl

theorem get?_cons (e : κ × ν) (t : Table κ ν) (k : κ) :
    get? (e :: t) k = if e.1 = k then some e.2 else get? t k := by
  by_cases h : e.1 = k <;> simp [get?, h]

@[simp] theorem get?_erase_self (t : Table κ ν) (k : κ) : (t.erase k).get? k = none := by
  simp [get?, erase]

theorem get?_erase_of_ne (t : Table κ ν) {k j : κ} (h : j ≠ k) : (t.erase k).get? j = t.get? j := by
  induction t with
  | nil => rfl
  | cons e t ih =>
      by_cases he : e.1 = k
      · have hj : e.1 ≠ j := fun hj => h (hj.symm.trans he)
        have hs : erase (e :: t) k = erase t k := by simp [erase, he]
        rw [hs, ih, get?_cons, if_neg hj]
      · have hs : erase (e :: t) k = e :: erase t k := by simp [erase, he]
        rw [hs, get?_cons, get?_cons, ih]

theorem get?_append (s t : Table κ ν) (k : κ) : get? (s ++ t) k = (get? s k).or (get? t k) := by
  induction s with
  | nil => simp
  | cons e s ih =>
      rw [List.cons_append, get?_cons, get?_cons, ih]
      by_cases h : e.1 = k <;> simp [h]

@[simp] theorem get?_set_self (t : Table κ ν) (k : κ) (v : ν) : (t.set k v).get? k = some v := by
  simp [set, get?_append, get?_cons]

theorem get?_set_of_ne (t : Table κ ν) {k j : κ} (v : ν) (h : j ≠ k) :
    (t.set k v).get? j = t.get? j := by
  simp [set, get?_append, get?_erase_of_ne t h, get?_cons, Ne.symm h]

theorem keys_erase (t : Table κ ν) (k : κ) : (t.erase k).keys = t.keys.filter (· ≠ k) := by
  rw [keys, keys, List.filter_map]; rfl

theorem keys_set (t : Table κ ν) (k : κ) (v : ν) : (t.set k v).keys = t.keys.filter (· ≠ k) ++ [k] := by
  rw [← keys_erase]
  simp [keys, set]

theorem mem_keys_iff (t : Table κ ν) (k : κ) : k ∈ t.keys ↔ t.get? k ≠ none := by
  induction t with
  | nil => simp [keys]
  | cons e t ih =>
      rw [get?_cons, keys, List.map_cons, List.mem_cons]
      by_cases h : e.1 = k
      · simp [h]
      · rw [if_neg h, ← ih, keys]
        simp [Ne.symm h]

theorem nodup_keys_erase {t : Table κ ν} (h : t.keys.Nodup) (k : κ) : (t.erase k).keys.Nodup := by
  rw [keys_erase]
  exact h.sublist List.filter_sublist

theorem nodup_keys_set {t : Table κ ν} (h : t.keys.Nodup) (k : κ) (v : ν) : (t.set k v).keys.Nodup := by
  rw [keys_set, List.nodup_append]
  refine ⟨h.sublist List.filter_sublist, by simp, ?_⟩
  intro a ha b hb
  obtain rfl := List.mem_singleton.mp hb
  simpa using (List.mem_filter.mp ha).2

theorem get?_of_mem {t : Table κ ν} (h : t.keys.Nodup) {e : κ × ν} (he : e ∈ t) : t.get? e.1 = some e.2 := by
  induction t with
  | nil => cases he
  | cons x t ih =>
      obtain ⟨hx, ht⟩ := List.nodup_cons.mp h
      rw [get?_cons]
      obtain rfl | he := List.mem_cons.mp he
      · simp
      · have hne : x.1 ≠ e.1 := fun hk => hx (List.mem_map.mpr ⟨e, he, hk.symm⟩)
        rw [if_neg hne]
        exact ih ht he

end Table

end LintBridge
