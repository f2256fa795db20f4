import LintBridge.Report
import Mathlib.Algebra.Group.Nat.Defs
import Mathlib.Data.List.TakeWhile

namespace LintBridge

namespace Text

variable {sep : Char} {cs : List Char}

theorem split_of_notMem (h : sep ∉ cs) : split sep cs = [cs] := by
  induction cs with
  | nil => rfl
  | cons c cs ih =>
      obtain ⟨hc, hcs⟩ := not_or.mp (List.mem_cons.not.mp h)
      rw [split, ih hcs]
      simp [Ne.symm hc]

theorem split_append (h : sep ∉ cs) (rest : List Char) : split sep (cs ++ sep :: rest) = cs :: split sep rest := by
  induction cs with
  | nil =>
      obtain ⟨piece, pieces, hs⟩ := List.exists_cons_of_ne_nil (split_ne_nil sep rest)
      simp [split, hs]
  | cons c cs ih =>
      obtain ⟨hc, hcs⟩ := not_or.mp (List.mem_cons.not.mp h)
      rw [List.cons_append, split, ih hcs]
      simp [Ne.symm hc]

theorem split_cases (sep : Char) (cs : List Char) :
    (sep ∉ cs ∧ split sep cs = [cs]) ∨
    ∃ piece rest, cs = piece ++ sep :: rest ∧ sep ∉ piece ∧ split sep cs = piece :: split sep rest := by
  by_cases h : sep ∈ cs
  · obtain ⟨piece, rest, rfl, hp⟩ := List.eq_append_cons_of_mem h
    exact .inr ⟨piece, rest, rfl, hp, split_append hp rest⟩
  · exact .inl ⟨h, split_of_notMem h⟩

theorem eq_append_of_split_cons {piece : List Char} {pieces : List (List Char)} (h : split sep cs = piece :: pieces) :
    ∃ rest, cs = piece ++ rest ∧ sep ∉ piece ∧ (rest = [] ∨ rest.head? = some sep) := by
  obtain ⟨hn, hs⟩ | ⟨piece', rest, rfl, hn, hs⟩ := split_cases sep cs
  · obtain ⟨rfl, -⟩ := List.cons.inj (h.symm.trans hs)
    exact ⟨[], by simp, hn, .inl rfl⟩
  · obtain ⟨rfl, -⟩ := List.cons.inj (h.symm.trans hs)
    exact ⟨sep :: rest, rfl, hn, .inr rfl⟩

theorem eq_append_of_split_cons_cons {piece next : List Char} {pieces : List (List Char)}
    (h : split sep cs = piece :: next :: pieces) :
    ∃ rest, cs = piece ++ sep :: rest ∧ sep ∉ piece ∧ split sep rest = next :: pieces := by
  obtain ⟨-, hs⟩ | ⟨piece', rest, rfl, hn, hs⟩ := split_cases sep cs
  · cases h.symm.trans hs
  · obtain ⟨rfl, hr⟩ := List.cons.inj (h.symm.trans hs)
    exact ⟨rest, rfl, hn, hr.symm⟩

theorem exists_eq_trim (cs : List Char) : ∃ left right, cs = left ++ trim cs ++ right ∧
    (∀ c ∈ left, isBlank c = true) ∧ ∀ c ∈ right, isBlank c = true := by
  have hend (ds : List Char) : ds = trimEnd ds ++ (ds.reverse.takeWhile isBlank).reverse := by
    rw [trimEnd, ← List.reverse_append, List.takeWhile_append_dropWhile, List.reverse_reverse]
  refine ⟨cs.takeWhile isBlank, ((trimStart cs).reverse.takeWhile isBlank).reverse, ?_, ?_, ?_⟩
  · rw [List.append_assoc, trim, ← hend, trimStart, List.takeWhile_append_dropWhile]
  · intro c hc
    exact List.mem_takeWhile_imp hc
  · intro c hc
    exact List.mem_takeWhile_imp (List.mem_reverse.mp hc)

theorem trim_append {left right : List Char} (hl : ∀ c ∈ left, isBlank c = true) (hr : ∀ c ∈ right, isBlank c = true)
    (hfirst : ∀ c ∈ cs.head?, isBlank c = false) (hlast : ∀ c ∈ cs.getLast?, isBlank c = false) :
    trim (left ++ cs ++ right) = cs := by
  have hkeep (ds : List Char) (hd : ∀ c ∈ ds.head?, isBlank c = false) (rest : List Char) (hr : ds = [] → rest = []) :
      (ds ++ rest).dropWhile isBlank = ds ++ rest := by
    cases ds with
    | nil => simp [hr rfl]
    | cons d ds => simp [hd d rfl]
  have hstart : trimStart (left ++ cs ++ right) = if cs = [] then [] else cs ++ right := by
    rw [trimStart, List.append_assoc, List.dropWhile_append_of_pos hl]
    split
    · rename_i h
      rw [h, List.nil_append, List.dropWhile_eq_nil_iff]
      exact hr
    · rename_i h
      exact hkeep cs hfirst right fun he => absurd he h
  rw [trim, hstart]
  split
  · rename_i h
    rw [h]; rfl
  · have hr' : ∀ c ∈ right.reverse, isBlank c = true := fun c h => hr c (List.mem_reverse.mp h)
    have hlast' : ∀ c ∈ cs.reverse.head?, isBlank c = false := by rwa [List.head?_reverse]
    have hk := hkeep cs.reverse hlast' [] fun _ => rfl
    rw [List.append_nil] at hk
    rw [trimEnd, List.reverse_append, List.dropWhile_append_of_pos hr', hk, List.reverse_reverse]

end Text

namespace Decimal

def Numeral (cs : List Char) (n : Nat) : Prop :=
  ∃ sign ds, cs = sign ++ ds ∧ (sign = [] ∨ sign = ['+']) ∧ ds ≠ [] ∧ (∀ d ∈ ds, d.isDigit = true) ∧ value ds = n

theorem value_eq (ds : List Char) : value ds = Nat.ofDigitChars 10 ds 0 := by
  rw [Nat.ofDigitChars_eq_foldl]; rfl

theorem le_ofDigitChars (n : Nat) (ds : List Char) : n ≤ Nat.ofDigitChars 10 ds n := by
  rw [Nat.ofDigitChars_eq_ofDigitChars_zero]
  have hpos : 0 < 10 ^ ds.length := Nat.pow_pos (by decide)
  exact Nat.le_add_right_of_le (Nat.le_mul_of_pos_left n hpos)

theorem digit?_eq (c : Char) : digit? c = if c.isDigit then some (c.toNat - 48) else none := by
  have hd : ('0' ≤ c ∧ c ≤ '9') ↔ c.isDigit = true := by
    simp [Char.isDigit, Char.le_def]
  simp only [digit?, hd]

theorem readDigits_eq_ok_iff {max n m : Nat} (hn : n ≤ max) (ds : List Char) :
    readDigits max n ds = .ok m ↔ (∀ d ∈ ds, d.isDigit = true) ∧ Nat.ofDigitChars 10 ds n = m ∧ m ≤ max := by
  induction ds generalizing n with
  | nil =>
      simp only [readDigits, Except.ok.injEq, List.not_mem_nil, Nat.ofDigitChars_nil]
      constructor
      · rintro rfl
        exact ⟨by simp, rfl, hn⟩
      · rintro ⟨-, rfl, -⟩
        rfl
  | cons c ds ih =>
      rw [readDigits, digit?_eq, Nat.ofDigitChars_cons]
      by_cases hc : c.isDigit = true
      · rw [if_pos hc]
        by_cases hlt : max < 10 * n + (c.toNat - 48)
        · -- what is too large stays so, whatever digits follow
          have hle := le_ofDigitChars (10 * n + (c.toNat - 48)) ds
          simp only [hlt, if_true, reduceCtorEq, false_iff]
          rintro ⟨-, rfl, hm⟩
          exact absurd (Nat.lt_of_lt_of_le hlt hle) (Nat.not_lt.mpr hm)
        · simp only [hlt, if_false]
          rw [ih (Nat.not_lt.mp hlt)]
          simp [hc]
      · simp [hc]

theorem read_eq_ok_iff (max : Nat) (cs : List Char) (n : Nat) : read max cs = .ok n ↔ Numeral cs n ∧ n ≤ max := by
  constructor
  · intro h
    unfold read at h
    split at h
    · cases h
    · cases h
    · rename_i ds hds
      obtain ⟨hd, hv, hm⟩ := (readDigits_eq_ok_iff (Nat.zero_le max) ds).mp h
      have hne : ds ≠ [] := fun he => hds (by rw [he])
      exact ⟨⟨['+'], ds, rfl, .inr rfl, hne, hd, (value_eq ds).trans hv⟩, hm⟩
    · rename_i ds hne _ _
      obtain ⟨hd, hv, hm⟩ := (readDigits_eq_ok_iff (Nat.zero_le max) cs).mp h
      exact ⟨⟨[], cs, rfl, .inl rfl, hne, hd, (value_eq cs).trans hv⟩, hm⟩
  · rintro ⟨⟨sign, ds, rfl, hs, hne, hd, hv⟩, hm⟩
    have hr : readDigits max 0 ds = .ok n :=
      (readDigits_eq_ok_iff (Nat.zero_le max) ds).mpr ⟨hd, (value_eq ds).symm.trans hv, hm⟩
    obtain ⟨d, ds, rfl⟩ := List.exists_cons_of_ne_nil hne
    have hplus : d ≠ '+' := by
      rintro rfl
      exact absurd (hd '+' (by simp)) (by decide)
    obtain rfl | rfl := hs
    · simp [read, hplus, hr]
    · simp [read, hr]

theorem read?_eq_some_iff (max : Nat) (cs : List Char) (n : Nat) :
    read? max cs = some n ↔ Numeral cs n ∧ n ≤ max := by
  rw [← read_eq_ok_iff, read?]
  cases read max cs <;> simp [Except.toOption]

theorem Numeral.not_blank {cs : List Char} {n : Nat} (h : Numeral cs n) : ∀ c ∈ cs, Text.isBlank c = false := by
  obtain ⟨sign, ds, rfl, hs, -, hd, -⟩ := h
  have hdigit (d : Char) (h : d.isDigit = true) : Text.isBlank d = false := by
    have hn : 48 ≤ d.toNat ∧ d.toNat ≤ 57 := by
      simp only [Char.isDigit, Bool.and_eq_true, decide_eq_true_eq, ge_iff_le, UInt32.le_iff_toNat_le] at h
      exact h
    simp only [Text.isBlank, Bool.or_eq_false_iff, Bool.and_eq_false_iff, decide_eq_false_iff_not,
      beq_eq_false_iff_ne]
    omega
  intro c hc
  obtain hc | hc := List.mem_append.mp hc
  · obtain rfl | rfl := hs
    · cases hc
    · obtain rfl := List.mem_singleton.mp hc
      decide
  · exact hdigit c (hd c hc)

theorem numeral_toDigits (n : Nat) : Numeral (Nat.toDigits 10 n) n := by
  refine ⟨[], Nat.toDigits 10 n, rfl, .inl rfl, Nat.toDigits_ne_nil, ?_, ?_⟩
  · intro d hd
    exact Nat.isDigit_of_mem_toDigits (by decide) (by decide) hd
  · rw [value_eq, Nat.ofDigitChars_ten_toDigits]

end Decimal

namespace Report

/-- What a field says that gives the number of a line: white space may stand around the number, which is at least
one and fits into 32 bits. -/
def LineNumber (field : List Char) (n : Nat) : Prop :=
  ∃ left numeral right, field = left ++ numeral ++ right ∧ (∀ c ∈ left, Text.isBlank c = true) ∧
    (∀ c ∈ right, Text.isBlank c = true) ∧ Decimal.Numeral numeral n ∧ 1 ≤ n ∧ n ≤ 2 ^ 32 - 1

theorem lineNumber?_eq_some_iff_trim (field : List Char) (k : Nat) :
    lineNumber? field = some k ↔ Decimal.Numeral (Text.trim field) (k + 1) ∧ k + 1 ≤ maxLine := by
  have hread : lineNumber? field = some k ↔ Decimal.read? maxLine (Text.trim field) = some (k + 1) := by
    unfold lineNumber?
    split
    · rename_i n hn
      simp [hn]
    · rename_i hn
      simpa using hn k
  rw [hread, Decimal.read?_eq_some_iff]

theorem lineNumber?_eq_some_iff (field : List Char) (k : Nat) :
    lineNumber? field = some k ↔ LineNumber field (k + 1) := by
  rw [lineNumber?_eq_some_iff_trim]
  constructor
  · rintro ⟨hn, hm⟩
    obtain ⟨left, right, hf, hl, hr⟩ := Text.exists_eq_trim field
    exact ⟨left, _, right, hf, hl, hr, hn, Nat.le_add_left 1 k, hm⟩
  · rintro ⟨left, numeral, right, rfl, hl, hr, hn, -, hm⟩
    have hfirst : ∀ c ∈ numeral.head?, Text.isBlank c = false := fun c hc => hn.not_blank c (List.mem_of_mem_head? hc)
    have hlast : ∀ c ∈ numeral.getLast?, Text.isBlank c = false := fun c hc => hn.not_blank c (List.mem_of_getLast? hc)
    rw [Text.trim_append hl hr hfirst hlast]
    exact ⟨hn, hm⟩

end Report

end LintBridge
