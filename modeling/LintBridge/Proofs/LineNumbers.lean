import LintBridge.Proofs.Lexemes

namespace LintBridge

namespace Text

structure Trimmed (cs core : List Char) : Prop where
  around : ∃ left right, cs = left ++ core ++ right ∧ (∀ c ∈ left, isBlank c = true) ∧ ∀ c ∈ right, isBlank c = true
  first : ∀ c ∈ core.head?, isBlank c = false
  last : ∀ c ∈ core.getLast?, isBlank c = false

theorem not_blank_of_dropWhile {cs : List Char} {c : Char} (h : c ∈ (cs.dropWhile isBlank).head?) :
    isBlank c = false := by
  have hn := List.head?_dropWhile_not isBlank cs
  rw [Option.mem_def.mp h] at hn
  simpa using hn

theorem trimmed_trim (cs : List Char) : Trimmed cs (trim cs) where
  around := exists_eq_trim cs
  first := by
    intro c hc
    -- what is cut off at the end leaves the first character in its place
    obtain ⟨rest, hrest⟩ : trim cs <+: trimStart cs := by
      rw [trim, trimEnd, ← List.reverse_suffix, List.reverse_reverse]
      exact List.dropWhile_suffix _
    have hstart : c ∈ (trimStart cs).head? := by
      rw [← hrest, List.head?_append, Option.mem_def.mp hc]
      rfl
    exact not_blank_of_dropWhile hstart
  last := by
    intro c hc
    rw [trim, trimEnd, List.getLast?_reverse] at hc
    exact not_blank_of_dropWhile hc

theorem trimmed_iff (cs core : List Char) : Trimmed cs core ↔ core = trim cs := by
  constructor
  · rintro ⟨⟨left, right, rfl, hl, hr⟩, hfirst, hlast⟩
    exact (trim_append hl hr hfirst hlast).symm
  · rintro rfl
    exact trimmed_trim cs

end Text

namespace Decimal

def placeValue : List Char → Nat
  | [] => 0
  | d :: ds => (d.toNat - 48) * 10 ^ ds.length + placeValue ds

def Signed (cs ds : List Char) : Prop := (cs = ds ∨ cs = '+' :: ds) ∧ ds ≠ [] ∧ ∀ d ∈ ds, d.isDigit = true

theorem value_eq_placeValue (ds : List Char) : value ds = placeValue ds := by
  induction ds with
  | nil => rfl
  | cons d ds ih =>
      rw [value_eq] at ih ⊢
      rw [Nat.ofDigitChars_cons, Nat.ofDigitChars_eq_ofDigitChars_zero, ih, placeValue]
      simp [Nat.mul_comm]

theorem numeral_iff (cs : List Char) (n : Nat) : Numeral cs n ↔ ∃ ds, Signed cs ds ∧ placeValue ds = n := by
  constructor
  · rintro ⟨sign, ds, rfl, hs, hne, hd, hv⟩
    refine ⟨ds, ⟨?_, hne, hd⟩, (value_eq_placeValue ds).symm.trans hv⟩
    obtain rfl | rfl := hs
    · exact .inl rfl
    · exact .inr rfl
  · rintro ⟨ds, ⟨hs, hne, hd⟩, hv⟩
    have hv := (value_eq_placeValue ds).trans hv
    obtain rfl | rfl := hs
    · exact ⟨[], cs, rfl, .inl rfl, hne, hd, hv⟩
    · exact ⟨['+'], ds, rfl, .inr rfl, hne, hd, hv⟩

namespace Signed

variable {cs ds es : List Char}

/-- A plus sign is no digit, so that there is one way to take it off. -/
theorem unique (hd : Signed cs ds) (he : Signed cs es) : ds = es := by
  have hplus {xs : List Char} (h : ∀ d ∈ '+' :: xs, d.isDigit = true) : False :=
    absurd (h '+' List.mem_cons_self) (by decide)
  obtain ⟨rfl | rfl, -, hdd⟩ := hd <;> obtain ⟨he | he, -, hee⟩ := he
  · exact he
  · subst he
    exact (hplus hdd).elim
  · subst he
    exact (hplus hee).elim
  · exact (List.cons.inj he).2

theorem plus_or_digit (h : Signed cs ds) : ∀ c ∈ cs, c = '+' ∨ c.isDigit = true := by
  obtain ⟨rfl | rfl, -, hd⟩ := h
  · exact fun c hc => .inr (hd c hc)
  · intro c hc
    obtain rfl | hc := List.mem_cons.mp hc
    · exact .inl rfl
    · exact .inr (hd c hc)

theorem not_plus (h : Signed ['+'] ds) : False := by
  obtain ⟨rfl | he, hne, hd⟩ := h
  · exact absurd (hd '+' List.mem_cons_self) (by decide)
  · exact hne (List.cons.inj he).2.symm

theorem no_minus (h : Signed cs ds) : '-' ∉ cs := by
  intro hm
  obtain he | hd := h.plus_or_digit '-' hm
  · exact absurd he (by decide)
  · exact absurd hd (by decide)

theorem not_blank (h : Signed cs ds) : ∀ c ∈ cs, Text.isBlank c = false :=
  ((numeral_iff cs _).mpr ⟨ds, h, rfl⟩).not_blank

end Signed

end Decimal

namespace Report

open Decimal

theorem lineNumber?_eq_some_iff_signed (field : List Char) (k : Nat) : lineNumber? field = some k ↔
    ∃ ds, Signed (Text.trim field) ds ∧ 1 ≤ placeValue ds ∧ placeValue ds ≤ maxLine ∧ k = placeValue ds - 1 := by
  rw [lineNumber?_eq_some_iff_trim, numeral_iff]
  constructor
  · rintro ⟨⟨ds, hs, hv⟩, hm⟩
    exact ⟨ds, hs, by omega, by omega, by omega⟩
  · rintro ⟨ds, hs, hpos, hm, hk⟩
    exact ⟨⟨ds, hs, by omega⟩, by omega⟩

theorem lineNumber?_eq_none_iff (field : List Char) : lineNumber? field = none ↔
    ∀ ds, Signed (Text.trim field) ds → placeValue ds = 0 ∨ maxLine < placeValue ds := by
  rw [Option.eq_none_iff_forall_not_mem]
  constructor
  · intro h ds hs
    by_contra hv
    refine h (placeValue ds - 1) ((lineNumber?_eq_some_iff_signed field _).mpr ⟨ds, hs, ?_, ?_, rfl⟩) <;> omega
  · intro h k hk
    obtain ⟨ds, hs, hpos, hm, -⟩ := (lineNumber?_eq_some_iff_signed field k).mp hk
    have hv := h ds hs
    omega

/-- A field gives a line, counted from zero, if what is left of it without the white space at its ends is a number from
1 to 4294967295, however many digits it has. Otherwise it gives none, as for zero, every larger number, a sign alone, a
minus sign and white space within. -/
theorem lineNumber_exact (field : List Char) : ∃ core, (∀ cs, Text.Trimmed field cs ↔ cs = core) ∧
    (∀ k, lineNumber? field = some k ↔
      ∃ ds, Signed core ds ∧ 1 ≤ placeValue ds ∧ placeValue ds ≤ 4294967295 ∧ k = placeValue ds - 1) ∧
    ((¬ ∃ ds, Signed core ds ∧ 1 ≤ placeValue ds ∧ placeValue ds ≤ 4294967295) → lineNumber? field = none) ∧
    (∀ ds, Signed core ds → placeValue ds = 0 ∨ 4294967295 < placeValue ds → lineNumber? field = none) ∧
    (core = ['+'] ∨ '-' ∈ core ∨ (∃ c ∈ core, Text.isBlank c = true) → lineNumber? field = none) := by
  refine ⟨Text.trim field, Text.trimmed_iff field, lineNumber?_eq_some_iff_signed field, ?_, ?_, ?_⟩
  · intro hno
    rw [lineNumber?_eq_none_iff]
    intro ds hs
    by_contra hv
    exact hno ⟨ds, hs, by omega, by simp only [maxLine] at hv; omega⟩
  · intro ds hs hv
    rw [lineNumber?_eq_none_iff]
    intro es he
    rwa [he.unique hs]
  · intro hbad
    rw [lineNumber?_eq_none_iff]
    -- what is no number has no digits to be counted
    intro ds hs
    exfalso
    obtain hplus | hminus | ⟨c, hc, hb⟩ := hbad
    · rw [hplus] at hs
      exact hs.not_plus
    · exact hs.no_minus hminus
    · rw [hs.not_blank c hc] at hb
      cases hb

/-- The largest number, with a sign and zeros before it, and one that exceeds it only by its first digit. -/
theorem lineNumber_exact_of_bound :
    lineNumber? "\u3000+004294967295\t".toList = some 4294967294 ∧ lineNumber? "5294967295\u0085".toList = none := by
  constructor
  · obtain ⟨core, hcore, hsome, -⟩ := lineNumber_exact "\u3000+004294967295\t".toList
    have ht : Text.Trimmed "\u3000+004294967295\t".toList "+004294967295".toList :=
      ⟨⟨['\u3000'], ['\t'], by decide, by rintro c (_ | ⟨_, ⟨⟩⟩); rfl, by rintro c (_ | ⟨_, ⟨⟩⟩); rfl⟩,
        by rintro c ⟨⟩; rfl, by rintro c ⟨⟩; rfl⟩
    obtain rfl := (hcore _).mp ht
    refine (hsome _).mpr ⟨"004294967295".toList, ⟨.inr (by decide), by decide, List.all_eq_true.mp (by decide)⟩, ?_⟩
    decide +kernel
  · obtain ⟨core, hcore, -, -, hlarge, -⟩ := lineNumber_exact "5294967295\u0085".toList
    have ht : Text.Trimmed "5294967295\u0085".toList "5294967295".toList :=
      ⟨⟨[], ['\u0085'], by decide, by rintro c ⟨⟩, by rintro c (_ | ⟨_, ⟨⟩⟩); rfl⟩, by rintro c ⟨⟩; rfl,
        by rintro c ⟨⟩; rfl⟩
    obtain rfl := (hcore _).mp ht
    exact hlarge "5294967295".toList ⟨.inl rfl, by decide, List.all_eq_true.mp (by decide)⟩ (.inr (by decide +kernel))

end Report

end LintBridge
