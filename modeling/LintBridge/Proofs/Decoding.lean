import LintBridge.Proofs.Grammar
import LintBridge.Text.Utf8
import Mathlib.Tactic.SplitIfs

namespace LintBridge

namespace Text

theorem split_append_sep (sep : Char) (cs rest : List Char) :
    split sep (cs ++ sep :: rest) = split sep cs ++ split sep rest := by
  obtain ⟨piece, pieces, hr⟩ := List.exists_cons_of_ne_nil (split_ne_nil sep rest)
  induction cs with
  | nil => simp [split, hr]
  | cons c cs ih =>
      obtain ⟨first, others, hs⟩ := List.exists_cons_of_ne_nil (split_ne_nil sep cs)
      rw [List.cons_append, split, ih, split, hs]
      by_cases hc : c = sep <;> simp [hc]

end Text

namespace Utf8

variable {st : Option Partial} {b : UInt8}

/-- A sequence that takes no byte of ASCII and cannot end in a character of ASCII. -/
structure Partial.Sound (p : Partial) : Prop where
  low_ge : 0x80 ≤ p.low.toNat
  least : (if p.owed ≤ 1 then 0x80 else 2) ≤ p.value * 64 + (p.low.toNat - 0x80)

theorem lead_cases (b : UInt8) : lead b = .whole (Char.ofNat b.toNat) ∨ lead b = .none ∨
    ∃ p, lead b = .opens p ∧ p.Sound := by
  rw [lead]
  by_cases h1 : b.toNat < 0x80
  · exact .inl (if_pos h1)
  by_cases h2 : b.toNat < 0xC2
  · exact .inr (.inl (by rw [if_neg h1, if_pos h2]))
  rw [if_neg h1, if_neg h2]
  right
  by_cases h3 : b.toNat < 0xE0
  · refine .inr ⟨_, if_pos h3, Nat.le_refl _, ?_⟩
    change 0x80 ≤ (b.toNat - 0xC0) * 64 + (0x80 - 0x80)
    omega
  rw [if_neg h3]
  by_cases h4 : b.toNat = 0xE0
  · exact .inr ⟨_, if_pos h4, by simp, by simp⟩
  rw [if_neg h4]
  by_cases h5 : b.toNat = 0xED
  · exact .inr ⟨_, if_pos h5, by simp, by simp⟩
  rw [if_neg h5]
  by_cases h6 : b.toNat < 0xF0
  · refine .inr ⟨_, if_pos h6, Nat.le_refl _, ?_⟩
    change 2 ≤ (b.toNat - 0xE0) * 64 + (0x80 - 0x80)
    omega
  rw [if_neg h6]
  by_cases h7 : b.toNat = 0xF0
  · exact .inr ⟨_, if_pos h7, by simp, by simp⟩
  rw [if_neg h7]
  by_cases h8 : b.toNat < 0xF4
  · refine .inr ⟨_, if_pos h8, Nat.le_refl _, ?_⟩
    change 2 ≤ (b.toNat - 0xF0) * 64 + (0x80 - 0x80)
    omega
  rw [if_neg h8]
  by_cases h9 : b.toNat = 0xF4
  · exact .inr ⟨_, if_pos h9, by simp, by simp⟩
  · exact .inl (if_neg h9)

theorem sound_of_lead {p : Partial} (h : lead b = .opens p) : p.Sound := by
  obtain hw | hn | ⟨q, hq, hs⟩ := lead_cases b
  · rw [hw] at h; cases h
  · rw [hn] at h; cases h
  · rw [hq] at h; cases h; exact hs

namespace Partial.Sound

variable {p : Partial}

theorem value_extend (h : p.Sound) (hb : p.low ≤ b) :
    (if p.owed ≤ 1 then 0x80 else 2) ≤ (p.extend b).value := by
  have hl := h.least
  have hb : p.low.toNat ≤ b.toNat := UInt8.le_iff_toNat_le.mp hb
  have hv : (p.extend b).value = p.value * 64 + (b.toNat - 0x80) := rfl
  omega

theorem extend (h : p.Sound) (hb : p.low ≤ b) : (p.extend b).Sound := by
  have hv := h.value_extend hb
  have hl : (p.extend b).low.toNat = 0x80 := rfl
  constructor
  · omega
  · split_ifs at hv ⊢ <;> omega

end Partial.Sound

theorem begin_ascii (hb : b.toNat < 0x80) : begin b = ([.scalar (Char.ofNat b.toNat)], none) := by
  simp [begin, lead, hb]

theorem sound_begin {p : Partial} (h : (begin b).2 = some p) : p.Sound := by
  unfold begin at h
  split at h
  · cases h
  · rename_i q hq
    cases h
    exact sound_of_lead hq
  · cases h

theorem sound_feed (h : ∀ p ∈ st, p.Sound) (b : UInt8) : ∀ q ∈ (feed st b).2, q.Sound := by
  intro q hq
  cases st with
  | none => exact sound_begin hq
  | some p =>
      simp only [feed] at hq
      split_ifs at hq with hr ho
      · cases hq
      · cases hq
        exact (h p rfl).extend hr.1
      · exact sound_begin hq

theorem feed_ascii (h : ∀ p ∈ st, p.Sound) (hb : b.toNat < 0x80) :
    feed st b = (chunksFrom st [] ++ [.scalar (Char.ofNat b.toNat)], none) := by
  cases st with
  | none => rw [feed, begin_ascii hb]; rfl
  | some p =>
      have hr : ¬ (p.low ≤ b ∧ b ≤ p.high) := by
        rintro ⟨hl, -⟩
        have hp := (h p rfl).low_ge
        have hl := UInt8.le_iff_toNat_le.mp hl
        omega
      simp only [feed, if_neg hr, begin_ascii hb]
      rfl

theorem chunksFrom_append_ascii (h : ∀ p ∈ st, p.Sound) (hb : b.toNat < 0x80) (before after : Bytes) :
    chunksFrom st (before ++ b :: after) =
      chunksFrom st before ++ .scalar (Char.ofNat b.toNat) :: chunks after := by
  induction before generalizing st with
  | nil =>
      rw [List.nil_append, chunksFrom, feed_ascii h hb, chunks]
      simp
  | cons x before ih =>
      rw [List.cons_append, chunksFrom, chunksFrom, ih (sound_feed h x), List.append_assoc]

theorem lossy_append_ascii (hb : b.toNat < 0x80) (before after : Bytes) :
    lossy (before ++ b :: after) = lossy before ++ Char.ofNat b.toNat :: lossy after := by
  have hn : ∀ p ∈ (none : Option Partial), p.Sound := by simp
  rw [lossy, chunks, chunksFrom_append_ascii hn hb]
  simp [lossy, chunks]

theorem ofNat_eq_newline {n : Nat} (h : Char.ofNat n = '\n') : n = 10 := by
  by_cases hv : n.isValidChar
  · rw [Char.ofNat, dif_pos hv] at h
    exact congrArg Char.toNat h
  · rw [Char.ofNat, dif_neg hv] at h
    cases h

theorem eq_of_lead {c : Char} (h : lead b = .whole c) : c = Char.ofNat b.toNat := by
  obtain hw | hn | ⟨q, hq, -⟩ := lead_cases b
  · rw [hw] at h; cases h; rfl
  · rw [hn] at h; cases h
  · rw [hq] at h; cases h

theorem newline_of_begin (h : .scalar '\n' ∈ (begin b).1) : b = 0x0A := by
  unfold begin at h
  split at h
  · rename_i c hc
    obtain rfl : '\n' = c := Chunk.scalar.inj (List.mem_singleton.mp h)
    exact UInt8.toNat_inj.mp (ofNat_eq_newline (eq_of_lead hc).symm)
  · cases h
  · simp at h

theorem newline_of_feed (h : ∀ p ∈ st, p.Sound) (hm : .scalar '\n' ∈ (feed st b).1) : b = 0x0A := by
  cases st with
  | none => exact newline_of_begin hm
  | some p =>
      simp only [feed] at hm
      split_ifs at hm with hr ho
      · have hv := (h p rfl).value_extend hr.1
        have hw : (p.extend b).owed = p.owed - 1 := rfl
        have hn := ofNat_eq_newline (Chunk.scalar.inj (List.mem_singleton.mp hm)).symm
        rw [if_pos (by omega)] at hv
        omega
      · cases hm
      · exact newline_of_begin (by simpa using hm)

theorem newline_of_chunksFrom (h : ∀ p ∈ st, p.Sound) {bs : Bytes} (hm : .scalar '\n' ∈ chunksFrom st bs) :
    0x0A ∈ bs := by
  induction bs generalizing st with
  | nil => cases st <;> simp [chunksFrom] at hm
  | cons b bs ih =>
      rw [chunksFrom] at hm
      obtain hm | hm := List.mem_append.mp hm
      · rw [newline_of_feed h hm]
        exact List.mem_cons_self
      · exact List.mem_cons_of_mem _ (ih (sound_feed h b) hm)

theorem newline_notMem_lossy {bs : Bytes} (h : 0x0A ∉ bs) : '\n' ∉ lossy bs := by
  intro hm
  obtain ⟨chunk, hc, he⟩ := List.mem_map.mp hm
  cases chunk with
  | scalar c =>
      obtain rfl : c = '\n' := he
      have hn : ∀ p ∈ (none : Option Partial), p.Sound := by simp
      exact h (newline_of_chunksFrom hn hc)
  | invalid bytes =>
      have hr : replacement ≠ '\n' := by decide
      exact hr he

theorem begin_ne (b : UInt8) : begin b ≠ ([], none) := by
  unfold begin
  split <;> simp

theorem feed_ne (st : Option Partial) (b : UInt8) : feed st b ≠ ([], none) := by
  cases st with
  | none => exact begin_ne b
  | some p =>
      simp only [feed]
      split_ifs <;> simp

theorem chunksFrom_eq_nil_iff (bs : Bytes) : chunksFrom st bs = [] ↔ st = none ∧ bs = [] := by
  induction bs generalizing st with
  | nil => cases st <;> simp [chunksFrom]
  | cons b bs ih =>
      rw [chunksFrom, List.append_eq_nil_iff, ih]
      constructor
      · rintro ⟨hc, hs, -⟩
        exact absurd (Prod.ext hc hs) (feed_ne st b)
      · rintro ⟨-, hn⟩
        cases hn

end Utf8

/-- Decoding leaves no bytes without a trace. -/
theorem textOf_eq_empty_iff (bs : Bytes) : textOf bs = "" ↔ bs = [] := by
  rw [textOf, ← String.toList_eq_nil_iff, String.toList_ofList, Utf8.lossy, List.map_eq_nil_iff, Utf8.chunks,
    Utf8.chunksFrom_eq_nil_iff]
  simp

namespace Report

open Utf8 (lossy)

theorem lines_append_newline (cs rest : List Char) :
    lines (cs ++ '\n' :: rest) = lines (cs ++ ['\n']) ++ lines rest := by
  have hs : Text.split '\n' [] = [[]] := rfl
  have hn := Text.split_ne_nil '\n' rest
  simp only [lines, Text.split_append_sep, hs, List.dropLast_concat]
  rw [List.dropLast_append_of_ne_nil hn]

theorem parse_textOf (bs : Bytes) : parse (textOf bs) = (lines (lossy bs)).filterMap readLine? := by
  simp [parse, textOf]

theorem lossy_newline (before after : Bytes) : lossy (before ++ 0x0A :: after) = lossy before ++ '\n' :: lossy after :=
  Utf8.lossy_append_ascii (by decide) before after

theorem parse_textOf_append (before after : Bytes) :
    parse (textOf (before ++ 0x0A :: after)) = parse (textOf (before ++ [0x0A])) ++ parse (textOf after) := by
  have hl : lossy (before ++ [0x0A]) = lossy before ++ ['\n'] := lossy_newline before []
  rw [parse_textOf, parse_textOf, parse_textOf, hl, lossy_newline, lines_append_newline, List.filterMap_append]

theorem parse_textOf_line {line : Bytes} (h : 0x0A ∉ line) :
    parse (textOf (line ++ [0x0A])) = (readLine? (lossy line)).toList := by
  have hl : lossy (line ++ [0x0A]) = lossy line ++ '\n' :: [] := lossy_newline line []
  rw [parse_textOf, hl, lines_append (Utf8.newline_notMem_lossy h), lines_of_notMem (by simp)]
  cases hr : readLine? (lossy line) <;> simp [hr]

theorem parse_textOf_tail {tail : Bytes} (h : 0x0A ∉ tail) : parse (textOf tail) = [] := by
  rw [parse_textOf, lines_of_notMem (Utf8.newline_notMem_lossy h)]
  rfl

/-- A newline divides a report in its bytes as it does in its text, and so each line gives the finding that it would
give alone, whatever bytes the others hold. -/
theorem parse_bytes_by_lines :
    (∀ before after : Bytes,
      parse (textOf (before ++ [0x0A] ++ after)) = parse (textOf (before ++ [0x0A])) ++ parse (textOf after)) ∧
    ∀ (ls : List Bytes) (tail : Bytes), (∀ line ∈ ls, 0x0A ∉ line) → 0x0A ∉ tail →
      parse (textOf (ls.flatMap (· ++ [0x0A]) ++ tail)) = ls.filterMap fun line => readLine? (lossy line) := by
  constructor
  · intro before after
    simpa using parse_textOf_append before after
  · intro ls tail hls htail
    induction ls with
    | nil => simpa using parse_textOf_tail htail
    | cons line ls ih =>
        obtain ⟨hline, hls⟩ := List.forall_mem_cons.mp hls
        have hc : (line :: ls).flatMap (· ++ [0x0A]) ++ tail = line ++ 0x0A :: (ls.flatMap (· ++ [0x0A]) ++ tail) := by
          simp
        rw [hc, parse_textOf_append, ih hls, parse_textOf_line hline, List.filterMap_cons]
        cases readLine? (lossy line) <;> rfl

/-- The first line breaks off within a sequence of three bytes, the second has an overlong one, the third is
blank and the fourth holds half of a surrogate pair; what follows the last newline is no line. -/
theorem parse_bytes_by_lines_of_broken :
    let ls := [bytesOf "A:1:a" ++ [0xE2, 0x82], [0xC0, 0x8A] ++ bytesOf "B:2:b", [0x20, 0xC2, 0x85],
      bytesOf "C:3:c" ++ [0xED, 0xA0, 0x80]]
    let tail := bytesOf "D:4:d" ++ [0xF0]
    (∀ line ∈ ls, 0x0A ∉ line) ∧ 0x0A ∉ tail ∧
    parse (textOf (ls.flatMap (· ++ [0x0A]) ++ tail)) =
      [⟨"A", 0, "a\ufffd"⟩, ⟨"\ufffd\ufffdB", 1, "b"⟩, ⟨"C", 2, "c\ufffd\ufffd\ufffd"⟩] := by
  intro ls tail
  have hls : ∀ line ∈ ls, 0x0A ∉ line := by decide +kernel
  have htail : 0x0A ∉ tail := by decide +kernel
  refine ⟨hls, htail, ?_⟩
  rw [parse_bytes_by_lines.2 ls tail hls htail]
  decide +kernel

end Report
end LintBridge
