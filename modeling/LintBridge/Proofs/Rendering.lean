import LintBridge.Proofs.Grammar
import LintBridge.Proofs.Hosts
import Mathlib.Data.List.Basic

namespace LintBridge.Report

open Uri.Host (notMem_toDigits)

structure Renderable (f : Finding) : Prop where
  rule_colon : ':' ∉ f.rule.toList
  rule_newline : '\n' ∉ f.rule.toList
  message_colon : ':' ∉ f.message.toList
  message_newline : '\n' ∉ f.message.toList
  message_ne_empty : f.message ≠ ""
  message_ne_undefined : f.message ≠ "undefined"
  line_le : f.line ≤ 2 ^ 32 - 2

def entryText (f : Finding) : List Char :=
  f.rule.toList ++ ':' :: (Nat.toDigits 10 (f.line + 1) ++ ':' :: f.message.toList)

theorem renderLine_eq (f : Finding) : renderLine f = (entryText f ++ ['\r']) ++ ['\n'] := by
  simp [renderLine, entryText]

namespace Renderable

variable {f : Finding}

theorem entry (h : Renderable f) : Entry (entryText f) f := by
  have hm : f.message.toList ≠ [] := fun he => h.message_ne_empty (String.toList_eq_nil_iff.mp he)
  have hu : f.message.toList ≠ "undefined".toList := fun he => h.message_ne_undefined (String.toList_injective he)
  have hn : LineNumber (Nat.toDigits 10 (f.line + 1)) (f.line + 1) := by
    have hl := h.line_le
    exact ⟨[], _, [], by simp, by simp, by simp, Decimal.numeral_toDigits _, by omega, by omega⟩
  refine ⟨f.rule.toList, _, f.message.toList, [], f.line + 1, by simp [entryText], h.rule_colon,
    notMem_toDigits (by decide) (by decide) (by decide) _, h.message_colon, .inl rfl, hm, hu, hn, ?_⟩
  simp

theorem newline_notMem (h : Renderable f) : '\n' ∉ entryText f ++ ['\r'] := by
  have hn : '\n' ∉ Nat.toDigits 10 (f.line + 1) := notMem_toDigits (by decide) (by decide) (by decide) _
  simp [entryText, h.rule_newline, h.message_newline, hn]

end Renderable

theorem lined_render {fs : List Finding} (h : ∀ f ∈ fs, Renderable f) :
    Lined (render fs).toList (fs.map fun f => entryText f ++ ['\r']) [] where
  eq := by
    rw [render, String.toList_ofList, List.append_nil, List.flatMap_map, funext renderLine_eq]
  lines l hl := by
    obtain ⟨f, hf, rfl⟩ := List.mem_map.mp hl
    exact (h f hf).newline_notMem
  tail := by simp

theorem parse_render {fs : List Finding} (h : ∀ f ∈ fs, Renderable f) : parse (render fs) = fs := by
  rw [parse, (lined_render h).lines_eq, List.filterMap_map]
  have hread : ∀ f ∈ fs, readLine? (entryText f ++ ['\r']) = some f := fun f hf =>
    (readLine?_eq_some_iff _ f).mpr ⟨entryText f, (h f hf).entry, .inl rfl⟩
  exact (List.filterMap_congr hread).trans List.filterMap_some

theorem renderable_of_entry {line : List Char} {f : Finding} (h : Entry line f) (hn : '\n' ∉ line) :
    Renderable f := by
  obtain ⟨rule, number, message, rest, n, rfl, hr, -, hm, -, hne, hu, hl, rfl⟩ := h
  obtain ⟨hrule, -, hmessage, -⟩ := by simpa using hn
  obtain ⟨-, -, -, -, -, -, -, -, hle⟩ := hl
  refine ⟨by simpa using hr, by simpa using hrule, by simpa using hm, by simpa using hmessage, ?_, ?_, ?_⟩
  · simpa using hne
  · intro he
    exact hu (by rw [← he, String.toList_ofList])
  · change n - 1 ≤ _
    omega

/-- What is read from a report can be written in one: a line of it holds no newline, and so neither do the parts
of its entry. -/
theorem renderable_of_mem_parse {text : String} {f : Finding} (h : f ∈ parse text) : Renderable f := by
  obtain ⟨line, hl, hr⟩ := List.mem_filterMap.mp h
  obtain ⟨tail, ht⟩ := (lines_eq_iff text.toList _).mp rfl
  obtain ⟨content, he, hc⟩ := (readLine?_eq_some_iff line f).mp hr
  have hn := ht.lines line hl
  refine renderable_of_entry he fun hm => hn ?_
  obtain rfl | ⟨rfl, -⟩ := hc
  · exact List.mem_append_left _ hm
  · exact hm

/-- Reading undoes rendering, and to render what was read from a report and to read it again changes nothing. -/
theorem parse_render_normal (fs : List Finding) (text : String) :
    ((∀ f ∈ fs, Renderable f) → parse (render fs) = fs) ∧ (∀ f ∈ parse text, Renderable f) ∧
      parse (render (parse text)) = parse text :=
  ⟨parse_render, fun _ => renderable_of_mem_parse, parse_render fun _ => renderable_of_mem_parse⟩

/-- A message that ends in a carriage return, on the last line that has a number. -/
theorem parse_render_normal_of_return :
    let f : Finding := ⟨"", 4294967294, "undefined\r"⟩
    Renderable f ∧ parse (render [f]) = [f] := by
  intro f
  have h : Renderable f := ⟨by decide, by decide, by decide, by decide, by decide, by decide, by decide⟩
  exact ⟨h, (parse_render_normal [f] "").1 (by simpa using h)⟩

end LintBridge.Report
