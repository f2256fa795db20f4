import LintBridge.Proofs.Grammar

namespace LintBridge.Report

/-- Writes a carriage return before the chosen newlines of a text, which are counted from zero. -/
def withReturns (chosen : Nat → Bool) : List Char → List Char
  | [] => []
  | c :: cs =>
      if c = '\n' then (if chosen 0 then ['\r'] else []) ++ '\n' :: withReturns (fun i => chosen (i + 1)) cs
      else c :: withReturns chosen cs

example : withReturns (· != 1) "a\n\nb\n\rc".toList = "a\r\n\nb\r\n\rc".toList := by decide

def returned (chosen : Bool) (line : List Char) : List Char := line ++ if chosen then ['\r'] else []

variable {chosen : Nat → Bool} {line text : List Char}

theorem withReturns_of_notMem (h : '\n' ∉ text) : withReturns chosen text = text := by
  induction text with
  | nil => rfl
  | cons c cs ih =>
      obtain ⟨hc, hcs⟩ := not_or.mp (List.mem_cons.not.mp h)
      rw [withReturns, if_neg (Ne.symm hc), ih hcs]

theorem withReturns_append (h : '\n' ∉ line) (text : List Char) :
    withReturns chosen (line ++ '\n' :: text) =
      returned (chosen 0) line ++ '\n' :: withReturns (fun i => chosen (i + 1)) text := by
  induction line with
  | nil => simp [withReturns, returned]
  | cons c cs ih =>
      obtain ⟨hc, hcs⟩ := not_or.mp (List.mem_cons.not.mp h)
      rw [List.cons_append, withReturns, if_neg (Ne.symm hc), ih hcs]
      simp [returned]

theorem newline_notMem_returned (h : '\n' ∉ line) (b : Bool) : '\n' ∉ returned b line := by
  cases b <;> simp [returned, h]

theorem lines_withReturns (chosen : Nat → Bool) (text : List Char) :
    lines (withReturns chosen text) = (lines text).mapIdx fun i line => returned (chosen i) line := by
  obtain ⟨ls, tail, rfl, hl, ht⟩ := exists_lined text
  -- by lines and not by characters: each line takes the first choice and leaves the others to the rest
  induction ls generalizing chosen with
  | nil =>
      rw [List.flatMap_nil, List.nil_append, withReturns_of_notMem ht, lines_of_notMem ht]
      rfl
  | cons line ls ih =>
      obtain ⟨hline, hls⟩ := List.forall_mem_cons.mp hl
      have hc : (line :: ls).flatMap (· ++ ['\n']) ++ tail = line ++ '\n' :: (ls.flatMap (· ++ ['\n']) ++ tail) := by
        simp
      rw [hc, withReturns_append hline, lines_append (newline_notMem_returned hline _), lines_append hline, ih _ hls,
        List.mapIdx_cons]

theorem stripReturn_returned (h : line.getLast? ≠ some '\r') (b : Bool) : stripReturn (returned b line) = line := by
  cases b with
  | false => rw [returned, if_neg Bool.false_ne_true, List.append_nil, stripReturn_of_ne h]
  | true => exact stripReturn_concat line

theorem readLine?_returned (h : line.getLast? ≠ some '\r') (b : Bool) : readLine? (returned b line) = readLine? line := by
  rw [readLine?, stripReturn_returned h, readLine?, stripReturn_of_ne h]

theorem filterMap_readLine?_returned {ls : List (List Char)} (h : ∀ line ∈ ls, line.getLast? ≠ some '\r')
    (chosen : Nat → Bool) :
    (ls.mapIdx fun i line => returned (chosen i) line).filterMap readLine? = ls.filterMap readLine? := by
  induction ls generalizing chosen with
  | nil => rfl
  | cons line ls ih =>
      obtain ⟨hline, hls⟩ := List.forall_mem_cons.mp h
      rw [List.mapIdx_cons, List.filterMap_cons, readLine?_returned hline, ih hls, ← List.filterMap_cons]

/-- A line that ends in a carriage return has the newline that ends it right after it. -/
theorem getLast?_of_mem_lines (h : ¬ ['\r', '\n'] <:+: text) : ∀ line ∈ lines text, line.getLast? ≠ some '\r' := by
  intro line hline hr
  obtain ⟨tail, ht⟩ := (lines_eq_iff text _).mp rfl
  obtain ⟨content, rfl⟩ := List.getLast?_eq_some_iff.mp hr
  obtain ⟨before, after, hs⟩ := List.append_of_mem hline
  refine h ⟨before.flatMap (· ++ ['\n']) ++ content, after.flatMap (· ++ ['\n']) ++ tail, ?_⟩
  rw [ht.eq, hs]
  simp

/-- The findings of a report whose lines all end in a bare newline stay the same when any of its newlines are given a
carriage return. -/
theorem parse_withReturns (text : String) (chosen : Nat → Bool) (h : ¬ ['\r', '\n'] <:+: text.toList) :
    parse (String.ofList (withReturns chosen text.toList)) = parse text := by
  rw [parse, String.toList_ofList, lines_withReturns, filterMap_readLine?_returned (getLast?_of_mem_lines h), ← parse]

/-- Returns within a line, a number or a message as the last field, a blank line, and a text after the last newline. -/
theorem parse_withReturns_of_mixture :
    let text := "A:1:x\ry\n\t\n:2\n\r: +3 :undefined \nB:4:undefined\nC:5:\r:z\n\rD:6:d"
    ¬ ['\r', '\n'] <:+: text.toList ∧
    parse (String.ofList (withReturns (· != 3) text.toList)) =
      [⟨"A", 0, "x\ry"⟩, ⟨"\r", 2, "undefined "⟩, ⟨"C", 4, "\r"⟩] := by
  intro text
  have h : ¬ ['\r', '\n'] <:+: text.toList := by decide +kernel
  refine ⟨h, ?_⟩
  rw [parse_withReturns text _ h]
  decide +kernel

end LintBridge.Report
