import LintBridge.Proofs.Lexemes

namespace LintBridge.Report

/-- A line that gives a finding: rule, number and message with colons between them. What a further colon
begins does not count. -/
def Entry (line : List Char) (f : Finding) : Prop :=
  ∃ rule number message rest n, line = rule ++ ':' :: (number ++ ':' :: (message ++ rest)) ∧
    ':' ∉ rule ∧ ':' ∉ number ∧ ':' ∉ message ∧ (rest = [] ∨ rest.head? = some ':') ∧
    message ≠ [] ∧ message ≠ "undefined".toList ∧ LineNumber number n ∧
    f = ⟨String.ofList rule, n - 1, String.ofList message⟩

/-- An entry, whether or not its line ends in a carriage return besides. -/
def WellFormed (line : List Char) (f : Finding) : Prop :=
  ∃ content, Entry content f ∧ (line = content ++ ['\r'] ∨ line = content ∧ content.getLast? ≠ some '\r')

inductive Reading : List (List Char) → List Finding → Prop
  | nil : Reading [] []
  | finding {line ls f fs} : WellFormed line f → Reading ls fs → Reading (line :: ls) (f :: fs)
  | skip {line ls fs} : (∀ f, ¬ WellFormed line f) → Reading ls fs → Reading (line :: ls) fs

structure Lined (text : List Char) (ls : List (List Char)) (tail : List Char) : Prop where
  eq : text = ls.flatMap (· ++ ['\n']) ++ tail
  lines : ∀ l ∈ ls, '\n' ∉ l
  tail : '\n' ∉ tail

theorem exists_lined (text : List Char) : ∃ ls tail, Lined text ls tail := by
  induction text with
  | nil => exact ⟨[], [], rfl, by simp, by simp⟩
  | cons c text ih =>
      obtain ⟨ls, tail, rfl, hl, ht⟩ := ih
      by_cases hc : c = '\n'
      · subst c
        exact ⟨[] :: ls, tail, by simp, by simpa using hl, ht⟩
      · cases ls with
        | nil => exact ⟨[], c :: tail, by simp, by simp, by simp [Ne.symm hc, ht]⟩
        | cons l ls =>
            refine ⟨(c :: l) :: ls, tail, by simp, ?_, ht⟩
            simpa [Ne.symm hc] using hl

theorem lines_of_notMem {tail : List Char} (h : '\n' ∉ tail) : lines tail = [] := by
  rw [lines, Text.split_of_notMem h]; rfl

theorem lines_append {line : List Char} (h : '\n' ∉ line) (text : List Char) :
    lines (line ++ '\n' :: text) = line :: lines text := by
  rw [lines, Text.split_append h, List.dropLast_cons_of_ne_nil (Text.split_ne_nil _ _), ← lines]

theorem Lined.lines_eq {text tail : List Char} {ls : List (List Char)} (h : Lined text ls tail) :
    Report.lines text = ls := by
  obtain ⟨rfl, hl, ht⟩ := h
  induction ls with
  | nil => exact lines_of_notMem ht
  | cons l ls ih =>
      rw [List.forall_mem_cons] at hl
      rw [List.flatMap_cons, List.append_assoc, List.append_assoc, List.singleton_append, lines_append hl.1, ih hl.2]

theorem lines_eq_iff (text : List Char) (ls : List (List Char)) :
    lines text = ls ↔ ∃ tail, Lined text ls tail := by
  constructor
  · rintro rfl
    obtain ⟨ls, tail, h⟩ := exists_lined text
    exact ⟨tail, h.lines_eq ▸ h⟩
  · rintro ⟨tail, h⟩
    exact h.lines_eq

theorem stripReturn_concat (content : List Char) : stripReturn (content ++ ['\r']) = content := by
  simp [stripReturn]

theorem stripReturn_of_ne {line : List Char} (h : line.getLast? ≠ some '\r') : stripReturn line = line := by
  simp [stripReturn, h]

theorem stripReturn_eq_iff (line content : List Char) : stripReturn line = content ↔
    line = content ++ ['\r'] ∨ line = content ∧ content.getLast? ≠ some '\r' := by
  constructor
  · intro h
    by_cases hr : line.getLast? = some '\r'
    · obtain ⟨content', rfl⟩ := List.getLast?_eq_some_iff.mp hr
      rw [stripReturn_concat] at h
      exact .inl (h ▸ rfl)
    · rw [stripReturn_of_ne hr] at h
      exact .inr ⟨h, h ▸ hr⟩
  · rintro (rfl | ⟨rfl, hr⟩)
    · exact stripReturn_concat content
    · exact stripReturn_of_ne hr

theorem wellFormed_iff (line : List Char) (f : Finding) : WellFormed line f ↔ Entry (stripReturn line) f := by
  constructor
  · rintro ⟨content, he, hc⟩
    rwa [(stripReturn_eq_iff line content).mpr hc]
  · intro he
    exact ⟨_, he, (stripReturn_eq_iff line _).mp rfl⟩

theorem isBlankLine_of_mem {line : List Char} (h : ':' ∈ line) : isBlankLine line = false := by
  obtain ⟨left, right, hf, hl, hr⟩ := Text.exists_eq_trim line
  rw [isBlankLine, Bool.eq_false_iff]
  intro he
  rw [List.isEmpty_iff.mp he, List.append_nil] at hf
  rw [hf] at h
  have hb : Text.isBlank ':' = true := (List.mem_append.mp h).elim (hl ':') (hr ':')
  exact absurd hb (by decide)

theorem Entry.colon_mem {line : List Char} {f : Finding} (h : Entry line f) : ':' ∈ line := by
  obtain ⟨rule, number, message, rest, n, rfl, -⟩ := h
  simp

theorem readFields_eq_ok_iff (fields : List (List Char)) (f : Finding) : readFields fields = .ok f ↔
    ∃ rule number message more n, fields = rule :: number :: message :: more ∧ message ≠ [] ∧
      message ≠ "undefined".toList ∧ LineNumber number n ∧ f = ⟨String.ofList rule, n - 1, String.ofList message⟩ := by
  constructor
  · intro h
    unfold readFields at h
    split at h
    · rename_i rule number message more
      split at h
      · cases h
      · rename_i k hk
        split at h
        · cases h
        · rename_i hm
          obtain ⟨hm, hu⟩ := not_or.mp hm
          exact ⟨rule, number, message, more, k + 1, rfl, hm, hu, (lineNumber?_eq_some_iff number k).mp hk,
            (Except.ok.inj h).symm⟩
    · cases h
  · rintro ⟨rule, number, message, more, n, rfl, hm, hu, hn, rfl⟩
    obtain ⟨k, rfl⟩ : ∃ k, n = k + 1 := by
      obtain ⟨-, -, -, -, -, -, -, hpos, -⟩ := hn
      exact ⟨n - 1, by omega⟩
    have hu : message ≠ noMessageText := hu
    rw [← lineNumber?_eq_some_iff] at hn
    simp [readFields, hn, hm, hu]

theorem readFields_split_eq_ok_iff (line : List Char) (f : Finding) :
    readFields (Text.split ':' line) = .ok f ↔ Entry line f := by
  rw [readFields_eq_ok_iff]
  constructor
  · rintro ⟨rule, number, message, more, n, hs, hm, hu, hn, hf⟩
    obtain ⟨rest, rfl, hr, hs⟩ := Text.eq_append_of_split_cons_cons hs
    obtain ⟨rest, rfl, hc, hs⟩ := Text.eq_append_of_split_cons_cons hs
    obtain ⟨rest, rfl, hc', hrest⟩ := Text.eq_append_of_split_cons hs
    exact ⟨rule, number, message, rest, n, rfl, hr, hc, hc', hrest, hm, hu, hn, hf⟩
  · rintro ⟨rule, number, message, rest, n, rfl, hr, hc, hc', hrest, hm, hu, hn, hf⟩
    have hmore : ∃ more, Text.split ':' (message ++ rest) = message :: more := by
      obtain rfl | hrest := hrest
      · exact ⟨[], by rw [List.append_nil, Text.split_of_notMem hc']⟩
      · obtain ⟨rest, rfl⟩ := List.head?_eq_some_iff.mp hrest
        exact ⟨_, Text.split_append hc' rest⟩
    obtain ⟨more, hs⟩ := hmore
    refine ⟨rule, number, message, more, n, ?_, hm, hu, hn, hf⟩
    rw [Text.split_append hr, Text.split_append hc, hs]

theorem readLine?_eq_some_iff (line : List Char) (f : Finding) : readLine? line = some f ↔ WellFormed line f := by
  rw [wellFormed_iff, ← readFields_split_eq_ok_iff]
  have hread : readLine? line =
      if isBlankLine (stripReturn line) then none else (readFields (Text.split ':' (stripReturn line))).toOption := rfl
  rw [hread]
  constructor
  · intro h
    split at h
    · cases h
    · cases hr : readFields (Text.split ':' (stripReturn line)) with
      | error e => simp [hr, Except.toOption] at h
      | ok g => simpa [hr, Except.toOption] using h
  · intro h
    have hb : isBlankLine (stripReturn line) = false :=
      isBlankLine_of_mem ((readFields_split_eq_ok_iff _ f).mp h).colon_mem
    simp [hb, h, Except.toOption]

theorem filterMap_readLine?_eq_iff (ls : List (List Char)) (fs : List Finding) :
    ls.filterMap readLine? = fs ↔ Reading ls fs := by
  constructor
  · rintro rfl
    induction ls with
    | nil => exact .nil
    | cons line ls ih =>
        cases h : readLine? line with
        | none =>
            rw [List.filterMap_cons_none h]
            refine .skip (fun f hf => ?_) ih
            rw [(readLine?_eq_some_iff line f).mpr hf] at h
            cases h
        | some f =>
            rw [List.filterMap_cons_some h]
            exact .finding ((readLine?_eq_some_iff line f).mp h) ih
  · intro h
    induction h with
    | nil => rfl
    | finding hf _ ih => rw [List.filterMap_cons_some ((readLine?_eq_some_iff _ _).mpr hf), ih]
    | @skip line ls fs hf _ ih =>
        have hn : readLine? line = none := by
          cases h : readLine? line with
          | none => rfl
          | some f => exact absurd ((readLine?_eq_some_iff line f).mp h) (hf f)
        rw [List.filterMap_cons_none hn, ih]

/-- The findings of a report are those that its well-formed lines give, and a line that has the form of an entry
is never taken for a blank one. -/
theorem parse_eq_iff_reading (text : String) (fs : List Finding) :
    (parse text = fs ↔ ∃ ls tail, Lined text.toList ls tail ∧ Reading ls fs) ∧
    ∀ line f, Entry line f → isBlankLine line = false := by
  refine ⟨?_, fun line f h => isBlankLine_of_mem h.colon_mem⟩
  constructor
  · intro h
    obtain ⟨tail, ht⟩ := (lines_eq_iff text.toList _).mp rfl
    exact ⟨_, tail, ht, (filterMap_readLine?_eq_iff _ fs).mp h⟩
  · rintro ⟨ls, tail, ht, hr⟩
    rw [parse, ht.lines_eq]
    exact (filterMap_readLine?_eq_iff ls fs).mpr hr

/-- A blank line, a line without a message and what follows the last newline give nothing; a sign, blanks around the
number and a further colon do no harm. -/
theorem parse_eq_iff_reading_of_sign :
    let text := "\r\n: +007 :late\t:more\r\r\nR1:2:\r\nR1:3:open"
    let f : Finding := ⟨"", 6, "late\t"⟩
    parse text = [f] ∧ ∃ ls tail, Lined text.toList ls tail ∧ Reading ls [f] := by
  intro text f
  have h : parse text = [f] := by decide +kernel
  exact ⟨h, (parse_eq_iff_reading text [f]).1.mp h⟩

end LintBridge.Report
