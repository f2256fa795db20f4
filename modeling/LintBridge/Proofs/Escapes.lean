import LintBridge.Proofs.NormalForm
import LintBridge.Uri.FilePath
import Mathlib.Data.List.Forall2

namespace LintBridge.Uri

open Text (marked)

theorem cons_intercalate {α : Type} (sep : α) {pieces : List (List α)} (h : pieces ≠ []) :
    sep :: [sep].intercalate pieces = pieces.flatMap (sep :: ·) := by
  induction pieces with
  | nil => exact absurd rfl h
  | cons p pieces ih =>
      cases pieces with
      | nil => simp
      | cons q pieces =>
          rw [List.intercalate_cons_cons, List.flatMap_cons, ← ih (List.cons_ne_nil q pieces)]
          simp

section Plain

structure Plain (s : List Char) : Prop where
  chars : ∀ c ∈ s, isSlash .file c = false ∧ escapedInPath c = false
  no_dot : isDot s = false
  no_dots : isDotDot s = false

variable {c : Char} {s : List Char} {segs done : List (List Char)}

theorem visible_of_kept (h : escapedInPath c = false) :
    0x20 < c.toNat ∧ isIgnored c = false ∧ c ≠ '?' ∧ c ≠ '#' := by
  have hne {d : Char} (hd : escapedInPath d = true) : c ≠ d := by
    rintro rfl
    rw [hd] at h
    cases h
  have hlow : ¬ c.toNat < 0x20 := by
    intro hlt
    simp [escapedInPath, escapedInFragment, isUnsafeAnywhere, hlt] at h
  have hspace : c.toNat ≠ 0x20 := fun he => hne (d := ' ') rfl (Char.toNat_inj.mp he)
  refine ⟨by omega, ?_, hne rfl, hne rfl⟩
  simp [isIgnored, hne (d := '\t') rfl, hne (d := '\n') rfl, hne (d := '\r') rfl]

theorem escape_eq_self {escaped : Char → Bool} (h : ∀ c ∈ s, escaped c = false) : escape escaped s = s := by
  induction s with
  | nil => rfl
  | cons c s ih =>
      obtain ⟨hc, hs⟩ := List.forall_mem_cons.mp h
      rw [escape, List.flatMap_cons, ← escape, ih hs, escapeChar, hc]
      rfl

theorem Plain.heeded_eq (h : Plain s) : heeded s = s := by
  rw [heeded, List.filter_eq_self]
  intro c hc
  simp [(visible_of_kept (h.chars c hc).2).2.1]

theorem Plain.segmentText_eq (h : Plain s) : segmentText s = s := by
  rw [segmentText, h.heeded_eq]
  exact escape_eq_self fun c hc => (h.chars c hc).2

theorem Plain.notMem (h : Plain s) (hc : isSlash .file c = true) : c ∉ s := by
  intro hm
  rw [(h.chars c hm).1] at hc
  cases hc

/-- Behind another segment a plain one is passed over; in particular it is not taken for a drive. -/
theorem resolveDots_of_plain (hd : done ≠ []) (h : ∀ s ∈ segs, Plain s) :
    resolveDots .file done segs = done.reverse ++ segs := by
  induction segs generalizing done with
  | nil => simp [resolveDots]
  | cons s segs ih =>
      obtain ⟨hs, hsegs⟩ := List.forall_mem_cons.mp h
      have hpass : passSegment .file done s = s :: done := by
        simp [passSegment, hd, hs.segmentText_eq]
      rw [resolveDots, hs.heeded_eq, hs.no_dots, hs.no_dot, hpass]
      simp [ih (List.cons_ne_nil s done) hsegs]

theorem cutSegments_eq_split (k : Kind) {cs : List Char} (h : '\\' ∉ cs) : cutSegments k cs = Text.split '/' cs := by
  induction cs with
  | nil => rfl
  | cons c cs ih =>
      obtain ⟨hc, hcs⟩ := not_or.mp (List.mem_cons.not.mp h)
      have hslash : isSlash k c = decide (c = '/') := by
        have hback : (c == '\\') = false := beq_eq_false_iff_ne.mpr (Ne.symm hc)
        rw [isSlash, hback, Bool.and_false, Bool.or_false]
        rfl
      rw [cutSegments, Text.split, ih hcs, hslash]
      cases Text.split '/' cs <;> simp

theorem cutSegments_join (hne : segs ≠ []) (h : ∀ s ∈ segs, Plain s) :
    cutSegments .file ('/' :: ['/'].intercalate segs) = [] :: segs := by
  have hback : '\\' ∉ '/' :: ['/'].intercalate segs := by
    rw [cons_intercalate '/' hne, List.mem_flatMap]
    rintro ⟨s, hs, hm⟩
    obtain he | hm := List.mem_cons.mp hm
    · exact absurd he (by decide)
    · exact (h s hs).notMem rfl hm
  have hslash : ∀ s ∈ [] :: segs, '/' ∉ s := by
    intro s hs
    obtain rfl | hs := List.mem_cons.mp hs
    · exact List.not_mem_nil
    · exact (h s hs).notMem rfl
  have hjoin : '/' :: ['/'].intercalate segs = ['/'].intercalate ([] :: segs) := by
    obtain ⟨s, ss, rfl⟩ := List.exists_cons_of_ne_nil hne
    rw [List.intercalate_cons_cons]
    rfl
  rw [cutSegments_eq_split .file hback, hjoin, Text.split_intercalate (List.cons_ne_nil [] segs) hslash]

theorem readFilePath_join (hne : segs ≠ []) (h : ∀ s ∈ segs, s ≠ [] ∧ Plain s) :
    readFilePath ('/' :: ['/'].intercalate segs) = segmentsPath segs := by
  have hplain : ∀ s ∈ segs, Plain s := fun s hs => (h s hs).2
  have hread : readSegments .file ('/' :: ['/'].intercalate segs) = [] :: segs := by
    -- the empty segment before the first slash is passed, and keeps a drive behind it from being one
    have hpass : resolveDots .file [] ([] :: segs) = resolveDots .file [[]] segs := rfl
    rw [readSegments, cutSegments_join hne hplain, hpass, resolveDots_of_plain (List.cons_ne_nil [] []) hplain]
    rfl
  obtain ⟨s, ss, rfl⟩ := List.exists_cons_of_ne_nil hne
  have hs : s.isEmpty = false := List.isEmpty_eq_false_iff.mpr (h s List.mem_cons_self).1
  rw [readFilePath, hread, filePathOf]
  simp [hs]

theorem visible_join (hne : segs ≠ []) (h : ∀ s ∈ segs, Plain s) :
    ∀ c ∈ '/' :: '/' :: '/' :: ['/'].intercalate segs, 0x20 < c.toNat ∧ c ≠ '?' ∧ c ≠ '#' := by
  have hslash : 0x20 < '/'.toNat ∧ '/' ≠ '?' ∧ '/' ≠ '#' := by decide
  rw [cons_intercalate '/' hne, List.forall_mem_cons, List.forall_mem_cons]
  refine ⟨hslash, hslash, fun c hc => ?_⟩
  obtain ⟨s, hs, hc⟩ := List.mem_flatMap.mp hc
  obtain rfl | hc := List.mem_cons.mp hc
  · exact hslash
  · obtain ⟨hv, -, hm⟩ := visible_of_kept ((h s hs).chars c hc).2
    exact ⟨hv, hm⟩

end Plain

section Suffix

/-- What may follow a path: a query, a fragment or nothing. -/
def Follows (suffix : List Char) : Prop := ∀ c ∈ suffix.head?, c = '?' ∨ c = '#'

theorem follows_marked (query fragment : Option (List Char)) : Follows (marked '?' query ++ marked '#' fragment) := by
  intro c hc
  cases query with
  | some q => exact .inl (Option.some.inj hc).symm
  | none =>
      cases fragment with
      | some f => exact .inr (Option.some.inj hc).symm
      | none => cases hc

variable {front suffix : List Char}

theorem tidy_append (hne : front ≠ []) (hf : ∀ c ∈ front, 0x20 < c.toNat) (suffix : List Char) :
    ∃ left, left <+: suffix ∧ tidy (front ++ suffix) = front ++ left := by
  let ends (c : Char) : Bool := c.toNat ≤ 0x20
  have hkeep {l : List Char} (hl : l ≠ []) (h : ∀ c ∈ l, 0x20 < c.toNat) (r : List Char) :
      (l ++ r).dropWhile ends = l ++ r := by
    obtain ⟨c, cs, rfl⟩ := List.exists_cons_of_ne_nil hl
    have hc : ends c = false := decide_eq_false (Nat.not_le.mpr (h c List.mem_cons_self))
    simp [hc]
  have hrev : front.reverse.dropWhile ends = front.reverse := by
    have hk := hkeep (List.reverse_ne_nil_iff.mpr hne) (fun c hc => hf c (List.mem_reverse.mp hc)) []
    rwa [List.append_nil] at hk
  have hdrop : (front ++ suffix).reverse.dropWhile ends = suffix.reverse.dropWhile ends ++ front.reverse := by
    rw [List.reverse_append, List.dropWhile_append, hrev]
    split
    · rename_i hnil
      rw [List.isEmpty_iff.mp hnil, List.nil_append]
    · rfl
  refine ⟨(suffix.reverse.dropWhile ends).reverse, ?_, ?_⟩
  · rw [← List.reverse_suffix, List.reverse_reverse]
    exact List.dropWhile_suffix ends
  · have htidy : tidy (front ++ suffix) = (((front ++ suffix).dropWhile ends).reverse.dropWhile ends).reverse := rfl
    rw [htidy, hkeep hne hf, hdrop, List.reverse_append, List.reverse_reverse]

theorem cutAt_fst (mark : Char) (cs : List Char) : (cutAt mark cs).1 = cs.takeWhile (· != mark) := by
  have hcs := List.takeWhile_append_dropWhile (p := (· != mark)) (l := cs)
  unfold cutAt
  split
  · rename_i hnil
    rw [hnil, List.append_nil] at hcs
    exact hcs.symm
  · rfl

theorem cutAt_cutAt_append (hf : ∀ c ∈ front, c ≠ '?' ∧ c ≠ '#') (hs : Follows suffix) :
    (cutAt '?' (cutAt '#' (front ++ suffix)).1).1 = front := by
  have hkeep {mark : Char} (hm : ∀ c ∈ front, c ≠ mark) (r : List Char) :
      (front ++ r).takeWhile (· != mark) = front ++ r.takeWhile (· != mark) :=
    List.takeWhile_append_of_pos fun c hc => bne_iff_ne.mpr (hm c hc)
  have hnil : (suffix.takeWhile (· != '#')).takeWhile (· != '?') = [] := by
    cases suffix with
    | nil => rfl
    | cons c cs =>
        obtain rfl | rfl := hs c rfl
        · rfl
        · rfl
  rw [cutAt_fst, cutAt_fst, hkeep fun c hc => (hf c hc).2, hkeep fun c hc => (hf c hc).1, hnil, List.append_nil]

theorem readHierarchy_file {cs : List Char} {a : Authority} {p : Path} (h : readFile cs = .ok (a, p)) (followed : Bool) :
    readHierarchy "file" followed cs = .ok (some a, p) := by
  have hk : Kind.ofScheme "file" = .file := rfl
  simp only [readHierarchy, hk, h]
  rfl

theorem readText_file (hne : front ≠ []) (hf : ∀ c ∈ front, 0x20 < c.toNat ∧ c ≠ '?' ∧ c ≠ '#') (hs : Follows suffix)
    {a : Authority} {p : Path} (h : readFile front = .ok (a, p)) :
    ∃ query fragment, readText ("file:".toList ++ front ++ suffix) =
      .ok { scheme := "file", authority := some a, path := p, query := query, fragment := fragment } := by
  have hscheme : "file:".toList.all (fun c => 0x20 < c.toNat) = true := by decide
  have hvisible : ∀ c ∈ "file:".toList ++ front, 0x20 < c.toNat := by
    intro c hc
    obtain hc | hc := List.mem_append.mp hc
    · exact of_decide_eq_true (List.all_eq_true.mp hscheme c hc)
    · exact (hf c hc).1
  obtain ⟨left, hleft, htidy⟩ := tidy_append (List.append_ne_nil_of_right_ne_nil _ hne) hvisible suffix
  have hfollows : Follows left := by
    obtain ⟨rest, rfl⟩ := hleft
    intro c hc
    refine hs c ?_
    rw [List.head?_append, Option.mem_def.mp hc]
    rfl
  have hcutScheme : cutScheme? ("file:".toList ++ front ++ left) = some ("file", front ++ left) := rfl
  have hcut := cutAt_cutAt_append (fun c hc => (hf c hc).2) hfollows
  unfold readText
  rw [htidy, hcutScheme]
  dsimp only
  rw [hcut, readHierarchy_file h]
  exact ⟨_, _, rfl⟩

end Suffix

theorem parse_join {names : List (List Char)} (hne : names ≠ []) (h : ∀ s ∈ names, s ≠ [] ∧ Plain s)
    (query fragment : Option String) :
    ∃ q f, parse ("file:///" ++ String.ofList (['/'].intercalate names) ++ suffixText "?" query ++
        suffixText "#" fragment) =
      .ok { scheme := "file", authority := some {}, path := segmentsPath names, query := q, fragment := f } := by
  have hread : readFile ('/' :: '/' :: '/' :: ['/'].intercalate names) = .ok ({}, segmentsPath names) := by
    rw [← readFilePath_join hne h]
    rfl
  have hchars := visible_join hne fun s hs => (h s hs).2
  have hfollows := follows_marked (query.map String.toList) (fragment.map String.toList)
  have hq : (suffixText "?" query).toList = _ := toList_suffixText '?' query
  have hf : (suffixText "#" fragment).toList = _ := toList_suffixText '#' fragment
  obtain ⟨q, f, hparse⟩ := readText_file (List.cons_ne_nil _ _) hchars hfollows hread
  refine ⟨q, f, ?_⟩
  rw [parse, ← hparse]
  simp [hq, hf]

section Escaped

def HexDigit (n : Nat) (c : Char) : Prop := c = Nat.digitChar n ∨ c = (Nat.digitChar n).toUpper

inductive Escaped : Bytes → List Char → Prop
  | nil : Escaped [] []
  | byte {b : UInt8} {bs : Bytes} {high low : Char} {cs : List Char} : HexDigit (b.toNat / 16) high →
      HexDigit (b.toNat % 16) low → Escaped bs cs → Escaped (b :: bs) ('%' :: high :: low :: cs)

variable {n : Nat} {c : Char} {bs : Bytes} {cs : List Char}

theorem HexDigit.kept (hn : n < 16) (h : HexDigit n c) : isSlash .file c = false ∧ escapedInPath c = false := by
  have hlower : ∀ n < 16, isSlash .file (Nat.digitChar n) = false ∧ escapedInPath (Nat.digitChar n) = false := by decide
  have hupper : ∀ n < 16, isSlash .file (Nat.digitChar n).toUpper = false ∧
      escapedInPath (Nat.digitChar n).toUpper = false := by decide
  obtain rfl | rfl := h
  · exact hlower n hn
  · exact hupper n hn

theorem HexDigit.value (hn : n < 16) (h : HexDigit n c) :
    ∃ x, Utf8.encodeChar c = [x] ∧ hexValue? x = some n.toUInt8 := by
  have hlower : ∀ n < 16, Utf8.encodeChar (Nat.digitChar n) = [(Nat.digitChar n).toNat.toUInt8] ∧
      hexValue? (Nat.digitChar n).toNat.toUInt8 = some n.toUInt8 := by decide
  have hupper : ∀ n < 16, Utf8.encodeChar (Nat.digitChar n).toUpper = [(Nat.digitChar n).toUpper.toNat.toUInt8] ∧
      hexValue? (Nat.digitChar n).toUpper.toNat.toUInt8 = some n.toUInt8 := by decide
  obtain rfl | rfl := h
  · exact ⟨_, hlower n hn⟩
  · exact ⟨_, hupper n hn⟩

theorem digits_toNat (b : UInt8) : b.toNat / 16 < 16 ∧ b.toNat % 16 < 16 := by
  have hb := b.toNat_lt
  omega

theorem escaped?_digits (b : UInt8) {x y : UInt8} (hx : hexValue? x = some (b.toNat / 16).toUInt8)
    (hy : hexValue? y = some (b.toNat % 16).toUInt8) : escaped? 0x25 x y = some b := by
  have hb : (b.toNat / 16).toUInt8 * 16 + (b.toNat % 16).toUInt8 = b := by
    have hlt := b.toNat_lt
    apply UInt8.toNat_inj.mp
    simp
    omega
  simp [escaped?, hx, hy, hb]

theorem Escaped.unescape_encode (h : Escaped bs cs) : unescape (Utf8.encode cs) = bs := by
  induction h with
  | nil => rfl
  | @byte b bs high low cs hh hl _ ih =>
      obtain ⟨x, hx, hxv⟩ := hh.value (digits_toNat b).1
      obtain ⟨y, hy, hyv⟩ := hl.value (digits_toNat b).2
      have hencode : Utf8.encode ('%' :: high :: low :: cs) = 0x25 :: x :: y :: Utf8.encode cs := by
        simp only [Utf8.encode, List.flatMap_cons, hx, hy]
        rfl
      rw [hencode, unescape, escaped?_digits b hxv hyv, ih]

theorem Escaped.kept (h : Escaped bs cs) : ∀ c ∈ cs, isSlash .file c = false ∧ escapedInPath c = false := by
  induction h with
  | nil => simp
  | @byte b bs high low cs hh hl _ ih =>
      rw [List.forall_mem_cons, List.forall_mem_cons, List.forall_mem_cons]
      exact ⟨⟨rfl, rfl⟩, hh.kept (digits_toNat b).1, hl.kept (digits_toNat b).2, ih⟩

theorem Escaped.eq_dots (h : Escaped bs cs) (hd : plainDots cs = List.replicate n '.') :
    bs = List.replicate n 0x2E := by
  induction h generalizing n with
  | nil =>
      cases n with
      | zero => rfl
      | succ n => cases hd
  | @byte b bs high low cs hh hl h ih =>
      have hbytes := (Escaped.byte hh hl h).unescape_encode
      have hdot (hb : 0x2E :: unescape (Utf8.encode cs) = b :: bs) (hd : '.' :: plainDots cs = List.replicate n '.') :
          b :: bs = List.replicate n 0x2E := by
        cases n with
        | zero => cases hd
        | succ n => rw [List.replicate_succ, ← ih (List.cons.inj hd).2, (List.cons.inj hb).1]
      unfold plainDots at hd
      split at hd
      · rename_i heq
        simp only [List.cons.injEq, true_and] at heq
        obtain ⟨rfl, rfl, rfl⟩ := heq
        exact hdot hbytes hd
      · rename_i heq
        simp only [List.cons.injEq, true_and] at heq
        obtain ⟨rfl, rfl, rfl⟩ := heq
        exact hdot hbytes hd
      · -- any other escape keeps its percent sign
        rename_i heq
        obtain ⟨rfl, -⟩ := List.cons.inj heq
        cases n with
        | zero => cases hd
        | succ n => exact absurd (List.cons.inj hd).1 (by decide)
      · rename_i heq
        cases heq

theorem Escaped.plain (h : Escaped bs cs) (hdot : bs ≠ [0x2E]) (hdots : bs ≠ [0x2E, 0x2E]) : Plain cs where
  chars := h.kept
  no_dot := beq_eq_false_iff_ne.mpr fun hd => hdot (h.eq_dots (n := 1) hd)
  no_dots := beq_eq_false_iff_ne.mpr fun hd => hdots (h.eq_dots (n := 2) hd)

theorem Escaped.ne_nil (h : Escaped bs cs) (hne : bs ≠ []) : cs ≠ [] := by
  cases h with
  | nil => exact absurd rfl hne
  | byte => exact List.cons_ne_nil _ _

theorem plain_of_escaped {segs : List Bytes} {names : List (List Char)} (h : List.Forall₂ Escaped segs names)
    (hs : ∀ bs ∈ segs, bs ≠ [] ∧ bs ≠ bytesOf "." ∧ bs ≠ bytesOf "..") : ∀ cs ∈ names, cs ≠ [] ∧ Plain cs := by
  induction h with
  | nil => simp
  | cons hb _ ih =>
      rw [List.forall_mem_cons] at hs ⊢
      obtain ⟨⟨hne, hdot, hdots⟩, hs⟩ := hs
      exact ⟨⟨hb.ne_nil hne, hb.plain hdot hdots⟩, ih hs⟩

theorem flatMap_segmentBytes {segs : List Bytes} {names : List (List Char)} (h : List.Forall₂ Escaped segs names) :
    (names.map String.ofList).flatMap segmentBytes = segs.flatMap (0x2F :: ·) := by
  induction h with
  | nil => rfl
  | @cons bs cs segs names hb _ ih =>
      have hbytes : segmentBytes (String.ofList cs) = 0x2F :: bs := by
        rw [segmentBytes, bytesOf, String.toList_ofList, hb.unescape_encode]
      rw [List.map_cons, List.flatMap_cons, List.flatMap_cons, ih, hbytes]

end Escaped

section Drive

/-- A letter and a colon or a bar at the end of a path. -/
def EndsInDrive (path : Bytes) : Prop := ∃ before letter mark, path = before ++ [letter, mark] ∧
  ((0x41 ≤ letter ∧ letter ≤ 0x5A) ∨ (0x61 ≤ letter ∧ letter ≤ 0x7A)) ∧ (mark = 0x3A ∨ mark = 0x7C)

variable {path : Bytes}

theorem closeDrive_of_drive (h : EndsInDrive (0x2F :: path)) : closeDrive (0x2F :: path) = 0x2F :: path ++ [0x2F] := by
  obtain ⟨before, letter, mark, he, hl, hm⟩ := h
  have hletter : isLetterByte letter = true := by simpa [isLetterByte] using hl
  have hmark : (mark == 0x3A || mark == 0x7C) = true := by simpa using hm
  -- the path begins with a slash, which is no letter
  obtain ⟨b, bs, hb⟩ : ∃ b bs, before.reverse = b :: bs := by
    apply List.exists_cons_of_ne_nil
    rw [Ne, List.reverse_eq_nil_iff]
    rintro rfl
    obtain ⟨rfl, -⟩ := List.cons.inj he
    exact absurd hletter (by decide)
  have hrev : (0x2F :: path).reverse = mark :: letter :: b :: bs := by
    rw [he, List.reverse_append, hb]
    rfl
  unfold closeDrive
  rw [hrev]
  simp [hletter, hmark]

theorem closeDrive_of_not (h : ¬ EndsInDrive path) : closeDrive path = path := by
  unfold closeDrive
  split
  · rename_i mark letter b bs hrev
    have he : path = (b :: bs).reverse ++ [letter, mark] := by
      rw [← List.reverse_reverse path, hrev]
      simp
    split
    · rename_i hdrive
      simp only [Bool.and_eq_true, Bool.or_eq_true, beq_iff_eq] at hdrive
      refine absurd ⟨_, letter, mark, he, ?_, hdrive.2⟩ h
      simpa [isLetterByte] using hdrive.1
    · rfl
  · rfl

end Drive

/-- Every local file is reached by the URI that escapes all bytes of its names, in either case. The path has exactly
these bytes, whatever query and fragment follow, and one more slash where it would end in the name of a drive. -/
theorem escaped_path_reached {segs : List Bytes} (hne : segs ≠ [])
    (hsegs : ∀ s ∈ segs, s ≠ [] ∧ s ≠ bytesOf "." ∧ s ≠ bytesOf "..") {names : List (List Char)}
    (hnames : List.Forall₂ Escaped segs names) (query fragment : Option String) :
    let path : Bytes := 0x2F :: [0x2F].intercalate segs
    ∃ u, parse ("file:///" ++ String.ofList (['/'].intercalate names) ++ suffixText "?" query ++
        suffixText "#" fragment) = .ok u ∧
      (EndsInDrive path → u.filePath? = some (path ++ [0x2F])) ∧ (¬ EndsInDrive path → u.filePath? = some path) := by
  intro path
  have hsome : names ≠ [] := by
    rintro rfl
    exact hne (List.forall₂_nil_right_iff.mp hnames)
  have hpath : (names.map String.ofList).flatMap segmentBytes = path :=
    (flatMap_segmentBytes hnames).trans (cons_intercalate 0x2F hne).symm
  obtain ⟨q, f, hparse⟩ := parse_join hsome (plain_of_escaped hnames hsegs) query fragment
  refine ⟨_, hparse, ?_⟩
  simp only [filePath?, segmentsPath, hpath]
  exact ⟨fun hd => congrArg some (closeDrive_of_drive hd), fun hd => congrArg some (closeDrive_of_not hd)⟩

/-- A slash, a zero, a percent sign and a byte that is no text in one name, three dots in the next, a drive at the end,
digits of both cases, and marks within the query. -/
theorem escaped_path_reached_of_drive :
    let path := [0x2F, 0x2F, 0x00, 0x25, 0xFF, 0x2F, 0x2E, 0x2E, 0x2E, 0x2F, 0x63, 0x3A]
    ∃ u, parse "file:///%2f%00%25%fF/%2e%2E%2e/%63%3A?a#b?c#\t" = .ok u ∧ u.filePath? = some (path ++ [0x2F]) := by
  intro path
  have hnames : List.Forall₂ Escaped [[0x2F, 0x00, 0x25, 0xFF], [0x2E, 0x2E, 0x2E], [0x63, 0x3A]]
      ["%2f%00%25%fF".toList, "%2e%2E%2e".toList, "%63%3A".toList] :=
    .cons (.byte (.inl rfl) (.inl rfl) (.byte (.inl rfl) (.inl rfl) (.byte (.inl rfl) (.inl rfl)
        (.byte (.inl rfl) (.inr rfl) .nil))))
      (.cons (.byte (.inl rfl) (.inl rfl) (.byte (.inl rfl) (.inr rfl) (.byte (.inl rfl) (.inl rfl) .nil)))
        (.cons (.byte (.inl rfl) (.inl rfl) (.byte (.inl rfl) (.inr rfl) .nil)) .nil))
  obtain ⟨u, hu, hdrive, -⟩ := escaped_path_reached (by decide) (by decide) hnames (some "a#b?c") (some "\t")
  exact ⟨u, hu, hdrive ⟨path.take 10, 0x63, 0x3A, by decide, by decide, by decide⟩⟩

end LintBridge.Uri
