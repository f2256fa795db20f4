import LintBridge.Proofs.UriText

namespace LintBridge.Uri

theorem mem_escapeByte {b : UInt8} {c : Char} (h : c ∈ escapeByte b) : c = '%' ∨ ∃ n < 16, c = hexChar n := by
  have hb := b.toNat_lt
  simp only [escapeByte, List.mem_cons, List.not_mem_nil, or_false] at h
  obtain h | h | h := h
  · exact .inl h
  · exact .inr ⟨b.toNat / 16, by omega, h⟩
  · exact .inr ⟨b.toNat % 16, by omega, h⟩

theorem mem_escape {escaped : Char → Bool} {cs : List Char} {c : Char} (h : c ∈ escape escaped cs) :
    (c ∈ cs ∧ escaped c = false) ∨ c = '%' ∨ ∃ n < 16, c = hexChar n := by
  obtain ⟨d, hd, hc⟩ := List.mem_flatMap.mp h
  unfold escapeChar at hc
  split at hc
  · obtain ⟨b, -, hb⟩ := List.mem_flatMap.mp hc
    exact .inr (mem_escapeByte hb)
  · rename_i he
    rw [List.mem_singleton.mp hc]
    exact .inl ⟨hd, by simpa using he⟩

theorem mem_of_mem_escape {escaped : Char → Bool} {cs : List Char} {c : Char}
    (hc : c ∈ ['/', '?', '#', '@', ':', '[', '.']) (h : c ∈ escape escaped cs) : c ∈ cs ∧ escaped c = false := by
  have hhex : ∀ n < 16, hexChar n ∉ ['/', '?', '#', '@', ':', '[', '.'] := by decide
  obtain h | rfl | ⟨n, hn, rfl⟩ := mem_escape h
  · exact h
  · exact absurd hc (by decide)
  · exact absurd hc (hhex n hn)

theorem escapeChar_cases (escaped : Char → Bool) (c : Char) :
    escapeChar escaped c = [c] ∨ ∃ rest, escapeChar escaped c = '%' :: rest := by
  unfold escapeChar
  split
  · have hfirst {b : UInt8} {bs : Bytes} : ∃ rest, (b :: bs).flatMap escapeByte = '%' :: rest := ⟨_, rfl⟩
    unfold Utf8.encodeChar
    dsimp only
    split
    · exact .inr hfirst
    · split
      · exact .inr hfirst
      · split <;> exact .inr hfirst
  · exact .inl rfl

theorem length_le_escape (escaped : Char → Bool) (cs : List Char) : cs.length ≤ (escape escaped cs).length := by
  induction cs with
  | nil => exact Nat.zero_le _
  | cons c cs ih =>
      have hone : 1 ≤ (escapeChar escaped c).length := by
        obtain he | ⟨rest, he⟩ := escapeChar_cases escaped c <;> simp [he]
      simp only [escape, List.flatMap_cons, List.length_append, List.length_cons] at ih ⊢
      omega

section Segments

variable {k : Kind} {s : List Char} {segs done : List (List Char)}

theorem cutSegments_ne_nil (k : Kind) (cs : List Char) : cutSegments k cs ≠ [] := by
  cases cs with
  | nil => simp [cutSegments]
  | cons c cs =>
      rw [cutSegments]
      split
      · simp
      · split <;> simp

theorem mem_cutSegments {cs : List Char} (h : s ∈ cutSegments k cs) : ∀ c ∈ s, isSlash k c = false := by
  induction cs generalizing s with
  | nil =>
      rw [cutSegments, List.mem_singleton] at h
      rw [h]
      simp
  | cons d cs ih =>
      rw [cutSegments] at h
      split at h
      · rename_i hnil
        exact absurd hnil (cutSegments_ne_nil k cs)
      · rename_i t ts heq
        rw [heq] at ih
        split at h
        · obtain rfl | h := List.mem_cons.mp h
          · simp
          · exact ih h
        · rename_i hd
          obtain rfl | h := List.mem_cons.mp h
          · intro c hc
            obtain rfl | hc := List.mem_cons.mp hc
            · simpa using hd
            · exact ih List.mem_cons_self c hc
          · exact ih (List.mem_cons_of_mem t h)

theorem goUp_subset (done : List (List Char)) : goUp done ⊆ done := by
  unfold goUp
  split
  · exact List.Subset.refl _
  · split
    · exact List.Subset.refl _
    · exact List.subset_cons_self _ _

/-- What is true of the empty segment and of every segment that stands for itself is true of all that are left. -/
theorem resolveDots_forall {P : List Char → Prop} (hnil : P [])
    (hpass : ∀ s ∈ segs, isDot (heeded s) = false → ∀ done, (∀ x ∈ done, P x) → ∀ x ∈ passSegment k done s, P x)
    (hd : ∀ x ∈ done, P x) : ∀ x ∈ resolveDots k done segs, P x := by
  have hup {done : List (List Char)} (hd : ∀ x ∈ done, P x) : ∀ x ∈ goUp done, P x :=
    fun x hx => hd x (goUp_subset done hx)
  have hend {done : List (List Char)} (hd : ∀ x ∈ done, P x) : ∀ x ∈ ([] :: done).reverse, P x := by
    intro x hx
    obtain rfl | hx := List.mem_cons.mp (List.mem_reverse.mp hx)
    · exact hnil
    · exact hd x hx
  induction segs generalizing done with
  | nil => exact fun x hx => hd x (List.mem_reverse.mp hx)
  | cons s ss ih =>
      have ih {done : List (List Char)} (hd : ∀ x ∈ done, P x) : ∀ x ∈ resolveDots k done ss, P x :=
        ih (fun t ht => hpass t (List.mem_cons_of_mem s ht)) hd
      rw [resolveDots]
      split
      · split
        · exact hend (hup hd)
        · exact ih (hup hd)
      · split
        · split
          · exact hend hd
          · exact ih hd
        · rename_i hdot
          exact ih (hpass s List.mem_cons_self (by simpa using hdot) done hd)

theorem passSegment_ne_nil (k : Kind) (done : List (List Char)) (s : List Char) : passSegment k done s ≠ [] := by
  unfold passSegment
  split
  · split <;> simp
  · simp

theorem resolveDots_ne_nil (h : segs ≠ [] ∨ done ≠ []) : resolveDots k done segs ≠ [] := by
  induction segs generalizing done with
  | nil => simpa [resolveDots] using h
  | cons s ss ih =>
      rw [resolveDots]
      split
      · split
        · simp
        · rename_i hss
          exact ih (.inl (by simpa using hss))
      · split
        · split
          · simp
          · rename_i hss
            exact ih (.inl (by simpa using hss))
        · exact ih (.inr (passSegment_ne_nil k done s))

theorem readSegments_ne_nil (k : Kind) (cs : List Char) : readSegments k cs ≠ [] :=
  resolveDots_ne_nil (.inl (cutSegments_ne_nil k cs))

def IsSegment (s : List Char) : Prop := ∀ c ∈ s, c ∉ ['/', '?', '#']

theorem isSegment_escape (h : '/' ∉ s) : IsSegment (escape escapedInPath s) := by
  intro c hc hm
  obtain ⟨hs, he⟩ := mem_of_mem_escape (List.mem_append_left ['@', ':', '[', '.'] hm) hc
  simp only [List.mem_cons, List.not_mem_nil, or_false] at hm
  obtain rfl | rfl | rfl := hm
  · exact h hs
  · cases he
  · cases he

theorem isSegment_drive {a : Char} (ha : isLetter a = true) : IsSegment [a, ':'] := by
  intro c hc hm
  simp only [List.mem_cons, List.not_mem_nil, or_false] at hc
  obtain rfl | rfl := hc
  · simp only [List.mem_cons, List.not_mem_nil, or_false] at hm
    obtain rfl | rfl | rfl := hm <;> cases ha
  · revert hm
    decide

theorem notMem_heeded {c : Char} {cs : List Char} (h : c ∉ cs) : c ∉ heeded cs :=
  fun hm => h (List.mem_filter.mp hm).1

theorem isSegment_brokenDrive? {drive rest : List Char} (hs : '/' ∉ s) (h : brokenDrive? s = some (drive, rest)) :
    IsSegment drive ∧ '/' ∉ rest := by
  unfold brokenDrive? at h
  split at h
  · cases h
  · rename_i a t ht
    have hat : '/' ∉ t := by
      intro hm
      have hm : '/' ∈ s.dropWhile isIgnored := by
        rw [ht]
        exact List.mem_cons_of_mem a hm
      exact hs ((List.dropWhile_suffix _).subset hm)
    split at h
    · rename_i b t' ht'
      split at h
      · rename_i hcond
        simp only [Option.some.injEq, Prod.mk.injEq] at h
        obtain ⟨rfl, rfl⟩ := h
        simp only [Bool.and_eq_true] at hcond
        refine ⟨isSegment_drive hcond.1.1, notMem_heeded fun hm => ?_⟩
        have hm : '/' ∈ t.dropWhile isIgnored := by
          rw [ht']
          exact List.mem_cons_of_mem _ (List.mem_cons_of_mem _ hm)
        exact hat ((List.dropWhile_suffix _).subset hm)
      · cases h
    · cases h

theorem isSegment_colonDrive (h : IsSegment s) : IsSegment (colonDrive s) := by
  unfold colonDrive
  split
  · intro c hc
    obtain hc | hc := List.mem_append.mp hc
    · exact h c (List.mem_of_mem_take hc)
    · rw [List.mem_singleton.mp hc]
      decide
  · exact h

theorem isSegment_passSegment (hs : '/' ∉ s) (hd : ∀ x ∈ done, IsSegment x) :
    ∀ x ∈ passSegment k done s, IsSegment x := by
  have ht : IsSegment (segmentText s) := isSegment_escape (notMem_heeded hs)
  unfold passSegment
  intro x hx
  split at hx
  · split at hx
    · rename_i drive rest hb
      obtain ⟨hdrive, hrest⟩ := isSegment_brokenDrive? hs hb
      simp only [List.mem_cons, List.not_mem_nil, or_false] at hx
      obtain rfl | rfl := hx
      · exact isSegment_escape hrest
      · exact hdrive
    · rw [List.mem_singleton.mp hx]
      exact isSegment_colonDrive ht
  · obtain rfl | hx := List.mem_cons.mp hx
    · exact ht
    · exact hd x hx

theorem isSegment_readSegments {cs : List Char} : ∀ x ∈ readSegments k cs, IsSegment x := by
  refine resolveDots_forall (by simp [IsSegment]) (fun s hs _ done hd => isSegment_passSegment ?_ hd) (by simp)
  intro hm
  have hslash := mem_cutSegments hs '/' hm
  simp [isSlash] at hslash

/-- Where no drives are known, no segment that is left is a dot. -/
theorem ne_dot_readSegments {cs : List Char} : ∀ x ∈ readSegments .other cs, x ≠ ['.'] := by
  refine resolveDots_forall (by simp) (fun s _ hdot done hd x hx => ?_) (by simp)
  have hx : x ∈ segmentText s :: done := hx
  obtain rfl | hx := List.mem_cons.mp hx
  · intro ht
    have hmem : '.' ∈ escape escapedInPath (heeded s) := by
      rw [segmentText] at ht
      rw [ht]
      exact List.mem_singleton_self _
    have hs := (mem_of_mem_escape (by decide) hmem).1
    have hlen := length_le_escape escapedInPath (heeded s)
    rw [segmentText] at ht
    rw [ht] at hlen
    have heq : heeded s = ['.'] := by
      cases hh : heeded s with
      | nil => rw [hh] at hs; cases hs
      | cons c cs =>
          rw [hh] at hs hlen
          have hcs : cs = [] := by
            cases cs with
            | nil => rfl
            | cons d cs => simp at hlen
          subst hcs
          rw [List.mem_singleton.mp hs]
    rw [heq] at hdot
    revert hdot
    decide
  · exact hd x hx

end Segments

namespace Host

theorem length_of_ipv6? {cs : List Char} {ps : List Nat} (h : ipv6? cs = some ps) : ps.length = 8 := by
  unfold ipv6? at h
  dsimp only at h
  split at h
  · obtain ⟨qs, -, h⟩ := Option.bind_eq_some_iff.mp h
    split at h
    · rename_i hl
      obtain rfl : qs = ps := Option.some.inj h
      exact hl
    · cases h
  · split at h
    · cases h
    · obtain ⟨a, -, h⟩ := Option.bind_eq_some_iff.mp h
      obtain ⟨b, -, h⟩ := Option.bind_eq_some_iff.mp h
      split at h
      · obtain rfl := Option.some.inj h
        simp only [List.length_append, List.length_replicate]
        omega
      · cases h

theorem normal_of_readBracketed {cs : List Char} {h : Host} (hr : readBracketed cs = .ok h) (special : Bool) :
    h.Normal special := by
  unfold readBracketed at hr
  split at hr
  · rename_i ps hps
    obtain rfl := Except.ok.inj hr
    obtain ⟨inner, -, hps⟩ := Option.bind_eq_some_iff.mp hps
    exact length_of_ipv6? hps
  · cases hr

theorem normal_of_readSpecial {cs : List Char} {h : Host} (hr : readSpecial cs = .ok h) : h.Normal true := by
  have hmarks : ∀ c ∈ ['/', '?', '#', '@', ':', '['], isForbidden c = true :=
    List.all_eq_true.mp (by decide)
  unfold readSpecial at hr
  split at hr
  · exact normal_of_readBracketed hr true
  · split at hr
    · cases hr
    · rename_i ds hds
      dsimp only at hr
      split at hr
      · cases hr
      · rename_i hfair
        split at hr
        · cases hr
        · rename_i hne
          split at hr
          · split at hr
            · obtain rfl := Except.ok.inj hr
              rfl
            · cases hr
          · rename_i hnum
            obtain rfl := Except.ok.inj hr
            simp only [Bool.or_eq_true, not_or, Bool.not_eq_true] at hfair
            simp only [Normal, String.toList_ofList]
            refine ⟨by simpa using hne, fun c hc hm => ?_, fun _ => by simpa using hnum⟩
            have hno := List.any_eq_false.mp hfair.1 c hc
            exact hno (hmarks c hm)

theorem normal_of_readPlain {cs : List Char} {h : Host} (hcs : cs ≠ []) (hr : readPlain cs = .ok h) :
    h.Normal false := by
  have hmarks : ∀ c ∈ ['/', '?', '#', '@', ':', '['], isForbiddenPlain c = true :=
    List.all_eq_true.mp (by decide)
  unfold readPlain at hr
  split at hr
  · exact normal_of_readBracketed hr false
  · split at hr
    · cases hr
    · rename_i hany
      obtain rfl := Except.ok.inj hr
      simp only [Normal, String.toList_ofList]
      refine ⟨fun hnil => ?_, fun c hc hm => ?_, by simp⟩
      · have hlen := length_le_escape isUnsafeAnywhere cs
        rw [hnil] at hlen
        exact hcs (List.eq_nil_of_length_eq_zero (Nat.le_zero.mp hlen))
      · obtain ⟨hmem, -⟩ := mem_of_mem_escape (List.mem_append_left ['.'] hm) hc
        exact List.any_eq_false.mp (by simpa using hany) c hmem (hmarks c hm)

end Host

theorem mem_userText {cs : List Char} {t : String} (h : userText cs = some t) :
    ∀ c ∈ t.toList, c ∉ ['/', '?', '#', '@'] := by
  have hmarks : ∀ c ∈ ['/', '?', '#', '@'], escapedInUserinfo c = true := List.all_eq_true.mp (by decide)
  have hesc (ds : List Char) : ∀ c ∈ escape escapedInUserinfo ds, c ∉ ['/', '?', '#', '@'] := by
    intro c hc hm
    obtain ⟨-, he⟩ := mem_of_mem_escape (List.mem_append_left [':', '[', '.'] hm) hc
    rw [hmarks c hm] at he
    cases he
  unfold userText at h
  dsimp only at h
  generalize cutAt ':' cs = cut at h
  split at h
  · split at h
    · cases h
    · obtain rfl := Option.some.inj h
      rw [String.toList_ofList]
      exact hesc cut.1
  · split at h
    · cases h
    · obtain rfl := Option.some.inj h
      rw [String.toList_ofList]
      intro c hc hm
      obtain hc | hc := List.mem_append.mp hc
      · exact hesc cut.1 c hc hm
      · obtain hc | hc := List.mem_cons.mp hc
        · rw [hc] at hm
          revert hm
          decide
        · exact hesc _ c hc hm

theorem exists_ok_of_bind {ε α β : Type} {x : Except ε α} {f : α → Except ε β} {b : β} (h : x >>= f = .ok b) :
    ∃ a, x = .ok a ∧ f a = .ok b := by
  cases x with
  | error e => cases h
  | ok a => exact ⟨a, rfl, h⟩

theorem exists_ok_of_map {ε α β : Type} {x : Except ε α} {f : α → β} {b : β} (h : x.map f = .ok b) :
    ∃ a, x = .ok a ∧ f a = b := by
  cases x with
  | error e => cases h
  | ok a => exact ⟨a, rfl, Except.ok.inj h⟩

theorem normal_of_readAuthority {scheme : String} {k : Kind} (hk : k ≠ .file) {followed : Bool} {cs left : List Char}
    {a : Authority} (h : readAuthority scheme k followed cs = .ok (a, left)) : a.Normal k.isSpecial := by
  have hport {user : Option String} {host : Option Host} {digits : Option (List Char)} {rest : List Char}
      (hu : ∀ t, user = some t → ∀ c ∈ t.toList, c ∉ ['/', '?', '#', '@'])
      (hh : ∀ x, host = some x → x.Normal k.isSpecial)
      (h : (readPort scheme digits >>= fun port =>
        pure ({ user := user, host := host, port := port }, rest)) = .ok (a, left)) : a.Normal k.isSpecial := by
    obtain ⟨port, -, h⟩ := exists_ok_of_bind h
    obtain ⟨rfl, -⟩ := Prod.mk.inj (Except.ok.inj h)
    exact ⟨hu, hh⟩
  have huser (cs : Option (List Char)) : ∀ t, cs.bind userText = some t → ∀ c ∈ t.toList, c ∉ ['/', '?', '#', '@'] := by
    intro t ht
    obtain ⟨user, -, ht⟩ := Option.bind_eq_some_iff.mp ht
    exact mem_userText ht
  unfold readAuthority at h
  dsimp only at h
  generalize cutUser cs = cut at h
  generalize cutPort false cut.2 = named at h
  split at h
  · cases h
  · split at h
    · exact hport (huser _) (by simp) h
    · rename_i hne
      split at h
      · rename_i hw
        obtain rfl : k = .web := by simpa using hw
        obtain ⟨host, hhost, h⟩ := exists_ok_of_bind h
        obtain ⟨x, hx, rfl⟩ := exists_ok_of_map hhost
        refine hport (huser _) ?_ h
        rintro _ ⟨⟩
        exact Host.normal_of_readSpecial hx
      · rename_i hw
        obtain rfl : k = .other := by
          cases k with
          | file => exact absurd rfl hk
          | web => exact absurd rfl hw
          | other => rfl
        obtain ⟨host, hhost, h⟩ := exists_ok_of_bind h
        obtain ⟨x, hx, rfl⟩ := exists_ok_of_map hhost
        refine hport (huser _) ?_ h
        rintro _ ⟨⟩
        exact Host.normal_of_readPlain (by simpa using hne) hx

def Path.IsRead (p : Path) : Prop := ∃ segs, p = segmentsPath segs ∧ ∀ x ∈ segs, IsSegment x

theorem isRead_readSegments (k : Kind) (cs : List Char) : (segmentsPath (readSegments k cs)).IsRead :=
  ⟨_, rfl, isSegment_readSegments⟩

theorem isRead_readFilePath (cs : List Char) : (readFilePath cs).IsRead := by
  refine ⟨_, rfl, fun x hx => ?_⟩
  split at hx
  · rw [List.mem_singleton.mp hx]
    simp [IsSegment]
  · exact isSegment_readSegments x ((List.dropWhile_suffix _).subset hx)

theorem isRead_pathAfterAuthority (k : Kind) (cs : List Char) : (pathAfterAuthority k cs).IsRead := by
  unfold pathAfterAuthority
  split
  · split
    · exact ⟨[[]], rfl, by simp [IsSegment]⟩
    · exact ⟨[], rfl, by simp⟩
  · exact isRead_readSegments k _

theorem normal_of_readLocation {scheme : String} {k : Kind} (hk : k ≠ .file) {followed : Bool} {cs : List Char}
    {a : Authority} {p : Path} (h : readLocation scheme k followed cs = .ok (a, p)) :
    a.Normal k.isSpecial ∧ p.IsRead := by
  unfold readLocation at h
  obtain ⟨⟨b, left⟩, hb, h⟩ := exists_ok_of_bind h
  obtain ⟨rfl, rfl⟩ := Prod.mk.inj (Except.ok.inj h)
  exact ⟨normal_of_readAuthority hk hb, isRead_pathAfterAuthority k _⟩

theorem normal_of_readFile {cs : List Char} {a : Authority} {p : Path} (h : readFile cs = .ok (a, p)) :
    a.Normal true ∧ p.IsRead := by
  have hempty : ({} : Authority).Normal true := ⟨by simp, by simp⟩
  have hpath {ds : List Char} (h : Except.ok ({}, readFilePath ds) = (Except.ok (a, p) : Except Fault _)) :
      a.Normal true ∧ p.IsRead := by
    obtain ⟨rfl, rfl⟩ := Prod.mk.inj (Except.ok.inj h)
    exact ⟨hempty, isRead_readFilePath ds⟩
  unfold readFile at h
  split at h
  · exact hpath h
  · split at h
    · split at h
      · exact hpath h
      · split at h
        · unfold readFileHost at h
          dsimp only at h
          split at h
          · exact hpath h
          · split at h
            · exact hpath h
            · obtain ⟨host, hhost, h⟩ := exists_ok_of_bind h
              split at h
              · exact hpath h
              · obtain ⟨rfl, rfl⟩ := Prod.mk.inj (Except.ok.inj h)
                refine ⟨⟨by simp, fun x hx => ?_⟩, isRead_readFilePath _⟩
                dsimp only at hx
                split at hx
                · cases hx
                · obtain rfl := Option.some.inj hx
                  exact Host.normal_of_readSpecial hhost
        · exact hpath h
    · exact hpath h

theorem normal_of_authority {scheme : String} (hs : ':' ∉ scheme.toList) {a : Authority}
    (ha : a.Normal (Kind.ofScheme scheme).isSpecial) {p : Path} (hp : p.IsRead) :
    ({ scheme := scheme, authority := some a, path := p } : Uri).Normal := by
  obtain ⟨segs, rfl, hsegs⟩ := hp
  exact {
    scheme := hs
    authority := by rintro _ ⟨⟩; exact ha
    segments := by
      rintro _ ⟨⟩ part hpart
      obtain ⟨x, hx, rfl⟩ := List.mem_map.mp hpart
      rw [String.toList_ofList]
      exact hsegs x hx
    plain := by rintro t ⟨⟩
    rooted := by rintro parts ⟨⟩
    query := by rintro q ⟨⟩ }

theorem normal_of_root {scheme : String} (hs : ':' ∉ scheme.toList) (cs : List Char) :
    ({ scheme := scheme, path := segmentsPath (readSegments .other cs) } : Uri).Normal where
  scheme := hs
  authority := by rintro a ⟨⟩
  segments := by
    rintro _ ⟨⟩ part hpart
    obtain ⟨x, hx, rfl⟩ := List.mem_map.mp hpart
    rw [String.toList_ofList]
    exact isSegment_readSegments x hx
  plain := by rintro t ⟨⟩
  rooted := by
    rintro _ - ⟨⟩
    obtain ⟨x, xs, hx⟩ := List.exists_cons_of_ne_nil (readSegments_ne_nil .other cs)
    refine ⟨String.ofList x, xs.map String.ofList, by rw [hx]; rfl, fun hdot => ?_⟩
    have hmem : x ∈ readSegments .other cs := by rw [hx]; exact List.mem_cons_self
    refine ne_dot_readSegments x hmem ?_
    simpa using congrArg String.toList hdot
  query := by rintro q ⟨⟩

theorem normal_of_plain {scheme : String} (hs : ':' ∉ scheme.toList) {cs : List Char} (hhead : cs.head? ≠ some '/')
    (hcs : ∀ c ∈ cs, c ∉ ['?', '#']) :
    ({ scheme := scheme, path := .plain (String.ofList (escape isUnsafeAnywhere cs)) } : Uri).Normal where
  scheme := hs
  authority := by rintro a ⟨⟩
  segments := by rintro parts ⟨⟩
  plain := by
    rintro _ ⟨⟩
    rw [String.toList_ofList]
    refine ⟨rfl, fun hh => ?_, fun c hc hm => ?_⟩
    · cases cs with
      | nil => cases hh
      | cons c cs =>
          have hc : c ≠ '/' := fun he => hhead (by rw [he]; rfl)
          rw [escape, List.flatMap_cons] at hh
          obtain he | ⟨rest, he⟩ := escapeChar_cases isUnsafeAnywhere c
          · rw [he] at hh
            exact hc (Option.some.inj hh)
          · rw [he] at hh
            cases hh
    · have hm' : c ∈ ['/', '?', '#', '@', ':', '[', '.'] :=
        List.mem_append_left ['@', ':', '[', '.'] (List.mem_cons_of_mem '/' hm)
      exact hcs c (mem_of_mem_escape hm' hc).1 hm
  rooted := by rintro parts - ⟨⟩
  query := by rintro q ⟨⟩

theorem normal_of_readHierarchy {scheme : String} (hs : ':' ∉ scheme.toList) {followed : Bool} {cs : List Char}
    (hcs : ∀ c ∈ cs, c ∉ ['?', '#']) {a : Option Authority} {p : Path}
    (h : readHierarchy scheme followed cs = .ok (a, p)) :
    ({ scheme := scheme, authority := a, path := p } : Uri).Normal := by
  unfold readHierarchy at h
  dsimp only at h
  split at h
  · rename_i hk
    obtain ⟨⟨b, q⟩, hb, h⟩ := exists_ok_of_bind h
    obtain ⟨rfl, rfl⟩ := Prod.mk.inj (Except.ok.inj h)
    obtain ⟨hn, hq⟩ := normal_of_readFile hb
    exact normal_of_authority hs (by rw [hk]; exact hn) hq
  · rename_i hk
    obtain ⟨⟨b, q⟩, hb, h⟩ := exists_ok_of_bind h
    obtain ⟨rfl, rfl⟩ := Prod.mk.inj (Except.ok.inj h)
    obtain ⟨hn, hq⟩ := normal_of_readLocation (by rw [hk]; simp) hb
    exact normal_of_authority hs hn hq
  · rename_i hk
    split at h
    · obtain ⟨⟨b, q⟩, hb, h⟩ := exists_ok_of_bind h
      obtain ⟨rfl, rfl⟩ := Prod.mk.inj (Except.ok.inj h)
      obtain ⟨hn, hq⟩ := normal_of_readLocation (by rw [hk]; simp) hb
      exact normal_of_authority hs hn hq
    · obtain ⟨rfl, rfl⟩ := Prod.mk.inj (Except.ok.inj h)
      rw [hk]
      exact normal_of_root hs _
    · rename_i hone
      obtain ⟨rfl, rfl⟩ := Prod.mk.inj (Except.ok.inj h)
      refine normal_of_plain hs (fun hh => ?_) fun c hc => hcs c (List.mem_filter.mp hc).1
      cases hc : heeded cs with
      | nil => rw [hc] at hh; cases hh
      | cons c ds =>
          rw [hc, List.head?_cons] at hh
          exact hone ds (by rw [hc, Option.some.inj hh])

theorem mem_cutScheme? {cs rest : List Char} {scheme : String} (h : cutScheme? cs = some (scheme, rest)) :
    ':' ∉ scheme.toList := by
  have hlower (c : Char) (hc : Host.lower c = ':') : c = ':' := by
    unfold Host.lower at hc
    split at hc
    · rename_i hr
      have hlow : 65 ≤ c.toNat := UInt32.le_iff_toNat_le.mp hr.1
      have hhigh : c.toNat ≤ 90 := UInt32.le_iff_toNat_le.mp hr.2
      have hletter : ∀ n ≤ 90, 65 ≤ n → Char.ofNat (n + 32) ≠ ':' := by decide
      exact absurd hc (hletter c.toNat hhigh hlow)
    · exact hc
  unfold cutScheme? at h
  dsimp only at h
  split at h
  · rename_i c name rest hname hrest
    split at h
    · obtain ⟨rfl, -⟩ := Prod.mk.inj (Option.some.inj h)
      rw [String.toList_ofList, ← hname]
      intro hm
      obtain ⟨d, hd, he⟩ := List.mem_map.mp hm
      obtain rfl := hlower d he
      obtain ⟨hd, -⟩ := List.mem_filter.mp hd
      exact absurd (List.mem_takeWhile_imp hd) (by decide)
    · cases h
  · cases h

theorem mem_cutAt (mark : Char) (cs : List Char) : (cutAt mark cs).1 ⊆ cs ∧ mark ∉ (cutAt mark cs).1 := by
  unfold cutAt
  split
  · rename_i hnil
    refine ⟨List.Subset.refl cs, fun hm => ?_⟩
    have hall := List.dropWhile_eq_nil_iff.mp hnil mark hm
    simp at hall
  · refine ⟨(List.takeWhile_prefix _).subset, fun hm => ?_⟩
    have hne := List.mem_takeWhile_imp hm
    simp at hne

theorem normal_of_parse {s : String} {u : Uri} (h : parse s = .ok u) : u.Normal := by
  unfold parse readText at h
  split at h
  · cases h
  · rename_i scheme rest hscheme
    have hs := mem_cutScheme? hscheme
    obtain ⟨hsub, hfrag⟩ := mem_cutAt '#' rest
    obtain ⟨hsub', hquery⟩ := mem_cutAt '?' (cutAt '#' rest).1
    dsimp only at h
    obtain ⟨⟨a, p⟩, hap, h⟩ := exists_ok_of_bind h
    obtain rfl := Except.ok.inj h
    have hmarks : ∀ c ∈ (cutAt '?' (cutAt '#' rest).1).1, c ∉ ['?', '#'] := by
      intro c hc hm
      simp only [List.mem_cons, List.not_mem_nil, or_false] at hm
      obtain rfl | rfl := hm
      · exact hquery hc
      · exact hfrag (hsub' hc)
    have hn := normal_of_readHierarchy hs hmarks hap
    refine { hn with query := fun q hq => ?_ }
    obtain ⟨cs, -, rfl⟩ := Option.map_eq_some_iff.mp hq
    rw [String.toList_ofList]
    intro hm
    obtain ⟨-, he⟩ := mem_of_mem_escape (by decide) hm
    split at he <;> cases he

/-- Two texts that are read as URIs with one text are read as one URI. -/
theorem eq_of_text_eq {s t : String} {u w : Uri} (hu : parse s = .ok u) (hw : parse t = .ok w)
    (h : u.text = w.text) : u = w :=
  (normal_of_parse hu).text_inj (normal_of_parse hw) h

end LintBridge.Uri
