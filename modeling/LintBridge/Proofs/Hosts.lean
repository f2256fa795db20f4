import LintBridge.Proofs.Lexemes
import LintBridge.Uri.Reader

namespace LintBridge

namespace Text

variable {sep : Char} {l l' r r' : List Char}

theorem append_cons_inj (hl : sep ∉ l) (hl' : sep ∉ l') (h : l ++ sep :: r = l' ++ sep :: r') : l = l' ∧ r = r' := by
  induction l generalizing l' with
  | nil =>
      cases l' with
      | nil => exact ⟨rfl, (List.cons.inj h).2⟩
      | cons c l' => exact absurd ((List.cons.inj h).1 ▸ List.mem_cons_self) hl'
  | cons c l ih =>
      cases l' with
      | nil => exact absurd ((List.cons.inj h).1 ▸ List.mem_cons_self) hl
      | cons c' l' =>
          obtain ⟨rfl, ht⟩ := List.cons.inj h
          have hcl : sep ∉ l := fun hm => hl (List.mem_cons_of_mem c hm)
          have hcl' : sep ∉ l' := fun hm => hl' (List.mem_cons_of_mem c hm)
          obtain ⟨rfl, hr⟩ := ih hcl hcl' ht
          exact ⟨rfl, hr⟩

def marked (mark : Char) : Option (List Char) → List Char
  | none => []
  | some t => mark :: t

theorem marked_inj {mark : Char} {o o' : Option (List Char)} (hl : mark ∉ l) (hl' : mark ∉ l')
    (h : l ++ marked mark o = l' ++ marked mark o') : l = l' ∧ o = o' := by
  have hmem (k : List Char) (t : List Char) : mark ∈ k ++ mark :: t := List.mem_append_right k List.mem_cons_self
  cases o with
  | none =>
      rw [marked, List.append_nil] at h
      cases o' with
      | none => exact ⟨by rw [h, marked, List.append_nil], rfl⟩
      | some t' => exact absurd (h ▸ hmem l' t') hl
  | some t =>
      cases o' with
      | none =>
          rw [marked, marked, List.append_nil] at h
          exact absurd (h ▸ hmem l t) hl'
      | some t' =>
          obtain ⟨hl, rfl⟩ := append_cons_inj hl hl' h
          exact ⟨hl, rfl⟩

theorem split_intercalate {pieces : List (List Char)} (hne : pieces ≠ []) (h : ∀ p ∈ pieces, sep ∉ p) :
    split sep ([sep].intercalate pieces) = pieces := by
  induction pieces with
  | nil => exact absurd rfl hne
  | cons p pieces ih =>
      cases pieces with
      | nil =>
          rw [List.intercalate_singleton]
          exact split_of_notMem (h p List.mem_cons_self)
      | cons q pieces =>
          rw [List.intercalate_cons_cons, List.append_assoc, List.singleton_append,
            split_append (h p List.mem_cons_self), ih (by simp) fun x hx => h x (List.mem_cons_of_mem p hx)]

end Text

namespace Uri.Host

open Text (marked)

theorem digitIn?_digitChar {base d : Nat} (hd : d < base) (hb : base ≤ 16) :
    digitIn? base (Nat.digitChar d) = some d := by
  have hfilter : ∀ c, digitIn? base c = (digitIn? 16 c).filter (· < base) := by
    intro c
    simp only [digitIn?]
    generalize (if 48 ≤ c.toNat ∧ c.toNat ≤ 57 then c.toNat - 48
      else if 97 ≤ c.toNat ∧ c.toNat ≤ 102 then c.toNat - 87
      else if 65 ≤ c.toNat ∧ c.toNat ≤ 70 then c.toNat - 55 else 16) = n
    by_cases hn : n < base
    · have h16 : n < 16 := by omega
      simp [hn, h16, Option.filter_some]
    · by_cases h16 : n < 16 <;> simp [hn, h16, Option.filter_some]
  have h16 : ∀ d < 16, digitIn? 16 (Nat.digitChar d) = some d := by decide
  rw [hfilter, h16 d (by omega)]
  simp [hd, Option.filter_some]

theorem numberIn?_toDigits {base : Nat} (hb : 1 < base) (hb' : base ≤ 16) (n : Nat) :
    numberIn? base (Nat.toDigits base n) = some n := by
  induction n using Nat.strongRecOn with
  | ind n ih =>
      by_cases hn : n < base
      · rw [Nat.toDigits_of_lt_base hn]
        simp [numberIn?, digitIn?_digitChar hn hb']
      · have hlt : n / base < n := Nat.div_lt_self (by omega) hb
        have hd : n % base < base := Nat.mod_lt n (by omega)
        have hq := ih (n / base) hlt
        rw [Nat.toDigits_of_base_le hb (by omega)]
        unfold numberIn? at hq ⊢
        rw [List.foldlM_append, hq]
        simp [digitIn?_digitChar hd hb', Nat.div_add_mod]

theorem toDigits_inj {base n m : Nat} (hb : 1 < base) (hb' : base ≤ 16)
    (h : Nat.toDigits base n = Nat.toDigits base m) : n = m := by
  have hn := numberIn?_toDigits hb hb' n
  rw [h, numberIn?_toDigits hb hb' m] at hn
  exact (Option.some.inj hn).symm

theorem digitIn?_of_numberIn? {base : Nat} {cs : List Char} {n m : Nat}
    (h : cs.foldlM (fun n c => (digitIn? base c).map (base * n + ·)) n = some m) :
    ∀ c ∈ cs, (digitIn? base c).isSome = true := by
  induction cs generalizing n with
  | nil => simp
  | cons c cs ih =>
      rw [List.foldlM_cons] at h
      obtain ⟨k, hk, h⟩ := Option.bind_eq_some_iff.mp h
      intro d hd
      obtain rfl | hd := List.mem_cons.mp hd
      · obtain ⟨v, hv, -⟩ := Option.map_eq_some_iff.mp hk
        rw [hv]; rfl
      · exact ih h d hd

theorem notMem_toDigits {base : Nat} (hb : 1 < base) (hb' : base ≤ 16) {c : Char} (hc : digitIn? base c = none)
    (n : Nat) : c ∉ Nat.toDigits base n := by
  intro hm
  have hs := digitIn?_of_numberIn? (numberIn?_toDigits hb hb' n) c hm
  rw [hc] at hs
  cases hs

def joined (sep : Char) (base : Nat) (ns : List Nat) : List Char := [sep].intercalate (ns.map (Nat.toDigits base))

theorem joined_inj {sep : Char} {base : Nat} (hb : 1 < base) (hb' : base ≤ 16) (hs : digitIn? base sep = none)
    {ns ms : List Nat} (h : joined sep base ns = joined sep base ms) : ns = ms := by
  have hsep (ks : List Nat) : ∀ p ∈ ks.map (Nat.toDigits base), sep ∉ p := by
    intro p hp
    obtain ⟨k, -, rfl⟩ := List.mem_map.mp hp
    exact notMem_toDigits hb hb' hs k
  -- only the empty list has the empty text
  have hnil (ks : List Nat) (hk : joined sep base ks = []) : ks = [] := by
    cases ks with
    | nil => rfl
    | cons k ks =>
        have hd := Nat.toDigits_ne_nil (n := k) (b := base)
        cases ks with
        | nil =>
            rw [joined, List.map_singleton, List.intercalate_singleton] at hk
            exact absurd hk hd
        | cons j ks => simp [joined, List.intercalate_cons_cons] at hk
  by_cases hn : ns = []
  · rw [hn] at h ⊢
    exact (hnil ms h.symm).symm
  · have hm : ms ≠ [] := fun hm => hn (hnil ns (by rw [h, hm]; rfl))
    have hsplit := congrArg (Text.split sep) h
    rw [joined, joined, Text.split_intercalate (by simpa using hn) (hsep ns),
      Text.split_intercalate (by simpa using hm) (hsep ms)] at hsplit
    exact (List.map_inj_right fun _ _ => toDigits_inj hb hb').mp hsplit

theorem cutDoubleColon_append {p : List Char} (hp : ':' ∉ p) (tail : List Char) :
    cutDoubleColon (p ++ tail) = (p ++ (cutDoubleColon tail).1, (cutDoubleColon tail).2) := by
  induction p with
  | nil => rfl
  | cons c p ih =>
      obtain ⟨hc, hp⟩ := not_or.mp (List.mem_cons.not.mp hp)
      rw [List.cons_append, cutDoubleColon, ih hp]
      · rfl
      · rintro rest rfl
        exact absurd rfl hc

theorem cutDoubleColon_colon {c : Char} (hc : c ≠ ':') (tail : List Char) :
    cutDoubleColon (':' :: c :: tail) =
      (':' :: (cutDoubleColon (c :: tail)).1, (cutDoubleColon (c :: tail)).2) := by
  rw [cutDoubleColon]
  rintro rest - he
  exact absurd (List.cons.inj he).1 hc

theorem cutDoubleColon_joined (ns : List Nat) (tail : List Char) : cutDoubleColon (joined ':' 16 ns ++ tail) =
    (joined ':' 16 ns ++ (cutDoubleColon tail).1, (cutDoubleColon tail).2) := by
  have hcolon (n : Nat) : ':' ∉ Nat.toDigits 16 n := notMem_toDigits (by decide) (by decide) (by decide) n
  induction ns with
  | nil => rfl
  | cons n ns ih =>
      cases ns with
      | nil =>
          rw [joined, List.map_singleton, List.intercalate_singleton]
          exact cutDoubleColon_append (hcolon n) tail
      | cons m ns =>
          have hj : joined ':' 16 (n :: m :: ns) = Nat.toDigits 16 n ++ ':' :: joined ':' 16 (m :: ns) := by
            simp [joined, List.intercalate_cons_cons]
          -- the next piece begins with a digit
          obtain ⟨c, rest, hm, hc⟩ : ∃ c rest, joined ':' 16 (m :: ns) = c :: rest ∧ c ≠ ':' := by
            obtain ⟨c, ds, hd⟩ := List.exists_cons_of_ne_nil (Nat.toDigits_ne_nil (n := m) (b := 16))
            have hc : c ≠ ':' := fun he => hcolon m (by rw [hd, he]; exact List.mem_cons_self)
            cases ns with
            | nil => exact ⟨c, ds, by rw [joined, List.map_singleton, List.intercalate_singleton, hd], hc⟩
            | cons k ns =>
                rw [joined, List.map_cons, List.map_cons, List.intercalate_cons_cons, hd]
                exact ⟨c, _, rfl, hc⟩
          rw [hj, List.append_assoc, cutDoubleColon_append (hcolon n), List.cons_append, hm, List.cons_append,
            cutDoubleColon_colon hc, ← List.cons_append, ← hm, ih]
          simp

theorem mem_of_longestZeros (ps : List Nat) : longestZeros ps = (0, 0) ∨
    ((ps.drop (longestZeros ps).1).takeWhile (· == 0)).length = (longestZeros ps).2 := by
  have hfold (runs : List (Nat × Nat)) (best : Nat × Nat) :
      runs.foldl (fun best r => if best.2 < r.2 then r else best) best = best ∨
      runs.foldl (fun best r => if best.2 < r.2 then r else best) best ∈ runs := by
    induction runs generalizing best with
    | nil => exact .inl rfl
    | cons r runs ih =>
        rw [List.foldl_cons]
        obtain he | hm := ih (if best.2 < r.2 then r else best)
        · rw [he]
          split
          · exact .inr List.mem_cons_self
          · exact .inl rfl
        · exact .inr (List.mem_cons_of_mem r hm)
  have hrun : longestZeros ps = (0, 0) ∨
      longestZeros ps ∈ ps.zipIdx.map fun x => (x.2, ((ps.drop x.2).takeWhile (· == 0)).length) := hfold _ _
  obtain he | hm := hrun
  · exact .inl he
  · obtain ⟨⟨n, i⟩, -, hi⟩ := List.mem_map.mp hm
    have hz : longestZeros ps = (i, ((ps.drop i).takeWhile (· == 0)).length) := hi.symm
    rw [hz]
    exact .inr rfl

/-- An address is made of what stands before its longest run of zeros, the run, and what stands after it. -/
theorem eq_append_zeros {ps : List Nat} {start len : Nat} (h : longestZeros ps = (start, len)) (hl : len ≠ 0) :
    ps = ps.take start ++ List.replicate len 0 ++ ps.drop (start + len) := by
  have hlen : ((ps.drop start).takeWhile (· == 0)).length = len := by
    obtain he | he := mem_of_longestZeros ps
    · rw [h] at he
      exact absurd (congrArg Prod.snd he) hl
    · rwa [h] at he
  have hzero : (ps.drop start).takeWhile (· == 0) = List.replicate len 0 := by
    refine List.eq_replicate_iff.mpr ⟨hlen, fun n hn => ?_⟩
    simpa using List.mem_takeWhile_imp hn
  have hdrop : ps.drop (start + len) = (ps.drop start).dropWhile (· == 0) := by
    have happ := List.takeWhile_append_dropWhile (p := (· == 0)) (l := ps.drop start)
    calc ps.drop (start + len) = (ps.drop start).drop len := List.drop_drop.symm
      _ = ((ps.drop start).takeWhile (· == 0) ++ (ps.drop start).dropWhile (· == 0)).drop len := by rw [happ]
      _ = (ps.drop start).dropWhile (· == 0) := List.drop_left' hlen
  rw [hdrop, ← hzero, List.append_assoc, List.takeWhile_append_dropWhile, List.take_append_drop]

theorem toList_ipv6Text (ps : List Nat) : (ipv6Text ps).toList =
    if (longestZeros ps).2 < 2 then joined ':' 16 ps
    else joined ':' 16 (ps.take (longestZeros ps).1) ++
      ':' :: ':' :: joined ':' 16 (ps.drop ((longestZeros ps).1 + (longestZeros ps).2)) := by
  have hhex (ns : List Nat) : (":".intercalate (ns.map hex)).toList = joined ':' 16 ns := by
    simp [joined, hex, Function.comp_def]
  unfold ipv6Text
  dsimp only
  split
  · exact hhex ps
  · rw [String.toList_append, String.toList_append, hhex, hhex]
    simp

theorem ipv6Text_inj {ps qs : List Nat} (hl : ps.length = qs.length) (h : ipv6Text ps = ipv6Text qs) : ps = qs := by
  have hcut (ns : List Nat) : cutDoubleColon (joined ':' 16 ns) = (joined ':' 16 ns, none) := by
    simpa [cutDoubleColon] using cutDoubleColon_joined ns []
  have hcut' (ns ms : List Nat) : cutDoubleColon (joined ':' 16 ns ++ ':' :: ':' :: joined ':' 16 ms) =
      (joined ':' 16 ns, some (joined ':' 16 ms)) := by
    simpa [cutDoubleColon] using cutDoubleColon_joined ns (':' :: ':' :: joined ':' 16 ms)
  have hinj {ns ms : List Nat} (he : joined ':' 16 ns = joined ':' 16 ms) : ns = ms :=
    joined_inj (by decide) (by decide) (by decide) he
  have he := congrArg (fun t => cutDoubleColon t.toList) h
  simp only [toList_ipv6Text] at he
  generalize hz : longestZeros ps = z at he
  generalize hz' : longestZeros qs = z' at he
  obtain ⟨start, len⟩ := z
  obtain ⟨start', len'⟩ := z'
  dsimp only at he
  by_cases hp : len < 2 <;> by_cases hq : len' < 2
  · rw [if_pos hp, if_pos hq, hcut, hcut] at he
    exact hinj (Prod.mk.inj he).1
  · rw [if_pos hp, if_neg hq, hcut, hcut'] at he
    cases (Prod.mk.inj he).2
  · rw [if_neg hp, if_pos hq, hcut, hcut'] at he
    cases (Prod.mk.inj he).2
  · rw [if_neg hp, if_neg hq, hcut', hcut'] at he
    obtain ⟨hfront, hback⟩ := Prod.mk.inj he
    have hfront := hinj hfront
    have hback := hinj (Option.some.inj hback)
    have hps := eq_append_zeros hz (by omega)
    have hqs := eq_append_zeros hz' (by omega)
    have hlen : len = len' := by
      have hpl := congrArg List.length hps
      have hql := congrArg List.length hqs
      simp only [List.length_append, List.length_replicate] at hpl hql
      rw [hfront, hback, hl] at hpl
      omega
    rw [hps, hqs, hfront, hback, hlen]

/-- What is true of a host that has been read under a scheme: it can be told from what stands around it, and its
kind from its text. -/
def Normal (special : Bool) : Host → Prop
  | .name t => t.toList ≠ [] ∧ (∀ c ∈ t.toList, c ∉ ['/', '?', '#', '@', ':', '[']) ∧
      (special = true → endsInNumber t.toList = false)
  | .ipv4 _ => special = true
  | .ipv6 ps => ps.length = 8

theorem mem_joined {sep : Char} {base : Nat} (hb : 1 < base) (hb' : base ≤ 16) {ns : List Nat} {c : Char}
    (h : c ∈ joined sep base ns) : c = sep ∨ (digitIn? base c).isSome = true := by
  have hdigit (n : Nat) (hc : c ∈ Nat.toDigits base n) : (digitIn? base c).isSome = true :=
    digitIn?_of_numberIn? (numberIn?_toDigits hb hb' n) c hc
  induction ns with
  | nil => cases h
  | cons n ns ih =>
      cases ns with
      | nil =>
          rw [joined, List.map_singleton, List.intercalate_singleton] at h
          exact .inr (hdigit n h)
      | cons m ns =>
          rw [joined, List.map_cons, List.map_cons, List.intercalate_cons_cons, List.append_assoc] at h
          obtain h | h := List.mem_append.mp h
          · exact .inr (hdigit n h)
          · obtain rfl | h := List.mem_cons.mp h
            · exact .inl rfl
            · exact ih h

def ipv4Parts (n : Nat) : List Nat := [n / 16777216, n / 65536 % 256, n / 256 % 256, n % 256]

theorem toList_ipv4 (n : Nat) : (Host.ipv4 n).text.toList = joined '.' 10 (ipv4Parts n) := by
  simp [text, joined, ipv4Parts]

theorem endsInNumber_joined {ns : List Nat} (h : ns ≠ []) : endsInNumber (joined '.' 10 ns) = true := by
  have hsplit : Text.split '.' (joined '.' 10 ns) = ns.map (Nat.toDigits 10) := by
    refine Text.split_intercalate (by simpa using h) fun p hp => ?_
    obtain ⟨n, -, rfl⟩ := List.mem_map.mp hp
    exact notMem_toDigits (by decide) (by decide) (by decide) n
  obtain ⟨n, hn⟩ : ∃ n, ns.getLast? = some n := ⟨_, List.getLast?_eq_some_getLast h⟩
  have hlast : (ns.map (Nat.toDigits 10)).getLast? = some (Nat.toDigits 10 n) := by rw [List.getLast?_map, hn]; rfl
  have hd : Nat.toDigits 10 n ≠ [] := Nat.toDigits_ne_nil
  have hlabels : labels (joined '.' 10 ns) = ns.map (Nat.toDigits 10) := by
    simp only [labels, hsplit, hlast, Option.some.injEq, hd, false_and, if_false]
  have hall : (Nat.toDigits 10 n).all (fun c => (digitIn? 10 c).isSome) = true :=
    List.all_eq_true.mpr (digitIn?_of_numberIn? (numberIn?_toDigits (by decide) (by decide) n))
  simp [endsInNumber, hlabels, hlast, hall, hd]

theorem ipv4_inj {n m : Nat} (h : ipv4Parts n = ipv4Parts m) : n = m := by
  simp only [ipv4Parts, List.cons.injEq, and_true] at h
  omega

theorem toList_ipv6 (ps : List Nat) : (Host.ipv6 ps).text.toList = '[' :: (ipv6Text ps).toList ++ [']'] := by
  simp [text]

theorem mem_ipv6Text {ps : List Nat} {c : Char} (h : c ∈ (ipv6Text ps).toList) :
    c = ':' ∨ (digitIn? 16 c).isSome = true := by
  rw [toList_ipv6Text] at h
  split at h
  · exact mem_joined (by decide) (by decide) h
  · obtain h | h := List.mem_append.mp h
    · exact mem_joined (by decide) (by decide) h
    · simp only [List.mem_cons] at h
      obtain rfl | rfl | h := h
      · exact .inl rfl
      · exact .inl rfl
      · exact mem_joined (by decide) (by decide) h

theorem Normal.notMem {special : Bool} {h : Host} (hn : h.Normal special) {c : Char}
    (hc : c ∈ ['/', '?', '#', '@']) : c ∉ h.text.toList := by
  have hmark : c ≠ '.' ∧ c ≠ ':' ∧ c ≠ '[' ∧ c ≠ ']' ∧ digitIn? 16 c = none ∧ digitIn? 10 c = none := by
    simp only [List.mem_cons, List.not_mem_nil, or_false] at hc
    obtain rfl | rfl | rfl | rfl := hc <;> decide
  obtain ⟨hdot, hcolon, hopen, hclose, h16, h10⟩ := hmark
  intro hm
  cases h with
  | name t =>
      exact hn.2.1 c hm (List.mem_append_left [':', '['] hc)
  | ipv4 n =>
      rw [toList_ipv4] at hm
      obtain he | hd := mem_joined (by decide) (by decide) hm
      · exact hdot he
      · rw [h10] at hd; cases hd
  | ipv6 ps =>
      rw [toList_ipv6] at hm
      simp only [List.cons_append, List.mem_cons, List.mem_append, List.not_mem_nil, or_false] at hm
      obtain he | hm | he := hm
      · exact hopen he
      · obtain he | hd := mem_ipv6Text hm
        · exact hcolon he
        · rw [h16] at hd; cases hd
      · exact hclose he

def chars : Option Host → List Char
  | none => []
  | some h => h.text.toList

def isBracketed : Option Host → Bool
  | some (.ipv6 _) => true
  | _ => false

section Port

variable {special : Bool} {h h' : Option Host} {p p' : Option (List Char)}

theorem plain_chars (hn : ∀ x, h = some x → x.Normal special) (hb : isBracketed h = false) :
    ':' ∉ chars h ∧ '[' ∉ chars h := by
  cases h with
  | none => simp [chars]
  | some x =>
      cases x with
      | name t =>
          have ht := (hn _ rfl).2.1
          exact ⟨fun hm => ht _ hm (by decide), fun hm => ht _ hm (by decide)⟩
      | ipv4 n =>
          have hnot (c : Char) (hc : c ≠ '.') (hd : digitIn? 10 c = none) : c ∉ chars (some (.ipv4 n)) := by
            intro hm
            rw [chars, toList_ipv4] at hm
            obtain he | hs := mem_joined (by decide) (by decide) hm
            · exact hc he
            · rw [hd] at hs; cases hs
          exact ⟨hnot _ (by decide) (by decide), hnot _ (by decide) (by decide)⟩
      | ipv6 ps => cases hb

theorem plain_inj (hn : ∀ x, h = some x → x.Normal special) (hn' : ∀ x, h' = some x → x.Normal special)
    (hb : isBracketed h = false) (hb' : isBracketed h' = false) (he : chars h = chars h') : h = h' := by
  have hipv4 (n : Nat) : chars (some (.ipv4 n)) = joined '.' 10 (ipv4Parts n) := toList_ipv4 n
  have hparts (n : Nat) : ipv4Parts n ≠ [] := List.cons_ne_nil _ _
  have hempty {n : Nat} (hj : joined '.' 10 (ipv4Parts n) = []) : False :=
    hparts n (joined_inj (by decide) (by decide) (by decide) (hj.trans (rfl : [] = joined '.' 10 [])))
  -- a name that looked like an address would have been read as one
  have hname {t : String} {n : Nat} (ht : (Host.name t).Normal special) (hs : (Host.ipv4 n).Normal special)
      (hj : t.toList = joined '.' 10 (ipv4Parts n)) : False := by
    have hend := ht.2.2 hs
    rw [hj, endsInNumber_joined (hparts n)] at hend
    cases hend
  cases h with
  | none =>
      cases h' with
      | none => rfl
      | some x' =>
          cases x' with
          | name t => exact absurd he.symm (hn' _ rfl).1
          | ipv4 n => exact (hempty ((hipv4 n).symm.trans he.symm)).elim
          | ipv6 ps => cases hb'
  | some x =>
      cases x with
      | name t =>
          cases h' with
          | none => exact absurd he (hn _ rfl).1
          | some x' =>
              cases x' with
              | name t' =>
                  have ht : t = t' := String.toList_injective he
                  rw [ht]
              | ipv4 n => exact (hname (hn _ rfl) (hn' _ rfl) (he.trans (hipv4 n))).elim
              | ipv6 ps => cases hb'
      | ipv4 n =>
          cases h' with
          | none => exact (hempty ((hipv4 n).symm.trans he)).elim
          | some x' =>
              cases x' with
              | name t => exact (hname (hn' _ rfl) (hn _ rfl) (he.symm.trans (hipv4 n))).elim
              | ipv4 m =>
                  rw [hipv4, hipv4] at he
                  rw [ipv4_inj (joined_inj (by decide) (by decide) (by decide) he)]
              | ipv6 ps => cases hb'
      | ipv6 ps => cases hb

theorem head?_plain (hn : ∀ x, h = some x → x.Normal special) (hb : isBracketed h = false) :
    (chars h ++ marked ':' p).head? ≠ some '[' := by
  have hopen := (plain_chars hn hb).2
  cases hc : chars h with
  | nil =>
      cases p with
      | none => simp [marked]
      | some t => simp [marked]
  | cons c cs =>
      intro hh
      rw [List.cons_append, List.head?_cons] at hh
      exact hopen (by rw [hc, Option.some.inj hh]; exact List.mem_cons_self)

theorem exists_ipv6 (hb : isBracketed h = true) (p : Option (List Char)) :
    ∃ ps, h = some (.ipv6 ps) ∧ chars h ++ marked ':' p = '[' :: ((ipv6Text ps).toList ++ ']' :: marked ':' p) := by
  cases h with
  | none => cases hb
  | some x =>
      cases x with
      | name t => cases hb
      | ipv4 n => cases hb
      | ipv6 ps => exact ⟨ps, rfl, by rw [chars, toList_ipv6]; simp⟩

theorem notMem_ipv6Text (ps : List Nat) : ']' ∉ (ipv6Text ps).toList := by
  intro hm
  obtain hm | hm := mem_ipv6Text hm
  · cases hm
  · cases hm

/-- What stands before the path can be told apart: the host, and the port after its colon. -/
theorem chars_marked_inj (hn : ∀ x, h = some x → x.Normal special) (hn' : ∀ x, h' = some x → x.Normal special)
    (he : chars h ++ marked ':' p = chars h' ++ marked ':' p') : h = h' ∧ p = p' := by
  cases hb : isBracketed h with
  | false =>
      cases hb' : isBracketed h' with
      | false =>
          obtain ⟨hc, hp⟩ := Text.marked_inj (plain_chars hn hb).1 (plain_chars hn' hb').1 he
          exact ⟨plain_inj hn hn' hb hb' hc, hp⟩
      | true =>
          obtain ⟨ps, -, ht⟩ := exists_ipv6 hb' p'
          exact absurd (by rw [he, ht]; rfl) (head?_plain (p := p) hn hb)
  | true =>
      obtain ⟨ps, rfl, ht⟩ := exists_ipv6 hb p
      cases hb' : isBracketed h' with
      | false => exact absurd (by rw [← he, ht]; rfl) (head?_plain (p := p') hn' hb')
      | true =>
          obtain ⟨qs, rfl, ht'⟩ := exists_ipv6 hb' p'
          rw [ht, ht'] at he
          obtain ⟨htext, hp⟩ := Text.append_cons_inj (notMem_ipv6Text ps) (notMem_ipv6Text qs) (List.cons.inj he).2
          have hl : ps.length = qs.length := (hn _ rfl).trans (hn' _ rfl).symm
          have hp : [] ++ marked ':' p = [] ++ marked ':' p' := hp
          rw [ipv6Text_inj hl (String.toList_injective htext)]
          exact ⟨rfl, (Text.marked_inj List.not_mem_nil List.not_mem_nil hp).2⟩

end Port

end Uri.Host

end LintBridge
