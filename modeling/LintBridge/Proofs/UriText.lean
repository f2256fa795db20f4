import LintBridge.Proofs.Hosts

namespace LintBridge.Uri

open Text (marked)

structure Authority.Normal (special : Bool) (a : Authority) : Prop where
  user : ∀ t, a.user = some t → ∀ c ∈ t.toList, c ∉ ['/', '?', '#', '@']
  host : ∀ h, a.host = some h → h.Normal special

structure Normal (u : Uri) : Prop where
  scheme : ':' ∉ u.scheme.toList
  authority : ∀ a, u.authority = some a → a.Normal (Kind.ofScheme u.scheme).isSpecial
  segments : ∀ parts, u.path = .segments parts → ∀ p ∈ parts, ∀ c ∈ p.toList, c ∉ ['/', '?', '#']
  plain : ∀ t, u.path = .plain t →
    u.authority = none ∧ t.toList.head? ≠ some '/' ∧ ∀ c ∈ t.toList, c ∉ ['?', '#']
  /-- Without an authority the path begins with a segment that is no dot. -/
  rooted : ∀ parts, u.authority = none → u.path = .segments parts → ∃ p ps, parts = p :: ps ∧ p ≠ "."
  query : ∀ q, u.query = some q → '#' ∉ q.toList

def slashed (parts : List String) : List Char := parts.flatMap fun p => '/' :: p.toList

theorem toList_segments (parts : List String) : (Path.segments parts).text.toList = slashed parts := by
  simp [Path.text, slashed, List.flatMap_map]

theorem toList_suffixText (mark : Char) (o : Option String) :
    (suffixText (String.singleton mark) o).toList = marked mark (o.map String.toList) := by
  cases o <;> simp [suffixText, marked]

theorem slashed_eq_marked (parts : List String) : ∃ o, slashed parts = marked '/' o := by
  cases parts with
  | nil => exact ⟨none, rfl⟩
  | cons p ps => exact ⟨some _, rfl⟩

theorem slashed_inj {parts parts' : List String} (h : ∀ p ∈ parts, '/' ∉ p.toList)
    (h' : ∀ p ∈ parts', '/' ∉ p.toList) (he : slashed parts = slashed parts') : parts = parts' := by
  induction parts generalizing parts' with
  | nil =>
      cases parts' with
      | nil => rfl
      | cons p' ps' => cases he
  | cons p ps ih =>
      cases parts' with
      | nil => cases he
      | cons p' ps' =>
          obtain ⟨o, ho⟩ := slashed_eq_marked ps
          obtain ⟨o', ho'⟩ := slashed_eq_marked ps'
          have ht : p.toList ++ slashed ps = p'.toList ++ slashed ps' := (List.cons.inj he).2
          rw [ho, ho'] at ht
          obtain ⟨hp, hoo⟩ := Text.marked_inj (h p List.mem_cons_self) (h' p' List.mem_cons_self) ht
          have hps : slashed ps = slashed ps' := by rw [ho, ho', hoo]
          rw [String.toList_injective hp, ih (fun q hq => h q (List.mem_cons_of_mem p hq))
            (fun q hq => h' q (List.mem_cons_of_mem p' hq)) hps]

theorem notMem_slashed {parts : List String} {c : Char} (hc : c ≠ '/') (h : ∀ p ∈ parts, c ∉ p.toList) :
    c ∉ slashed parts := by
  intro hm
  obtain ⟨p, hp, hm⟩ := List.mem_flatMap.mp hm
  obtain he | hm := List.mem_cons.mp hm
  · exact hc he
  · exact h p hp hm

theorem Authority.toList_text (a : Authority) : a.text.toList =
    (a.user.map fun t => t.toList ++ ['@']).getD [] ++
      (Host.chars a.host ++ marked ':' (a.port.map (Nat.toDigits 10))) := by
  obtain ⟨user, host, port⟩ := a
  cases user <;> cases host <;> cases port <;> simp [Authority.text, Host.chars, marked]

namespace Authority.Normal

variable {special : Bool} {a b : Authority}

theorem notMem_host (ha : a.Normal special) {c : Char} (hc : c ∈ ['/', '?', '#', '@']) :
    c ∉ Host.chars a.host ++ marked ':' (a.port.map (Nat.toDigits 10)) := by
  have hmark : c ≠ ':' ∧ Host.digitIn? 10 c = none := by
    simp only [List.mem_cons, List.not_mem_nil, or_false] at hc
    obtain rfl | rfl | rfl | rfl := hc <;> decide
  intro hm
  obtain hm | hm := List.mem_append.mp hm
  · cases hh : a.host with
    | none => rw [hh] at hm; cases hm
    | some h => rw [hh] at hm; exact (ha.host h hh).notMem hc hm
  · cases hp : a.port with
    | none => rw [hp] at hm; cases hm
    | some n =>
        rw [hp] at hm
        obtain rfl | hm := List.mem_cons.mp hm
        · exact hmark.1 rfl
        · exact Host.notMem_toDigits (by decide) (by decide) hmark.2 n hm

theorem notMem_text (ha : a.Normal special) {c : Char} (hc : c ∈ ['/', '?', '#']) : c ∉ a.text.toList := by
  have hc' : c ∈ ['/', '?', '#', '@'] := List.mem_append_left ['@'] hc
  rw [Authority.toList_text]
  intro hm
  obtain hm | hm := List.mem_append.mp hm
  · cases hu : a.user with
    | none => rw [hu] at hm; cases hm
    | some t =>
        rw [hu] at hm
        obtain hm | hm := List.mem_append.mp hm
        · exact ha.user t hu c hm hc'
        · rw [List.mem_singleton.mp hm] at hc
          revert hc
          decide
  · exact ha.notMem_host hc' hm

theorem text_inj (ha : a.Normal special) (hb : b.Normal special) (h : a.text = b.text) : a = b := by
  have hl := congrArg String.toList h
  rw [Authority.toList_text, Authority.toList_text] at hl
  have ha' := ha.notMem_host (c := '@') (by decide)
  have hb' := hb.notMem_host (c := '@') (by decide)
  have huser (x : Authority) (hx : x.Normal special) (t : String) (ht : x.user = some t) : '@' ∉ t.toList :=
    fun hm => hx.user t ht '@' hm (by decide)
  have hport {o o' : Option Nat} (ho : o.map (Nat.toDigits 10) = o'.map (Nat.toDigits 10)) : o = o' :=
    Option.map_injective (fun _ _ => Host.toDigits_inj (by decide) (by decide)) ho
  obtain ⟨hu, hrest⟩ : a.user = b.user ∧ Host.chars a.host ++ marked ':' (a.port.map (Nat.toDigits 10)) =
      Host.chars b.host ++ marked ':' (b.port.map (Nat.toDigits 10)) := by
    cases hau : a.user with
    | none =>
        cases hbu : b.user with
        | none => exact ⟨rfl, by simpa [hau, hbu] using hl⟩
        | some t =>
            rw [hau, hbu] at hl
            have hl : Host.chars a.host ++ marked ':' (a.port.map (Nat.toDigits 10)) = (t.toList ++ ['@']) ++ _ := hl
            exact absurd (by rw [hl]; simp) ha'
    | some t =>
        cases hbu : b.user with
        | none =>
            rw [hau, hbu] at hl
            have hl : (t.toList ++ ['@']) ++ _ = Host.chars b.host ++ marked ':' (b.port.map (Nat.toDigits 10)) := hl
            exact absurd (by rw [← hl]; simp) hb'
        | some t' =>
            rw [hau, hbu] at hl
            simp only [Option.map_some, Option.getD_some, List.append_assoc, List.singleton_append] at hl
            obtain ⟨ht, hr⟩ := Text.append_cons_inj (huser a ha t hau) (huser b hb t' hbu) hl
            exact ⟨by rw [String.toList_injective ht], hr⟩
  obtain ⟨hhost, hp⟩ := Host.chars_marked_inj ha.host hb.host hrest
  obtain ⟨user, host, port⟩ := a
  obtain ⟨user', host', port'⟩ := b
  obtain rfl : user = user' := hu
  obtain rfl : host = host' := hhost
  obtain rfl : port = port' := hport hp
  rfl

end Authority.Normal

/-- The segments of a path as they are written without an authority, where they must not look like one. -/
def guarded : List String → List String
  | "" :: s :: rest => "." :: "" :: s :: rest
  | parts => parts

theorem mem_guarded {parts : List String} {p : String} (h : p ∈ guarded parts) : p = "." ∨ p ∈ parts := by
  unfold guarded at h
  split at h
  · exact List.mem_cons.mp h
  · exact .inr h

theorem guarded_inj {p q : String} {ps qs : List String} (hp : p ≠ ".") (hq : q ≠ ".")
    (h : guarded (p :: ps) = guarded (q :: qs)) : p :: ps = q :: qs := by
  have hcases (x : String) (xs : List String) :
      guarded (x :: xs) = x :: xs ∨ guarded (x :: xs) = "." :: x :: xs := by
    unfold guarded
    split
    · rename_i heq
      exact .inr (by rw [heq])
    · exact .inl rfl
  obtain hx | hx := hcases p ps <;> obtain hy | hy := hcases q qs <;> rw [hx, hy] at h
  · exact h
  · exact absurd (List.cons.inj h).1 hp
  · exact absurd (List.cons.inj h).1.symm hq
  · exact (List.cons.inj h).2

def body (u : Uri) : List Char :=
  match u.authority, u.path with
  | some a, p => '/' :: '/' :: (a.text.toList ++ p.text.toList)
  | none, .segments parts => slashed (guarded parts)
  | none, .plain t => t.toList

theorem toList_pathText {u : Uri} {parts : List String} (ha : u.authority = none) (hp : u.path = .segments parts) :
    u.pathText.toList = slashed (guarded parts) := by
  unfold pathText
  rw [ha, hp]
  cases parts with
  | nil => rfl
  | cons p ps =>
      cases ps with
      | nil => simp [guarded, toList_segments]
      | cons q ps =>
          by_cases he : p = ""
          · rw [he]
            simp [guarded, slashed, Path.text, List.flatMap_map]
          · simp [guarded, he, toList_segments]

theorem toList_text (u : Uri) : u.text.toList = u.scheme.toList ++ ':' ::
    (u.body ++ marked '?' (u.query.map String.toList) ++ marked '#' (u.fragment.map String.toList)) := by
  have hq : (suffixText "?" u.query).toList = _ := toList_suffixText '?' u.query
  have hf : (suffixText "#" u.fragment).toList = _ := toList_suffixText '#' u.fragment
  simp only [text, String.toList_append, hq, hf]
  cases ha : u.authority with
  | some a => simp [pathText, body, ha]
  | none =>
      cases hp : u.path with
      | plain t => simp [pathText, body, ha, hp, Path.text]
      | segments parts => simp [toList_pathText ha hp, body, ha, hp]

namespace Normal

variable {u w : Uri}

theorem notMem_guarded (hu : u.Normal) {parts : List String} (hp : u.path = .segments parts) {c : Char}
    (hc : c ∈ ['/', '?', '#']) : ∀ p ∈ guarded parts, c ∉ p.toList := by
  intro p hm hin
  obtain rfl | hm := mem_guarded hm
  · rw [show c = '.' from by simpa using hin] at hc
    revert hc
    decide
  · exact hu.segments parts hp p hm c hin hc

theorem notMem_body (hu : u.Normal) {c : Char} (hc : c ∈ ['?', '#']) : c ∉ u.body := by
  have hc' : c ∈ ['/', '?', '#'] := List.mem_cons_of_mem _ hc
  have hslash : c ≠ '/' := by
    rintro rfl
    revert hc
    decide
  unfold body
  cases ha : u.authority with
  | some a =>
      cases hp : u.path with
      | plain t => exact absurd (ha.symm.trans (hu.plain t hp).1) (by simp)
      | segments parts =>
          have hs := notMem_slashed hslash fun p hm hin => hu.segments parts hp p hm c hin hc'
          have hn := (hu.authority a ha).notMem_text hc'
          simp [toList_segments, hslash, hs, hn]
  | none =>
      cases hp : u.path with
      | plain t => exact fun hm => (hu.plain t hp).2.2 c hm hc
      | segments parts => exact notMem_slashed hslash (hu.notMem_guarded hp hc')

theorem body_ne (hu : u.Normal) (ha : u.authority = none) (rest : List Char) : u.body ≠ '/' :: '/' :: rest := by
  intro hb
  cases hp : u.path with
  | plain t =>
      simp only [body, ha, hp] at hb
      exact (hu.plain t hp).2.1 (by rw [hb]; rfl)
  | segments parts =>
      simp only [body, ha, hp] at hb
      have hg := hu.notMem_guarded hp (c := '/') (by decide)
      obtain ⟨p, ps, rfl, hdot⟩ := hu.rooted parts ha hp
      by_cases he : p = ""
      · subst he
        cases ps with
        | nil => simp [guarded, slashed] at hb
        | cons q ps => simp [guarded, slashed] at hb
      · have hgp : guarded (p :: ps) = p :: ps := by
          unfold guarded
          split
          · rename_i heq
            exact absurd (List.cons.inj heq).1 he
          · rfl
        rw [hgp] at hb hg
        obtain ⟨c, cs, hcs⟩ := List.exists_cons_of_ne_nil (fun hnil => he (String.toList_eq_nil_iff.mp hnil))
        have hc : c = '/' := by
          simp only [slashed, List.flatMap_cons, hcs, List.cons_append] at hb
          exact (List.cons.inj (List.cons.inj hb).2).1
        exact hg p List.mem_cons_self (by rw [hcs, hc]; exact List.mem_cons_self)

theorem body_of_some (hu : u.Normal) {a : Authority} (ha : u.authority = some a) :
    ∃ parts, u.path = .segments parts ∧ u.body = '/' :: '/' :: (a.text.toList ++ slashed parts) := by
  cases hp : u.path with
  | plain t => exact absurd (ha.symm.trans (hu.plain t hp).1) (by simp)
  | segments parts => exact ⟨parts, rfl, by simp only [body, ha, hp, toList_segments]⟩

theorem body_of_segments (hu : u.Normal) (ha : u.authority = none) {parts : List String}
    (hp : u.path = .segments parts) : u.body.head? = some '/' := by
  obtain ⟨p, ps, rfl, -⟩ := hu.rooted parts ha hp
  simp only [body, ha, hp, guarded]
  split <;> rfl

theorem notMem_segment (hu : u.Normal) {parts : List String} (hp : u.path = .segments parts) :
    ∀ p ∈ parts, '/' ∉ p.toList :=
  fun p hm hin => hu.segments parts hp p hm '/' hin (by decide)

theorem located_inj (hu : u.Normal) (hw : w.Normal) (hs : u.scheme = w.scheme) (h : u.body = w.body)
    {a b : Authority} (ha : u.authority = some a) (hb : w.authority = some b) : a = b ∧ u.path = w.path := by
  obtain ⟨parts, hp, hbody⟩ := hu.body_of_some ha
  obtain ⟨parts', hp', hbody'⟩ := hw.body_of_some hb
  rw [hbody, hbody'] at h
  have h := (List.cons.inj (List.cons.inj h).2).2
  obtain ⟨o, ho⟩ := slashed_eq_marked parts
  obtain ⟨o', ho'⟩ := slashed_eq_marked parts'
  rw [ho, ho'] at h
  have hna := (hu.authority a ha).notMem_text (c := '/') (by decide)
  have hnb := (hw.authority b hb).notMem_text (c := '/') (by decide)
  obtain ⟨ht, hoo⟩ := Text.marked_inj hna hnb h
  have hparts := slashed_inj (hu.notMem_segment hp) (hw.notMem_segment hp') (by rw [ho, ho', hoo])
  refine ⟨?_, by rw [hp, hp', hparts]⟩
  exact (hu.authority a ha).text_inj (hs ▸ hw.authority b hb) (String.toList_injective ht)

theorem path_inj (hu : u.Normal) (hw : w.Normal) (h : u.body = w.body) (ha : u.authority = none)
    (hb : w.authority = none) : u.path = w.path := by
  have hplain {x : Uri} (hx : x.Normal) (hxa : x.authority = none) {t : String} (ht : x.path = .plain t) :
      x.body.head? ≠ some '/' := by
    simp only [body, hxa, ht]
    exact (hx.plain t ht).2.1
  cases hp : u.path with
  | plain t =>
      cases hq : w.path with
      | plain t' =>
          simp only [body, ha, hb, hp, hq] at h
          rw [String.toList_injective h]
      | segments parts => exact absurd (h ▸ hw.body_of_segments hb hq) (hplain hu ha hp)
  | segments parts =>
      cases hq : w.path with
      | plain t => exact absurd (h ▸ hu.body_of_segments ha hp) (hplain hw hb hq)
      | segments parts' =>
          simp only [body, ha, hb, hp, hq] at h
          have hg := slashed_inj (hu.notMem_guarded hp (by decide)) (hw.notMem_guarded hq (by decide)) h
          obtain ⟨p, ps, rfl, hdot⟩ := hu.rooted parts ha hp
          obtain ⟨q, qs, rfl, hdot'⟩ := hw.rooted parts' hb hq
          rw [guarded_inj hdot hdot' hg]

theorem body_inj (hu : u.Normal) (hw : w.Normal) (hs : u.scheme = w.scheme) (h : u.body = w.body) :
    u.authority = w.authority ∧ u.path = w.path := by
  cases ha : u.authority with
  | some a =>
      cases hb : w.authority with
      | some b =>
          obtain ⟨rfl, hp⟩ := located_inj hu hw hs h ha hb
          exact ⟨rfl, hp⟩
      | none =>
          obtain ⟨parts, -, hbody⟩ := hu.body_of_some ha
          exact absurd (h.symm.trans hbody) (hw.body_ne hb _)
  | none =>
      cases hb : w.authority with
      | some b =>
          obtain ⟨parts, -, hbody⟩ := hw.body_of_some hb
          exact absurd (h.trans hbody) (hu.body_ne ha _)
      | none => exact ⟨rfl, path_inj hu hw h ha hb⟩

/-- In normal form a URI is determined by its text. -/
theorem text_inj (hu : u.Normal) (hw : w.Normal) (h : u.text = w.text) : u = w := by
  have hl := congrArg String.toList h
  rw [toList_text, toList_text] at hl
  obtain ⟨hs, hrest⟩ := Text.append_cons_inj hu.scheme hw.scheme hl
  have hquery {x : Uri} (hx : x.Normal) : '#' ∉ x.body ++ marked '?' (x.query.map String.toList) := by
    intro hm
    obtain hm | hm := List.mem_append.mp hm
    · exact hx.notMem_body (by decide) hm
    · cases hq : x.query with
      | none => rw [hq] at hm; cases hm
      | some q =>
          rw [hq] at hm
          obtain he | hm := List.mem_cons.mp hm
          · revert he; decide
          · exact hx.query q hq hm
  obtain ⟨hrest, hf⟩ := Text.marked_inj (hquery hu) (hquery hw) hrest
  obtain ⟨hb, hq⟩ := Text.marked_inj (hu.notMem_body (by decide)) (hw.notMem_body (by decide)) hrest
  have hscheme := String.toList_injective hs
  obtain ⟨ha, hp⟩ := body_inj hu hw hscheme hb
  have hmap {o o' : Option String} (ho : o.map String.toList = o'.map String.toList) : o = o' :=
    Option.map_injective (fun _ _ => String.toList_injective) ho
  obtain ⟨scheme, authority, path, query, fragment⟩ := u
  obtain ⟨scheme', authority', path', query', fragment'⟩ := w
  obtain rfl : scheme = scheme' := hscheme
  obtain rfl : authority = authority' := ha
  obtain rfl : path = path' := hp
  obtain rfl : query = query' := hmap hq
  obtain rfl : fragment = fragment' := hmap hf
  rfl

end Normal

end LintBridge.Uri
