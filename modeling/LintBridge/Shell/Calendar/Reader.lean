import LintBridge.Shell.Calendar

namespace LintBridge.Shell.Calendar

inductive Token where
  | number (negative : Option Bool) (digits : Octets)
  | word (letters : Octets)
  | sign (c : Char)
  deriving DecidableEq, Repr

def afterRemark : Nat → Octets → Octets
  | _, [] => []
  | depth, '(' :: cs => afterRemark (depth + 1) cs
  | 0, ')' :: cs => cs
  | depth + 1, ')' :: cs => if depth = 0 then cs else afterRemark depth cs
  | depth, _ :: cs => afterRemark depth cs

/-- Cuts a text into words and numbers. A hyphen without a number after it is passed over. -/
def tokens : Nat → Octets → List Token
  | 0, _ => []
  | _, [] => []
  | n + 1, c :: cs =>
      let number := fun (negative : Option Bool) (cs : Octets) =>
        let digits := cs.takeWhile Char.isDigit
        let rest := cs.drop digits.length
        -- Fractions of seconds are left out.
        let rest := match rest with
          | '.' :: d :: ds => if d.isDigit then (d :: ds).dropWhile Char.isDigit else rest
          | rest => rest
        .number negative digits :: tokens n rest
      if c = ' ' || ('\t' ≤ c && c ≤ '\x0d') then tokens n cs
      else if c.isDigit then number none (c :: cs)
      else if c = '-' || c = '+' then
        let rest := cs.dropWhile (· = ' ')
        if (rest.head?).any Char.isDigit then number (some (c = '-')) rest else tokens n rest
      else if c.isAlpha then
        let letters := (c :: cs).takeWhile fun d => d.isAlpha || d = '.'
        .word ((letters.filter (· ≠ '.')).map Char.toLower) :: tokens n ((c :: cs).drop letters.length)
      else if c = '(' then tokens n (afterRemark 1 cs)
      else .sign c :: tokens n cs

def named? (names : List String) (word : Octets) : Option Nat :=
  names.findIdx? fun name =>
    let name := name.toList.map Char.toLower
    word == name || word == name.take 3 || (word.length > 3 && word.length < name.length && word == name.take 4 &&
      (name == "september".toList || name == "tuesday".toList)) ||
      (name == "wednesday".toList && word == "wednes".toList) ||
      (name == "thursday".toList && (word == "thur".toList || word == "thurs".toList))

def ordinal? (word : Octets) : Option Int :=
  [("last", -1), ("this", 0), ("next", 1), ("first", 1), ("third", 3), ("fourth", 4), ("fifth", 5), ("sixth", 6),
    ("seventh", 7), ("eighth", 8), ("ninth", 9), ("tenth", 10), ("eleventh", 11), ("twelfth", 12)].lookup (String.ofList word)

inductive Step where
  | years | months | days | hours | minutes | seconds
  deriving DecidableEq, Repr

def unit? (word : Octets) : Option (Step × Int) :=
  let units : List (String × Step × Int) := [("year", .years, 1), ("month", .months, 1), ("fortnight", .days, 14),
    ("week", .days, 7), ("day", .days, 1), ("hour", .hours, 1), ("minute", .minutes, 1), ("min", .minutes, 1),
    ("second", .seconds, 1), ("sec", .seconds, 1)]
  let single := if word.getLast? = some 's' then word.dropLast else word
  units.lookup (String.ofList single)

def shift? (word : Octets) : Option Int :=
  [("tomorrow", 1), ("yesterday", -1), ("today", 0), ("now", 0)].lookup (String.ofList word)

def zone? (word : Octets) : Option Int :=
  let hours : List (String × Int) := [("gmt", 0), ("ut", 0), ("utc", 0), ("wet", 0), ("west", 1), ("bst", 1), ("cet", 1), ("cest", 2),
    ("met", 1), ("mest", 2), ("eet", 2), ("eest", 3), ("msk", 3), ("jst", 9), ("est", -5), ("edt", -4), ("cst", -6), ("cdt", -5), ("mst", -7),
    ("mdt", -6), ("pst", -8), ("pdt", -7), ("akst", -9), ("akdt", -8), ("hst", -10)]
  match word with
  | [c] =>
      if c = 'z' then some 0
      else if 'a' ≤ c && c ≤ 'i' then some (((c.toNat : Int) - 'a'.toNat + 1) * 60)
      else if 'k' ≤ c && c ≤ 'm' then some (((c.toNat : Int) - 'k'.toNat + 10) * 60)
      else if 'n' ≤ c && c ≤ 'y' then some (-((c.toNat : Int) - 'n'.toNat + 1) * 60)
      else none
  | word => (hours.lookup (String.ofList word)).map (· * 60)

structure Saying where
  date : Option (Int × Nat × Nat) := none
  yearless : Option (Nat × Nat) := none
  time : Option (Nat × Nat × Nat) := none
  zone : Option Int := none
  weekday : Option (Int × Nat) := none
  years : Int := 0
  months : Int := 0
  days : Int := 0
  seconds : Int := 0
  steps : Bool := false

def Saying.go (s : Saying) (count : Int) (u : Step × Int) : Saying :=
  let by' := count * u.2
  let s := { s with steps := true }
  match u.1 with
  | .years => { s with years := s.years + by' }
  | .months => { s with months := s.months + by' }
  | .days => { s with days := s.days + by' }
  | .hours => { s with seconds := s.seconds + by' * 3600 }
  | .minutes => { s with seconds := s.seconds + by' * 60 }
  | .seconds => { s with seconds := s.seconds + by' }

def fullYear (digits : Octets) : Int :=
  let n := Octets.digitsValue digits
  if digits.length ≤ 2 then (if n < 69 then 2000 + n else 1900 + n) else n

def zoneOf (negative : Bool) (digits : Octets) (minutes : Option Octets) : Option Int :=
  let n := Octets.digitsValue digits
  let total := match minutes with
    | some m => n * 60 + Octets.digitsValue m
    | none => if digits.length ≤ 2 then n * 60 else n / 100 * 60 + n % 100
  if total > 24 * 60 then none else some (if negative then -(total : Int) else total)

def halfDay? (hour : Nat) (word : Octets) : Option Nat :=
  if hour = 0 || hour > 12 then none
  else if word == ['a', 'm'] then some (hour % 12)
  else if word == ['p', 'm'] then some (hour % 12 + 12)
  else none

def Saying.withDate (s : Saying) (year : Int) (month day : Nat) : Option Saying :=
  if s.date.isSome || s.yearless.isSome then none else some { s with date := some (year, month, day) }

def Saying.withDay (s : Saying) (month day : Nat) : Option Saying :=
  if s.date.isSome || s.yearless.isSome then none else some { s with yearless := some (month, day) }

def Saying.withTime (s : Saying) (hour minute second : Nat) : Option Saying :=
  if s.time.isSome then none else some { s with time := some (hour, minute, second) }

def Saying.withZone (s : Saying) (minutes : Option Int) : Option Saying :=
  match minutes with
  | some m => if s.zone.isSome then none else some { s with zone := some m }
  | none => none

def afterTime (s : Saying) (hour minute second : Nat) : List Token → Option (Saying × List Token)
  | .word w :: ts =>
      if w == ['a', 'm'] || w == ['p', 'm'] then do
        let hour ← halfDay? hour w
        return (← s.withTime hour minute second, ts)
      else do return (← s.withTime hour minute second, .word w :: ts)
  | .number (some negative) digits :: .sign ':' :: .number none minutes :: ts => do
      let s ← s.withTime hour minute second
      return (← s.withZone (zoneOf negative digits (some minutes)), ts)
  | .number (some negative) digits :: ts => do
      let s ← s.withTime hour minute second
      return (← s.withZone (zoneOf negative digits none), ts)
  | ts => do return (← s.withTime hour minute second, ts)

def Saying.withNumber (s : Saying) (digits : Octets) : Option Saying :=
  let n := Octets.digitsValue digits
  match s.yearless with
  | some (month, day) =>
      if !s.steps && (s.time.isSome || digits.length > 2) then
        some { s with yearless := none, date := some (fullYear digits, month, day) }
      else if digits.length ≤ 2 then s.withTime n 0 0 else s.withTime (n / 100) (n % 100) 0
  | none =>
      if digits.length > 4 then s.withDate (fullYear (digits.take (digits.length - 4))) (n / 100 % 100) (n % 100)
      else if digits.length ≤ 2 then s.withTime n 0 0
      else s.withTime (n / 100) (n % 100) 0

def Saying.step (s : Saying) (count : Int) (u : Step × Int) : List Token → Saying × List Token
  | .word w :: ts => if w == "ago".toList then (s.go (-count) u, ts) else (s.go count u, .word w :: ts)
  | ts => (s.go count u, ts)

def ofWord (s : Saying) (w : Octets) (ts : List Token) : Option (Saying × List Token) :=
  match named? months w with
  | some m => do
      match ts with
      | .number none day :: .sign ',' :: .number none year :: ts =>
          return (← s.withDate (fullYear year) (m + 1) (Octets.digitsValue day), ts)
      | .number none _ :: .sign ':' :: _ => none
      | .number none day :: ts => return (← s.withDay (m + 1) (Octets.digitsValue day), ts)
      | .number (some true) day :: .number (some true) year :: ts =>
          return (← s.withDate (fullYear year) (m + 1) (Octets.digitsValue day), ts)
      | _ => none
  | none =>
  match named? weekdays w with
  | some d =>
      if s.weekday.isSome then none
      else some ({ s with weekday := some (0, d) }, match ts with
        | .sign ',' :: ts => ts
        | ts => ts)
  | none =>
  match ordinal? w with
  | some k =>
      match ts with
      | .word next :: ts =>
          match unit? next, named? weekdays next with
          | some u, _ => some (s.step k u ts)
          | none, some d => if s.weekday.isSome then none else some ({ s with weekday := some (k, d) }, ts)
          | none, none => none
      | _ => none
  | none =>
  match shift? w with
  | some k => some (s.go k (.days, 1), ts)
  | none =>
  match unit? w with
  | some u => some (s.step 1 u ts)
  | none =>
      match w, ts with
      | ['t'], .number none _ :: _ => some (s, ts)
      | w, .number (some negative) digits :: ts =>
          if (zone? w).isSome && (digits.length ≥ 4 || (ts.head?).all fun t => match t with
              | .word u => (unit? u).isNone
              | _ => true) then do
            let ahead ← zoneOf negative digits none
            return (← s.withZone ((zone? w).map (· + ahead)), ts)
          else do return (← s.withZone (zone? w), .number (some negative) digits :: ts)
      | w, ts => do return (← s.withZone (zone? w), ts)

def ofNumber (s : Saying) (negative : Option Bool) (digits : Octets) (ts : List Token) : Option (Saying × List Token) :=
  let n := Octets.digitsValue digits
  match negative, ts with
  | none, .sign ':' :: .number none minute :: .sign ':' :: .number none second :: ts =>
      afterTime s n (Octets.digitsValue minute) (Octets.digitsValue second) ts
  | none, .sign ':' :: .number none minute :: ts => afterTime s n (Octets.digitsValue minute) 0 ts
  | none, .sign '/' :: .number none b :: .sign '/' :: .number none c :: ts =>
      if digits.length > 3 then do return (← s.withDate n (Octets.digitsValue b) (Octets.digitsValue c), ts)
      else do return (← s.withDate (fullYear c) n (Octets.digitsValue b), ts)
  | none, .sign '/' :: .number none b :: ts => do return (← s.withDay n (Octets.digitsValue b), ts)
  | none, .number (some true) month :: .number (some true) day :: ts => do
      return (← s.withDate (fullYear digits) (Octets.digitsValue month) (Octets.digitsValue day), ts)
  | _, .word w :: ts =>
      match unit? w with
      | some u => some (s.step (if negative = some true then -(n : Int) else n) u ts)
      | none =>
          if negative.isSome then none
          else match named? months w with
            | some m =>
                match ts with
                | .number none _ :: .sign ':' :: _ => do return (← s.withDay (m + 1) n, ts)
                | .number none year :: ts => do return (← s.withDate (fullYear year) (m + 1) n, ts)
                | .number (some true) year :: ts => do return (← s.withDate (fullYear year) (m + 1) n, ts)
                | ts => do return (← s.withDay (m + 1) n, ts)
            | none =>
                if w == ['a', 'm'] || w == ['p', 'm'] then do
                  let hour ← halfDay? n w
                  return (← s.withTime hour 0 0, ts)
                else do return (← s.withNumber digits, .word w :: ts)
  | none, ts => do return (← s.withNumber digits, ts)
  | some negative, ts =>
      if s.time.isSome && s.zone.isNone then do return (← s.withZone (zoneOf negative digits none), ts) else none

def sayings : Nat → Saying → List Token → Option Saying
  | 0, _, _ => none
  | _, s, [] => some s
  | n + 1, s, t :: ts => do
      let (s, ts) ← (match t with
        | .word w => ofWord s w ts
        | .number negative digits => ofNumber s negative digits ts
        | .sign ',' => some (s, ts)
        | .sign _ => none)
      sayings n s ts

def Saying.moment? (s : Saying) (now : Int) : Option Int := do
  let m := moment now
  let (year, month, day) := match s.date, s.yearless with
    | some d, _ => d
    | none, some (month, day) => (m.year, month, day)
    | none, none => (m.year, m.month, m.day)
  let dated := s.date.isSome || s.yearless.isSome
  let (hour, minute, second) := match s.time with
    | some t => t
    | none => if dated || s.weekday.isSome then (0, 0, 0) else (m.hour, m.minute, m.second)
  let _ ← secondsOf year month day hour minute second
  let index := (month : Int) - 1 + s.months
  let year := year + s.years + index.fdiv 12
  let first ← secondsOf year ((index.fmod 12).toNat + 1) 1 0 0 0
  let start := first + ((day : Int) - 1 + s.days) * 86400
  let start := match s.weekday with
    | some (k, wanted) =>
        if dated then start
        else
          let today := ((start.fdiv 86400 + 4).fmod 7)
          let ahead := ((wanted : Int) - today + 7).fmod 7
          start + (ahead + 7 * (k - (if 0 < k && today ≠ wanted then 1 else 0))) * 86400
    | none => start
  return start + hour * 3600 + minute * 60 + second + s.seconds - s.zone.getD 0 * 60

/-- The moment of a text, as it is understood at a moment: seconds after an at sign, or what is said of a date and a
time. An empty text means the day. -/
def read? (now : Int) (cs : Octets) : Option Int :=
  match tokens (cs.length + 1) cs with
  | [.sign '@', .number negative digits] =>
      let n : Int := Octets.digitsValue digits
      some (if negative = some true then -n else n)
  | [] => ({ time := some (0, 0, 0) } : Saying).moment? now
  | ts => (sayings (ts.length + 1) {} ts).bind fun s => s.moment? now

end LintBridge.Shell.Calendar
