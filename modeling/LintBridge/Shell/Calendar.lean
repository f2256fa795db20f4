import LintBridge.Shell.Octets

namespace LintBridge.Shell.Calendar

structure Moment where
  year : Int
  month : Nat
  day : Nat
  hour : Nat
  minute : Nat
  second : Nat
  weekday : Nat
  yearDay : Nat
  seconds : Int

def isLeap (y : Int) : Bool := (y % 4 = 0 && y % 100 ≠ 0) || y % 400 = 0

def daysBefore (y : Int) : Int :=
  let p := y - 1
  365 * (y - 1970) + (p.fdiv 4 - p.fdiv 100 + p.fdiv 400) - (1969 / 4 - 1969 / 100 + 1969 / 400)

def monthLengths (y : Int) : List Nat := [31, if isLeap y then 29 else 28, 31, 30, 31, 30, 31, 31, 30, 31, 30, 31]

def monthOf : List Nat → Nat → Nat → Nat × Nat
  | m :: ms, n, d => if d < m then (n, d + 1) else monthOf ms (n + 1) (d - m)
  | [], n, d => (n, d + 1)

/-- The year of a day. Years are counted from the first of March on, in eras of four hundred of them. -/
def yearOf (days : Int) : Int :=
  let z := days + 719468
  let era := z.fdiv 146097
  let day := z - era * 146097
  let year := (day - day / 1460 + day / 36524 - day / 146096) / 365
  let inYear := day - (365 * year + year / 4 - year / 100)
  era * 400 + year + (if inYear ≥ 306 then 1 else 0)

def moment (seconds : Int) : Moment :=
  let days := seconds.fdiv 86400
  let rest := (seconds.fmod 86400).toNat
  let year := yearOf days
  let yearDay := (days - daysBefore year).toNat
  let (month, day) := monthOf (monthLengths year) 1 yearDay
  ⟨year, month, day, rest / 3600, rest / 60 % 60, rest % 60, ((days + 4).fmod 7).toNat, yearDay, seconds⟩

def secondsOf (year : Int) (month day hour minute second : Nat) : Option Int :=
  let lengths := monthLengths year
  if month = 0 || month > 12 || day = 0 || day > (lengths[month - 1]?).getD 0 || hour > 23 || minute > 59 || second > 60 then none
  else
    let yearDay := (lengths.take (month - 1)).foldl (· + ·) 0 + (day - 1)
    some ((daysBefore year + yearDay) * 86400 + hour * 3600 + minute * 60 + second)

def weekdays : List String := ["Sunday", "Monday", "Tuesday", "Wednesday", "Thursday", "Friday", "Saturday"]

def months : List String := ["January", "February", "March", "April", "May", "June", "July", "August", "September", "October",
  "November", "December"]

def two (n : Nat) : Octets := Octets.padLeft 2 '0' (Octets.ofNat n)

def isoWeek (m : Moment) : Int × Nat :=
  let monday := (m.weekday + 6) % 7
  let n := ((m.yearDay : Int) - monday + 10).fdiv 7
  let weeksIn := fun (y : Int) =>
    let first := ((daysBefore y + 4).fmod 7).toNat
    if first = 4 || (first = 3 && isLeap y) then 53 else 52
  if n < 1 then (m.year - 1, weeksIn (m.year - 1))
  else if n > weeksIn m.year then (m.year + 1, 1)
  else (m.year, n.toNat)

def twelve (h : Nat) : Nat := if h % 12 = 0 then 12 else h % 12

def directive (m : Moment) (c : Char) : Option Octets :=
  let name := fun (names : List String) (i : Nat) => ((names[i]?).getD "").toList
  let time := two m.hour ++ ':' :: two m.minute ++ ':' :: two m.second
  let slashes := two m.month ++ '/' :: two m.day ++ '/' :: two (m.year.fmod 100).toNat
  let half := if m.hour < 12 then "AM" else "PM"
  match c with
  | 'a' => some ((name weekdays m.weekday).take 3)
  | 'A' => some (name weekdays m.weekday)
  | 'b' => some ((name months (m.month - 1)).take 3)
  | 'h' => some ((name months (m.month - 1)).take 3)
  | 'B' => some (name months (m.month - 1))
  | 'c' => some ((name weekdays m.weekday).take 3 ++ ' ' :: (name months (m.month - 1)).take 3 ++ ' ' ::
      Octets.padLeft 2 ' ' (Octets.ofNat m.day) ++ ' ' :: time ++ ' ' :: Octets.ofInt m.year)
  | 'C' => some (two (m.year.fdiv 100).toNat)
  | 'd' => some (two m.day)
  | 'D' => some slashes
  | 'e' => some (Octets.padLeft 2 ' ' (Octets.ofNat m.day))
  | 'F' => some (Octets.ofInt m.year ++ '-' :: two m.month ++ '-' :: two m.day)
  | 'g' => some (two ((isoWeek m).1.fmod 100).toNat)
  | 'G' => some (Octets.ofInt (isoWeek m).1)
  | 'H' => some (two m.hour)
  | 'I' => some (two (twelve m.hour))
  | 'j' => some (Octets.padLeft 3 '0' (Octets.ofNat (m.yearDay + 1)))
  | 'k' => some (Octets.padLeft 2 ' ' (Octets.ofNat m.hour))
  | 'l' => some (Octets.padLeft 2 ' ' (Octets.ofNat (twelve m.hour)))
  | 'm' => some (two m.month)
  | 'M' => some (two m.minute)
  | 'n' => some ['\n']
  | 'N' => some "000000000".toList
  | 'p' => some half.toList
  | 'P' => some (half.toList.map Char.toLower)
  | 'q' => some (Octets.ofNat ((m.month - 1) / 3 + 1))
  | 'r' => some (two (twelve m.hour) ++ ':' :: two m.minute ++ ':' :: two m.second ++ ' ' :: half.toList)
  | 'R' => some (two m.hour ++ ':' :: two m.minute)
  | 's' => some (Octets.ofInt m.seconds)
  | 'S' => some (two m.second)
  | 't' => some ['\t']
  | 'T' => some time
  | 'u' => some (Octets.ofNat (if m.weekday = 0 then 7 else m.weekday))
  | 'U' => some (two ((m.yearDay + 7 - m.weekday) / 7))
  | 'V' => some (two (isoWeek m).2)
  | 'w' => some (Octets.ofNat m.weekday)
  | 'W' => some (two ((m.yearDay + 7 - (m.weekday + 6) % 7) / 7))
  | 'x' => some slashes
  | 'X' => some time
  | 'y' => some (two (m.year.fmod 100).toNat)
  | 'Y' => some (Octets.ofInt m.year)
  | 'z' => some "+0000".toList
  | 'Z' => some "UTC".toList
  | '%' => some ['%']
  | _ => none

def format (m : Moment) : Octets → Octets
  | [] => []
  | ['%'] => ['%']
  | '%' :: '-' :: c :: cs =>
      let text := (directive m c).getD ['%', '-', c]
      let bare := text.dropWhile fun d => d = '0' || d = ' '
      (if bare.isEmpty then text.drop (text.length - 1) else bare) ++ format m cs
  | '%' :: c :: cs => (directive m c).getD ['%', c] ++ format m cs
  | c :: cs => c :: format m cs

end LintBridge.Shell.Calendar
