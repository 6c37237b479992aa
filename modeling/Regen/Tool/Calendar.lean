import Regen.Moment
import Regen.Tool.Basic

/-!
# Points in time

Points in time, in microseconds since the beginning of 1970 in universal time: as people write them,
and in a format. `date` shows them.
-/

namespace Regen.Tool

open Text Posix

/-- The microseconds of a day. -/
def dayLength : Int := 86400000000

/-- The number of days from the beginning of 1970 to a day of the calendar. -/
def dayNumber (d : Date) : Int :=
  let y : Int := if d.month ≤ 2 then (d.year : Int) - 1 else d.year
  let round := Int.fdiv y 400
  let inRound := y - round * 400
  let month : Int := if d.month ≤ 2 then d.month + 9 else d.month - 3
  let inYear := (153 * month + 2) / 5 + d.day - 1
  round * 146097 + inRound * 365 + inRound / 4 - inRound / 100 + inYear - 719468

example : dayNumber ⟨2024, 2, 29⟩ = 19782 ∧ dayNumber ⟨1970, 1, 1⟩ = 0 := by decide

/-- The day of the calendar of a point in time. -/
def dateOf (micros : Int) : Date :=
  let n := Int.fdiv micros dayLength
  if 0 ≤ n then Date.ofDayNumber n.toNat
  else
    let rounds := (-n).toNat / 146097 + 1
    let d := Date.ofDayNumber (n + rounds * 146097).toNat
    { d with year := d.year - 400 * rounds }

/-- The time of day of a point in time. -/
def clockOf (micros : Int) : Clock := Clock.ofMicroseconds (Int.fmod micros dayLength).toNat

/-- The names of the months. -/
def monthNames : List String :=
  ["January", "February", "March", "April", "May", "June", "July", "August", "September", "October",
    "November", "December"]

/-- The names of the days of a week. -/
def weekdayNames : List String :=
  ["Sunday", "Monday", "Tuesday", "Wednesday", "Thursday", "Friday", "Saturday"]

/-- The day of the week; zero is Sunday. -/
def weekdayOf (micros : Int) : Nat := (Int.fmod (Int.fdiv micros dayLength + 4) 7).toNat

/-! ## Reading -/

/-- What is known of a point in time that is read. -/
structure Sketch where
  date : Option Date := none
  /-- The microseconds after midnight. -/
  clock : Option Int := none
  /-- The minutes that local time is ahead. -/
  zone : Int := 0
  months : Int := 0
  days : Int := 0
  micros : Int := 0
  /-- The point in time itself. -/
  point : Option Int := none

/-- The first letters of names, by which they can be told. -/
def nameIndex? (names : List String) (t : Text) : Option Nat :=
  let l := t.map Char.toLower
  let fits (n : String) : Bool :=
    let m := n.toList.map Char.toLower
    l = m || (3 ≤ l.length && l.isPrefixOf m)
  if names.any fits then some (names.findIdx fits) else none

/-- The microseconds that a fraction of a second is. -/
def microsOf (ds : Text) : Nat := decimal ((ds ++ List.replicate 6 '0').take 6)

/-- Reads a time of day, with the rest after it. -/
def takeClock? (t : Text) : Option (Int × Text) := do
  let h := t.takeWhile Char.isDigit
  let (':' :: r) := t.drop h.length | none
  let m := r.takeWhile Char.isDigit
  if h.length = 0 ∨ 2 < h.length ∨ m.length ≠ 2 then none
  let r := r.drop 2
  let (s, micros, r) ← match r with
    | ':' :: r => do
      let s := r.takeWhile Char.isDigit
      if s.length = 0 ∨ 2 < s.length then none
      let r := r.drop s.length
      match r with
      | '.' :: u | ',' :: u =>
        let f := u.takeWhile Char.isDigit
        if f = [] then some (decimal s, 0, r) else some (decimal s, microsOf f, u.drop f.length)
      | _ => some (decimal s, 0, r)
    | _ => some (0, 0, r)
  if 23 < decimal h ∨ 59 < decimal m ∨ 60 < s then none
  return ((((decimal h * 60 + decimal m) * 60 + s) * 1000000 + micros : Nat), r)

/-- Reads an offset from universal time. -/
def zone? (t : Text) : Option Int :=
  let offset (ds : Text) : Option Int :=
    match splitAt (· = ':') ds with
    | [a] =>
      if a = [] ∨ !a.all Char.isDigit then none
      else if a.length ≤ 2 then some (decimal a * 60)
      else if a.length = 4 then some (decimal (a.take 2) * 60 + decimal (a.drop 2)) else none
    | [a, b] =>
      if a ≠ [] ∧ b.length = 2 ∧ (a ++ b).all Char.isDigit then some (decimal a * 60 + decimal b)
      else none
    | _ => none
  match t with
  | ['Z'] | ['z'] => some 0
  | '+' :: ds => offset ds
  | '-' :: ds => (offset ds).map (- ·)
  | _ => if ["UTC", "GMT", "utc", "gmt"].contains (str t) then some 0 else none

/-- A day, if the calendar has it. -/
def validDate? (y m d : Nat) : Option Date :=
  let date : Date := ⟨y, m, d⟩
  if date.isValid then some date else none

/-- Reads a day in numbers. -/
def date? (t : Text) : Option Date :=
  let areDigits (ps : List Text) : Bool := ps.all fun p => p ≠ [] && p.all Char.isDigit
  match splitAt (· = '-') t, splitAt (· = '/') t with
  | [y, m, d], _ =>
    if areDigits [y, m, d] ∧ 4 ≤ y.length then validDate? (decimal y) (decimal m) (decimal d)
    else none
  | _, [a, b, c] =>
    if !areDigits [a, b, c] then none
    else if 4 ≤ a.length then validDate? (decimal a) (decimal b) (decimal c)
    else if 4 ≤ c.length then validDate? (decimal c) (decimal a) (decimal b)
    else none
  | [a], _ =>
    if a.length = 8 ∧ a.all Char.isDigit then
      validDate? (decimal (a.take 4)) (decimal ((a.drop 4).take 2)) (decimal (a.drop 6))
    else none
  | _, _ => none

/-- Adds some units of time. -/
def Sketch.add? (s : Sketch) (count : Int) (unit : Text) : Option Sketch :=
  let u := unit.map Char.toLower
  let u := if u.getLast? = some 's' ∧ 1 < u.length then u.dropLast else u
  match str u with
  | "year" => some { s with months := s.months + 12 * count }
  | "month" => some { s with months := s.months + count }
  | "fortnight" => some { s with days := s.days + 14 * count }
  | "week" => some { s with days := s.days + 7 * count }
  | "day" => some { s with days := s.days + count }
  | "hour" => some { s with micros := s.micros + 3600000000 * count }
  | "minute" | "min" => some { s with micros := s.micros + 60000000 * count }
  | "second" | "sec" => some { s with micros := s.micros + 1000000 * count }
  | _ => none

/-- The number with a sign that a text is. -/
def count? (t : Text) : Option Int :=
  match t with
  | '+' :: ds => (number? ds).map fun (n : Nat) => (n : Int)
  | '-' :: ds => (number? ds).map fun (n : Nat) => -(n : Int)
  | ds => (number? ds).map fun (n : Nat) => (n : Int)

/-- Reads the words of a point in time. -/
def sketch? (today : Int) : Nat → List Text → Sketch → Option Sketch
  | 0, _, s => some s
  | _, [], s => some s
  | fuel + 1, w :: ws, s =>
    let lower := str (w.map Char.toLower)
    let goOn (ws : List Text) (s : Sketch) : Option Sketch := sketch? today fuel ws s
    let counted (n : Int) (unit : Text) (ws : List Text) : Option Sketch :=
      match ws with
      | a :: rest =>
        if str (a.map Char.toLower) = "ago" then (s.add? (-n) unit).bind (goOn rest)
        else (s.add? n unit).bind (goOn ws)
      | [] => (s.add? n unit).bind (goOn ws)
    match lower with
    | "now" => goOn ws s
    | "today" => goOn ws s
    | "yesterday" => goOn ws { s with days := s.days - 1 }
    | "tomorrow" => goOn ws { s with days := s.days + 1 }
    | "midnight" => goOn ws { s with clock := some 0 }
    | "noon" => goOn ws { s with clock := some 43200000000 }
    | "next" => match ws with
      | u :: rest => counted 1 u rest
      | [] => none
    | "last" => match ws with
      | u :: rest => counted (-1) u rest
      | [] => none
    | "am" => goOn ws s
    | "pm" => goOn ws { s with clock := s.clock.map (· + 43200000000) }
    | _ =>
      match w with
      | '@' :: t =>
        let isNegative := t.head? = some '-'
        let t := if isNegative then t.drop 1 else t
        let whole := t.takeWhile Char.isDigit
        let part := t.drop whole.length
        let micros : Option Nat := match part with
          | [] => some 0
          | '.' :: f | ',' :: f => if f ≠ [] ∧ f.all Char.isDigit then some (microsOf f) else none
          | _ => none
        match if whole = [] then none else micros with
        | some m =>
          let n : Int := (decimal whole * 1000000 + m : Nat)
          goOn ws { s with point := some (if isNegative then -n else n) }
        | none => none
      | _ =>
        let day := w.takeWhile fun c => c ≠ 'T' ∧ c ≠ 't'
        let (d?, rest) := match date? day with
          | some d => (some d, w.drop (day.length + 1))
          | none => (none, w)
        match d?, rest with
        | some d, [] => goOn ws { s with date := some d }
        | _, _ =>
          match takeClock? rest with
          | some (c, z) =>
            let s := { s with date := d?.orElse fun _ => s.date, clock := some c }
            if z = [] then goOn ws s
            else
              match str (z.map Char.toLower) with
              | "am" => goOn ws s
              | "pm" => goOn ws { s with clock := some (c + 43200000000) }
              | _ => (zone? z).bind fun z => goOn ws { s with zone := z }
          | none =>
            match zone? w, nameIndex? monthNames w, nameIndex? weekdayNames w, count? w with
            | _, some m, _, _ =>
              match ws with
              | d :: y :: rest =>
                match number? d, number? y with
                | some d, some y => (validDate? y (m + 1) d).bind fun d =>
                  goOn rest { s with date := some d }
                | some d, none => (validDate? (dateOf today).year (m + 1) d).bind fun d =>
                  goOn (y :: rest) { s with date := some d }
                | none, _ => none
              | [d] => (number? d).bind fun d =>
                (validDate? (dateOf today).year (m + 1) d).bind fun d =>
                  goOn [] { s with date := some d }
              | [] => none
            | _, _, some k, _ =>
              if s.date.isSome then goOn ws s
              else
                let ahead := (k + 7 - weekdayOf today) % 7
                goOn ws { s with
                  days := s.days + ahead, clock := s.clock.orElse fun _ => some 0 }
            | some z, _, _, none => goOn ws { s with zone := z }
            | _, _, _, some n =>
              match ws with
              | u :: rest =>
                match nameIndex? monthNames u with
                | some m =>
                  match rest with
                  | y :: rest => (number? y).bind fun y =>
                    (validDate? y (m + 1) n.toNat).bind fun d =>
                      goOn rest { s with date := some d }
                  | [] => (validDate? (dateOf today).year (m + 1) n.toNat).bind fun d =>
                    goOn [] { s with date := some d }
                | none => counted n u rest
              | [] => none
            | none, none, none, none =>
              if (s.add? 1 w).isSome then counted 1 w ws else none

/-- The point in time of a sketch, where it is now. -/
def Sketch.point' (s : Sketch) (now : Int) : Int :=
  let start := match s.point with
    | some p => p
    | none =>
      let date := s.date.getD (dateOf now)
      let clock := match s.clock with
        | some c => c
        | none => if s.date.isSome then 0 else Int.fmod now dayLength
      dayNumber date * dayLength + clock - s.zone * 60000000
  let date := dateOf start
  let months := (date.year * 12 + (date.month - 1) : Int) + s.months
  let moved : Date := ⟨(months / 12).toNat, (months % 12).toNat + 1, date.day⟩
  let start := if s.months = 0 then start else dayNumber moved * dayLength + Int.fmod start dayLength
  start + s.days * dayLength + s.micros

/-- The point in time that a text writes, where it is now. -/
def pointOf? (now : Int) (t : Text) : Option Int :=
  let words := (splitAt (fun c => c = ' ' || c = '\t' || c = '\n' || c = ',') t).filter (· ≠ [])
  if words = [] then some (Int.fdiv now dayLength * dayLength)
  else
    (sketch? now (words.length + 1) words {}).map fun s => s.point' now

/-- The point in time that digits write: month, day, hour and minute, perhaps after a year, and
perhaps with a point and the seconds. -/
def stampOf? (now : Int) (t : Text) : Option Int :=
  let (ds, seconds) := match splitAt (· = '.') t with
    | [ds] => (ds, some 0)
    | [ds, s] => (ds, if s.length = 2 ∧ s.all Char.isDigit then some (decimal s) else none)
    | _ => ([], none)
  let two (i : Nat) : Nat := decimal ((ds.drop i).take 2)
  if !ds.all Char.isDigit then none
  else
    let year? : Option Nat := match ds.length with
      | 8 => some (dateOf now).year
      | 10 => some (if two 0 < 69 then 2000 + two 0 else 1900 + two 0)
      | 12 => some (two 0 * 100 + two 2)
      | _ => none
    let at' := ds.length - 8
    match year?, seconds with
    | some y, some s =>
      if two (at' + 4) ≤ 23 ∧ two (at' + 6) ≤ 59 ∧ s ≤ 60 then
        (validDate? y (two at') (two (at' + 2))).map fun d =>
          dayNumber d * dayLength +
            (((two (at' + 4) * 60 + two (at' + 6)) * 60 + s) * 1000000 : Nat)
      else none
    | _, _ => none

/-! ## Writing -/

/-- The day of a year, counted from one. -/
def dayOfYear (micros : Int) : Nat :=
  let d := dateOf micros
  (dayNumber d - dayNumber ⟨d.year, 1, 1⟩ + 1).toNat

/-- The year and the week to which a day belongs, where weeks start on Monday and belong to the year
of their Thursday. -/
def weekOf (micros : Int) : Nat × Nat :=
  let day := Int.fdiv micros dayLength
  let thursday := day - ((weekdayOf micros + 6) % 7 : Nat) + 3
  let y := (dateOf (thursday * dayLength)).year
  (y, ((thursday - dayNumber ⟨y, 1, 1⟩) / 7 + 1).toNat)

/-- A number, filled up with a character that a flag may change. -/
def paddedBy (flag : Option Char) (usual : Char) (width : Nat) (n : Nat) : Text :=
  let ds := digits n
  let fill := match flag with
    | some '-' => none
    | some '_' => some ' '
    | some '0' => some '0'
    | _ => some usual
  match fill with
  | some c => List.replicate (width - ds.length) c ++ ds
  | none => ds

/-- What a letter in a format stands for. -/
def formatPart (flag : Option Char) (micros : Int) (c : Char) : Option Text :=
  let d := dateOf micros
  let k := clockOf micros
  let n (fill : Char) (width value : Nat) : Option Text := some (paddedBy flag fill width value)
  let cased (t : Text) : Text :=
    match flag with
    | some '^' => t.map Char.toUpper
    | some '#' => t.map Char.toUpper
    | _ => t
  let name (names : List String) (i : Nat) : Text := cased ((names[i]?.getD "").toList)
  let hour12 := if k.hour % 12 = 0 then 12 else k.hour % 12
  let clockText : Text := (Clock.mk k.hour k.minute k.second 0).toText
  let weekday := name weekdayNames (weekdayOf micros)
  let month := name monthNames (d.month - 1)
  match c with
  | 'Y' => n '0' 1 d.year
  | 'C' => n '0' 2 (d.year / 100)
  | 'y' => n '0' 2 (d.year % 100)
  | 'm' => n '0' 2 d.month
  | 'd' => n '0' 2 d.day
  | 'e' => n ' ' 2 d.day
  | 'H' => n '0' 2 k.hour
  | 'I' => n '0' 2 hour12
  | 'k' => n ' ' 2 k.hour
  | 'l' => n ' ' 2 hour12
  | 'M' => n '0' 2 k.minute
  | 'S' => n '0' 2 k.second
  | 'N' => n '0' 9 (k.microsecond * 1000)
  | 'j' => n '0' 3 (dayOfYear micros)
  | 'u' => n '0' 1 ((weekdayOf micros + 6) % 7 + 1)
  | 'w' => n '0' 1 (weekdayOf micros)
  | 'U' => n '0' 2 ((dayOfYear micros + 6 - weekdayOf micros) / 7)
  | 'W' => n '0' 2 ((dayOfYear micros + 6 - (weekdayOf micros + 6) % 7) / 7)
  | 'V' => n '0' 2 (weekOf micros).2
  | 'G' => n '0' 1 (weekOf micros).1
  | 'g' => n '0' 2 ((weekOf micros).1 % 100)
  | 'q' => n '0' 1 ((d.month + 2) / 3)
  | 's' => some (numeral (Int.fdiv micros 1000000))
  | 'F' => some d.toText
  | 'T' | 'X' => some clockText
  | 'R' => some (clockText.take 5)
  | 'D' | 'x' => some (padded 2 d.month ++ '/' :: padded 2 d.day ++ '/' :: padded 2 (d.year % 100))
  | 'r' => some (padded 2 hour12 ++ (clockText.drop 2) ++ (if k.hour < 12 then " AM" else " PM").toList)
  | 'p' => some ((if k.hour < 12 then "AM" else "PM").toList)
  | 'P' => some ((if k.hour < 12 then "am" else "pm").toList)
  | 'A' => some weekday
  | 'a' => some (weekday.take 3)
  | 'B' => some month
  | 'b' | 'h' => some (month.take 3)
  | 'c' => some (weekday.take 3 ++ ' ' :: month.take 3 ++ ' ' :: padLeft 2 (digits d.day) ++
      ' ' :: clockText ++ ' ' :: digits d.year)
  | 'Z' => some "UTC".toList
  | 'z' => some "+0000".toList
  | 'n' => some ['\n']
  | 't' => some ['\t']
  | '%' => some ['%']
  | _ => none

/-- Writes a point in time in a format. -/
def formatted (micros : Int) : Nat → Text → Text
  | 0, _ => []
  | _, [] => []
  | fuel + 1, '%' :: ':' :: 'z' :: t => "+00:00".toList ++ formatted micros fuel t
  | fuel + 1, '%' :: t =>
    let isFlag (c : Char) : Bool := c = '-' || c = '_' || c = '0' || c = '^' || c = '#'
    let flags := t.takeWhile isFlag
    let u := t.drop flags.length
    let width := u.takeWhile Char.isDigit
    let u := u.drop width.length
    match u with
    | c :: rest =>
      match formatPart flags.getLast? micros c with
      | some p =>
        let p :=
          if width = [] then p
          else if c = 'N' then p.take (decimal width)
          else
            let fill := if flags.getLast? = some '_' ∨ !p.all Char.isDigit then ' ' else '0'
            List.replicate (decimal width - p.length) fill ++ p
        p ++ formatted micros fuel rest
      | none => '%' :: formatted micros fuel t
    | [] => '%' :: formatted micros fuel t
  | fuel + 1, c :: t => c :: formatted micros fuel t

/-- Shows a point in time. -/
def showDate (args : List Text) : Run Nat := do
  let u : Usage :=
    { flags := [⟨'d', "date", .needed⟩, ⟨'f', "file", .needed⟩, ⟨'I', "iso-8601", .optional⟩,
        ⟨'r', "reference", .needed⟩, ⟨'R', "rfc-email", .none⟩, ⟨'R', "rfc-2822", .none⟩,
        ⟨'\x01', "rfc-3339", .needed⟩, ⟨'s', "set", .needed⟩, ⟨'u', "utc", .none⟩,
        ⟨'u', "universal", .none⟩] }
  let g ← u.read args
  let now : Int := ((← see World.clock) : Nat)
  let point ← match g.value? 'd', g.value? 'r' with
    | some t, _ =>
      match pointOf? now t with
      | some p => pure p
      | none => fail s!"invalid date {quoted t}"
    | none, some file =>
      match ← call (Call.status file) with
      | .ok s => pure (s.modified : Int)
      | .error e => fail s!"{str file}: {e.message}"
    | none, none => pure now
  let format ← match g.operands with
    | ('+' :: f) :: rest => do
      if let extra :: _ := rest then u.refuse s!"extra operand {quoted extra}"
      pure f
    | t :: _ => fail s!"invalid date {quoted t}"
    | [] =>
      if g.has 'R' then pure "%a, %d %b %Y %H:%M:%S %z".toList
      else if g.has 'I' then
        pure (match str ((g.value? 'I').getD []) with
          | "hours" => "%Y-%m-%dT%H%:z"
          | "minutes" => "%Y-%m-%dT%H:%M%:z"
          | "seconds" => "%Y-%m-%dT%H:%M:%S%:z"
          | "ns" => "%Y-%m-%dT%H:%M:%S,%N%:z"
          | _ => "%Y-%m-%d").toList
      else if g.has '\x01' then
        pure (match str ((g.value? '\x01').getD []) with
          | "seconds" => "%Y-%m-%d %H:%M:%S%:z"
          | "ns" => "%Y-%m-%d %H:%M:%S.%N%:z"
          | _ => "%Y-%m-%d").toList
      else pure "%a %b %e %H:%M:%S %Z %Y".toList
  printLine (formatted point (format.length + 1) format)
  return 0

end Regen.Tool
