/-! Dates and times of day, with or without the distance of the clock from the common one. -/

namespace PolicyServer.Toml

/-- What is read from the head of a text, and the text after it. -/
abbrev Reader (α : Type) := List Char → Option (α × List Char)

structure Day where
  year : Nat
  month : Nat
  day : Nat
  deriving DecidableEq, Repr

/-- A time of day, which need not have seconds nor billionths of one. -/
structure Clock where
  hour : Nat
  minute : Nat
  second : Option Nat := none
  billionths : Option Nat := none
  deriving DecidableEq, Repr

/-- The distance of a clock from the common one: none by name, or some minutes ahead. -/
inductive Zone where
  | common
  | ahead (minutes : Int)
  deriving DecidableEq, Repr

/-- A day, a time of day, or both. -/
inductive Moment where
  | day (date : Day)
  | clock (time : Clock)
  | both (date : Day) (time : Clock) (zone : Option Zone)
  deriving DecidableEq, Repr

/-- A number of exactly so many digits, and the text after it. -/
def readDigits (count : Nat) (chars : List Char) : Option (Nat × List Char) :=
  let digits := chars.take count
  if digits.length = count ∧ digits.all Char.isDigit then
    some (digits.foldl (fun value c => 10 * value + (c.toNat - 48)) 0, chars.drop count)
  else none

def afterMark? (mark : Char) : List Char → Option (List Char)
  | c :: rest => if c = mark then some rest else none
  | [] => none

def daysIn (year month : Nat) : Nat :=
  if month = 2 then
    if year % 4 = 0 ∧ (year % 100 ≠ 0 ∨ year % 400 = 0) then 29 else 28
  else if month ∈ [4, 6, 9, 11] then 30
  else 31

def readDay (chars : List Char) : Option (Day × List Char) := do
  let (year, rest) ← readDigits 4 chars
  let (month, rest) ← readDigits 2 (← afterMark? '-' rest)
  let (day, rest) ← readDigits 2 (← afterMark? '-' rest)
  if 1 ≤ month ∧ month ≤ 12 ∧ 1 ≤ day ∧ day ≤ daysIn year month then
    some (⟨year, month, day⟩, rest)
  else none

/-- The billionths that the digits after a point stand for; further digits are left out. -/
def billionthsOf (digits : List Char) : Nat :=
  (digits ++ List.replicate 9 '0').take 9 |>.foldl (fun value c => 10 * value + (c.toNat - 48)) 0

/-- A part of a second, if one is there. -/
def readBillionths (chars : List Char) : Option (Option Nat × List Char) :=
  match afterMark? '.' chars with
  | none => some (none, chars)
  | some chars =>
    let digits := chars.takeWhile Char.isDigit
    if digits.isEmpty then none else some (some (billionthsOf digits), chars.drop digits.length)

/-- A time of day. A minute may have a sixty-first second. -/
def readClock (chars : List Char) : Option (Clock × List Char) := do
  let (hour, rest) ← readDigits 2 chars
  let (minute, rest) ← readDigits 2 (← afterMark? ':' rest)
  if 23 < hour ∨ 59 < minute then none
  else
    match afterMark? ':' rest with
    | none => some (⟨hour, minute, none, none⟩, rest)
    | some rest => do
      let (second, rest) ← readDigits 2 rest
      let (billionths, rest) ← readBillionths rest
      if 60 < second then none else some (⟨hour, minute, some second, billionths⟩, rest)

/-- The distance of a clock that a whole text gives, none for the empty one. -/
def zone? : List Char → Option (Option Zone)
  | [] => some none
  | ['Z'] => some (some .common)
  | ['z'] => some (some .common)
  | sign :: rest => do
    let (hours, rest) ← readDigits 2 rest
    let (minutes, rest) ← readDigits 2 (← afterMark? ':' rest)
    let distance : Int := 60 * hours + minutes
    if 23 < hours ∨ 59 < minutes ∨ rest ≠ [] then none
    else if sign = '+' then some (some (.ahead distance))
    else if sign = '-' then some (some (.ahead (-distance)))
    else none

def moment? (chars : List Char) : Option Moment :=
  match readDay chars with
  | some (day, []) => some (.day day)
  | some (day, c :: rest) =>
    if c = 'T' ∨ c = 't' ∨ c = ' ' then do
      let (clock, rest) ← readClock rest
      return .both day clock (← zone? rest)
    else none
  | none =>
    match readClock chars with
    | some (clock, []) => some (.clock clock)
    | _ => none

/-- A number with zeros in front up to a width. -/
def padded (width n : Nat) : String :=
  let digits := toString n
  "".pushn '0' (width - digits.length) ++ digits

def Day.render (day : Day) : String :=
  s!"{padded 4 day.year}-{padded 2 day.month}-{padded 2 day.day}"

/-- Billionths of a second as the digits after a point: no zeros at the end, but one for none. -/
def renderBillionths (billionths : Nat) : String :=
  match ((padded 9 billionths).toList.reverse.dropWhile (· = '0')).reverse with
  | [] => "0"
  | digits => String.ofList digits

def Clock.render (clock : Clock) : String :=
  s!"{padded 2 clock.hour}:{padded 2 clock.minute}" ++
    ((clock.second.map fun second => ":" ++ padded 2 second).getD "") ++
    ((clock.billionths.map fun part => "." ++ renderBillionths part).getD "")

def Zone.render : Zone → String
  | .common => "Z"
  | .ahead minutes =>
    let sign := if minutes < 0 then "-" else "+"
    s!"{sign}{padded 2 (minutes.natAbs / 60)}:{padded 2 (minutes.natAbs % 60)}"

/-- A moment as written: the day, the letter T, the time of day and the distance of the clock. -/
def Moment.render : Moment → String
  | .day date => date.render
  | .clock time => time.render
  | .both date time zone =>
    s!"{date.render}T{time.render}" ++ ((zone.map Zone.render).getD "")

end PolicyServer.Toml
