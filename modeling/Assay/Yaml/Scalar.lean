import Assay.Decimal.Reading
import Assay.Failure
import Assay.Text.Cut
import Assay.Text.LowerCase

/-!
# YAML scalars

A plain scalar may stand for a truth value, a number, a moment or nothing; otherwise it is a text.
Numbers may hold low lines, have several bases, and be written in groups of sixty.
-/

namespace Assay.Yaml

open Decimal (takeSign natOf)

/-- Whether a scalar stands for nothing. -/
def isNull (s : String) : Bool := ["", "~", "null", "Null", "NULL"].contains s

/-- The truth value that a word stands for in any case. -/
def truthOf? (s : String) : Option Bool :=
  if ["yes", "true", "on"].contains s then some true
  else if ["no", "false", "off"].contains s then some false
  else none

/-- The truth value of a scalar. -/
def truthOf (s : String) : Except Failure Bool :=
  let word := Text.lower s
  match truthOf? word with
  | some b => .ok b
  | none => .error (.ofArguments "KeyError" [.text word])

/-- Whether a word is written small, large, or with a large letter at the front. -/
def isCased (s : String) : Bool :=
  s = s.toLower || s = s.toUpper || s = s.toLower.capitalize

/-- Whether a plain scalar is written like a truth value. -/
def isTruth (s : String) : Bool := isCased s && (truthOf? s.toLower).isSome

/-- A text without a line feed at its end. -/
def withoutEnd (s : String) : String :=
  if s.endsWith "\n" then String.ofList s.toList.dropLast else s

/-! ## Groups of sixty -/

/-- Whether a part is one of a number in groups of sixty: up to two digits below sixty. -/
def isSixtieth (cs : List Char) : Bool :=
  match cs with
  | [a] => a.isDigit
  | [a, b] => '0' ≤ a && a ≤ '5' && b.isDigit
  | _ => false

/-! ## Whole numbers -/

/-- Whether characters are digits or low lines and there are some. -/
def digitsOrLow (isDigit : Char → Bool) (cs : List Char) : Bool :=
  !cs.isEmpty && cs.all fun c => isDigit c || c = '_'

/-- Whether characters are a digit followed by digits and low lines. -/
def startsWithDigit (isFirst : Char → Bool) : List Char → Bool
  | [] => false
  | c :: cs => isFirst c && cs.all fun c => c.isDigit || c = '_'

/-- Whether a digit is none of the first place of a number. -/
def isPositiveDigit (c : Char) : Bool := '1' ≤ c && c ≤ '9'

/-- Whether a plain scalar is written like a whole number. -/
def isWhole (s : String) : Bool :=
  match (takeSign s.toList).2 with
  | '0' :: 'b' :: cs => digitsOrLow (fun c => c = '0' || c = '1') cs
  | '0' :: 'x' :: cs =>
      digitsOrLow (fun c => c.isDigit || "abcdefABCDEF".toList.contains c) cs
  | ['0'] => true
  | '0' :: cs => digitsOrLow (fun c => '0' ≤ c && c ≤ '7') cs
  | cs => match Text.cut ':' cs with
    | first :: rest => startsWithDigit isPositiveDigit first && rest.all isSixtieth
    | [] => false

/-- A number of which reading can fail. -/
def orFailure {α : Type} (n : Except Decimal.ReadFault α) : Except Failure α :=
  match n with
  | .ok n => .ok n
  | .error fault => .error (.value fault.message)

/-- A failure to look at the first character of a text that has none. -/
def noFirst : Failure := .of "IndexError" "string index out of range"

/-- Whole numbers as the digits of one number at the base sixty. -/
def sixtyfold (parts : List Int) : Int := parts.foldl (fun n part => n * 60 + part) 0

/-- The whole number that a scalar stands for. Low lines do not count. -/
def wholeOf (s : String) : Except Failure Int := do
  let all := s.toList.filter (· ≠ '_')
  if all.isEmpty then throw noFirst
  let (negative, cs) := takeSign all
  let readAt (base : Nat) (cs : List Char) : Except Failure Int :=
    orFailure (Decimal.readWhole base (String.ofList cs))
  let n ← match cs with
    | ['0'] => pure 0
    | '0' :: 'b' :: digits => readAt 2 digits
    | '0' :: 'x' :: digits => readAt 16 digits
    | '0' :: _ => readAt 8 cs
    | [] => throw noFirst
    | cs => do pure (sixtyfold (← (Text.cut ':' cs).mapM (readAt 10)))
  return if negative then -n else n

/-! ## Floating-point numbers -/

/-- Whether characters are the exponent of a number, which has a sign, or nothing. -/
def isExponent : List Char → Bool
  | [] => true
  | e :: sign :: digits =>
      (e = 'e' || e = 'E') && (sign = '-' || sign = '+') && !digits.isEmpty && digits.all Char.isDigit
  | _ => false

/-- Whether characters are the places behind a point with an exponent. -/
def isPlaces (cs : List Char) : Bool :=
  isExponent (cs.dropWhile fun c => c.isDigit || c = '_')

/-- Whether a plain scalar is written like a floating-point number. -/
def isFloating (s : String) : Bool :=
  let (_, cs) := takeSign s.toList
  let signed := cs.length < s.length
  if [".inf", ".Inf", ".INF"].contains (String.ofList cs) then true
  else if [".nan", ".NaN", ".NAN"].contains s then true
  else
    let front := cs.takeWhile (· ≠ '.')
    match cs.drop front.length with
    | [] => false
    | _ :: places =>
        if front.isEmpty then
          !signed && (places.head?.map Char.isDigit).getD false && isPlaces places
        else match Text.cut ':' front with
          | [whole] => startsWithDigit Char.isDigit whole && isPlaces places
          | whole :: rest =>
              startsWithDigit Char.isDigit whole && rest.all isSixtieth &&
                places.all fun c => c.isDigit || c = '_'
          | [] => false

/-- The sum of numbers of which the last counts once, the one before it sixty times, and so on. The
factors are whole numbers, and too many of them are out of range. -/
def sixtyfoldSum (parts : List Float) : Except Failure Float := do
  let (sum, _) ← parts.reverse.foldlM
    (fun ((sum : Float), (unit : Nat)) x => do
      if Nat.pow 2 1024 ≤ unit then
        throw (Failure.of "OverflowError" "int too large to convert to float")
      return (sum + x * Decimal.scaled unit 0, unit * 60)) ((0.0 : Float), 1)
  return sum

/-- The floating-point number that a scalar stands for. Low lines and case do not count. -/
def floatingOf (s : String) : Except Failure Float := do
  let all := (Text.lower (String.ofList (s.toList.filter (· ≠ '_')))).toList
  if all.isEmpty then throw noFirst
  let (negative, cs) := takeSign all
  let text := String.ofList cs
  let signed (x : Float) : Float := if negative then -x else x
  if text = ".inf" then return signed (1.0 / 0.0)
  else if text = ".nan" then return 0.0 / 0.0
  else
    let parts ← (Text.cut ':' cs).mapM fun part =>
      orFailure (Decimal.readFloating (String.ofList part))
    match parts with
    | [x] => return signed x
    | parts => return signed (← sixtyfoldSum parts)

/-! ## Moments -/

/-- A day, or a moment of a day with parts of seconds and the distance to world time in minutes. -/
structure Moment where
  year : Nat
  month : Nat
  day : Nat
  time : Option (Nat × Nat × Nat × Nat) := none
  offset : Option Int := none
  deriving DecidableEq, Repr

/-- Take between `least` and `most` digits off the front. -/
def takeDigits (least most : Nat) (cs : List Char) : Option (Nat × List Char) :=
  let digits := (cs.take most).takeWhile Char.isDigit
  if digits.length < least then none else some (natOf 10 digits, cs.drop digits.length)

/-- Take a character off the front. -/
def takeChar (c : Char) : List Char → Option (List Char)
  | d :: cs => if c = d then some cs else none
  | [] => none

/-- The distance to world time at the end of a moment. -/
def zone? (cs : List Char) : Option (Option Int) :=
  match cs.dropWhile fun c => c = ' ' || c = '\t' with
  | [] => if cs.isEmpty then some none else none
  | ['Z'] => some (some 0)
  | sign :: rest =>
      if sign = '+' || sign = '-' then do
        let (hours, rest) ← takeDigits 1 2 rest
        let minutes ← match rest with
          | [] => some 0
          | ':' :: rest => do
              let (minutes, rest) ← takeDigits 2 2 rest
              if rest.isEmpty then some minutes else none
          | _ => none
        let offset : Int := hours * 60 + minutes
        some (some (if sign = '-' then -offset else offset))
      else none

/-- The moment that a scalar is written like. Where it has to be `strict`, a day without a time has
two digits for the month and for the day. -/
def moment? (strict : Bool) (s : String) : Option Moment := do
  let (year, cs) ← takeDigits 4 4 (withoutEnd s).toList
  let cs ← takeChar '-' cs
  let (month, afterMonth) ← takeDigits 1 2 cs
  let twoDigits := cs.length = afterMonth.length + 2
  let cs ← takeChar '-' afterMonth
  let (day, afterDay) ← takeDigits 1 2 cs
  if afterDay.isEmpty then
    if !strict || (twoDigits && cs.length = 2) then return { year, month, day } else none
  else
    let blanks := afterDay.takeWhile fun c => c = ' ' || c = '\t'
    let cs ← match afterDay with
      | 'T' :: rest | 't' :: rest => some rest
      | _ => if blanks.isEmpty then none else some (afterDay.drop blanks.length)
    let (hour, cs) ← takeDigits 1 2 cs
    let cs ← takeChar ':' cs
    let (minute, cs) ← takeDigits 2 2 cs
    let cs ← takeChar ':' cs
    let (second, cs) ← takeDigits 2 2 cs
    let (fraction, cs) := match cs with
      | '.' :: rest =>
          let digits := rest.takeWhile Char.isDigit
          (digits, rest.drop digits.length)
      | _ => ([], cs)
    let micros := natOf 10 ((fraction ++ List.replicate 6 '0').take 6)
    let offset ← zone? cs
    return { year, month, day, time := some (hour, minute, second, micros), offset }

/-- The number of days of a month. -/
def daysOf (year month : Nat) : Nat :=
  if month = 2 then
    if year % 4 = 0 && (year % 100 ≠ 0 || year % 400 = 0) then 29 else 28
  else if [4, 6, 9, 11].contains month then 30
  else 31

/-- A number with at least some digits. -/
def padded (width n : Nat) : String :=
  let digits := Nat.toDigits 10 n
  String.ofList (List.replicate (width - digits.length) '0' ++ digits)

/-- How a number of minutes is shown: as days and seconds, of which the seconds are not negative. -/
def shownSpan (minutes : Int) : String :=
  let days := Int.fdiv minutes 1440
  let seconds := Int.fmod minutes 1440 * 60
  let parts := (if days = 0 then [] else ["days=" ++ Json.writeInt days]) ++
    (if seconds = 0 then [] else ["seconds=" ++ Json.writeInt seconds])
  "datetime.timedelta(" ++ Value.commaed parts ++ ")"

/-- How a distance to world time is shown. -/
def shownZone (offset : Int) : String :=
  if offset = 0 then "datetime.timezone.utc"
  else
    "datetime.timezone(" ++ shownSpan offset ++ ")"

/-- The value of a moment; its parts must make sense, the distance to world time first. -/
def Moment.toValue (m : Moment) : Except Failure Value := do
  if 1440 ≤ (m.offset.getD 0).natAbs then
    let span := shownSpan (m.offset.getD 0)
    throw (.value ("offset must be a timedelta strictly between -timedelta(hours=24) and " ++
      s!"timedelta(hours=24), not {span}."))
  if m.year = 0 then throw (.value "year 0 is out of range")
  if m.month = 0 || 12 < m.month then throw (.value "month must be in 1..12")
  if m.day = 0 || daysOf m.year m.month < m.day then
    throw (.value "day is out of range for month")
  let date := padded 4 m.year ++ "-" ++ padded 2 m.month ++ "-" ++ padded 2 m.day
  let parts : List Int := [m.year, m.month, m.day]
  match m.time with
  | none =>
      return .thing "datetime.date"
        ("datetime.date(" ++ Value.commaed (parts.map Json.writeInt) ++ ")") date
  | some (hour, minute, second, micros) =>
      if 23 < hour then throw (.value "hour must be in 0..23")
      if 59 < minute then throw (.value "minute must be in 0..59")
      if 59 < second then throw (.value "second must be in 0..59")
      let clock := padded 2 hour ++ ":" ++ padded 2 minute ++ ":" ++ padded 2 second ++
        (if micros = 0 then "" else "." ++ padded 6 micros)
      let zone := match m.offset with
        | none => ""
        | some offset =>
            (if offset < 0 then "-" else "+") ++ padded 2 (offset.natAbs / 60) ++ ":" ++
              padded 2 (offset.natAbs % 60)
      let text := date ++ " " ++ clock ++ zone
      let parts := parts ++ [(hour : Int), minute] ++
        (if micros ≠ 0 then [(second : Int), micros] else if second ≠ 0 then [(second : Int)] else [])
      let shownParts := parts.map Json.writeInt ++
        (m.offset.map fun offset => "tzinfo=" ++ shownZone offset).toList
      return .thing "datetime.datetime" ("datetime.datetime(" ++ Value.commaed shownParts ++ ")") text

/-! ## Values -/

/-- The value of a plain scalar. A line feed at its end does not count for what it is written like. -/
def plainValue (s : String) : Except Failure Value :=
  let form := withoutEnd s
  if form = "" && s ≠ "" then .ok (.text s)
  else if isTruth form then .bool <$> truthOf s
  else if isFloating form then .float <$> floatingOf s
  else if isWhole form then .int <$> wholeOf s
  else if isNull form then .ok .none
  else match moment? true s with
    | some m => m.toValue
    | none => .ok (.text s)

end Assay.Yaml
