/-!
# Shortest decimals

A floating-point number is shown with the fewest digits that read back as the same number, and of
the decimals with that many digits by the nearest one. Numbers are taken apart into `m * 2 ^ q`, and
all comparisons are made in whole numbers.
-/

namespace Assay.Decimal

/-- A positive binary number `mantissa * 2 ^ exponent`. `narrow` holds if the next smaller number is
nearer than the next greater one. -/
structure Binary where
  mantissa : Nat
  exponent : Int
  narrow : Bool := false
  deriving DecidableEq, Repr

/-- Take the absolute value of a finite number apart. -/
def Binary.ofFloat (x : Float) : Binary :=
  let bits := x.toBits.toNat
  let fraction := bits % Nat.pow 2 52
  let biased : Nat := bits / Nat.pow 2 52 % Nat.pow 2 11
  if biased = 0 then { mantissa := fraction, exponent := -1074 }
  else { mantissa := fraction + Nat.pow 2 52, exponent := (biased : Int) - 1075,
         narrow := fraction = 0 && biased > 1 }

/-- A decimal `digits * 10 ^ exponent`. -/
structure Digits where
  digits : Nat
  exponent : Int
  deriving DecidableEq, Repr

/-- The power `base ^ e` as a fraction. -/
def powerFraction (base : Nat) (e : Int) : Nat × Nat :=
  if 0 ≤ e then (Nat.pow base e.toNat, 1) else (1, Nat.pow base (-e).toNat)

/-- Whether a decimal reads back as a number: it lies between the middles to the neighbours, which
count if the mantissa is even. -/
def Binary.reads (b : Binary) (d : Digits) : Bool :=
  -- quarters of the last binary digit keep the middle below whole for narrow numbers
  let (bn, bd) := powerFraction 2 (b.exponent - 2)
  let (dn, dd) := powerFraction 10 d.exponent
  let value := d.digits * dn * bd
  let unit := bn * dd
  let low := (4 * b.mantissa - (if b.narrow then 1 else 2)) * unit
  let high := (4 * b.mantissa + 2) * unit
  if b.mantissa % 2 = 0 then low ≤ value && value ≤ high else low < value && value < high

/-- The greatest `e` with `10 ^ e` at most the number. -/
def Binary.magnitude (b : Binary) : Int :=
  let atLeast (e : Int) : Bool :=
    let (bn, bd) := powerFraction 2 b.exponent
    let (dn, dd) := powerFraction 10 e
    dn * bd ≤ b.mantissa * bn * dd
  let guess := Int.fdiv ((b.mantissa.log2 + b.exponent) * 30103) 100000
  if atLeast (guess + 1) then guess + 1
  else if atLeast guess then guess
  else guess - 1

/-- The neighbours of a number on the grid of decimals with a given exponent, the nearer one first;
of two equally near ones the even one first. -/
def Binary.neighbours (b : Binary) (exponent : Int) : List Digits :=
  let (bn, bd) := powerFraction 2 b.exponent
  let (dn, dd) := powerFraction 10 exponent
  let numerator := b.mantissa * bn * dd
  let denominator := bd * dn
  let floor := numerator / denominator
  let rest := numerator % denominator
  let below : Digits := ⟨floor, exponent⟩
  let above : Digits := ⟨floor + 1, exponent⟩
  if 2 * rest < denominator then [below, above]
  else if denominator < 2 * rest then [above, below]
  else if floor % 2 = 0 then [below, above] else [above, below]

/-- The first decimal with at least `17 - fuel` digits that reads back. -/
def Binary.search (b : Binary) (magnitude : Int) : Nat → Digits
  | 0 => (b.neighbours (magnitude - 16)).headD ⟨0, 0⟩
  | fuel + 1 =>
      match (b.neighbours (magnitude - (16 - fuel : Nat))).find? b.reads with
      | some d => d
      | none => b.search magnitude fuel

/-- Drop zeros at the end of the digits. -/
def Digits.trim : Nat → Digits → Digits
  | 0, d => d
  | fuel + 1, d =>
      if d.digits ≠ 0 && d.digits % 10 = 0 then trim fuel ⟨d.digits / 10, d.exponent + 1⟩ else d

/-- The shortest decimal that reads back as a positive number. -/
def Binary.shortest (b : Binary) : Digits := (b.search b.magnitude 17).trim 20

/-- The digits of a number at the base ten. -/
def digitsOf (n : Nat) : List Char := Nat.toDigits 10 n

/-- How decimals are laid out: up to which power of ten they are written with all their places. -/
structure Layout where
  leastPositional : Int := -4
  mostPositional : Int := 16
  keepPoint : Bool := true

/-- Write a decimal. An exponent has a sign and at least two digits. -/
def Layout.write (l : Layout) (d : Digits) : String :=
  let digits := digitsOf d.digits
  let count := digits.length
  -- the number is `0.digits * 10 ^ point`
  let point : Int := count + d.exponent
  if l.leastPositional < point && point ≤ l.mostPositional then
    if point ≤ 0 then
      "0." ++ String.ofList (List.replicate (-point).toNat '0' ++ digits)
    else if count ≤ point.toNat then
      String.ofList (digits ++ List.replicate (point.toNat - count) '0') ++
        (if l.keepPoint then ".0" else "")
    else
      String.ofList (digits.take point.toNat) ++ "." ++ String.ofList (digits.drop point.toNat)
  else
    let power := point - 1
    let powerDigits := digitsOf power.natAbs
    let powerDigits := if powerDigits.length < 2 then '0' :: powerDigits else powerDigits
    let sign := if power < 0 then '-' else '+'
    match digits with
    | [] => "0"
    | [c] => String.ofList (c :: 'e' :: sign :: powerDigits)
    | c :: rest => String.ofList (c :: '.' :: rest ++ 'e' :: sign :: powerDigits)

/-- Show a floating-point number. -/
def Layout.show (l : Layout) (x : Float) : String :=
  if x.isNaN then "nan"
  else
    let negative := x.toBits.toNat / Nat.pow 2 63 = 1
    let sign := if negative then "-" else ""
    if x.isInf then sign ++ "inf"
    else if x == 0.0 then sign ++ (if l.keepPoint then "0.0" else "0")
    else sign ++ l.write (Binary.ofFloat x).shortest

/-- Show a floating-point number so that it is seen to be one. -/
def showFloat (x : Float) : String := ({} : Layout).show x

end Assay.Decimal
