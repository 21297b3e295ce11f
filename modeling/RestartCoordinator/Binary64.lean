import RestartCoordinator.Text.Digits
/-!
# Numbers of 64 bits

A finite number is a significand below 2^53 times a power of two. `Binary64.ofDecimal` rounds a
decimal to the nearest such number, a tie to the even significand, and `Binary64.text` writes the
fewest digits that are read back as the same number, without an exponent. All of it is done on
whole numbers.
-/
namespace RestartCoordinator

inductive Binary64 where
  | finite (negative : Bool) (significand : Nat) (exponent : Int)
  | infinite (negative : Bool)
  | nan
deriving DecidableEq, Repr

namespace Binary64

/-- A positive number as a quotient of two whole numbers. -/
structure Ratio where
  num : Nat
  den : Nat
deriving Repr

namespace Ratio

/-- The number `n * base ^ e`. -/
def scaled (n base : Nat) (e : Int) : Ratio :=
  if 0 ≤ e then ⟨n * base.pow e.toNat, 1⟩ else ⟨n, base.pow (-e).toNat⟩

/-- The number in units of `base ^ e`. -/
def inUnits (r : Ratio) (base : Nat) (e : Int) : Ratio :=
  if 0 ≤ e then ⟨r.num, r.den * base.pow e.toNat⟩ else ⟨r.num * base.pow (-e).toNat, r.den⟩

def lt (a b : Ratio) : Bool := a.num * b.den < b.num * a.den

def floor (r : Ratio) : Nat := r.num / r.den

/-- The nearest whole number; a half goes up. -/
def roundUp (r : Ratio) : Nat := (2 * r.num + r.den) / (2 * r.den)

/-- The nearest whole number; a half goes to the even neighbour. -/
def roundEven (r : Ratio) : Nat :=
  let q := r.num / r.den
  let rest := r.num % r.den
  if r.den < 2 * rest ∨ (2 * rest = r.den ∧ q % 2 = 1) then q + 1 else q

/-- The exponent of the greatest power of two that is not above the number. -/
def log2 (r : Ratio) : Int :=
  let e : Int := (r.num.log2 : Int) - r.den.log2
  if r.lt (scaled 1 2 e) then e - 1 else e

end Ratio

/-- The number nearest to a positive quotient. -/
def ofRatio (negative : Bool) (r : Ratio) : Binary64 :=
  let e := max (r.log2 - 52) (-1074)
  let m := (r.inUnits 2 e).roundEven
  let (m, e) := if m = 1 <<< 53 then (1 <<< 52, e + 1) else (m, e)
  if 971 < e then .infinite negative else .finite negative m e

/-- The number nearest to `digits * 10 ^ exponent`. A magnitude from 10^400 on is infinite and one
below 10^-400 is zero, so no huge power is computed. -/
def ofDecimal (negative : Bool) (digits : Nat) (exponent : Int) : Binary64 :=
  let top := exponent + (Nat.toDigits 10 digits).length
  if digits = 0 ∨ top < -400 then .finite negative 0 0
  else if 400 < top then .infinite negative
  else ofRatio negative (.scaled digits 10 exponent)

def isZero : Binary64 → Bool
  | .finite _ m _ => m = 0
  | _ => false

/-- The nearest whole number that is not below zero nor above a limit; a half goes up. -/
def toNatUpTo (limit : Nat) : Binary64 → Nat
  | .finite false m e => min (Ratio.scaled m 2 e).roundUp limit
  | .infinite false => limit
  | _ => 0

/-- A decimal is read back as this number: it is in the interval of all that round to the number,
whose ends count if the significand is even. -/
def reads (m : Nat) (e : Int) (r : Ratio) : Bool :=
  let low := if m = 1 <<< 52 ∧ -1074 < e then Ratio.scaled (4 * m - 1) 2 (e - 2)
    else .scaled (2 * m - 1) 2 (e - 1)
  let high := Ratio.scaled (2 * m + 1) 2 (e - 1)
  if m % 2 = 0 then !r.lt low && !high.lt r else low.lt r && r.lt high

/-- The exponent of the greatest power of ten that is not above a number. -/
def log10 (r : Ratio) : Int :=
  let least := (List.range 700).find? fun i => r.lt (.scaled 1 10 (Int.ofNat i - 349))
  Int.ofNat (least.getD 0) - 350

/-- The neighbour of a number on the grid of multiples of `10 ^ p` that is read back as the number:
the nearer one if both are. -/
def onGrid? (m : Nat) (e p : Int) : Option (Nat × Int) :=
  let r := Ratio.scaled m 2 e
  let below := (r.inUnits 10 p).floor
  let nearer := (r.inUnits 10 p).roundEven
  let farther := if nearer = below then below + 1 else below
  [nearer, farther].find? (fun d => d ≠ 0 && reads m e (.scaled d 10 p)) |>.map (·, p)

/-- The fewest digits that are read back as the number, and the power of ten that they count. -/
def shortest (m : Nat) (e : Int) : Nat × Int :=
  let top := log10 (.scaled m 2 e)
  ((List.range 17).findSome? fun n => onGrid? m e (top - Int.ofNat n)).getD (m, e)

/-- Digits times a power of ten without an exponent. -/
def plain (digits : Nat) (p : Int) : List Char :=
  let ds := Nat.toDigits 10 digits
  if 0 ≤ p then ds ++ List.replicate p.toNat '0'
  else
    let places := (-p).toNat
    let ds := List.replicate (places + 1 - ds.length) '0' ++ ds
    let fraction := ((ds.drop (ds.length - places)).reverse.dropWhile (· = '0')).reverse
    ds.take (ds.length - places) ++ (if fraction.isEmpty then [] else '.' :: fraction)

def text : Binary64 → String
  | .finite negative m e =>
    let (digits, p) := if m = 0 then (0, 0) else shortest m e
    String.ofList ((if negative then ['-'] else []) ++ plain digits p)
  | .infinite negative => if negative then "-inf" else "inf"
  | .nan => "NaN"

end Binary64
end RestartCoordinator
