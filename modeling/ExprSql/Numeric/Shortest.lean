import ExprSql.Numeric.Binary

namespace ExprSql.Binary

/-- The numbers that round to `units`, as bounds in quarters of a unit. -/
structure Reading where
  low : Nat
  value : Nat
  high : Nat
  closed : Bool

/-- Below a power of two the next number is half as far away. -/
def reading (w : FloatKind) (units : Nat) : Reading :=
  let (m, e) := significand w units
  let gap := 2 ^ e
  let below := if m = 2 ^ (w.precision - 1) ∧ 0 < e then gap else 2 * gap
  { low := 4 * units - below, value := 4 * units, high := 4 * units + 2 * gap,
    closed := m % 2 == 0 }

structure Candidate where
  digits : Nat
  places : Int

def Candidate.quarters (w : FloatKind) (c : Candidate) : Nat × Nat :=
  (c.digits * 10 ^ (-c.places).toNat * (4 * w.one), 10 ^ c.places.toNat)

def Candidate.readsBack (w : FloatKind) (r : Reading) (c : Candidate) : Bool :=
  let (num, den) := c.quarters w
  if r.closed then r.low * den ≤ num && num ≤ r.high * den
  else r.low * den < num && num < r.high * den

def onGrid? (w : FloatKind) (r : Reading) (places : Int) : Option Candidate :=
  let num := r.value * 10 ^ places.toNat
  let den := 4 * w.one * 10 ^ (-places).toNat
  let down : Candidate := ⟨num / den, places⟩
  let up : Candidate := ⟨num / den + 1, places⟩
  match down.readsBack w r, up.readsBack w r with
  | true, true => some (if 2 * (num % den) < den then down else up)
  | true, false => some down
  | false, true => some up
  | false, false => none

def coarsest? (w : FloatKind) (r : Reading) (places : Int) : Nat → Option Candidate
  | 0 => none
  | count + 1 => (onGrid? w r places).orElse fun _ => coarsest? w r (places + 1) count

def firstPlace (w : FloatKind) (units : Nat) : Int :=
  if w.one ≤ units then
    -Int.ofNat ((Nat.toDigits 10 (units / w.one)).length - 1)
  else
    let inverse := w.one / units
    Int.ofNat (Nat.toDigits 10 inverse).length

def pointed (c : Candidate) : String :=
  if c.places ≤ 0 then toString (c.digits * 10 ^ (-c.places).toNat)
  else
    let places := c.places.toNat
    let text := (Nat.toDigits 10 c.digits)
    let padded := List.replicate (places + 1 - text.length) '0' ++ text
    let whole := padded.take (padded.length - places)
    String.ofList (whole ++ '.' :: padded.drop (padded.length - places))

def magnitudeText (w : FloatKind) (units : Nat) : String :=
  if units = 0 then "0"
  else
    match coarsest? w (reading w units) (firstPlace w units - 1) 20 with
    | some c => pointed c
    | none => ""

def text {w : FloatKind} : Binary w → String
  | .nan => "NaN"
  | .infinity s => if s then "-inf" else "inf"
  | .finite s u _ => (if s then "-" else "") ++ magnitudeText w u

end ExprSql.Binary
