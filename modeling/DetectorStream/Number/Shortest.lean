import DetectorStream.Number.Binary64
import DetectorStream.Number.Decimal

/-!
# Shortest decimal text of a double

The digits written are the fewest that read back as the same double, and of those the nearest to
it. Where the digits are put is a matter of style: `FloatStyle` says up to which exponents the
number is written out and from where on with an exponent.

* `Shortest.digits`: the digits and the power of ten of their last place.
* `Shortest.general`: exponent form below `1e-04` and from `1e+06` on; the style of every number
  this library prints unless said otherwise.
* `Fixed.render`: a fixed number of places, ties to the even digit.
-/

namespace DetectorStream

namespace Shortest

/-- The largest `j ≤ fuel` with `10 ^ j * den ≤ num`, counted up from `j`. -/
def magnitudeUp (num den : Nat) : (fuel j : Nat) → Nat
  | 0, j => j
  | fuel + 1, j => if Nat.pow 10 (j + 1) * den ≤ num then magnitudeUp num den fuel (j + 1) else j

/-- The least `j` with `den ≤ 10 ^ j * num`, counted up from `j`. -/
def magnitudeDown (num den : Nat) : (fuel j : Nat) → Nat
  | 0, j => j
  | fuel + 1, j => if den ≤ Nat.pow 10 j * num then j else magnitudeDown num den fuel (j + 1)

/-- The exponent of the leading decimal digit of `num / den`. -/
def magnitude (num den : Nat) : Int :=
  if den ≤ num then (magnitudeUp num den 310 0 : Int) else -(magnitudeDown num den 330 0 : Int)

/-- Does `d · 10 ^ k` lie between `lo / den` and `hi / den`, ends included when `ends` says so? -/
def inside (lo hi den : Nat) (ends : Bool) (d : Nat) (k : Int) : Bool :=
  let x := if 0 ≤ k then d * Nat.pow 10 k.toNat * den else d * den
  let s := if 0 ≤ k then 1 else Nat.pow 10 (-k).toNat
  if ends then lo * s ≤ x && x ≤ hi * s else lo * s < x && x < hi * s

/-- Try the grids of `n`, `n + 1`, … digits until one of the two neighbours of `mid / den` on the
grid lies inside; of two that do, the nearer one, a tie going to the even digit. -/
def search (lo mid hi den : Nat) (ends : Bool) (top : Int) : (fuel n : Nat) → Nat × Int
  | 0, n => (mid / den, (n : Int))
  | fuel + 1, n =>
    let k := top - (n : Int) + 1
    let num := if 0 ≤ k then mid else mid * Nat.pow 10 (-k).toNat
    let unit := if 0 ≤ k then den * Nat.pow 10 k.toNat else den
    let a := num / unit
    let below := inside lo hi den ends a k && a != 0
    let above := inside lo hi den ends (a + 1) k
    if below && above then (Binary64.roundDiv num unit, k)
    else if below then (a, k)
    else if above then (a + 1, k)
    else search lo mid hi den ends top fuel (n + 1)

/-- Move zeros at the end of the digits into the exponent. -/
def stripZeros : (fuel : Nat) → Nat → Int → Nat × Int
  | 0, d, k => (d, k)
  | fuel + 1, d, k =>
    if d % 10 == 0 && d != 0 then stripZeros fuel (d / 10) (k + 1) else (d, k)

/-- The shortest digits of `m · 2 ^ q` for `m > 0`, and the power of ten of the last one. -/
def digits (m : Nat) (q : Int) : Nat × Int :=
  -- all four quantities carry a factor 4, so that the half-way points are whole
  let lower := if m == 0x10000000000000 && q != -1074 then 4 * m - 1 else 4 * m - 2
  let up := if 2 ≤ q then Nat.pow 2 (q - 2).toNat else 1
  let den := if 2 ≤ q then 1 else Nat.pow 2 (2 - q).toNat
  let (d, k) := search (lower * up) (4 * m * up) ((4 * m + 2) * up) den (m % 2 == 0)
    (magnitude (4 * m * up) den) 18 1
  stripZeros 20 d k

end Shortest

/-- Which exponents are written positionally: from `least` on and below `bound`. -/
structure FloatStyle where
  least : Int
  bound : Option Int
deriving DecidableEq, Repr

namespace FloatStyle

/-- Exponent form below `1e-04` and from `1e+06` on. -/
def general : FloatStyle := ⟨-4, some 6⟩

/-- Every digit written out. -/
def plain : FloatStyle := ⟨-400, none⟩

/-- The exponent, with its sign and at least two digits. -/
def exponentText (e : Int) : Text :=
  (if e < 0 then "e-" else "e+") ++ Decimal.padded 2 e.natAbs

/-- Lay out the digits `d`, the last of which stands for `10 ^ k`. -/
def layout (style : FloatStyle) (d : Nat) (k : Int) : Text :=
  let ds := Decimal.ofNat d
  let point : Int := ds.length + k
  let e := point - 1
  if e < style.least || (style.bound.any fun b => b ≤ e) then
    ds.take 1 ++ (if ds.length ≤ 1 then [] else 0x2E :: ds.drop 1) ++ exponentText e
  else if point ≤ 0 then
    ("0." : Text) ++ List.replicate (-point).toNat 0x30 ++ ds
  else if 0 ≤ k then ds ++ List.replicate k.toNat 0x30
  else ds.take point.toNat ++ [0x2E] ++ ds.drop point.toNat

/-- The shortest text of a double in the given style. -/
def render (style : FloatStyle) (f : Float) : Text :=
  match Binary64.value f with
  | .nan => "NaN"
  | .infinite negative => if negative then "-Inf" else "+Inf"
  | .finite negative m q =>
    (if negative then "-" else "") ++
      (if m == 0 then ("0" : Text) else
        let (d, k) := Shortest.digits m q
        layout style d k)

end FloatStyle

namespace Fixed

/-- The double with exactly `places` digits after the point, a tie going to the even digit. -/
def render (places : Nat) (f : Float) : Text :=
  match Binary64.value f with
  | .nan => "NaN"
  | .infinite negative => if negative then "-Inf" else "+Inf"
  | .finite negative m q =>
    let up := if 0 ≤ q then Nat.pow 2 q.toNat else 1
    let den := if 0 ≤ q then 1 else Nat.pow 2 (-q).toNat
    let n := Binary64.roundDiv (m * up * Nat.pow 10 places) den
    (if negative then "-" else "") ++ Decimal.ofNat (n / Nat.pow 10 places) ++
      (if places == 0 then [] else 0x2E :: Decimal.padded places (n % Nat.pow 10 places))

end Fixed

end DetectorStream
