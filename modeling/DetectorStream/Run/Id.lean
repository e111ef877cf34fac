import DetectorStream.Text.Basic

/-!
# Names of runs

A run without a given name is named by sixteen random octets, of which six bits are fixed to mark
them as random: the digit before the third group is `4`, and the fourth group starts with `8`, `9`,
`a` or `b`.

* `RunId.ofRandom`: the name for random octets.
* `RunId.isRandom`: has a text the form of such a name?
-/

namespace DetectorStream.RunId

/-- The lengths of the groups of digits. -/
def groups : List Nat := [8, 4, 4, 4, 12]

/-- Mark random octets as random. -/
def mark (octets : Bytes) : Bytes :=
  octets.zipIdx.map fun (b, i) =>
    if i = 6 then (b &&& 0x0F) ||| 0x40 else if i = 8 then (b &&& 0x3F) ||| 0x80 else b

/-- Cut digits into groups. -/
def grouped : List Nat → Text → List Text
  | [], _ => []
  | n :: ns, t => t.take n :: grouped ns (t.drop n)

/-- The name for sixteen random octets. -/
def ofRandom (octets : Bytes) : Text :=
  Text.join "-" (grouped groups ((mark octets).flatMap fun b => Text.hex 2 b.toNat))

/-- A lower-case hexadecimal digit. -/
def isDigit (b : UInt8) : Bool := Text.isDigit b || Text.within 0x61 0x66 b

/-- Has a text the form of a random name? -/
def isRandom (t : Text) : Bool :=
  let parts := Text.split 0x2D t
  parts.map List.length == groups && parts.all (fun p => p.all isDigit)
    && t[14]? == some 0x34 && (t[19]?.any fun b => b == 0x38 || b == 0x39 || b == 0x61 || b == 0x62)

end DetectorStream.RunId
