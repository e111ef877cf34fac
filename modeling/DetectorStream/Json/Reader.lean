import DetectorStream.Text.Utf8

/-!
# Reading JSON into known fields

Documents are read into a state of known shape, not into a tree: an object is a run of members, each
of which either names a field, whose reader takes the value, or is skipped. Reading is lenient where
it only skips, and a null leaves what it stands for unchanged. `none` is a document that cannot be
read.

* `Json.object`: the members of an object, folded over a state.
* `Json.integer`, `Json.natural`, `Json.string`, `Json.array`: the values of fields.
* `Json.skipValue`: past a value of any shape.
-/

namespace DetectorStream.Json

/-- Blanks between tokens. -/
def isBlank (b : UInt8) : Bool := b == 0x20 || b == 0x0A || b == 0x09 || b == 0x0D

/-- Past the blanks. -/
def skipBlank (t : Bytes) : Bytes := t.dropWhile isBlank

/-- Past the given word, if it comes next. -/
def word? (w : Text) (t : Bytes) : Option Bytes :=
  if Text.startsWith w t then some (t.drop w.length) else none

/-! ## Numbers -/

/-- A run of digits; a leading zero stands alone. -/
def digitRun : Bytes → Bytes × Bytes
  | 0x30 :: t => ([0x30], t)
  | t => (t.takeWhile Text.isDigit, t.dropWhile Text.isDigit)

/-- The number that digits stand for. -/
def digitsValue (ds : Bytes) : Nat := ds.foldl (fun n b => n * 10 + (b.toNat - 0x30)) 0

/-- Does a word fit into `bits` bits? A word of 64 bits always does. -/
def fits (bits : Nat) (n : Int) : Bool :=
  64 ≤ bits || (-(Nat.pow 2 (bits - 1) : Int) ≤ n && n < (Nat.pow 2 (bits - 1) : Int))

/-- A signed number of up to nineteen digits, taken modulo the 64-bit words; `bits` is the width it
must fit. A null gives no number. A lone minus sign is zero if `loneMinus` says so. -/
def integer (bits : Nat) (loneMinus : Bool) (t : Bytes) : Option (Option Int × Bytes) :=
  match skipBlank t with
  | 0x6E :: t => (word? "ull" t).map fun t => (none, t)
  | 0x2D :: t =>
    let ds := t.takeWhile Text.isDigit
    let n := (-(Int64.ofNat (digitsValue ds))).toInt
    if (ds.isEmpty && !loneMinus) || 19 < ds.length || !fits bits n then none
    else some (some n, t.drop ds.length)
  | t =>
    let (ds, rest) := digitRun t
    let n := (Int64.ofNat (digitsValue ds)).toInt
    if ds.isEmpty || 19 < ds.length || !fits bits n then none else some (some n, rest)

/-- A number of up to twenty digits, taken modulo the 64-bit words; `bits` is the width it must
fit. A null gives no number. -/
def natural (bits : Nat) (t : Bytes) : Option (Option Nat × Bytes) :=
  match skipBlank t with
  | 0x6E :: t => (word? "ull" t).map fun t => (none, t)
  | t =>
    let (ds, rest) := digitRun t
    let n := digitsValue ds % 0x10000000000000000
    if ds.isEmpty || 20 < ds.length || Nat.pow 2 bits ≤ n then none else some (some n, rest)

/-! ## Strings -/

/-- The number that four hexadecimal digits stand for. -/
def hex4? (a b c d : UInt8) : Option Nat := do
  let a ← Text.hexValue? a
  let b ← Text.hexValue? b
  let c ← Text.hexValue? c
  let d ← Text.hexValue? d
  pure (a * 4096 + b * 256 + c * 16 + d)

/-- The octets of a code unit; half of a surrogate pair is no character. -/
def unitText (n : Nat) : Text :=
  if 0xD800 ≤ n && n < 0xE000 then Text.replacement else Text.ofChar (Char.ofNat n)

/-- The character that a letter after a backslash stands for. -/
def escape? (b : UInt8) : Option UInt8 :=
  if b == 0x62 then some 0x08
  else if b == 0x66 then some 0x0C
  else if b == 0x6E then some 0x0A
  else if b == 0x72 then some 0x0D
  else if b == 0x74 then some 0x09
  else if b == 0x22 || b == 0x5C || b == 0x2F then some b
  else none

/-- Read the rest of a string after its opening quote, onto the reversed text read so far. A high
surrogate `high` joins with a low one that follows at once. -/
def stringRest (acc : Text) (high : Option Nat) : Bytes → Option (Text × Bytes)
  | [] => none
  | 0x22 :: t => some ((flush acc high).reverse, t)
  | 0x5C :: 0x75 :: a :: b :: c :: d :: t =>
    match hex4? a b c d, high with
    | none, _ => none
    | some n, some h =>
      if 0xDC00 ≤ n && n < 0xE000 then
        let whole := (h - 0xD800) * 0x400 + (n - 0xDC00) + 0x10000
        stringRest ((Text.ofChar (Char.ofNat whole)).reverse ++ acc) none t
      else if 0xD800 ≤ n && n < 0xDC00 then stringRest (flush acc high) (some n) t
      else stringRest ((unitText n).reverse ++ flush acc high) none t
    | some n, none =>
      if 0xD800 ≤ n && n < 0xDC00 then stringRest acc (some n) t
      else stringRest ((unitText n).reverse ++ acc) none t
  | 0x5C :: b :: t =>
    match escape? b with
    | none => none
    | some c => stringRest (c :: flush acc high) none t
  | b :: t => if b == 0 then none else stringRest (b :: flush acc high) none t
where
  /-- A high surrogate that stays alone is no character. -/
  flush (acc : Text) : Option Nat → Text
    | none => acc
    | some _ => Text.replacement.reverse ++ acc

/-- A string. A null gives none. -/
def string (t : Bytes) : Option (Option Text × Bytes) :=
  match skipBlank t with
  | 0x6E :: t => (word? "ull" t).map fun t => (none, t)
  | 0x22 :: t => (stringRest [] none t).map fun (s, t) => (some s, t)
  | _ => none

/-! ## Skipping -/

/-- Past the rest of a string after its opening quote. -/
def skipString : Bytes → Option Bytes
  | [] => none
  | 0x22 :: t => some t
  | 0x5C :: b :: t => if b == 0 then none else skipString t
  | b :: t => if b == 0 then none else skipString t

theorem length_skipString {t r : Bytes} (h : skipString t = some r) : r.length ≤ t.length := by
  fun_induction skipString t with
  | case1 => simp at h
  | case2 t => simp only [Option.some.injEq] at h; subst h; simp
  | case3 => simp at h
  | case4 b t _ ih => have := ih h; simp only [List.length_cons]; omega
  | case5 => simp at h
  | case6 b t _ _ _ ih => have := ih h; simp only [List.length_cons]; omega

/-- Past the bracket that closes `depth` levels of brackets of one kind; brackets of the other
kind are not looked at. -/
def skipNested (opening closing : UInt8) (depth : Nat) : Bytes → Option Bytes
  | [] => none
  | b :: t =>
    if b == 0 then none
    else if b == 0x22 then
      match h : skipString t with
      | none => none
      | some r =>
        have := length_skipString h
        skipNested opening closing depth r
    else if b == opening then skipNested opening closing (depth + 1) t
    else if b == closing then
      if depth ≤ 1 then some t else skipNested opening closing (depth - 1) t
    else skipNested opening closing depth t
termination_by t => t.length

/-- The characters of numbers. -/
def isNumeric (b : UInt8) : Bool :=
  Text.isDigit b || b == 0x2E || b == 0x65 || b == 0x45 || b == 0x2B || b == 0x2D

/-- Past a value of any shape. -/
def skipValue (t : Bytes) : Option Bytes :=
  match skipBlank t with
  | [] => none
  | b :: t =>
    if b == 0x7B then skipNested 0x7B 0x7D 1 t
    else if b == 0x5B then skipNested 0x5B 0x5D 1 t
    else if b == 0x22 then skipString t
    else if b == 0x2D || Text.isDigit b then some (t.dropWhile isNumeric)
    else if b == 0x74 then word? "rue" t
    else if b == 0x66 then word? "alse" t
    else if b == 0x6E then word? "ull" t
    else none

/-! ## Arrays -/

/-- Read the elements of an array after its opening bracket, onto the reversed list of those read.
An element that is null keeps the one at its place in `old`, or is the default. -/
def elements {α : Type} (elem : Bytes → Option (Option α × Bytes)) (default : α) :
    (fuel : Nat) → (old : List α) → (acc : List α) → Bytes → Option (List α × Bytes)
  | 0, _, _, _ => none
  | fuel + 1, old, acc, t =>
    match elem t with
    | none => none
    | some (x, t) =>
      let acc := x.getD (old.head?.getD default) :: acc
      match skipBlank t with
      | 0x5D :: t => some (acc.reverse, t)
      | 0x2C :: t => elements elem default fuel old.tail acc t
      | _ => none

/-- An array; a null empties it. -/
def array {α : Type} (elem : Bytes → Option (Option α × Bytes)) (default : α) (old : List α)
    (t : Bytes) : Option (List α × Bytes) :=
  match skipBlank t with
  | 0x6E :: t => (word? "ull" t).map fun t => ([], t)
  | 0x5B :: t =>
    match skipBlank t with
    | 0x5D :: t => some ([], t)
    | t => elements elem default (t.length + 1) old [] t
  | _ => none

/-! ## Objects -/

/-- A member of an object that is read: its name in lower case, and what its value does to the
state. -/
structure Field (σ : Type) where
  name : Text
  read : σ → Bytes → Option (σ × Bytes)

/-- The characters of a key after its opening quote, in lower case and with escapes of code units
resolved, how many octets they take, and what follows the key. Any other escape stands for an octet
that no name has. -/
def keyRest (acc : Text) (width : Nat) : Bytes → Option (Text × Nat × Bytes)
  | [] => none
  | 0x22 :: t => some (acc.reverse, width, t)
  | 0x5C :: 0x75 :: a :: b :: c :: d :: t =>
    let n := (Text.hexValue? a).getD 0 * 4096 + (Text.hexValue? b).getD 0 * 256
      + (Text.hexValue? c).getD 0 * 16 + (Text.hexValue? d).getD 0
    keyRest (((unitText n).map Text.lowerOctet).reverse ++ acc) (width + 6) t
  | 0x5C :: b :: t => if b == 0 then none else keyRest (0 :: acc) (width + 2) t
  | b :: t => if b == 0 then none else keyRest (Text.lowerOctet b :: acc) (width + 1) t

/-- The field that a key names. The characters of the key must be the start of the name, and the key
must be written with at least as many octets as the name has. -/
def field? {σ : Type} (fields : List (Field σ)) (key : Text) (width : Nat) : Option (Field σ) :=
  if key.isEmpty then none
  else (fields.find? fun f => Text.startsWith key f.name).filter fun f => f.name.length ≤ width

/-- Read members up to the closing brace. A member that names no field is skipped, or refused if
`strict`. Every member takes at least one octet, which bounds `fuel`. -/
def members {σ : Type} (fields : List (Field σ)) (strict : Bool) :
    (fuel : Nat) → σ → Bytes → Option (σ × Bytes)
  | 0, _, _ => none
  | fuel + 1, s, t =>
    match skipBlank t with
    | 0x22 :: t =>
      match keyRest [] 0 t with
      | none => none
      | some (key, width, t) =>
        match skipBlank t with
        | 0x3A :: t =>
          let after := match field? fields key width with
            | some f => f.read s t
            | none => if strict then none else (skipValue t).map fun t => (s, t)
          match after with
          | none => none
          | some (s, t) =>
            match skipBlank t with
            | 0x7D :: t => some (s, t)
            | 0x2C :: t => members fields strict fuel s t
            | _ => none
        | _ => none
    | _ => none

/-- An object, folded over the state; a null leaves the state as it is. -/
def object {σ : Type} (fields : List (Field σ)) (strict : Bool) (s : σ) (t : Bytes) :
    Option (σ × Bytes) :=
  match skipBlank t with
  | 0x6E :: t => (word? "ull" t).map fun t => (s, t)
  | 0x7B :: t =>
    match skipBlank t with
    | 0x7D :: t => some (s, t)
    | t => members fields strict (t.length + 1) s t
  | _ => none

/-- Is there nothing but blanks left? A zero octet ends the document. -/
def atEnd (t : Bytes) : Bool :=
  match skipBlank t with
  | [] => true
  | b :: _ => b == 0

end DetectorStream.Json
