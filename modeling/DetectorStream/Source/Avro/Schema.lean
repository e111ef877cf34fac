import DetectorStream.Json.Value
import DetectorStream.Number.Decimal

/-!
# Avro schemas

A schema is a JSON document: the name of a type, a definition, or a list of alternatives. A
definition with a name may be referred to by that name later on, also inside itself.

* `Avro.Schema.ofJson?`: a schema with the named types it defines.
-/

namespace DetectorStream.Avro

/-- The shape of a datum. Named types are kept apart and referred to by name. -/
inductive Schema
  | null
  | boolean
  | int
  | long
  | float
  | double
  | bytes
  | string
  | fixed (size : Nat)
  | enum (symbols : Nat)
  | array (item : Schema)
  | map (item : Schema)
  | union (branches : List Schema)
  | record (fields : List (Text × Schema))
  | named (name : Text)

/-- The named types that a schema defines. -/
abbrev Names := List (Text × Schema)

/-- The types that need no definition. -/
def primitive? (t : Text) : Option Schema :=
  [("null", Schema.null), ("boolean", .boolean), ("int", .int), ("long", .long),
    ("float", .float), ("double", .double), ("bytes", .bytes), ("string", .string)].find?
      (fun p => Text.ofString p.1 == t) |>.map Prod.snd

/-- Is the text a name: letters, digits and underscores, with no digit first? -/
def isName (t : Text) : Bool :=
  match t with
  | [] => false
  | b :: r => (Text.isAlpha b || b == 0x5F) && r.all fun b => Text.isAlnum b || b == 0x5F

/-- The full name of a definition: dotted names stand alone, others lie in a namespace. -/
def fullName? (space : Text) (v : Json.Value) : Option (Text × Text) := do
  let name ← (v.member? "name").bind Json.Value.text?
  let space := ((v.member? "namespace").bind Json.Value.text?).getD space
  match Text.cutLast? (· == 0x2E) name with
  | some (before, _, after) => if isName after then some (before, name) else none
  | none =>
    if !isName name then none
    else if space.isEmpty then some ([], name)
    else some (space, space ++ [0x2E] ++ name)

mutual

/-- Read a schema in a namespace, with the names defined so far. The nesting of the document bounds
`fuel`. -/
def schema? : (fuel : Nat) → (space : Text) → Names → Json.Value → Option (Schema × Names)
  | 0, _, _, _ => none
  | fuel + 1, space, names, v =>
    match v with
    | .string t => typed? fuel space names t .null
    | .array xs => (branches? fuel space names xs).map fun (ss, ns) => (.union ss, ns)
    | .object _ =>
      match v.member? "type" with
      | some (.string t) => typed? fuel space names t v
      | some inner =>
        match inner with
        | .object _ => schema? fuel space names inner
        | .array _ => schema? fuel space names inner
        | _ => none
      | none => none
    | _ => none

/-- Read a type by its name, with the definition it heads. -/
def typed? : (fuel : Nat) → (space : Text) → Names → Text → Json.Value → Option (Schema × Names)
  | 0, _, _, _, _ => none
  | fuel + 1, space, names, t, v =>
    match primitive? t with
    | some s => some (s, names)
    | none =>
      if (names.lookup t).isSome then some (.named t, names)
      else if !space.isEmpty && (names.lookup (space ++ [0x2E] ++ t)).isSome then
        some (.named (space ++ [0x2E] ++ t), names)
      else if t == "array" then
        match v.member? "items" with
        | some i => (schema? fuel space names i).map fun (s, ns) => (.array s, ns)
        | none => none
      else if t == "map" then
        match v.member? "values" with
        | some i => (schema? fuel space names i).map fun (s, ns) => (.map s, ns)
        | none => none
      else if t == "enum" then
        match fullName? space v, v.member? "symbols" with
        | some (_, n), some (.array xs) =>
          if xs.isEmpty then none else some (.named n, (n, .enum xs.length) :: names)
        | _, _ => none
      else if t == "fixed" then
        match fullName? space v, v.member? "size" with
        | some (_, n), some (.number size) =>
          (Decimal.readNat? size).map fun k => (.named n, (n, .fixed k) :: names)
        | _, _ => none
      else if t == "record" then
        match fullName? space v, v.member? "fields" with
        | some (sp, n), some (.array xs) =>
          match fields? fuel sp ((n, .null) :: names) xs with
          | some (fs, ns) =>
            if fs.map Prod.fst |>.Nodup then
              some (.named n, (n, .record fs) :: ns)
            else none
          | none => none
        | _, _ => none
      else none

/-- Read the branches of a union. -/
def branches? : (fuel : Nat) → (space : Text) → Names → List Json.Value →
    Option (List Schema × Names)
  | 0, _, _, _ => none
  | _ + 1, _, names, [] => some ([], names)
  | fuel + 1, space, names, x :: xs =>
    match schema? fuel space names x with
    | none => none
    | some (s, ns) => (branches? fuel space ns xs).map fun (ss, ns) => (s :: ss, ns)

/-- Read the fields of a record. -/
def fields? : (fuel : Nat) → (space : Text) → Names → List Json.Value →
    Option (List (Text × Schema) × Names)
  | 0, _, _, _ => none
  | _ + 1, _, names, [] => some ([], names)
  | fuel + 1, space, names, x :: xs =>
    match (x.member? "name").bind Json.Value.text?, x.member? "type" with
    | some n, some t =>
      if !isName n then none
      else
        let s := match t with
          | .string t => typed? fuel space names t x
          | t => schema? fuel space names t
        match s with
        | none => none
        | some (s, ns) => (fields? fuel space ns xs).map fun (fs, ns) => ((n, s) :: fs, ns)
    | _, _ => none

end

/-- The schema of a document; the name of a type may stand alone without quotes. -/
def Schema.ofJson? (t : Text) : Option (Schema × Names) :=
  match primitive? t with
  | some s => some (s, [])
  | none => (Json.Value.parse? t).bind (schema? (2 * t.length + 10) [] [])

end DetectorStream.Avro
