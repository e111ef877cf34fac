import DetectorStream.Fault.Basic

/-!
# Fields of process variables

A field has a name, a descriptor and a value: one integer, or a row of them. What the server
reported as its type says nothing about how the value is held.

* `Field.make`: an empty field of the kind and type that numbers stand for.
* `Field.descriptor`: the descriptor as text.
* `Structure.ofFields`: a set of fields with different names.
-/

namespace DetectorStream.ProcessVariable

/-- One value or a row of values. -/
inductive Shape
  | scalar
  | array
deriving DecidableEq, Repr

/-- The name of a shape. -/
def Shape.name : Shape → Text
  | scalar => "scalar"
  | array => "array"

/-- The integer type that a server reported, by its number. -/
structure Element where
  code : Int
deriving DecidableEq, Repr

namespace Element

/-- The names of the types that exist, in the order of their numbers. -/
def names : List String := ["byte", "short", "int", "long", "ubyte", "ushort", "uint", "ulong"]

/-- The name of a type that exists. -/
def name? (e : Element) : Option String := if e.code < 0 then none else names[e.code.toNat]?

/-- The name of a type. -/
def name (e : Element) : Text :=
  match e.name? with
  | some s => s
  | none => Text.ofString "type(" ++ Decimal.ofInt e.code ++ ")"

end Element

/-- One named value. -/
inductive Field
  | scalar (name : Text) (element : Element) (value : Int64)
  | array (name : Text) (element : Element) (values : List UInt64)
deriving DecidableEq, Repr

namespace Field

/-- The name of a field. -/
def name : Field → Text
  | scalar n _ _ => n
  | array n _ _ => n

/-- The type that was reported for a field. -/
def element : Field → Element
  | scalar _ e _ => e
  | array _ e _ => e

/-- The shape of a field. -/
def shape : Field → Shape
  | scalar _ _ _ => .scalar
  | array _ _ _ => .array

/-- The descriptor of a field as text. -/
def descriptor (f : Field) : Text :=
  f.element.name ++ (if f.shape = .array then "[] " else " ") ++ f.name

/-- An empty field of a kind, which is 0 for a single value and 1 for a row. -/
def make (name : Text) (kind type : Int) : Except Fault Field :=
  let e : Element := ⟨type⟩
  if name.isEmpty then .error (.report .configuration "field name is required")
  else if e.name?.isNone then
    .error (.report .fieldType ("unsupported type " ++ e.name ++ " for field " ++ Text.quote name))
  else if kind = 0 then .ok (scalar name e 0)
  else if kind = 1 then .ok (array name e [])
  else
    .error (.report .fieldType
      ("unsupported kind " ++ Decimal.ofInt kind ++ " for field " ++ Text.quote name))

/-- The value of a field that holds a single one. -/
def single? : Field → Option Int64
  | scalar _ _ v => some v
  | array _ _ _ => none

/-- The values of a field that holds a row. -/
def row? : Field → Option (List UInt64)
  | scalar _ _ _ => none
  | array _ _ vs => some vs

/-- The field with another single value; a row stays as it is. -/
def setValue (v : Int64) : Field → Field
  | scalar n e _ => scalar n e v
  | f => f

/-- The field with another row of values; a single value stays as it is. -/
def setValues (vs : List UInt64) : Field → Field
  | array n e _ => array n e vs
  | f => f

end Field

/-- The value of a process variable: fields with different names. -/
structure Structure where
  fields : List Field := []
deriving DecidableEq, Repr

namespace Structure

/-- The field of a name. -/
def field? (s : Structure) (name : Text) : Option Field := s.fields.find? fun f => f.name == name

/-- The names of all fields, in order. -/
def names (s : Structure) : List Text := Text.sort (s.fields.map Field.name)

/-- Add fields, the first of which has number `i`, to a structure. -/
def addAll : (i : Nat) → Structure → List (Option Field) → Except Fault Structure
  | _, s, [] => .ok s
  | i, _, none :: _ => .error (.report .configuration ("field " ++ Decimal.ofNat i ++ " is nil"))
  | i, s, some f :: rest =>
    if (s.field? f.name).isSome then
      .error (.report .configuration ("duplicate field " ++ Text.quote f.name))
    else addAll (i + 1) ⟨s.fields ++ [f]⟩ rest

/-- A structure of fields, all of which must be there and have different names. -/
def ofFields (fields : List (Option Field)) : Except Fault Structure := addAll 0 {} fields

/-- Replace the field of the same name. -/
def replace (s : Structure) (f : Field) : Structure :=
  ⟨s.fields.map fun g => if g.name == f.name then f else g⟩

end Structure

end DetectorStream.ProcessVariable
