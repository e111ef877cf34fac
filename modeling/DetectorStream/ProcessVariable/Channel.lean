import DetectorStream.Context
import DetectorStream.ProcessVariable.Field

/-!
# Channels

A channel serves the current structure of each process variable that has been published.

* `publish`, `serve`: what is published by name.
* `Channel.put`: publish a structure in place of an earlier one.
* `Channel.get`: the structure of a variable.
* `Channel.scalar`, `Channel.array`: the value of a field of the right shape.
* `Channel.update`: change a field.
-/

namespace DetectorStream.ProcessVariable

section Published

variable {α : Type}

/-- Publish a value for a variable in place of an earlier one. -/
def publish (published : List (Text × α)) (pv : Text) (x : α) : List (Text × α) :=
  (pv, x) :: published.filter fun p => p.1 != pv

/-- What is published for a variable, unless the context forbids to look. -/
def serve (published : List (Text × α)) (ctx : Context) (pv : Text) : Except Fault α :=
  match ctx.fault? with
  | some f => .error (Fault.wrap .cancelled "channel get cancelled" f)
  | none =>
    match published.lookup pv with
    | some x => .ok x
    | none =>
      .error ((Fault.report .sourceUnavailable
        ("process variable " ++ pv ++ " is not connected")).withDetail "pv" (.text pv))

end Published

/-- The published structures by the names of their variables. -/
structure Channel where
  published : List (Text × Structure) := []
deriving DecidableEq, Repr

namespace Channel

/-- Publish a structure. -/
def put (c : Channel) (pv : Text) (s : Structure) : Channel := ⟨publish c.published pv s⟩

/-- The structure of a variable. -/
def get (c : Channel) (ctx : Context) (pv : Text) : Except Fault Structure :=
  serve c.published ctx pv

/-- The fault of a field that is not there. -/
def missing (pv field : Text) : Fault :=
  ((Fault.report .missingField ("field " ++ Text.quote field ++ " not found on " ++ pv)).withDetail
    "pv" (.text pv)).withDetail "field" (.text field)

/-- The fault of a field of the wrong shape. -/
def mismatch (pv : Text) (f : Field) (want : Shape) : Fault :=
  ((Fault.report .fieldType ("field " ++ Text.quote f.name ++ " of " ++ pv ++ " is " ++ f.shape.name
    ++ ", not " ++ want.name)).withDetail "pv" (.text pv)).withDetail "descriptor"
    (.text f.descriptor)

/-- The field of a variable. -/
def field (c : Channel) (ctx : Context) (pv name : Text) : Except Fault Field :=
  match c.get ctx pv with
  | .error f => .error f
  | .ok s =>
    match s.field? name with
    | some f => .ok f
    | none => .error (missing pv name)

/-- The value of a field that holds a single one. -/
def scalar (c : Channel) (ctx : Context) (pv name : Text) : Except Fault Int64 :=
  match c.field ctx pv name with
  | .error f => .error f
  | .ok (.scalar _ _ v) => .ok v
  | .ok f => .error (mismatch pv f .scalar)

/-- The values of a field that holds a row. -/
def array (c : Channel) (ctx : Context) (pv name : Text) : Except Fault (List UInt64) :=
  match c.field ctx pv name with
  | .error f => .error f
  | .ok (.array _ _ vs) => .ok vs
  | .ok f => .error (mismatch pv f .array)

/-- Change a field of a variable; nothing happens if it is not there. -/
def update (c : Channel) (pv name : Text) (change : Field → Field) : Channel :=
  match c.published.lookup pv with
  | none => c
  | some s =>
    match s.field? name with
    | none => c
    | some f => c.put pv (s.replace (change f))

end Channel

end DetectorStream.ProcessVariable
