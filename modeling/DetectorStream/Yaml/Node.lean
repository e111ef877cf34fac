import DetectorStream.Number.Shortest
import DetectorStream.Octets.Base64
import DetectorStream.Yaml.Scalar

/-!
# Nodes

A document as a tree. A scalar keeps its text and a tag: the tag that was written, or the one that
its text suggests. A collection that was given a name may stand again wherever that name is used;
used inside itself it has no value.

* `Node.meaning`: what a scalar stands for, if its tag admits it.
* `Node.flatten`: the entries of a mapping, those of merged mappings included.
* `Node.value`: a document as a plain value.
-/

namespace DetectorStream.Yaml

/-- A document. -/
inductive Node
  | scalar (tag text : Text)
  | sequence (items : List Node)
  | mapping (entries : List (Node × Node))
  /-- The node that a name stands for. -/
  | repeated (name : Text) (target : Node)
  /-- A name used inside the node it stands for. -/
  | cycle

/-- What a scalar stands for. -/
inductive Meaning
  | null
  | flag (b : Bool)
  | whole (n : Int)
  | real (f : Float)
  | timestamp
  | text (t : Text)

/-- A document without its spelling. -/
inductive Value
  | scalar (m : Meaning)
  | list (items : List Value)
  | map (entries : List (Text × Value))

namespace Node

mutual

/-- Are two nodes the same? -/
def decEq : (a b : Node) → Decidable (a = b)
  | .scalar t x, .scalar u y => decidable_of_iff (t = u ∧ x = y) (by rw [scalar.injEq])
  | .sequence xs, .sequence ys =>
    have := decEqItems xs ys
    decidable_of_iff (xs = ys) (by rw [sequence.injEq])
  | .mapping xs, .mapping ys =>
    have := decEqEntries xs ys
    decidable_of_iff (xs = ys) (by rw [mapping.injEq])
  | .repeated t x, .repeated u y =>
    have := decEq x y
    decidable_of_iff (t = u ∧ x = y) (by rw [repeated.injEq])
  | .cycle, .cycle => isTrue rfl
  | .scalar .., .sequence _ | .scalar .., .mapping _ | .scalar .., .repeated .. => isFalse nofun
  | .scalar .., .cycle | .sequence _, .scalar .. | .sequence _, .mapping _ => isFalse nofun
  | .sequence _, .repeated .. | .sequence _, .cycle | .mapping _, .scalar .. => isFalse nofun
  | .mapping _, .sequence _ | .mapping _, .repeated .. | .mapping _, .cycle => isFalse nofun
  | .repeated .., .scalar .. | .repeated .., .sequence _ => isFalse nofun
  | .repeated .., .mapping _ | .repeated .., .cycle | .cycle, .scalar .. => isFalse nofun
  | .cycle, .sequence _ | .cycle, .mapping _ | .cycle, .repeated .. => isFalse nofun

/-- Are the items of two sequences the same? -/
def decEqItems : (xs ys : List Node) → Decidable (xs = ys)
  | [], [] => isTrue rfl
  | x :: xs, y :: ys =>
    have := decEq x y
    have := decEqItems xs ys
    decidable_of_iff (x = y ∧ xs = ys) (by rw [List.cons.injEq])
  | [], _ :: _ | _ :: _, [] => isFalse nofun

/-- Are the entries of two mappings the same? -/
def decEqEntries : (xs ys : List (Node × Node)) → Decidable (xs = ys)
  | [], [] => isTrue rfl
  | (k, v) :: xs, (l, w) :: ys =>
    have := decEq k l
    have := decEq v w
    have := decEqEntries xs ys
    decidable_of_iff ((k = l ∧ v = w) ∧ xs = ys) (by rw [List.cons.injEq, Prod.mk.injEq])
  | [], _ :: _ | _ :: _, [] => isFalse nofun

end

instance : DecidableEq Node := decEq

/-- What a scalar stands for. The text has to suit the tag; a whole number suits the tag of
floating-point numbers too. -/
def meaning (tag text : Text) : Option Meaning :=
  if tag == "!!str" then some (.text text)
  else if tag == "!!binary" then (Base64.decode? text).map .text
  else
    match Scalar.resolve text with
    | .null => if tag == "!!null" then some .null else none
    | .flag b => if tag == "!!bool" then some (.flag b) else none
    | .whole n =>
      if tag == "!!int" then some (.whole n)
      else if tag == "!!float" then some (.real (Binary64.ofInt n))
      else none
    | .real f => if tag == "!!float" then some (.real f) else none
    | .timestamp => if tag == "!!timestamp" then some .timestamp else none
    | .text => none

/-- The node behind names. -/
def strip : Node → Node
  | repeated _ n => n.strip
  | n => n

/-- Is the node the key under which mappings are merged? -/
def isMerge : Node → Bool
  | scalar tag text => tag == "!!merge" && text == "<<"
  | _ => false

/-- Are two keys written alike? Collections count as alike. -/
def alike : Node → Node → Bool
  | scalar _ t, scalar _ u => t == u
  | sequence _, sequence _ => true
  | mapping _, mapping _ => true
  | repeated a _, repeated b _ => a == b
  | _, _ => false

/-- Is every key of a mapping written once? -/
def distinctKeys : List (Node × Node) → Bool
  | [] => true
  | (k, _) :: r => !r.any (fun e => alike k e.1) && distinctKeys r

/-- The text of a key that is to be a name; absent for a key that is nothing. -/
def keyName : Node → Option (Option Text)
  | scalar tag text => (meaning tag text).map fun
    | .null => none
    | .text t => some t
    | _ => some text
  | repeated _ n => n.keyName
  | _ => none

/-- Is the tag of a key one of plain texts? -/
def isTextKey : Node → Bool
  | scalar tag _ => tag == "!!str" || tag == "!!merge"
  | repeated _ n => n.isTextKey
  | _ => false

/-- The name of a key that may be of any type. -/
def anyKeyName : Node → Option Text
  | scalar tag text => (meaning tag text).map fun
    | .null => []
    | .flag b => if b then "true" else "false"
    | .whole n => Decimal.ofInt n
    | .real f => FloatStyle.plain.render f
    | .timestamp => text
    | .text t => t
  | repeated _ n => n.anyKeyName
  | _ => none

/-- The names of the keys in a list of entries; merging keys and keys that are nothing are left
out. -/
def named : List (Node × Node) → Option (List (Text × Node))
  | [] => some []
  | (k, v) :: r => do
    if k.isMerge then named r
    else
      let name ← k.keyName
      let rest ← named r
      some (match name with
        | some n => (n, v) :: rest
        | none => rest)

/-- The mappings that are merged into a list of entries; the last merging key counts. -/
def merged (es : List (Node × Node)) : Option (List Node) :=
  match (es.filter fun e => e.1.isMerge).getLast? with
  | none => some []
  | some (_, v) =>
    match v with
    | sequence items =>
      items.mapM fun n => match n with
        | mapping es => some (mapping es)
        | repeated _ (mapping es) => some (mapping es)
        | _ => none
    | mapping es => some [mapping es]
    | repeated _ (mapping es) => some [mapping es]
    | _ => none

/-- The entries of a mapping by name, then those of merged mappings under names not yet taken. The
depth of merging bounds `fuel`. -/
def flattenOnto : (fuel : Nat) → (taken : List (Text × Node)) → List (Node × Node) →
    Option (List (Text × Node))
  | 0, _, _ => none
  | fuel + 1, taken, es => do
    if !distinctKeys es then none
    else
      let own ← named es
      let taken := taken ++ own.filter fun e => !taken.any fun t => t.1 == e.1
      let more ← merged es
      more.foldlM (fun taken n => match n with
        | mapping es => flattenOnto fuel taken es
        | _ => none) taken

/-- How deep merging is followed. -/
def mergeDepth : Nat := 1000

/-- The entries of a mapping by name, those of merged mappings included. -/
def flatten (es : List (Node × Node)) : Option (List (Text × Node)) := flattenOnto mergeDepth [] es

/-- The names of all keys of a mapping, of any type. -/
def anyNamed (es : List (Node × Node)) : Option (List (Text × Node)) :=
  (es.filter fun e => !e.1.isMerge).mapM fun e => e.1.anyKeyName.map fun n => (n, e.2)

/-- The entries of a mapping whose keys need not be texts. -/
def entries (textKeys : Bool) (es : List (Node × Node)) : Option (List (Text × Node)) :=
  if textKeys then flatten es
  else if !distinctKeys es then none
  else do
    let own ← anyNamed es
    let more ← merged es
    let extra ← more.mapM fun n => match n with
      | mapping es => flatten es
      | _ => none
    some (own ++ extra.flatten.filter fun e => !own.any fun o => o.1 == e.1)

/-- A document as a plain value. The depth of the document bounds `fuel`. -/
def valueWithin (textKeys : Bool) : (fuel : Nat) → Node → Option Value
  | 0, _ => none
  | fuel + 1, n =>
    match n.strip with
    | scalar tag text => (meaning tag text).map .scalar
    | sequence items => (items.mapM (valueWithin false fuel)).map .list
    | mapping es => do
      let es ← entries (textKeys || es.all fun e => e.1.isTextKey) es
      let vs ← es.mapM fun e => (valueWithin false fuel e.2).map fun v => (e.1, v)
      some (.map vs)
    | _ => none

end Node

end DetectorStream.Yaml
