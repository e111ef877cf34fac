import DetectorStream.Text.Basic

/-!
# Slash-separated paths

* `Path.extension`: from the last dot on, if no slash follows it.
* `Path.base`: the last element.
* `Path.clean`: the shortest equivalent path; `Path.join` joins and cleans.
-/

namespace DetectorStream.Path

/-- The slash. -/
def slash : UInt8 := 0x2F

/-- The dot. -/
def dot : UInt8 := 0x2E

/-- The part of the path from the last dot on, empty when there is no dot after the last slash. -/
def extension (p : Text) : Text :=
  match Text.cutLast? (fun b => b == dot || b == slash) p with
  | some (_, b, after) => if b == dot then dot :: after else []
  | none => []

/-- The last element of the path: trailing slashes are dropped, an empty path is a dot. -/
def base (p : Text) : Text :=
  if p.isEmpty then [dot]
  else
    let stem := Text.trimRight (· == slash) p
    if stem.isEmpty then [slash]
    else
      match Text.cutLast? (· == slash) stem with
      | some (_, _, after) => after
      | none => stem

/-- Resolve the elements of a path from left to right onto the reversed list of those kept.
An element `..` takes back the one before it, where there is one to take back. -/
def resolve (rooted : Bool) (kept : List Text) : List Text → List Text
  | [] => kept.reverse
  | e :: rest =>
    if e.isEmpty || e == [dot] then resolve rooted kept rest
    else if e == [dot, dot] then
      match kept with
      | k :: ks =>
        if k == [dot, dot] then resolve rooted (e :: kept) rest else resolve rooted ks rest
      | [] => if rooted then resolve rooted [] rest else resolve rooted [e] rest
    else resolve rooted (e :: kept) rest

/-- The shortest path equivalent to `p`, found by its text alone. -/
def clean (p : Text) : Text :=
  if p.isEmpty then [dot]
  else
    let rooted := Text.startsWith [slash] p
    let body := Text.join [slash] (resolve rooted [] (Text.split slash p))
    if rooted then slash :: body
    else if body.isEmpty then [dot]
    else body

/-- The elements joined by slashes and cleaned; empty elements are left out. -/
def join (elements : List Text) : Text :=
  let es := elements.filter fun e => !e.isEmpty
  if es.isEmpty then [] else clean (Text.join [slash] es)

/-- The path without its last element: everything before the last slash. -/
def parent (p : Text) : Text :=
  match Text.cutLast? (· == slash) p with
  | some (before, _, _) => before
  | none => []

end DetectorStream.Path
