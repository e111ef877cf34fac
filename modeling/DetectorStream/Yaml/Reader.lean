import DetectorStream.Yaml.Node
import DetectorStream.Yaml.Token

/-!
# Reading documents

From tokens to a tree, by the grammar of nodes. Only the first document of a text is read. Missing
nodes read as empty scalars.

* `Node.parse`: the first document of a text; absent for a text without one.
-/

namespace DetectorStream.Yaml

/-- What is known while a tree is built. -/
structure Builder where
  tokens : Tokens
  /-- The nodes that were given a name, in order; absent while they are being read. -/
  named : Array (Text × Option Node) := #[]
  /-- What the handles of tags stand for. -/
  handles : List (Text × Text)

namespace Builder

/-- The next token. -/
def peek (b : Builder) : Option Token := b.tokens.peek

/-- Pass over a token. -/
def skip (b : Builder) : Builder := { b with tokens := b.tokens.tail }

/-- The node that a name stands for, most recent first. -/
def lookup (b : Builder) (name : Text) : Option Node :=
  (b.named.toList.reverse.lookup name).map fun n => .repeated name (n.getD .cycle)

end Builder

/-- Where every tag of the standard types starts. -/
def standardTags : Text := "tag:yaml.org,2002:"

/-- A tag in its short form. -/
def shortTag (t : Text) : Text :=
  if Text.startsWith standardTags t then Text.ofString "!!" ++ t.drop standardTags.length else t

/-- A scalar under the tag `tag`, which is empty or `!` when none was given. -/
def Node.ofScalar (tag text : Text) (plain : Bool) : Node :=
  if !(tag.isEmpty || tag == "!") then .scalar (shortTag tag) text
  else if !plain then .scalar "!!str" text
  else if text == "<<" then .scalar "!!merge" text
  else .scalar (Scalar.resolve text).tag text

/-- A node that is not there. -/
def Node.empty : Node := Node.ofScalar [] [] true

/-- The anchor and the tag in front of a node, in either order. -/
def properties (b : Builder) : Option (Option Text × Text × Builder) := do
  let expand (h s : Text) : Option Text :=
    if h.isEmpty then some s else (b.handles.lookup h).map (· ++ s)
  match ← b.peek with
  | .anchor a =>
    let b := b.skip
    match ← b.peek with
    | .tag h s => some (some a, ← expand h s, b.skip)
    | _ => some (some a, [], b)
  | .tag h s =>
    let t ← expand h s
    let b := b.skip
    match ← b.peek with
    | .anchor a => some (some a, t, b.skip)
    | _ => some (none, t, b)
  | _ => some (none, [], b)

/-- Whether a token ends an item of a block. -/
def endsBlockItem : Token → Bool
  | .key | .value | .blockEnd => true
  | _ => false

mutual

/-- A node; `inBlock` where blocks may start, `dashes` where a list needs no indentation of its own. -/
def node (inBlock dashes : Bool) : (fuel : Nat) → Builder → Option (Node × Builder)
  | 0, _ => none
  | fuel + 1, b => do
    match ← b.peek with
    | .repeated name => some (← b.lookup name, b.skip)
    | _ =>
      let (anchor, tag, b) ← properties b
      let slot := b.named.size
      let b := match anchor with
        | some a => { b with named := b.named.push (a, none) }
        | none => b
      let (n, b) ← content inBlock dashes anchor.isSome tag fuel b
      match anchor with
      | some a => some (n, { b with named := b.named.setIfInBounds slot (a, some n) })
      | none => some (n, b)

/-- A node after its anchor and tag. -/
def content (inBlock dashes anchored : Bool) (tag : Text) : (fuel : Nat) → Builder → Option (Node × Builder)
  | 0, _ => none
  | fuel + 1, b => do
    match ← b.peek with
    | .blockEntry => if dashes then bareItems [] fuel b else missing anchored tag b
    | .scalar text plain => some (.ofScalar tag text plain, b.skip)
    | .flowSequenceStart => flowItems true [] fuel b.skip
    | .flowMappingStart => flowEntries true [] fuel b.skip
    | .blockSequenceStart => if inBlock then blockItems [] fuel b.skip else missing anchored tag b
    | .blockMappingStart => if inBlock then blockEntries [] fuel b.skip else missing anchored tag b
    | _ => missing anchored tag b

/-- The items of an indented list, in reverse. -/
def blockItems (acc : List Node) : (fuel : Nat) → Builder → Option (Node × Builder)
  | 0, _ => none
  | fuel + 1, b => do
    match ← b.peek with
    | .blockEntry =>
      let b := b.skip
      match ← b.peek with
      | .blockEntry | .blockEnd => blockItems (.empty :: acc) fuel b
      | _ =>
        let (n, b) ← node true false fuel b
        blockItems (n :: acc) fuel b
    | .blockEnd => some (.sequence acc.reverse, b.skip)
    | _ => none

/-- The items of a list at the indentation of the mapping around it, in reverse. -/
def bareItems (acc : List Node) : (fuel : Nat) → Builder → Option (Node × Builder)
  | 0, _ => none
  | fuel + 1, b => do
    match ← b.peek with
    | .blockEntry =>
      let b := b.skip
      let t ← b.peek
      if endsBlockItem t || t matches .blockEntry then bareItems (.empty :: acc) fuel b
      else
        let (n, b) ← node true false fuel b
        bareItems (n :: acc) fuel b
    | _ => some (.sequence acc.reverse, b)

/-- The entries of an indented mapping, in reverse. -/
def blockEntries (acc : List (Node × Node)) : (fuel : Nat) → Builder → Option (Node × Builder)
  | 0, _ => none
  | fuel + 1, b => do
    match ← b.peek with
    | .key =>
      let b := b.skip
      let (k, b) ← if endsBlockItem (← b.peek) then some (Node.empty, b) else node true true fuel b
      match ← b.peek with
      | .value =>
        let b := b.skip
        let (v, b) ← if endsBlockItem (← b.peek) then some (Node.empty, b) else node true true fuel b
        blockEntries ((k, v) :: acc) fuel b
      | _ => blockEntries ((k, .empty) :: acc) fuel b
    | .blockEnd => some (.mapping acc.reverse, b.skip)
    | _ => none

/-- The items of a bracketed list, in reverse. -/
def flowItems (first : Bool) (acc : List Node) : (fuel : Nat) → Builder → Option (Node × Builder)
  | 0, _ => none
  | fuel + 1, b => do
    match ← b.peek with
    | .flowSequenceEnd => some (.sequence acc.reverse, b.skip)
    | t =>
      let b ← if first then some b else if t matches .flowEntry then some b.skip else none
      match ← b.peek with
      | .flowSequenceEnd => some (.sequence acc.reverse, b.skip)
      | .key =>
        let b := b.skip
        let (k, b) ← match ← b.peek with
          | .value | .flowEntry | .flowSequenceEnd => some (Node.empty, b.skip)
          | _ => node false false fuel b
        let (v, b) ← match ← b.peek with
          | .value => do
            let b := b.skip
            match ← b.peek with
            | .flowEntry | .flowSequenceEnd => some (Node.empty, b)
            | _ => node false false fuel b
          | _ => some (Node.empty, b)
        flowItems false (.mapping [(k, v)] :: acc) fuel b
      | _ =>
        let (n, b) ← node false false fuel b
        flowItems false (n :: acc) fuel b

/-- The entries of a bracketed mapping, in reverse. -/
def flowEntries (first : Bool) (acc : List (Node × Node)) : (fuel : Nat) → Builder → Option (Node × Builder)
  | 0, _ => none
  | fuel + 1, b => do
    match ← b.peek with
    | .flowMappingEnd => some (.mapping acc.reverse, b.skip)
    | t =>
      let b ← if first then some b else if t matches .flowEntry then some b.skip else none
      match ← b.peek with
      | .flowMappingEnd => some (.mapping acc.reverse, b.skip)
      | .key =>
        let b := b.skip
        let (k, b) ← match ← b.peek with
          | .value | .flowEntry | .flowMappingEnd => some (Node.empty, b)
          | _ => node false false fuel b
        let (v, b) ← match ← b.peek with
          | .value => do
            let b := b.skip
            match ← b.peek with
            | .flowEntry | .flowMappingEnd => some (Node.empty, b)
            | _ => node false false fuel b
          | _ => some (Node.empty, b)
        flowEntries false ((k, v) :: acc) fuel b
      | _ =>
        let (k, b) ← node false false fuel b
        flowEntries false ((k, .empty) :: acc) fuel b

/-- A node of which only the anchor or the tag is there. -/
def missing (anchored : Bool) (tag : Text) (b : Builder) : Option (Node × Builder) :=
  if anchored || !tag.isEmpty then some (.ofScalar tag [] true, b) else none

end

/-- The directives in front of a document: what the handles of tags stand for. -/
def directives : (fuel : Nat) → (versioned : Bool) → List (Text × Text) → Tokens →
    Option (List (Text × Text) × Tokens)
  | 0, _, _, _ => none
  | fuel + 1, versioned, hs, ts =>
    match ts.peek with
    | none => none
    | some (.directive (.version major minor)) =>
      if versioned || major != 1 || minor != 1 then none else directives fuel true hs ts.tail
    | some (.directive (.tag h e)) =>
      if hs.any (fun p => p.1 == h) then none else directives fuel versioned (hs ++ [(h, e)]) ts.tail
    | some _ => some (hs ++ [(Text.ofString "!", Text.ofString "!"), (Text.ofString "!!", standardTags)], ts)

/-- The first document of a text; absent for a text without one. -/
def Node.parse (t : Text) : Option (Option Node) := do
  let ts ← Token.scan t
  let fuel := 4 * ts.list.length + 8
  let (handles, rest) ← directives fuel false [] ts
  let explicit ← match ← ts.peek with
    | .directive _ => match ← rest.peek with
      | .documentStart => some true
      | _ => none
    | .documentStart => some true
    | _ => some false
  if explicit then do
    let b : Builder := { tokens := rest.tail, handles := handles }
    let (n, b) ← match ← b.peek with
      | .directive _ | .documentStart | .documentEnd | .streamEnd => some (Node.empty, b)
      | _ => node true false fuel b
    let _ ← b.peek
    some (some n)
  else
    match ← rest.peek with
    | .streamEnd => some none
    | _ => do
      let (n, b) ← node true false fuel { tokens := rest, handles := handles }
      let _ ← b.peek
      some (some n)

end DetectorStream.Yaml
