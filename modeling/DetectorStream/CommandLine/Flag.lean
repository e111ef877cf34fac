import DetectorStream.Csv
import DetectorStream.Duration
import DetectorStream.Number.Decimal
import DetectorStream.Number.FloatReader

/-!
# Flags

A flag has a name of its own and perhaps a letter, and takes values of one type. On a command line it
stands as `--name value` or `--name=value`, or by its letter as `-l value`, `-lvalue` or `-l=value`;
letters of flags that need no value may be run together. Words that are no flags are kept, and
everything after `--` is kept as it is.

* `Flag.Value.parse`: the value of a word, or why it is none.
* `Flag.parse`: the flags given on a command line and the words left.
* `Flag.Error.message`: the wording of a failure.
-/

namespace DetectorStream

/-- The type of the values of a flag. -/
inductive FlagType
  | text
  | whole (bits : Nat)
  | flag
  | real
  | duration
  | texts
deriving DecidableEq, Repr

/-- A value of a flag. -/
inductive Flag.Value
  | text (t : Text)
  | whole (n : Int)
  | flag (b : Bool)
  | real (f : Float)
  | duration (d : Duration)
  | texts (ts : List Text)

/-- A flag. -/
structure Flag where
  name : Text
  letter : Option UInt8 := none
  type : FlagType
  /-- What the flag is for. -/
  purpose : Text := []
  /-- The value that counts when none is given. -/
  standard : Flag.Value := .text []

namespace Flag

/-- The value of a word for a flag of the given type; on failure, the reason. -/
def Value.parse (type : FlagType) (t : Text) : Except Text Value :=
  match type with
  | .text => .ok (.text t)
  | .whole bits => ((Numeral.parseInt 0 bits t).mapError (Numeral.failure "ParseInt" t)).map .whole
  | .flag => ((Numeral.parseFlag t).mapError (Numeral.failure "ParseBool" t)).map .flag
  | .real => ((FloatReader.parse t).mapError (Numeral.failure "ParseFloat" t)).map .real
  | .duration => ((Duration.parse t).mapError (Duration.Complaint.message t)).map .duration
  | .texts =>
    if t.isEmpty then .ok (.texts [])
    else
      match Csv.first t with
      | .ok (some ts) => .ok (.texts ts)
      | .ok none => .error "EOF"
      | .error c => .error c.message

/-- The value after another one was given: lists grow, anything else is replaced. -/
def Value.after : Option Value → Value → Value
  | some (.texts old), .texts new => .texts (old ++ new)
  | _, v => v

/-- What is wrong with a command line. -/
inductive Error
  | badSyntax (word : Text)
  | unknown (name : Text)
  | unknownLetter (letter : UInt8) (word : Text)
  | needsArgument (word : Text)
  | letterNeedsArgument (letter : UInt8) (word : Text)
  | invalid (value : Text) (flag : Text) (reason : Text)
  | helpRequested
deriving DecidableEq, Repr

/-- A letter between single quotes. -/
def quotedLetter (b : UInt8) : Text :=
  let c := Char.ofNat b.toNat
  [0x27] ++ (if b == 0x27 then [0x5C, 0x27] else if b == 0x22 then [0x22] else Text.quoteChar c) ++ [0x27]

/-- The wording of a failure. -/
def Error.message : Error → Text
  | badSyntax w => "bad flag syntax: " ++ w
  | unknown n => "unknown flag: --" ++ n
  | unknownLetter c w => "unknown shorthand flag: " ++ quotedLetter c ++ " in -" ++ w
  | needsArgument w => "flag needs an argument: " ++ w
  | letterNeedsArgument c w => "flag needs an argument: " ++ quotedLetter c ++ " in -" ++ w
  | invalid v f r => "invalid argument " ++ Text.quote v ++ " for " ++ Text.quote f ++ " flag: " ++ r
  | helpRequested => "pflag: help requested"

/-- How a flag is named in a failure. -/
def title (f : Flag) : Text :=
  match f.letter with
  | some b => Text.ofString "-" ++ [b] ++ Text.ofString ", --" ++ f.name
  | none => Text.ofString "--" ++ f.name

/-- What a command line gave. -/
structure Parsed where
  given : List (Text × Value) := []
  /-- The words that are no flags. -/
  rest : List Text := []
  /-- How many of them stand before `--`, when it was there. -/
  beforeDash : Option Nat := none

namespace Parsed

/-- The value given to a flag. -/
def get? (p : Parsed) (name : Text) : Option Value := p.given.lookup name

/-- Give a value to a flag. -/
def give (p : Parsed) (f : Flag) (word : Text) : Except Error Parsed :=
  match Value.parse f.type word with
  | .error r => .error (.invalid word f.title r)
  | .ok v =>
    .ok { p with given := (f.name, Value.after (p.get? f.name) v) :: p.given.filter fun g => g.1 != f.name }

end Parsed

/-- The value a flag takes when none is given, for a flag that needs none. -/
def implied? (f : Flag) : Option Text := if f.type == .flag then some "true" else none

/-- A flag by its name: what is given, and the words left. -/
def long (flags : List Flag) (p : Parsed) (word : Text) (rest : List Text) :
    Except Error (Parsed × List Text) :=
  let body := word.drop 2
  if body.head?.all fun b => b == 0x2D || b == 0x3D then .error (.badSyntax word)
  else
    let name := body.takeWhile (· != 0x3D)
    match flags.find? fun f => f.name == name with
    | none => .error (if name == "help" then .helpRequested else .unknown name)
    | some f =>
      if name.length < body.length then (p.give f (body.drop (name.length + 1))).map (·, rest)
      else
        match f.implied?, rest with
        | some v, _ => (p.give f v).map (·, rest)
        | none, v :: rest => (p.give f v).map (·, rest)
        | none, [] => .error (.needsArgument word)

/-- Flags by their letters: what is given, and the words left. -/
def short (flags : List Flag) (p : Parsed) (rest : List Text) : Text → Except Error (Parsed × List Text)
  | [] => .ok (p, rest)
  | c :: t =>
    if Text.startsWith "test." (c :: t) then .ok (p, rest)
    else
      match flags.find? fun f => f.letter == some c with
      | none => .error (if c == 0x68 then .helpRequested else .unknownLetter c (c :: t))
      | some f =>
        if t.head? == some 0x3D && 1 < t.length then (p.give f (t.drop 1)).map (·, rest)
        else
          match f.implied? with
          | some v =>
            match p.give f v with
            | .error e => .error e
            | .ok p => short flags p rest t
          | none =>
            if !t.isEmpty then (p.give f t).map (·, rest)
            else
              match rest with
              | v :: rest => (p.give f v).map (·, rest)
              | [] => .error (.letterNeedsArgument c (c :: t))

/-- Read a command line. Every turn takes a word, which bounds `fuel`. -/
def parseFrom (flags : List Flag) : (fuel : Nat) → Parsed → List Text → Except Error Parsed
  | 0, p, _ => .ok p
  | _ + 1, p, [] => .ok p
  | fuel + 1, p, w :: rest =>
    match w with
    | 0x2D :: 0x2D :: [] =>
      .ok { p with rest := p.rest ++ rest, beforeDash := some p.rest.length }
    | 0x2D :: 0x2D :: _ =>
      match long flags p w rest with
      | .error e => .error e
      | .ok (p, rest) => parseFrom flags fuel p rest
    | 0x2D :: c :: t =>
      match short flags p rest (c :: t) with
      | .error e => .error e
      | .ok (p, rest) => parseFrom flags fuel p rest
    | _ => parseFrom flags fuel { p with rest := p.rest ++ [w] } rest

/-- The flags given on a command line and the words left. -/
def parse (flags : List Flag) (args : List Text) : Except Error Parsed :=
  parseFrom flags args.length {} args

end Flag

end DetectorStream
