import DetectorStream.Fault.Basic

/-!
# Locators

A source is named by a path or by a locator `scheme://user@host/path?query#fragment`. This module
takes locators apart, decodes percent escapes where a component allows them, reads query
parameters, and writes a locator back.

* `Locator.parse`: a locator from its text, or the complaint about it.
* `Locator.text`: the text of a locator.
* `Locator.param`: the first value of a query parameter.
* `Locator.ofIdentifier`: a source identifier, in which a bare path is a file.
-/

namespace DetectorStream

namespace Escape

/-- The component of a locator that an octet stands in. -/
inductive Component
  | path
  | host
  | zone
  | user
  | query
  | fragment
deriving DecidableEq, Repr

/-- Is the octet one of the characters of `s`? -/
def oneOf (s : String) (b : UInt8) : Bool := (Text.ofString s).elem b

/-- Must the octet be written as an escape in this component? -/
def needed (c : Component) (b : UInt8) : Bool :=
  if Text.isAlnum b then false
  else if (c == .host || c == .zone) && oneOf "!$&'()*+,;=:[]<>\"" b then false
  else if oneOf "-_.~" b then false
  else if oneOf "$&+,/:;=?@" b then
    match c with
    | .path => b == 0x3F
    | .user => oneOf "@/?:" b
    | .query => true
    | .fragment => false
    | .host | .zone => true
  else if c == .fragment && oneOf "!()*" b then false
  else true

/-- Write a text as a component. -/
def encode (c : Component) (t : Text) : Text :=
  t.flatMap fun b =>
    if !needed c b then [b]
    else if c == .query && b == 0x20 then [0x2B]
    else [0x25, Text.hexDigitUpper (b.toNat / 16), Text.hexDigitUpper (b.toNat % 16)]

/-- Why a component cannot be decoded. -/
inductive Problem
  | badEscape (t : Text)
  | badHost (t : Text)
deriving DecidableEq, Repr

/-- The wording of a problem. -/
def Problem.message : Problem → Text
  | .badEscape t => "invalid URL escape " ++ Text.quote t
  | .badHost t => "invalid character " ++ Text.quote t ++ " in host name"

/-- May an escape for the octet `v` stand in this component? In a host only octets beyond ASCII and
the percent sign may be escaped. -/
def escapeAllowed (c : Component) (v : UInt8) : Bool :=
  match c with
  | .host => 0x80 ≤ v || v == 0x25
  | .zone => v == 0x25 || v == 0x20 || !needed .host v
  | _ => true

/-- Decode a component onto the reversed list of octets decoded so far. -/
def decodeOnto (c : Component) (acc : Text) : Text → Except Problem Text
  | [] => .ok acc.reverse
  | 0x25 :: h :: l :: t =>
    match Text.hexValue? h, Text.hexValue? l with
    | some x, some y =>
      let v := (x * 16 + y).toUInt8
      if escapeAllowed c v then decodeOnto c (v :: acc) t else .error (.badEscape [0x25, h, l])
    | _, _ => .error (.badEscape [0x25, h, l])
  | b :: t =>
    if b == 0x25 then .error (.badEscape (b :: t))
    else if b == 0x2B && c == .query then decodeOnto c (0x20 :: acc) t
    else if (c == .host || c == .zone) && b < 0x80 && needed c b then .error (.badHost [b])
    else decodeOnto c (b :: acc) t

/-- Decode a component. -/
def decode (c : Component) (t : Text) : Except Problem Text := decodeOnto c [] t

/-- Is the text a form in which a component may be kept as it was written? -/
def isValid (c : Component) (t : Text) : Bool :=
  t.all fun b => oneOf "!$&'()*+,;=:@[]%" b || !needed c b

end Escape

/-- The user part of a locator. -/
structure UserInfo where
  name : Text
  password : Option Text := none
deriving DecidableEq, Repr

/-- A locator taken apart. Path and fragment are decoded; the form they were written in is kept
beside them when it is not the usual one. -/
structure Locator where
  scheme : Text := []
  opaquePart : Text := []
  user : Option UserInfo := none
  host : Text := []
  /-- The text had a scheme and a rooted path, but no authority. -/
  omitHost : Bool := false
  path : Text := []
  writtenPath : Text := []
  /-- The text ended in a lone question mark. -/
  forceQuery : Bool := false
  query : Text := []
  fragment : Text := []
  writtenFragment : Text := []
deriving DecidableEq, Repr

namespace Locator

/-! ## Reading -/

/-- Split off the scheme: `none` when there is none, an error when a colon comes first. -/
def scheme? (t : Text) : Except Text (Option (Text × Text)) :=
  let name := t.takeWhile fun b =>
    Text.isAlnum b || b == 0x2B || b == 0x2D || b == 0x2E
  match t.drop name.length with
  | 0x3A :: rest =>
    match name with
    | [] => .error "missing protocol scheme"
    | b :: _ => .ok (if Text.isAlpha b then some (name, rest) else none)
  | _ => .ok none

/-- A colon and digits, or nothing. -/
def isService : Text → Bool
  | [] => true
  | b :: t => b == 0x3A && t.all Text.isDigit

/-- The complaint about a service number. -/
def badService (t : Text) : Text := "invalid port " ++ Text.quote t ++ " after host"

/-- Decode a component, with the problem in words. -/
def decoded (c : Escape.Component) (t : Text) : Except Text Text :=
  (Escape.decode c t).mapError Escape.Problem.message

/-- Read a host with the service number behind it. -/
def host? (h : Text) : Except Text Text :=
  if Text.startsWith [0x5B] h then
    match Text.cutLast? (· == 0x5D) h with
    | none => .error "missing ']' in host"
    | some (inside, _, service) =>
      if !isService service then .error (badService service)
      else
        match Text.cut? "%25" inside with
        | none => decoded .host h
        | some (before, _) => do
          let h₁ ← decoded .host before
          let h₂ ← decoded .zone (inside.drop before.length)
          let h₃ ← decoded .host (0x5D :: service)
          pure (h₁ ++ h₂ ++ h₃)
  else
    match Text.cutLast? (· == 0x3A) h with
    | some (_, _, service) =>
      if isService (0x3A :: service) then decoded .host h else .error (badService (0x3A :: service))
    | none => decoded .host h

/-- May the octet stand in the user part? -/
def validUser (t : Text) : Bool :=
  t.all fun b => Text.isAlnum b || Escape.oneOf "-._:~!$&'()*+,;=%@" b

/-- Read the part between the two slashes and the path. -/
def authority? (t : Text) : Except Text (Option UserInfo × Text) :=
  match Text.cutLast? (· == 0x40) t with
  | none => (host? t).map fun h => (none, h)
  | some (info, _, h) => do
    let h ← host? h
    if !validUser info then .error "net/url: invalid userinfo"
    else
      match Text.cut? ":" info with
      | none => do
        let name ← decoded .user info
        pure (some ⟨name, none⟩, h)
      | some (name, password) => do
        let name ← decoded .user name
        let password ← decoded .user password
        pure (some ⟨name, some password⟩, h)

/-- Set a decoded path and the form it was written in. -/
def withPath (u : Locator) (p : Text) : Except Text Locator := do
  let path ← decoded .path p
  pure { u with path := path, writtenPath := if Escape.encode .path path == p then [] else p }

/-- Everything before a slash, and the rest from the slash on. -/
def cutSlash (t : Text) : Text × Text := (t.takeWhile (· != 0x2F), t.dropWhile (· != 0x2F))

/-- Read what comes after the scheme and before the query. -/
def hierarchy (u : Locator) (rest : Text) : Except Text Locator :=
  let rooted := Text.startsWith [0x2F] rest
  if !rooted && !u.scheme.isEmpty then .ok { u with opaquePart := rest }
  else if !rooted && (cutSlash rest).1.elem 0x3A then
    .error "first path segment in URL cannot contain colon"
  else if Text.startsWith "//" rest && (!u.scheme.isEmpty || !Text.startsWith "///" rest) then do
    let (a, p) := cutSlash (rest.drop 2)
    let (user, host) ← authority? a
    withPath { u with user := user, host := host } p
  else withPath { u with omitHost := !u.scheme.isEmpty && rooted } rest

/-- Read a locator without its fragment. -/
def parseBody (t : Text) : Except Text Locator := do
  if t.any (fun b => b < 0x20 || b == 0x7F) then
    .error "net/url: invalid control character in URL"
  else if t == "*" then pure { path := t }
  else do
    let (scheme, rest) ← (scheme? t).map fun s => s.getD ([], t)
    let scheme := Text.toLowerAscii scheme
    match Text.cut? "?" rest with
    | none => hierarchy { scheme := scheme } rest
    | some (body, query) =>
      hierarchy { scheme := scheme, query := query, forceQuery := query.isEmpty } body

/-- A failed reading, with the text it was about. -/
def complaint (t reason : Text) : Text := "parse " ++ Text.quote t ++ ": " ++ reason

/-- Read a locator. -/
def parse (t : Text) : Except Text Locator :=
  let (body, fragment) := (Text.cut? "#" t).getD (t, [])
  match parseBody body with
  | .error e => .error (complaint body e)
  | .ok u =>
    if fragment.isEmpty then .ok u
    else
      match decoded .fragment fragment with
      | .error e => .error (complaint t e)
      | .ok f =>
        .ok { u with
          fragment := f
          writtenFragment := if Escape.encode .fragment f == fragment then [] else fragment }

/-! ## Writing -/

/-- A component as it was written, if that form still stands for it, or else in its usual form. -/
def written (c : Escape.Component) (decodedForm writtenForm : Text) : Text :=
  if !writtenForm.isEmpty && Escape.isValid c writtenForm
      && (Escape.decode c writtenForm).toOption == some decodedForm then writtenForm
  else Escape.encode c decodedForm

/-- The path as it is written. -/
def pathText (u : Locator) : Text :=
  if u.writtenPath.isEmpty && u.path == "*" then "*" else written .path u.path u.writtenPath

/-- The text of the user part. -/
def userText (i : UserInfo) : Text :=
  Escape.encode .user i.name ++
    (match i.password with | some p => 0x3A :: Escape.encode .user p | none => [])

/-- The text of a locator. -/
def text (u : Locator) : Text :=
  let start : Text := if u.scheme.isEmpty then [] else u.scheme ++ [0x3A]
  let middle :=
    if !u.opaquePart.isEmpty then start ++ u.opaquePart
    else
      let authority :=
        if u.scheme.isEmpty && u.host.isEmpty && u.user.isNone then []
        else if u.omitHost && u.host.isEmpty && u.user.isNone then []
        else
          (if !u.host.isEmpty || !u.path.isEmpty || u.user.isSome then Text.ofString "//" else [])
            ++ (match u.user with | some i => userText i ++ [0x40] | none => [])
            ++ Escape.encode .host u.host
      let path := pathText u
      let front := start ++ authority
      let front :=
        if !path.isEmpty && !Text.startsWith [0x2F] path && !u.host.isEmpty then front ++ [0x2F]
        else front
      let front := if front.isEmpty && (cutSlash path).1.elem 0x3A then Text.ofString "./" else front
      front ++ path
  middle ++ (if u.forceQuery || !u.query.isEmpty then 0x3F :: u.query else [])
    ++ (if u.fragment.isEmpty then [] else 0x23 :: written .fragment u.fragment u.writtenFragment)

/-! ## Query parameters -/

/-- The parameters of a query: parts with a semicolon or a bad escape are dropped. -/
def params (u : Locator) : List (Text × Text) :=
  (Text.split 0x26 u.query).filterMap fun part =>
    if part.elem 0x3B || part.isEmpty then none
    else
      let (k, v) := (Text.cut? "=" part).getD (part, [])
      match Escape.decode .query k, Escape.decode .query v with
      | .ok k, .ok v => some (k, v)
      | _, _ => none

/-- The first value of a parameter, empty when it is not given. -/
def param (u : Locator) (key : Text) : Text := (u.params.lookup key).getD []

/-! ## Identifiers -/

/-- The locator of a source identifier. A text without `://` is the path of a file. -/
def ofIdentifier (id : Text) : Except Fault Locator :=
  if id.isEmpty then .error (.report .sourceUnavailable "empty source identifier")
  else if !Text.includes "://" id then .ok { scheme := "file", path := id }
  else
    match parse id with
    | .ok u => .ok u
    | .error e =>
      .error ((Fault.wrap .sourceUnavailable "unresolvable source identifier" (.told e)).withDetail
        "source" (.text id))

end Locator

end DetectorStream
