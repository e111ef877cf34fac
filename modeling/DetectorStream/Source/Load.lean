import DetectorStream.MappedFile
import DetectorStream.Source.Arrow
import DetectorStream.Source.Avro
import DetectorStream.Source.Csv
import DetectorStream.Source.Json
import DetectorStream.Source.Synth

/-!
# Loading sources

The scheme of an identifier says who opens the source, the suffix of its name how it is compressed,
and the rest of the name which format it has.

* `Source.Opener`: who opens the sources of a scheme, in a world that opening may change.
* `Source.openFile`, `Source.openS3`, `Source.openGcs`, `Source.openSynth`: the openers there are.
* `Source.Layout`: the format of a name, and how it is read.
* `Source.decodeBy`, `Source.decode`: the batch of an opened source, with any codecs and with those
  there are.
* `Source.loadFrom`: the batch of an identifier, with any openers.
* `Source.loadBy`, `Source.load`: the batch of an identifier, with the openers there are.
-/

namespace DetectorStream.Source

/-- What an object store answers. Reading the object may fail later on. -/
inductive Retrieval
  | found (body : Stream)
  | absent
  | failed

/-- A connection to an object store: the object of a bucket and key. -/
abbrev ObjectStore := Text → Text → Retrieval

/-- Where sources come from. -/
structure Origins where
  files : Files := {}
  /-- Connect to the store of the scheme `s3` with a region and an endpoint. -/
  s3 : Text → Text → Except Fault ObjectStore := fun _ _ => .error .withheld
  /-- Connect to the store of the scheme `gs` with a credentials file and without authentication. -/
  gcs : Text → Bool → Except Fault ObjectStore := fun _ _ => .error .withheld

/-- An opened source: the name that says what it holds, its first octets, those after them, which are
made only when they are read, and how reading it ends. -/
structure Resource where
  name : Text
  head : Bytes
  rest : Unit → Bytes := fun _ => []
  ending : Ending := .clean
  /-- A failure is reported along with the last octets, not after them. -/
  abrupt : Bool := false

namespace Resource

/-- All octets of a source. -/
def contents (r : Resource) : Bytes := r.head ++ r.rest ()

/-- What a reader sees of a source. -/
def stream (r : Resource) : Stream := ⟨r.contents, r.ending, r.abrupt⟩

/-- The source of a name with this stream. -/
def ofStream (name : Text) (s : Stream) : Resource :=
  { name := name, head := s.bytes, ending := s.ending, abrupt := s.abrupt }

end Resource

/-- A source that cannot be opened. -/
def unavailable (f : Fault) (message source : Text) : Stop :=
  .fault ((Fault.wrap .sourceUnavailable message f).withDetail "source" (.text source))

/-- Files of so many octets are read through a mapping. -/
def mappedFrom : Nat := 0x100000

/-- What comes of reading a file: through a mapping if it is large and can be mapped. -/
def readingFile {α : Type} (bs : Bytes) (k : Consumer α) : α :=
  match if mappedFrom ≤ bs.length then (MappedFile.ofContents bs).toOption else none with
  | some m => k.run MappedFile.read m
  | none => k.run OpenFile.read { contents := bs }

/-- The stream of a file. The first buffer has room for all of it. -/
def fileStream (bs : Bytes) : Stream :=
  readingFile bs (.gather (fun _ => bs.length) (bs.length + 1) [])

/-- Open a file. The host of a locator is the first name of a relative path. -/
def openFile (fs : Files) (u : Locator) : Except Stop Resource :=
  let p := u.host ++ u.path
  match fs.node p with
  | .error .noEntry => .error (unavailable (Errno.noEntry.fault "open" p) "source file does not exist" p)
  | .error e => .error (unavailable (e.fault "open" p) "failed to open source file" p)
  | .ok .directory =>
    .error (.fault ((Fault.report .sourceUnavailable "source is a directory").withDetail "source" (.text p)))
  | .ok (.file bs) => .ok (.ofStream (Path.base p) (fileStream bs))
  | .ok _ => .ok { name := Path.base p, head := [] }

/-- The bucket and the key of a locator; both are needed. -/
def object? (u : Locator) : Option (Text × Text) :=
  let key := if Text.startsWith [0x2F] u.path then u.path.drop 1 else u.path
  if u.host.isEmpty || key.isEmpty then none else some (u.host, key)

/-- The complaint about a locator without bucket or key. -/
def needsObject (what : Text) (u : Locator) : Stop :=
  .fault ((Fault.report .sourceUnavailable what).withDetail "source" (.text u.text))

/-- All of an object at once. -/
def Retrieval.downloaded : Retrieval → Retrieval
  | found body => if body.isDamaged then failed else found body
  | r => r

/-- Fetch an object, with the wordings for one that is absent and for a failure. -/
def fetch (retrieval : Retrieval) (key absent failed : Text) (u : Locator) : Except Stop Resource :=
  match retrieval with
  | .found body => .ok (.ofStream (Path.base key) body)
  | .absent => .error (unavailable .withheld absent u.text)
  | .failed => .error (unavailable .withheld failed u.text)

/-- Open an object of the scheme `s3`, which is downloaded first. -/
def openS3 (o : Origins) (u : Locator) : Except Stop Resource :=
  match object? u with
  | none => .error (needsObject "s3 source needs s3://bucket/key" u)
  | some (bucket, key) =>
    match o.s3 (u.param "region") (u.param "endpoint") with
    | .error f => .error (unavailable f "failed to configure s3 client" u.text)
    | .ok store =>
      fetch (store bucket key).downloaded key "s3 object does not exist"
        "failed to download s3 object" u

/-- Open an object of the scheme `gs`. -/
def openGcs (o : Origins) (u : Locator) : Except Stop Resource :=
  match object? u with
  | none => .error (needsObject "gcs source needs gs://bucket/object" u)
  | some (bucket, key) =>
    match o.gcs (u.param "credentials") (u.param "anonymous" == "true") with
    | .error f => .error (unavailable f "failed to create gcs client" u.text)
    | .ok store =>
      fetch (store bucket key) key "gcs object does not exist" "failed to open gcs object" u

/-- Open the synthetic events of a locator, as a nev image whose columns are yet to be drawn. -/
def openSynth {τ : Type} (d : Draws τ) (u : Locator) : Except Stop Resource :=
  match Synth.Params.ofLocator u with
  | (_, some f) => .error (.fault f)
  | (p, none) =>
    let p := p.normalize
    .ok {
      name := "synth.nev"
      head := Nev.opening p.events.toInt.toNat
      rest := fun _ => Synth.columns d p }

/-! ## Formats -/

/-- A format of sources. -/
inductive Layout
  | nev
  | json
  | csv
  | avro
  | arrow
deriving DecidableEq, Repr

namespace Layout

/-- The format of a lower-case file suffix. -/
def ofSuffix? (suffix : Text) : Option Layout :=
  if suffix == ".nev" || suffix == ".bin" then some nev
  else if suffix == ".json" then some json
  else if suffix == ".csv" then some csv
  else if suffix == ".avro" then some avro
  else if suffix == ".arrow" then some arrow
  else none

/-- Read a source of the format. -/
def read : Layout → Allocator → Stream → Except Stop Batch
  | nev => Nev.decode
  | json => JsonSource.decode
  | csv => Csv.decode
  | avro => Avro.decode
  | arrow => Arrow.decode

/-- Why a source is refused for its first octets, if they tell. The count of an image stands in its
header, so that a count that is not admitted costs no more than the header. -/
def refusal? (a : Allocator) : Algorithm → Layout → Bytes → Option Stop
  | .none, nev, head => Nev.refusal? a head
  | _, _, _ => none

end Layout

/-- Decode an opened source, with any codecs. -/
def decodeBy (codecs : Algorithm → Codec) (a : Allocator) (r : Resource) : Except Stop Batch :=
  let (alg, inner) := Algorithm.ofPath r.name
  match Layout.ofSuffix? (Text.toLower (Path.extension inner)) with
  | none =>
    .error (.fault (.report .malformedSource ("unrecognized source format " ++ Text.quote r.name)))
  | some layout =>
    match layout.refusal? a alg r.head with
    | some e => .error e
    | none =>
      match (Codec.of codecs alg).expand r.stream with
      | .error f => .error (.fault f)
      | .ok s => layout.read a s

/-- Decode an opened source. -/
def decode : Allocator → Resource → Except Stop Batch := decodeBy Algorithm.codec

/-! ## Openers -/

/-- Opens the sources of one scheme. Opening may change the world that it happens in. -/
abbrev Opener (σ : Type) := Locator → σ → Except Stop Resource × σ

/-- The openers by scheme. -/
abbrev Openers (σ : Type) := Text → Option (Opener σ)

/-- An opener that leaves the world as it is. -/
def Opener.quiet {σ : Type} (f : Locator → Except Stop Resource) : Opener σ := fun u w => (f u, w)

/-- The openers there are, with the numbers of a given source for synthetic events. -/
def Origins.openersBy {σ τ : Type} (o : Origins) (d : Draws τ) : Openers σ := fun scheme =>
  if scheme == "file" then some (.quiet (openFile o.files))
  else if scheme == "s3" then some (.quiet (openS3 o))
  else if scheme == "gs" then some (.quiet (openGcs o))
  else if scheme == "synth" then some (.quiet (openSynth d))
  else none

/-- The openers there are. -/
def Origins.openers {σ : Type} (o : Origins) : Openers σ := o.openersBy Generator.draws

/-! ## Loading -/

/-- A scheme that nobody opens. -/
def unsupported (scheme id : Text) : Fault :=
  (Fault.report .sourceUnavailable
    ("unsupported source scheme " ++ Text.quote scheme)).withDetail "source" (.text id)

/-- What is decoded of a source identifier, and the world after it was opened. -/
def loadWith {σ : Type} (decode : Resource → Except Stop Batch) (openers : Openers σ) (id : Text)
    (w : σ) : Except Stop Batch × σ :=
  match Locator.ofIdentifier id with
  | .error f => (.error (.fault f), w)
  | .ok u =>
    match openers u.scheme with
    | none => (.error (.fault (unsupported u.scheme id)), w)
    | some opener =>
      match opener u w with
      | (.error e, w) => (.error e, w)
      | (.ok r, w) => (decode r, w)

/-- The batch of a source identifier, and the world after it was opened. -/
def loadFrom {σ : Type} (openers : Openers σ) (a : Allocator) (id : Text) (w : σ) :
    Except Stop Batch × σ :=
  loadWith (decode a) openers id w

/-- The batch of a source identifier, with the openers there are and any codecs. -/
def loadBy (codecs : Algorithm → Codec) (o : Origins) (a : Allocator) (id : Text) :
    Except Stop Batch :=
  (loadWith (decodeBy codecs a) o.openers id ()).1

/-- The batch of a source identifier. -/
def load : Origins → Allocator → Text → Except Stop Batch := loadBy Algorithm.codec

end DetectorStream.Source
