import DetectorStream.Path
import DetectorStream.Text.Case

/-!
# Compression by file name

The suffix of a file name says how the file is compressed, and what is left after taking the suffix
off says what it holds.

* `Algorithm.suffixes`: the suffixes there are.
* `Algorithm.ofPath`: the algorithm of a name and the name without the suffix.
* `Algorithm.extension`: the suffix written for an algorithm.
-/

namespace DetectorStream

/-- How a file is compressed. -/
inductive Algorithm
  | none
  | gzip
  | zstd
  | lz4
  | s2
  | snappy
deriving DecidableEq, Repr

namespace Algorithm

/-- The name of an algorithm. -/
def name : Algorithm → String
  | none => "none"
  | gzip => "gzip"
  | zstd => "zstd"
  | lz4 => "lz4"
  | s2 => "s2"
  | snappy => "snappy"

/-- The algorithm with the given name; no name is no compression. -/
def ofName? (t : Text) : Option Algorithm :=
  if t.isEmpty then some none
  else [none, gzip, zstd, lz4, s2, snappy].find? fun a => (a.name : Text) == t

/-- The suffix written for an algorithm. -/
def extension : Algorithm → Text
  | none => ""
  | gzip => ".gz"
  | zstd => ".zst"
  | lz4 => ".lz4"
  | s2 => ".s2"
  | snappy => ".snappy"

/-- The suffixes of the algorithms, in lower case. -/
def suffixes : List (Text × Algorithm) :=
  [(".gz", gzip), (".zst", zstd), (".lz4", lz4), (".sz", s2), (".s2", s2), (".snappy", snappy)]

/-- The algorithm of a lower-case suffix. -/
def ofSuffix? (suffix : Text) : Option Algorithm := suffixes.lookup suffix

/-- The algorithm of a file name, and the name without its suffix. -/
def ofPath (path : Text) : Algorithm × Text :=
  let suffix := Text.toLower (Path.extension path)
  match ofSuffix? suffix with
  | some a => (a, path.take (path.length - suffix.length))
  | Option.none => (none, path)

end Algorithm

end DetectorStream
