import DetectorStream.Compression.Algorithm
import DetectorStream.Compression.Framed
import DetectorStream.Compression.Gzip
import DetectorStream.Compression.Lz4
import DetectorStream.Compression.Zstd.Frame

/-!
# Compressing and expanding

* `Algorithm.expand`: the stream of a compressed file, which may itself break off.
* `Algorithm.pack`: a file from which the text can be expanded again.
* `Algorithm.named`: the algorithm of a name, or the complaint about it.
* `Codec`: a way to pack and to expand; `Codec.of`: that of an algorithm, with any codecs for those that
  compress.
-/

namespace DetectorStream

namespace Algorithm

/-- The most octets of text in a chunk of a framed stream. -/
def chunkMost : Nat := 4 * 0x100000

/-- The stream of a file. Only a gzip file is looked at before the stream is read. Where a file may end,
the stream ends like the file; a file that breaks off anywhere else is damaged. -/
def expand : Algorithm → Stream → Except Fault Stream
  | none, s => .ok s
  | gzip, s => Gzip.expand s
  | zstd, s => .ok (Zstd.expand s)
  | lz4, s => .ok (Lz4.expand s)
  | s2, s => .ok (Framed.expand chunkMost s)
  | snappy, s => .ok (Framed.expand Framed.plainMost s)

/-- A file that expands to the text. -/
def pack : Algorithm → Bytes → Bytes
  | none, text => text
  | gzip, text => Gzip.write text
  | zstd, text => Zstd.write text
  | lz4, text => Lz4.write text
  | s2, text => Framed.write "S2sTwO" text
  | snappy, text => Framed.write "sNaPpY" text

/-- The algorithm of a name. -/
def named (t : Text) : Except Fault Algorithm :=
  match ofName? t with
  | some a => .ok a
  | Option.none => .error (.report .configuration ("unsupported compression algorithm: " ++ t))

end Algorithm

/-- A way to pack a text into a file, and to expand the stream of a file to that of its text. -/
structure Codec where
  pack : Bytes → Bytes
  expand : Stream → Except Fault Stream

namespace Codec

/-- The text as it is. -/
def plain : Codec where
  pack text := text
  expand s := .ok s

/-- The codec of an algorithm, with these for the algorithms that compress. -/
def of (codecs : Algorithm → Codec) : Algorithm → Codec
  | .none => plain
  | .gzip => codecs .gzip
  | .zstd => codecs .zstd
  | .lz4 => codecs .lz4
  | .s2 => codecs .s2
  | .snappy => codecs .snappy

end Codec

/-- The codec there is for an algorithm. -/
def Algorithm.codec (alg : Algorithm) : Codec := ⟨alg.pack, alg.expand⟩

end DetectorStream
