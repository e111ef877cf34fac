import DetectorStream.Json.Reader
import DetectorStream.Source.Nev

/-!
# JSON sources

One object with the array `detector_id` and the array `time_of_flight`. Names are read in any case,
any other member is refused, and whatever follows the object is not read.

* `JsonSource.columns?`: the columns of a document.
* `JsonSource.decode`: the batch of a source.
-/

namespace DetectorStream.JsonSource

/-- The two members of a source. -/
def fields : List (Json.Field Columns) := [
  ⟨"detector_id", fun c t =>
    (Json.array (fun t => (Json.integer 64 false t).map fun (n, t) => (n.map Int64.ofInt, t)) 0 c.ids t).map
      fun (ids, t) => ({ c with ids := ids }, t)⟩,
  ⟨"time_of_flight", fun c t =>
    (Json.array (fun t => (Json.integer 32 false t).map fun (n, t) => (n.map Int32.ofInt, t)) 0
      c.timestamps t).map fun (ts, t) => ({ c with timestamps := ts }, t)⟩]

/-- The columns of the first document of a text. One comma or colon may come before it. -/
def columns? (bytes : Bytes) : Option Columns :=
  let start := match Json.skipBlank bytes with
    | 0x2C :: t => t
    | 0x3A :: t => t
    | t => t
  (Json.object fields true .empty start).map Prod.fst

/-- The batch of a JSON source. Octets that are delivered along with a failure are not looked at. -/
def decode (a : Allocator) (s : Stream) : Except Stop Batch :=
  match columns? (if s.isDamaged && s.abrupt then [] else s.bytes) with
  | none => .error (Nev.malformed "json" .withheld)
  | some c => Batch.ofColumns a c

end DetectorStream.JsonSource
