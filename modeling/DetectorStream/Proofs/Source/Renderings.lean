import DetectorStream.Proofs.Json.Reading
import DetectorStream.Proofs.Source.Formats
import DetectorStream.Proofs.Source.Mapped
import DetectorStream.Proofs.Source.Rows

/-!
# One list in three formats

A list of events can be stored as an image, as rows or as a document. Loading any of them gives the
list, whatever the numbers are and however many there are, as long as a batch can hold them.

* `JsonSource.rendering`: the document of a list of events.
* `JsonSource.told_rendering`: what that document says.
* `Source.Stored`: a file of given octets whose name has a given suffix.
* **`Source.load_renderings`**: loading the image, the rows and the document.
-/

namespace DetectorStream

variable {es : List Event}

/-! ## Documents -/

namespace JsonSource

/-- The members of a document with the columns `c`. -/
def members (c : Columns) : List (Text × Text) := [
  ("detector_id", Json.numbers (c.ids.map Int64.toInt)),
  ("time_of_flight", Json.numbers (c.timestamps.map Int32.toInt))]

/-- The document with the columns `c`: an object with an array for each column. -/
def rendering (c : Columns) : Text := Json.record (members c)

/-- The members of a document fill in the columns. -/
theorem fills (c : Columns) : Json.Fills fields (members c) .empty c := by
  refine .cons ⟨c.ids, []⟩ (by decide) rfl ?ids <|
    .cons c (by decide) rfl ?timestamps <| .nil _
  all_goals intro rest _
  case ids =>
    simp only [Json.array_numbers (fun i _ => Json.fits_word i) fun i _ => Int64.ofInt_toInt i,
      Option.map_some, Columns.empty]
  case timestamps =>
    simp only [Json.array_numbers (fun i _ => Json.fits_half i) fun i _ => Int32.ofInt_toInt i,
      Option.map_some]

/-- **A document says what its columns are.** -/
theorem told_rendering (c : Columns) : told? { bytes := rendering c } = some c := by
  have hobject : Json.object fields true .empty (rendering c ++ []) = some (c, []) :=
    Json.object_record (fills c) []
  rw [List.append_nil] at hobject
  have hbrace : ∃ t, rendering c = 0x7B :: t := ⟨_, rfl⟩
  obtain ⟨t, ht⟩ := hbrace
  show columns? (rendering c) = some c
  unfold columns?
  rw [ht] at hobject ⊢
  rw [Json.skipBlank_cons (show Json.isBlank 0x7B = false by decide)]
  show (Json.object fields true .empty (0x7B :: t)).map Prod.fst = some c
  rw [hobject]
  rfl

example : rendering ⟨[7, -1], [10, 20]⟩ =
    "\x7b\"detector_id\":[7,-1],\"time_of_flight\":[10,20]\x7d" := by decide +kernel

end JsonSource

/-! ## Files -/

namespace Source

variable {o : Origins} {path suffix : Text} {octets : Bytes} {a : Allocator} {layout : Layout}

/-- **A file of the given octets, whose name has the given suffix** in any case. -/
structure Stored (o : Origins) (path suffix : Text) (octets : Bytes) : Prop where
  named : path ≠ []
  bare : Text.includes "://" path = false
  suffix : Text.toLower (Path.extension (Path.base path)) = suffix
  contents : o.files.node path = .ok (.file octets)

/-- **A file that is named without a scheme is opened**, and its octets are decoded by the last name of
the path. -/
theorem loadWith_bare (decode : Resource → Except Stop Batch) (hnamed : path ≠ [])
    (hbare : Text.includes "://" path = false) (hnode : o.files.node path = .ok (.file octets)) :
    (loadWith decode o.openers path ()).1 = decode { name := Path.base path, head := octets } := by
  let u : Locator := { scheme := "file", path := path }
  have hlocator : Locator.ofIdentifier path = .ok u := by
    have hsome : path.isEmpty = false := by simpa using hnamed
    unfold Locator.ofIdentifier
    rw [hsome, hbare]
    rfl
  have hopen : openFile o.files u = .ok { name := Path.base path, head := octets } := by
    unfold openFile
    simp only [u, List.nil_append, hnode, fileStream_eq, Resource.ofStream]
  have hopener : o.openers (σ := Unit) u.scheme = some (.quiet (openFile o.files)) := rfl
  unfold loadWith
  simp only [hlocator, hopener, Opener.quiet, hopen]

/-- A file is loaded as its suffix says. -/
theorem load_stored (h : Stored o path suffix octets)
    (hplain : Algorithm.ofSuffix? suffix = none) (hlayout : Layout.ofSuffix? suffix = some layout)
    (hholds : layout.Holds { bytes := octets } es.toArray) (hadmits : a.Admits es.length) :
    load o a path = .ok (.live es.toArray) := by
  have hpath : Algorithm.ofPath (Path.base path) = (Algorithm.none, Path.base path) := by
    unfold Algorithm.ofPath
    simp only [h.suffix, hplain]
  have hanswer := decode_answers a (r := { name := Path.base path, head := octets })
    (.intro .none _ layout { bytes := octets } hpath (h.suffix ▸ hlayout)
      (by simp [Algorithm.expand]) hholds)
  obtain ⟨b, hdecode, rfl⟩ := hanswer.of_admits hadmits
  exact (loadWith_bare (decode a) h.named h.bare h.contents).trans hdecode

/-- **One list of events in three formats**: its image can be written, and loading the image, any
rendering of rows and the document all succeed with the list, if a batch can hold it. -/
theorem load_renderings (o : Origins) (es : List Event) (hfree : a.limit.toInt ≤ 0)
    (hsize : (es.length : Int) ≤ Allocator.maxColumn) :
    (∃ image, Nev.write (.live es.toArray) = .ok image ∧
      ∀ path, Stored o path ".nev" image → load o a path = .ok (.live es.toArray)) ∧
    (∀ headed rows, Csv.Renders headed es rows →
      ∀ path, Stored o path ".csv" rows → load o a path = .ok (.live es.toArray)) ∧
    ∀ path, Stored o path ".json" (JsonSource.rendering (.ofEvents es)) →
      load o a path = .ok (.live es.toArray) := by
  have hadmits : a.Admits es.length := ⟨hsize, fun hpos => by omega⟩
  have hword : es.toArray.size < 2 ^ 64 := by
    unfold Allocator.maxColumn at hsize
    simp only [List.size_toArray]
    omega
  have hcolumns : (Columns.ofEvents es).ids.length = (Columns.ofEvents es).timestamps.length := by
    simp [Columns.ofEvents]
  have hdocument := Layout.Holds.json _ _ (JsonSource.told_rendering (.ofEvents es)) hcolumns
  rw [Columns.events_ofEvents] at hdocument
  refine ⟨⟨_, rfl, fun path h => ?_⟩, fun headed rows hrows path h => ?_, fun path h => ?_⟩
  · exact load_stored h (by decide +kernel) (by decide +kernel) (.nev _ _ hword rfl) hadmits
  · exact load_stored h (by decide +kernel) (by decide +kernel)
      (.csv _ _ (Csv.events_of_renders hrows)) hadmits
  · exact load_stored h (by decide +kernel) (by decide +kernel) hdocument hadmits

/-- Two events with the ends of all ranges of numbers. -/
def extremes : List Event :=
  [⟨Int64.minValue, Int32.minValue⟩, ⟨Int64.maxValue, Int32.maxValue⟩]

/-- Their rows. -/
def extremeRows : Text :=
  "-9223372036854775808,-2147483648\n9223372036854775807,2147483647\n"

/-- Their rows below a heading, without the last line feed. -/
def headedRows : Text :=
  "detector_id,timestamp\n-9223372036854775808,-2147483648\n9223372036854775807,2147483647"

/-- Files with these events. -/
def extremeFiles : Origins where
  files := .ofList [("run.nev", Nev.image extremes), ("run.csv", extremeRows),
    ("headed.csv", headedRows), ("run.json", JsonSource.rendering (.ofEvents extremes))]

/-- The ends of all ranges are loaded from all of these files. -/
theorem load_renderings_extremes :
    (["run.nev", "headed.csv", "run.csv", "run.json"] : List Text).map
      (load extremeFiles .unlimited) = List.replicate 4 (.ok (.live extremes.toArray)) := by
  obtain ⟨⟨image, himage, hnev⟩, hcsv, hjson⟩ :=
    load_renderings (a := .unlimited) extremeFiles extremes (by decide) (by decide)
  cases himage
  have hheaded := hcsv true headedRows (Or.inr (by decide +kernel)) "headed.csv"
    ⟨by decide, by decide, by decide +kernel, by decide +kernel⟩
  have hplain := hcsv false extremeRows (Or.inl (by decide +kernel)) "run.csv"
    ⟨by decide, by decide, by decide +kernel, by decide +kernel⟩
  have hnev := hnev "run.nev" ⟨by decide, by decide, by decide +kernel, by decide +kernel⟩
  have hjson := hjson "run.json" ⟨by decide, by decide, by decide +kernel, by decide +kernel⟩
  simp only [List.map_cons, List.map_nil, hnev, hheaded, hplain, hjson]
  rfl

end Source

end DetectorStream
