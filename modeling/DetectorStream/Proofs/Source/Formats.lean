import DetectorStream.Proofs.Batch.Requests
import DetectorStream.Proofs.Source.NevEnding
import DetectorStream.Source.Load

/-!
# One allocator for all formats

Every format is read into a batch through the allocator, so whatever is read was admitted. An image
is refused for its count as soon as its header is there; reading all of it comes to the same. Of a
source that breaks off a batch is read only in a format whose reader does not ask for the end.

* `Nev.decode_of_refusal?`: an image that is refused for its first octets is refused.
* `Nev.decode_answers`, `Nev.decode_of_misfit`: images and declared counts as requests.
* `Csv.decode_answers`, `JsonSource.decode_answers`: rows and documents as requests.
* `Source.Layout.read_admitted`: what is read in any format was admitted.
* **`Source.decode_eq`**: a source is read as its name says; looking at the header first changes
  nothing.
* `Source.decode_admitted`: what is decoded was admitted.
* `Csv.eventsOnto_broken`, `Avro.allEvents_broken`: rows and blocks are not read up to a failure.
* **`Source.Layout.read_of_broken`**, `Source.decode_of_broken`: what is read of a source that breaks
  off.
* `Source.Resource.Holds`, `Source.decode_answers`: a well-formed source of given events is a request
  for them.
-/

namespace DetectorStream

/-- A batch that was admitted: it has not been released, and the allocator admits its size. -/
structure Batch.Admitted (a : Allocator) (b : Batch) : Prop where
  live : ∃ es, b = .live es
  admits : a.Admits b.size

variable {a : Allocator} {s : Stream} {b : Batch} {e : Stop}

/-- What is granted for the number of given events was admitted. -/
theorem Batch.Admitted.of_answers {n : Nat} {r : Except Stop Batch} {es : Array Event}
    (h : a.Answers n (fun b => b = .live es) r) (hsize : es.size = n) (hr : r = .ok b) :
    b.Admitted a := by
  obtain ⟨hfits, hcolumn, rfl⟩ := h.of_ok hr
  refine ⟨⟨es, rfl⟩, Allocator.admits_iff.mpr ?_⟩
  unfold Batch.size Batch.events
  rw [hsize]
  exact ⟨hfits, hcolumn⟩

/-! ## Images -/

namespace Nev

/-- A header is read the same way with more octets after it. -/
theorem header_more {head : Bytes} {count : Nat} {s' : Stream}
    (h : header { bytes := head } = .ok (count, s')) (s : Stream) (rest : Bytes) :
    header { s with bytes := head ++ rest } =
      .ok (count, { s with bytes := s'.bytes ++ rest }) := by
  obtain ⟨-, hdeclared, -, -⟩ := header_layout h
  have hcount : count < 256 ^ 8 := by
    have hlt := LittleEndian.get_lt ((head.drop 4).take 8)
    have hpow : 256 ^ ((head.drop 4).take 8).length ≤ 256 ^ 8 :=
      Nat.pow_le_pow_right (by decide) (List.length_take_le 8 _)
    rw [← hdeclared]
    exact Nat.lt_of_lt_of_le hlt hpow
  obtain ⟨hbytes, -⟩ := header_eq_ok h
  simp only at hbytes
  rw [hbytes, List.append_assoc, List.append_assoc]
  exact header_append s hcount _

/-- **An image that is refused for its first octets is refused**, whatever comes after them. -/
theorem decode_of_refusal? {head : Bytes} (h : refusal? a head = some e) (s : Stream)
    (rest : Bytes) : decode a { s with bytes := head ++ rest } = .error e := by
  unfold refusal? at h
  split at h
  · cases h
  · rename_i count s' hheader
    split at h
    · rename_i hgrant
      cases h
      unfold decode
      simp only [header_more hheader s rest, hgrant]
    · cases h

/-- The declared count is a request for as many events. -/
theorem grant_answers (a : Allocator) (count : Nat) :
    a.Answers count (fun _ => True) (grant a count) := by
  unfold grant
  split_ifs with hlarge
  · refine .refused _ (Allocator.not_fits_of_maxCount_lt ?_) rfl
    unfold eventSize at hlarge
    unfold Allocator.maxCount
    omega
  · unfold eventSize at hlarge
    have hanswer := a.check_answers (Int64.ofNat count)
    rwa [Int64.toInt_ofNat_of_lt (by omega)] at hanswer

/-- **A declared count that does not fit is refused**, whatever the octets after the header are. -/
theorem decode_of_misfit (hmagic : s.bytes.take 4 = magic) (hlong : headerSize ≤ s.bytes.length)
    (hmisfit : ¬ a.Fits (declared s.bytes)) :
    ∃ f, decode a s = .error (.fault f) ∧ f.kind = .allocation := by
  unfold decode
  cases hheader : header s with
  | error e =>
    rcases header_eq_error hheader with ⟨hshort | ⟨-, hshort⟩, -⟩ | ⟨-, hm, -⟩
    · unfold headerSize at hlong
      omega
    · omega
    · exact absurd hmagic hm
  | ok p =>
    obtain ⟨count, s'⟩ := p
    obtain ⟨-, rfl, -, -⟩ := header_layout hheader
    obtain ⟨f, hgrant, hkind⟩ := (grant_answers a _).refused_iff.mpr hmisfit
    simp only [hgrant]
    exact ⟨f, rfl, hkind⟩

/-- **A declared count that fits is not refused.** -/
theorem decode_ne_allocation {f : Fault} (hfits : a.Fits (declared s.bytes))
    (h : decode a s = .error (.fault f)) : f.kind ≠ .allocation := by
  cases decode_eq_error h with
  | cut got _ => exact nofun
  | magic hlong hm => exact nofun
  | extra hm hadmits hmore => exact nofun
  | refused _ hm hlong hgrant =>
    exact absurd hfits ((grant_answers a (declared s.bytes)).of_fault hgrant).1

/-- **An image is a request for its events.** -/
theorem decode_answers (a : Allocator) {es : Array Event} (hsize : es.size < 2 ^ 64)
    (hs : s.bytes = image es.toList) :
    a.Answers es.size (fun b => b = .live es) (decode a s) := by
  have hheader : header s = .ok (es.size, { s with bytes := payload es.toList }) := by
    have happend := header_append s (n := es.toList.length) (by simpa using hsize)
      (payload es.toList)
    rwa [← image_eq, ← hs, Array.length_toList] at happend
  have hbody : body es.size { s with bytes := payload es.toList } = .ok (.live es) :=
    body_payload s es.toList
  have hanswer := grant_answers a es.size
  unfold decode
  simp only [hheader]
  cases hgrant : grant a es.size with
  | error e =>
    rw [hgrant] at hanswer
    cases hanswer with
    | refused f misfit kind => exact .refused f misfit kind
    | crashed fits beyond => exact .crashed fits beyond
  | ok _ =>
    obtain ⟨hfits, hcolumn, -⟩ := hanswer.of_ok hgrant
    simp only [hbody]
    exact .granted _ hfits hcolumn rfl

theorem decode_admitted (h : decode a s = .ok b) : b.Admitted a := by
  obtain ⟨es, rfl, -, hadmits⟩ := decode_eq_ok h
  exact ⟨⟨es, rfl⟩, hadmits⟩

end Nev

/-! ## Rows and documents -/

/-- **Rows are a request for their events.** -/
theorem Csv.decode_answers (a : Allocator) {es : Array Event} (h : Csv.events s = .ok es) :
    a.Answers es.size (fun b => b = .live es) (Csv.decode a s) := by
  unfold Csv.decode
  rw [h]
  exact Batch.ofEvents_answers a es

/-- What a JSON source says: its columns, if it can be read. -/
def JsonSource.told? (s : Stream) : Option Columns :=
  JsonSource.columns? (if s.isDamaged && s.abrupt then [] else s.bytes)

/-- **A document with columns of the same length is a request for its events.** -/
theorem JsonSource.decode_answers (a : Allocator) {c : Columns} (h : JsonSource.told? s = some c)
    (hlength : c.ids.length = c.timestamps.length) :
    a.Answers c.ids.length (fun b => b = .live c.events.toArray) (JsonSource.decode a s) := by
  unfold JsonSource.told? at h
  unfold JsonSource.decode
  rw [h]
  exact Batch.ofColumns_answers a hlength

/-- Columns that make a batch have the same length. -/
theorem Batch.ofColumns_admitted {c : Columns} (h : Batch.ofColumns a c = .ok b) :
    b.Admitted a := by
  by_cases hlength : c.ids.length = c.timestamps.length
  · exact .of_answers (Batch.ofColumns_answers a hlength) (by simp [Columns.events, hlength]) h
  · obtain ⟨f, hf, -⟩ := Batch.ofColumns_of_ne (a := a) hlength
    rw [h] at hf
    cases hf

theorem Batch.ofEvents_admitted {es : Array Event} (h : Batch.ofEvents a es = .ok b) :
    b.Admitted a :=
  .of_answers (Batch.ofEvents_answers a es) rfl h

/-! ## Any format -/

/-! ## Rows and blocks of a stream that breaks off -/

/-- Rows are asked for until the stream ends, so that a failure is met. -/
theorem Csv.eventsOnto_broken {f : Fault} (hf : f.anySignal (· == .endOfInput) = false)
    (size fuel row n : Nat) (lines : List Bytes) (acc es : Array Event) :
    Csv.eventsOnto (.broken f) size fuel row n lines acc ≠ .ok es := by
  have hend : ∀ acc, Csv.atEnd (.broken f) acc ≠ .ok es := fun acc => by
    rw [Csv.atEnd, if_neg (by rw [hf]; decide)]
    exact nofun
  induction fuel generalizing row n lines acc with
  | zero => exact hend acc
  | succ fuel ih =>
    cases lines with
    | nil => exact hend acc
    | cons line more =>
      rw [Csv.eventsOnto]
      split_ifs
      · exact ih _ _ _ _
      · exact hend acc
      · split
        · exact nofun
        · split
          · exact nofun
          · exact ih _ _ _ _

/-- So are blocks. -/
theorem Avro.allEvents_broken (h : Avro.Header) (f : Fault) (fuel : Nat) (bs : Bytes)
    (acc es : Array Event) : Avro.allEvents h (.broken f) fuel bs acc ≠ .ok es := by
  induction fuel generalizing bs acc with
  | zero => exact nofun
  | succ fuel ih =>
    rw [Avro.allEvents]
    split_ifs
    · exact nofun
    · split
      · exact nofun
      · split
        · exact nofun
        · exact ih _ _

namespace Source

variable {r : Resource} {layout : Layout} {alg : Algorithm} {inner : Text} {es : Array Event}

@[simp] theorem Resource.stream_whole (name : Text) (bs : Bytes) :
    ({ name := name, head := bs } : Resource).stream = { bytes := bs } := by
  simp [Resource.stream, Resource.contents]

/-- **What is read in any format was admitted.** -/
theorem Layout.read_admitted (h : layout.read a s = .ok b) : b.Admitted a := by
  cases layout with
  | nev => exact Nev.decode_admitted h
  | json =>
    simp only [Layout.read, JsonSource.decode] at h
    split at h
    · cases h
    · exact Batch.ofColumns_admitted h
  | csv =>
    simp only [Layout.read, Csv.decode] at h
    split at h
    · cases h
    · exact Batch.ofEvents_admitted h
  | avro =>
    simp only [Layout.read, Avro.decode] at h
    split at h
    · cases h
    · split at h
      · cases h
      · exact Batch.ofEvents_admitted h
  | arrow =>
    simp only [Layout.read, Arrow.decode] at h
    split at h
    · cases h
    · split at h
      · cases h
      · exact Batch.ofColumns_admitted h

/-- A source that is refused for its first octets is refused when it is read. -/
theorem read_of_refusal? (h : layout.refusal? a alg r.head = some e) (codecs : Algorithm → Codec) :
    ∃ s, (Codec.of codecs alg).expand r.stream = .ok s ∧ layout.read a s = .error e := by
  unfold Layout.refusal? at h
  split at h
  · exact ⟨r.stream, rfl, Nev.decode_of_refusal? h r.stream (r.rest ())⟩
  · cases h

/-- **A source is read as its name says**, with any codecs: looking at the header first changes
nothing. -/
theorem decodeBy_eq (codecs : Algorithm → Codec) (hpath : Algorithm.ofPath r.name = (alg, inner))
    (hlayout : Layout.ofSuffix? (Text.toLower (Path.extension inner)) = some layout) :
    decodeBy codecs a r = (match (Codec.of codecs alg).expand r.stream with
      | .error f => .error (.fault f)
      | .ok s => layout.read a s) := by
  unfold decodeBy
  simp only [hpath, hlayout]
  cases hrefusal : layout.refusal? a alg r.head with
  | none => rfl
  | some e =>
    obtain ⟨s, hexpand, hread⟩ := read_of_refusal? hrefusal codecs
    simp only [hexpand, hread]

theorem decode_eq (hpath : Algorithm.ofPath r.name = (alg, inner))
    (hlayout : Layout.ofSuffix? (Text.toLower (Path.extension inner)) = some layout) :
    decode a r = (match alg.expand r.stream with
      | .error f => .error (.fault f)
      | .ok s => layout.read a s) := by
  have hcodec : (Codec.of Algorithm.codec alg).expand = alg.expand := by cases alg <;> rfl
  rw [decode, decodeBy_eq Algorithm.codec hpath hlayout, hcodec]

/-- What is decoded was admitted. -/
theorem decode_admitted (h : decode a r = .ok b) : b.Admitted a := by
  unfold decode decodeBy at h
  simp only at h
  split at h
  · cases h
  · split at h
    · cases h
    · split at h
      · cases h
      · exact Layout.read_admitted h

/-! ## Streams that break off -/

/-- The reader of the format does not ask how this stream ends: the reader of images has all columns
then, and that of documents has the whole object. -/
def Layout.StopsShort (s : Stream) : Layout → Prop
  | nev => True
  | json => s.abrupt = false
  | csv | avro | arrow => False

/-- **What is read of a stream that breaks off**: what is read of its octets, if the reader does not
ask for their end, and otherwise nothing. Only rows may be read up to a failure that is taken for the
end. -/
theorem Layout.read_of_broken {f : Fault} (hending : s.ending = .broken f)
    (hrows : layout = .csv → f.anySignal (· == .endOfInput) = false) :
    layout.read a s = .ok b ↔ layout.StopsShort s ∧ layout.read a { bytes := s.bytes } = .ok b := by
  have hdamaged : s.isDamaged = true := by
    unfold Stream.isDamaged
    rw [hending]
    rfl
  cases layout with
  | nev =>
    simp only [Layout.StopsShort, true_and, Layout.read]
    constructor
    · intro h
      obtain ⟨es, rfl, hbytes, hadmits⟩ := Nev.decode_eq_ok h
      exact Nev.decode_image hadmits hbytes
    · intro h
      obtain ⟨es, rfl, hbytes, hadmits⟩ := Nev.decode_eq_ok h
      exact Nev.decode_image hadmits hbytes
  | json =>
    simp only [Layout.StopsShort, Layout.read, JsonSource.decode, hdamaged, Bool.true_and]
    cases habrupt : s.abrupt with
    | false => simp [Stream.isDamaged]
    | true =>
      have hnothing : JsonSource.columns? [] = none := by decide
      simp [hnothing]
  | csv =>
    simp only [Layout.StopsShort, false_and, iff_false, Layout.read, Csv.decode, Csv.events]
    intro h
    split at h
    · cases h
    · rename_i es hes
      rw [hending] at hes
      exact Csv.eventsOnto_broken (hrows rfl) _ _ _ _ _ _ _ hes
  | avro =>
    simp only [Layout.StopsShort, false_and, iff_false, Layout.read, Avro.decode]
    intro h
    split at h
    · cases h
    · split at h
      · cases h
      · rename_i es hes
        rw [hending] at hes
        exact Avro.allEvents_broken _ _ _ _ _ _ hes
  | arrow =>
    simp only [Layout.StopsShort, false_and, iff_false, Layout.read, Arrow.decode, hdamaged, if_true]
    intro h
    cases h

/-- The same of a source whose octets, or those expanded from them, break off. -/
theorem decode_of_broken {f : Fault} (hpath : Algorithm.ofPath r.name = (alg, inner))
    (hlayout : Layout.ofSuffix? (Text.toLower (Path.extension inner)) = some layout)
    (hexpands : alg.expand r.stream = .ok s) (hending : s.ending = .broken f)
    (hrows : layout = .csv → f.anySignal (· == .endOfInput) = false) :
    decode a r = .ok b ↔ layout.StopsShort s ∧ layout.read a { bytes := s.bytes } = .ok b := by
  rw [decode_eq hpath hlayout, hexpands]
  exact Layout.read_of_broken hending hrows

/-! ## Well-formed sources -/

/-- **A well-formed source of the events**, in one of three formats. -/
inductive Layout.Holds : Layout → Stream → Array Event → Prop
  | nev (stream : Stream) (es : Array Event) (size : es.size < 2 ^ 64)
      (bytes : stream.bytes = Nev.image es.toList) : Holds .nev stream es
  | csv (stream : Stream) (es : Array Event) (rows : Csv.events stream = .ok es) :
      Holds .csv stream es
  | json (stream : Stream) (c : Columns) (told : JsonSource.told? stream = some c)
      (length : c.ids.length = c.timestamps.length) : Holds .json stream c.events.toArray

/-- A well-formed source is a request for its events. -/
theorem Layout.read_answers (a : Allocator) (h : layout.Holds stream es) :
    a.Answers es.size (fun b => b = .live es) (layout.read a stream) := by
  cases h with
  | nev _ _ size bytes => exact Nev.decode_answers a size bytes
  | csv _ _ rows => exact Csv.decode_answers a rows
  | json _ c told length =>
    have hanswer := JsonSource.decode_answers a told length
    rwa [show c.ids.length = c.events.toArray.size by simp [Columns.events, length]] at hanswer

/-- An opened source that holds the events: its name says how they are compressed and in which
format they are. -/
inductive Resource.Holds (r : Resource) (es : Array Event) : Prop
  | intro (alg : Algorithm) (inner : Text) (layout : Layout) (stream : Stream)
      (path : Algorithm.ofPath r.name = (alg, inner))
      (suffix : Layout.ofSuffix? (Text.toLower (Path.extension inner)) = some layout)
      (expands : alg.expand r.stream = .ok stream) (holds : layout.Holds stream es)

theorem decode_answers (a : Allocator) (h : r.Holds es) :
    a.Answers es.size (fun b => b = .live es) (decode a r) := by
  obtain ⟨alg, inner, layout, stream, path, suffix, expands, holds⟩ := h
  rw [decode_eq path suffix, expands]
  exact Layout.read_answers a holds

end Source

end DetectorStream
