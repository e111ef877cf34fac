import DetectorStream.Proofs.Batch.Requests
import DetectorStream.Proofs.Octets.Reading
import DetectorStream.Proofs.Wire.RoundTrip
import DetectorStream.Source.Nev

/-!
# One image for each batch

A nev image is read in blocks: the two columns one after the other, each up to a fixed number of
words at a time. The blocks leave no trace in what is read, so decoding undoes writing, and a stream
that is decoded was the image of its batch, octet by octet.

* `columnBy_append`, `columnBy_eq_ok`: a column in blocks is a run of words.
* `grant_eq_ok_iff`: the declared count is admitted as a request for a batch is.
* **`decode_image`**: the image of a batch is decoded to the batch.
* **`decode_eq_ok`**: what is decoded is the image of an admitted batch.
* `Damaged`: the ways in which octets fail to be an image.
* **`accepts_exactly_images`**: the codec is a bijection between batches and accepted octets.
-/

namespace DetectorStream

namespace Nev

open LittleEndian (put get int64_toNat int32_toNat toNat_int64 toNat_int32)

variable {a : Allocator} {s s' : Stream} {b : Batch} {ws : List Nat} {block width count : Nat}
  {hb : 0 < block}

/-! ## Columns in blocks -/

/-- Words that the stream begins with are read as a column, whatever the size of the blocks. -/
theorem columnBy_append (hb : 0 < block) (s : Stream) (hfit : ∀ w ∈ ws, w < 256 ^ width)
    (rest : Bytes) :
    columnBy block hb width ws.length { s with bytes := ws.flatMap (put width) ++ rest } =
      .ok (ws, { s with bytes := rest }) := by
  -- by the number of words: a block takes at least one of them
  induction hn : ws.length using Nat.strong_induction_on generalizing ws with
  | _ n ih =>
    subst hn
    rw [columnBy]
    split
    · rename_i h0
      rw [List.length_eq_zero_iff.mp h0]
      rfl
    · rename_i h0
      have hsplit : ws.flatMap (put width) ++ rest =
          (ws.take block).flatMap (put width) ++ ((ws.drop block).flatMap (put width) ++ rest) := by
        rw [← List.append_assoc, ← List.flatMap_append, List.take_append_drop]
      have hlength : (ws.take block).length = min block ws.length := List.length_take
      have hoctets :
          min block ws.length * width = ((ws.take block).flatMap (put width)).length := by
        rw [FlatBuffer.length_flatMap_put, hlength]
      have hfit' : ∀ w ∈ ws.take block, w < 256 ^ width :=
        fun w hw => hfit w (List.mem_of_mem_take hw)
      have hblock := LittleEndian.words_flatMap hfit'
      have hrest := ih (ws.drop block).length (by rw [List.length_drop]; omega)
        (fun w hw => hfit w (List.mem_of_mem_drop hw)) rfl
      rw [List.length_drop] at hrest
      rw [hlength] at hblock
      simp only [hsplit, hoctets, Stream.readFull_append, hrest, hblock, List.take_append_drop]

/-- What is read as a column are words that the stream begins with. -/
theorem columnBy_eq_ok (h : columnBy block hb width count s = .ok (ws, s')) :
    ws.length = count ∧ (∀ w ∈ ws, w < 256 ^ width) ∧
      s.bytes = ws.flatMap (put width) ++ s'.bytes ∧ s' = { s with bytes := s'.bytes } := by
  fun_induction columnBy generalizing ws s' with
  | case1 s =>
    cases h
    exact ⟨rfl, by simp, rfl, rfl⟩
  | case2 count s h0 f hread => cases h
  | case3 count s h0 bs s₁ hread f hrec ih => cases h
  | case4 count s h0 bs s₁ hread rest s₂ hrec ih =>
    cases h
    obtain ⟨hlength, hbytes, hstream⟩ := Stream.readFull_eq_ok hread
    obtain ⟨hcount, hfit, hrest, hstream'⟩ := ih hrec
    obtain ⟨hcount', hfit', hflat⟩ := LittleEndian.words_eq hlength
    refine ⟨?_, ?_, ?_, ?_⟩
    · rw [List.length_append, hcount', hcount]
      omega
    · intro w hw
      rcases List.mem_append.mp hw with hw | hw
      · exact hfit' w hw
      · exact hfit w hw
    · rw [List.flatMap_append, hflat, List.append_assoc, ← hrest, hbytes]
    · rw [hstream', hstream]

/-! ## Events and words -/

/-- The words of the detector ids. -/
def idWords (es : List Event) : List Nat := es.map fun e => e.detector.toUInt64.toNat

/-- The words of the timestamps. -/
def timestampWords (es : List Event) : List Nat := es.map fun e => e.timestamp.toUInt32.toNat

theorem flatMap_idBytes (es : List Event) : es.flatMap idBytes = (idWords es).flatMap (put 8) := by
  rw [idWords, List.flatMap_map]
  rfl

theorem flatMap_timestampBytes (es : List Event) :
    es.flatMap timestampBytes = (timestampWords es).flatMap (put 4) := by
  rw [timestampWords, List.flatMap_map]
  rfl

theorem idWords_lt (es : List Event) : ∀ w ∈ idWords es, w < 256 ^ 8 := by
  intro w hw
  obtain ⟨e, -, rfl⟩ := List.mem_map.mp hw
  exact e.detector.toUInt64.toNat_lt

theorem timestampWords_lt (es : List Event) : ∀ w ∈ timestampWords es, w < 256 ^ 4 := by
  intro w hw
  obtain ⟨e, -, rfl⟩ := List.mem_map.mp hw
  exact e.timestamp.toUInt32.toNat_lt

theorem length_idWords (es : List Event) : (idWords es).length = es.length := List.length_map _

theorem length_timestampWords (es : List Event) : (timestampWords es).length = es.length :=
  List.length_map _

/-- The words of events are read as their columns. -/
theorem columns_words (es : List Event) :
    (⟨(idWords es).map LittleEndian.int64, (timestampWords es).map LittleEndian.int32⟩ : Columns) =
      Columns.ofEvents es := by
  simp [idWords, timestampWords, Columns.ofEvents, int64_toNat, int32_toNat]

/-- Words that are read as columns of the same length are the words of their events. -/
theorem exists_events {ids timestamps : List Nat} (hlength : ids.length = timestamps.length)
    (hids : ∀ w ∈ ids, w < 256 ^ 8) (htimestamps : ∀ w ∈ timestamps, w < 256 ^ 4) :
    ∃ es : List Event, es.length = ids.length ∧ idWords es = ids ∧ timestampWords es = timestamps ∧
      (⟨ids.map LittleEndian.int64, timestamps.map LittleEndian.int32⟩ : Columns).events = es := by
  let c : Columns := ⟨ids.map LittleEndian.int64, timestamps.map LittleEndian.int32⟩
  have hcolumns : Columns.ofEvents c.events = c :=
    Columns.ofEvents_events (by simp [c, hlength])
  have hdetectors : c.events.map Event.detector = ids.map LittleEndian.int64 :=
    congrArg Columns.ids hcolumns
  have htimes : c.events.map Event.timestamp = timestamps.map LittleEndian.int32 :=
    congrArg Columns.timestamps hcolumns
  refine ⟨c.events, ?_, ?_, ?_, rfl⟩
  · have hmap := congrArg List.length hdetectors
    simpa using hmap
  · have hmap := congrArg (List.map fun i : Int64 => i.toUInt64.toNat) hdetectors
    rw [List.map_map, List.map_map] at hmap
    exact hmap.trans
      ((List.map_congr_left fun w hw => toNat_int64 (hids w hw)).trans (List.map_id' _))
  · have hmap := congrArg (List.map fun t : Int32 => t.toUInt32.toNat) htimes
    rw [List.map_map, List.map_map] at hmap
    exact hmap.trans
      ((List.map_congr_left fun w hw => toNat_int32 (htimestamps w hw)).trans (List.map_id' _))

/-! ## The parts of an image -/

theorem length_magic : magic.length = 4 := rfl

/-- The header of an image is read back. -/
theorem header_append (s : Stream) {n : Nat} (hn : n < 256 ^ 8) (rest : Bytes) :
    header { s with bytes := magic ++ (put 8 n ++ rest) } = .ok (n, { s with bytes := rest }) := by
  have hmagic := Stream.readFull_append s magic (put 8 n ++ rest)
  have hcount := Stream.readFull_append s (put 8 n) rest
  rw [length_magic] at hmagic
  rw [LittleEndian.length_put] at hcount
  unfold header
  simp only [hmagic, hcount, ne_eq, not_true_eq_false, if_false]
  rw [LittleEndian.get_put]
  exact congrArg (fun m => Except.ok (m, _)) (Nat.mod_eq_of_lt hn)

theorem header_eq_ok (h : header s = .ok (count, s')) :
    s.bytes = magic ++ (put 8 count ++ s'.bytes) ∧ s' = { s with bytes := s'.bytes } := by
  unfold header at h
  split at h
  · cases h
  · rename_i m s₁ hmagic
    split at h
    · cases h
    · rename_i hm
      split at h
      · cases h
      · rename_i c s₂ hcount
        cases h
        obtain ⟨-, hbytes, hstream⟩ := Stream.readFull_eq_ok hmagic
        obtain ⟨hlength, hbytes', hstream'⟩ := Stream.readFull_eq_ok hcount
        have hput : put 8 (get c) = c := by
          have hput := LittleEndian.put_get c
          rwa [hlength] at hput
        rw [hput, ← hbytes', ← not_not.mp hm, hstream', hstream]
        exact ⟨hbytes, rfl⟩

/-- The declared count is granted exactly if the allocator admits it. -/
theorem grant_eq_ok_iff : grant a count = .ok () ↔ a.Admits count := by
  unfold grant
  split
  · rename_i hlarge
    simp only [reduceCtorEq, false_iff]
    intro hadmits
    have hcolumn := hadmits.1
    unfold Allocator.maxColumn at hcolumn
    unfold eventSize at hlarge
    omega
  · rename_i hsmall
    unfold eventSize at hsmall
    exact Allocator.check_eq_ok_iff (by omega)

/-- The octets of the two columns. -/
def payload (es : List Event) : Bytes := es.flatMap idBytes ++ es.flatMap timestampBytes

theorem image_eq (es : List Event) : image es = magic ++ (put 8 es.length ++ payload es) := by
  simp only [image, payload, List.append_assoc]

theorem length_payload (es : List Event) : (payload es).length = 12 * es.length := by
  rw [payload, List.length_append, flatMap_idBytes, flatMap_timestampBytes,
    FlatBuffer.length_flatMap_put, FlatBuffer.length_flatMap_put, length_idWords,
    length_timestampWords]
  omega

/-- The columns of events are read back. -/
theorem body_payload (s : Stream) (es : List Event) :
    body es.length { s with bytes := payload es } = .ok (.live es.toArray) := by
  have hids : column 8 es.length { s with bytes := payload es } =
      .ok (idWords es, { s with bytes := es.flatMap timestampBytes }) := by
    have h := columnBy_append (show 0 < blockValues by decide) s (idWords_lt es)
      ((timestampWords es).flatMap (put 4))
    rwa [length_idWords, ← flatMap_idBytes, ← flatMap_timestampBytes] at h
  have htimestamps : column 4 es.length { s with bytes := es.flatMap timestampBytes } =
      .ok (timestampWords es, { s with bytes := [] }) := by
    have h := columnBy_append (show 0 < blockValues by decide) s (timestampWords_lt es) []
    rwa [length_timestampWords, List.append_nil, ← flatMap_timestampBytes] at h
  unfold body readColumns
  simp only [hids, htimestamps, columns_words, Columns.events_ofEvents, List.isEmpty_nil, if_true]

/-- What is read as a body is the payload of events, as many as were declared. -/
theorem body_eq_ok (h : body count s = .ok b) :
    ∃ es : List Event, b = .live es.toArray ∧ es.length = count ∧ s.bytes = payload es := by
  unfold body readColumns at h
  cases hids : column 8 count s with
  | error f =>
    rw [hids] at h
    cases h
  | ok p =>
    obtain ⟨ids, s₁⟩ := p
    simp only [hids] at h
    cases htimestamps : column 4 count s₁ with
    | error f =>
      rw [htimestamps] at h
      cases h
    | ok p =>
      obtain ⟨timestamps, s₂⟩ := p
      simp only [htimestamps] at h
      split at h
      · rename_i hempty
        cases h
        obtain ⟨hcount, hfit, hbytes, -⟩ := columnBy_eq_ok hids
        obtain ⟨hcount', hfit', hbytes', -⟩ := columnBy_eq_ok htimestamps
        obtain ⟨es, hlength, hidWords, htimestampWords, hevents⟩ :=
          exists_events (hcount.trans hcount'.symm) hfit hfit'
        refine ⟨es, by rw [hevents], hlength.trans hcount, ?_⟩
        rw [hbytes, hbytes', List.isEmpty_iff.mp hempty, List.append_nil, payload, flatMap_idBytes,
          flatMap_timestampBytes, hidWords, htimestampWords]
      · cases h

/-! ## Images -/

/-- **The image of a batch that the allocator admits is decoded to the batch.** -/
theorem decode_image {es : Array Event} (h : a.Admits es.size) (hs : s.bytes = image es.toList) :
    decode a s = .ok (.live es) := by
  have hlt := h.lt_word
  have hheader : header s = .ok (es.toList.length, { s with bytes := payload es.toList }) := by
    have happend := header_append s (n := es.toList.length) (by rw [Array.length_toList]; omega)
      (payload es.toList)
    rwa [← image_eq, ← hs] at happend
  have hgrant : grant a es.toList.length = .ok () := grant_eq_ok_iff.mpr h
  unfold decode
  simp only [hheader, hgrant, body_payload, Array.toArray_toList]

/-- **What is decoded is the image of a batch that the allocator admits.** -/
theorem decode_eq_ok (h : decode a s = .ok b) :
    ∃ es : Array Event, b = .live es ∧ s.bytes = image es.toList ∧ a.Admits es.size := by
  unfold decode at h
  split at h
  · cases h
  · rename_i count s₁ hheader
    split at h
    · cases h
    · rename_i hgrant
      obtain ⟨hbytes, -⟩ := header_eq_ok hheader
      obtain ⟨es, rfl, rfl, hpayload⟩ := body_eq_ok h
      refine ⟨es.toArray, rfl, ?_, grant_eq_ok_iff.mp hgrant⟩
      rw [hbytes, hpayload, ← image_eq]

theorem write_of_decode (h : decode a s = .ok b) : write b = .ok s.bytes := by
  obtain ⟨es, rfl, hs, -⟩ := decode_eq_ok h
  rw [hs]
  rfl

/-! ## Octets that are no image -/

/-- The size of the magic and the count. -/
def headerSize : Nat := 12

/-- The count that octets declare. -/
def declared (bs : Bytes) : Nat := get ((bs.drop 4).take 8)

/-- **Octets that are no image**: they begin with something else, end inside the header or one of
the columns, or go on after the columns. -/
inductive Damaged (bs : Bytes) : Prop
  | magic (h : bs.take 4 ≠ Nev.magic)
  | header (h : bs.length < headerSize)
  | ids (h : bs.length < headerSize + 8 * declared bs)
  | timestamps (h : bs.length < headerSize + 12 * declared bs)
  | extra (h : headerSize + 12 * declared bs < bs.length)

theorem length_image (es : List Event) : (image es).length = headerSize + 12 * es.length := by
  rw [image_eq, List.length_append, List.length_append, LittleEndian.length_put, length_payload,
    length_magic, headerSize]
  omega

theorem declared_image {es : List Event} (h : es.length < 2 ^ 64) :
    declared (image es) = es.length := by
  have hdrop : (image es).drop 4 = put 8 es.length ++ payload es := by
    rw [image_eq]
    rfl
  have htake : (put 8 es.length ++ payload es).take 8 = put 8 es.length :=
    List.take_left' (LittleEndian.length_put 8 _)
  rw [declared, hdrop, htake, LittleEndian.get_put]
  exact Nat.mod_eq_of_lt h

theorem not_damaged_image {es : List Event} (h : es.length < 2 ^ 64) : ¬ Damaged (image es) := by
  have hdeclared := declared_image h
  have hlength := length_image es
  rintro (hmagic | hheader | hids | htimestamps | hextra)
  · refine hmagic ?_
    rw [image_eq]
    rfl
  all_goals omega

/-- Octets that are no image are rejected. -/
theorem decode_damaged (h : Damaged s.bytes) : ∃ e, decode a s = .error e := by
  cases hd : decode a s with
  | error e => exact ⟨e, rfl⟩
  | ok b =>
    obtain ⟨es, -, hs, hadmits⟩ := decode_eq_ok hd
    have hlt := hadmits.lt_word
    rw [hs] at h
    exact absurd h (not_damaged_image (by rw [Array.length_toList]; omega))

/-- **The codec is a bijection between batches and accepted octets.** A batch that has not been
released has an image, which every allocator that admits the batch decodes to it, however the stream
ends after it; octets that are decoded are the image of what they are decoded to. So octets that are
no image are rejected, and no two of those accepted give the same batch. -/
theorem accepts_exactly_images (a : Allocator) :
    (∀ es : Array Event, ∃ bs, write (.live es) = .ok bs ∧
      (a.Admits es.size → ∀ s : Stream, s.bytes = bs → decode a s = .ok (.live es))) ∧
    (∀ s b, decode a s = .ok b → write b = .ok s.bytes) ∧
    (∀ s, Damaged s.bytes → ∃ e, decode a s = .error e) ∧
    (∀ a' s s' b, decode a s = .ok b → decode a' s' = .ok b → s.bytes = s'.bytes) := by
  refine ⟨fun es => ⟨image es.toList, rfl, fun h s hs => decode_image h hs⟩,
    fun _ _ => write_of_decode, fun _ => decode_damaged, ?_⟩
  intro a' s s' b h h'
  exact Except.ok.inj ((write_of_decode h).symm.trans (write_of_decode h'))

/-- Two events of extreme values under a limit that just admits them; one octet more is rejected. -/
theorem accepts_exactly_images_two :
    let es : Array Event := #[⟨-1, Int32.minValue⟩, ⟨Int64.minValue, 7⟩]
    (⟨24⟩ : Allocator).Admits 2 ∧ ∃ bs, write (.live es) = .ok bs ∧
      decode ⟨24⟩ ⟨bs, .clean, false⟩ = .ok (.live es) ∧
      ∃ e, decode ⟨24⟩ ⟨bs ++ [0], .clean, false⟩ = .error e := by
  intro es
  have hadmits : (⟨24⟩ : Allocator).Admits 2 := by
    unfold Allocator.Admits
    decide
  obtain ⟨hwrite, -, hreject, -⟩ := accepts_exactly_images ⟨24⟩
  obtain ⟨bs, hbs, hdecode⟩ := hwrite es
  refine ⟨hadmits, bs, hbs, hdecode hadmits _ rfl, hreject _ (.extra ?_)⟩
  cases hbs
  decide

end Nev

end DetectorStream
