import DetectorStream.Proofs.Source.NevImage

/-!
# Where a reader of images fails

A nev image is read from a stream that may break off: a compressed file can be cut short, or turn
out damaged when its checksum is compared. The reader meets the failure while it is short of octets.
Once it has all columns it asks for one octet more, and only to see that there is none.

* `Stream.readFull_eq_error`: a read fails for want of octets alone.
* `Cut`: the octets end inside the image they begin.
* **`Failure`, `decode_eq_error`**: why a stream is rejected, each way with its fault.
* **`decode_cut`**: a stream that breaks off inside its image is rejected for what broke it.
* **`decode_overlooks_ending`**: how a stream ends decides about the rejection of a cut image only.
-/

namespace DetectorStream

/-- A read fails if there are fewer octets than were asked for. -/
theorem Stream.readFull_eq_error {s : Stream} {n : Nat} {f : Fault}
    (h : s.readFull n = .error f) : s.bytes.length < n ∧ ∃ got, f = s.shortfall got := by
  unfold readFull at h
  simp only at h
  split at h
  · rename_i hshort
    cases h
    rw [List.length_take] at hshort
    exact ⟨by omega, _, rfl⟩
  · cases h

namespace Nev

open LittleEndian (put get)

variable {a : Allocator} {s s' : Stream} {e : Stop} {f : Fault} {block width count : Nat}
  {hb : 0 < block}

/-! ## The parts of an image -/

/-- A column is not read if the octets end before it does. -/
theorem columnBy_eq_error (h : columnBy block hb width count s = .error f) :
    s.bytes.length < count * width ∧ ∃ got, f = s.shortfall got := by
  fun_induction columnBy with
  | case1 s => cases h
  | case2 count s h0 f' hread =>
    cases h
    obtain ⟨hshort, hf⟩ := Stream.readFull_eq_error hread
    exact ⟨Nat.lt_of_lt_of_le hshort (Nat.mul_le_mul_right width (Nat.min_le_right _ _)), hf⟩
  | case3 count s h0 bs s₁ hread f' hrec ih =>
    cases h
    obtain ⟨hlength, hbytes, hstream⟩ := Stream.readFull_eq_ok hread
    obtain ⟨hshort, got, rfl⟩ := ih hrec
    refine ⟨?_, got, by rw [hstream]; rfl⟩
    have hsplit : count * width = min block count * width + (count - block) * width := by
      rw [← Nat.add_mul]
      congr 1
      omega
    rw [hbytes, List.length_append, hlength, hsplit]
    omega
  | case4 count s h0 bs s₁ hread rest s₂ hrec ih => cases h

/-- What is read as a column are as many octets as its words have. -/
theorem columnBy_length {ws : List Nat} (h : columnBy block hb width count s = .ok (ws, s')) :
    s.bytes.length = count * width + s'.bytes.length ∧ s' = { s with bytes := s'.bytes } := by
  obtain ⟨hcount, -, hbytes, hstream⟩ := columnBy_eq_ok h
  refine ⟨?_, hstream⟩
  rw [hbytes, List.length_append, FlatBuffer.length_flatMap_put, hcount]

/-- **Why columns are rejected**: the octets end inside them or go on after them. -/
theorem body_eq_error (h : body count s = .error e) :
    (s.bytes.length < 12 * count ∧ ∃ got, e = malformed "nev" (s.shortfall got)) ∨
      (12 * count < s.bytes.length ∧
        e = .fault (.report .malformedSource "trailing data after nev payload")) := by
  unfold body readColumns at h
  cases hids : column 8 count s with
  | error f =>
    simp only [hids] at h
    cases h
    obtain ⟨hshort, got, rfl⟩ := columnBy_eq_error hids
    exact .inl ⟨by omega, got, rfl⟩
  | ok p =>
    obtain ⟨ids, s₁⟩ := p
    obtain ⟨hlength, hstream⟩ := columnBy_length hids
    simp only [hids] at h
    cases htimestamps : column 4 count s₁ with
    | error f =>
      simp only [htimestamps] at h
      cases h
      obtain ⟨hshort, got, rfl⟩ := columnBy_eq_error htimestamps
      exact .inl ⟨by omega, got, by rw [hstream]; rfl⟩
    | ok p =>
      obtain ⟨timestamps, s₂⟩ := p
      obtain ⟨hlength', -⟩ := columnBy_length htimestamps
      simp only [htimestamps] at h
      split at h
      · cases h
      · rename_i hmore
        cases h
        have hpos : 0 < s₂.bytes.length := by
          rw [List.length_pos_iff]
          exact fun hnil => hmore (by rw [hnil]; rfl)
        exact .inr ⟨by omega, rfl⟩

/-- **Why a header is rejected**: the octets end inside it or begin with something else. -/
theorem header_eq_error (h : header s = .error e) :
    ((s.bytes.length < 4 ∨ s.bytes.take 4 = magic ∧ s.bytes.length < headerSize) ∧
        ∃ got, e = malformed "nev" (s.shortfall got)) ∨
      (4 ≤ s.bytes.length ∧ s.bytes.take 4 ≠ magic ∧
        e = .fault (.report .malformedSource
          ("bad nev magic " ++ Text.quote (s.bytes.take 4)))) := by
  unfold header at h
  cases hmagic : s.readFull 4 with
  | error f =>
    simp only [hmagic] at h
    cases h
    obtain ⟨hshort, got, rfl⟩ := Stream.readFull_eq_error hmagic
    exact .inl ⟨.inl hshort, got, rfl⟩
  | ok p =>
    obtain ⟨m, s₁⟩ := p
    obtain ⟨hlength, hbytes, hstream⟩ := Stream.readFull_eq_ok hmagic
    have htake : s.bytes.take 4 = m := by
      rw [hbytes, List.take_left' hlength]
    have htotal : s.bytes.length = 4 + s₁.bytes.length := by
      rw [hbytes, List.length_append, hlength]
    simp only [hmagic] at h
    split at h
    · rename_i hm
      cases h
      exact .inr ⟨by omega, by rwa [htake], by rw [htake]⟩
    · rename_i hm
      cases hcount : s₁.readFull 8 with
      | error f =>
        simp only [hcount] at h
        cases h
        obtain ⟨hshort, got, rfl⟩ := Stream.readFull_eq_error hcount
        unfold headerSize
        exact .inl ⟨.inr ⟨by rw [htake, not_not.mp hm], by omega⟩, got, by rw [hstream]; rfl⟩
      | ok p =>
        simp only [hcount] at h
        cases h

/-- A header that is read declares as many events as its octets say. -/
theorem header_layout (h : header s = .ok (count, s')) :
    s.bytes.take 4 = magic ∧ declared s.bytes = count ∧
      s.bytes.length = headerSize + s'.bytes.length ∧ s' = { s with bytes := s'.bytes } := by
  obtain ⟨hbytes, hstream⟩ := header_eq_ok h
  have hword : count < 256 ^ 8 := by
    unfold header at h
    split at h
    · cases h
    · split at h
      · cases h
      · split at h
        · cases h
        · rename_i c s₂ hcount
          cases h
          have hlt := LittleEndian.get_lt c
          rwa [(Stream.readFull_eq_ok hcount).1] at hlt
  have hdrop : s.bytes.drop 4 = put 8 count ++ s'.bytes := by
    rw [hbytes]
    rfl
  have hcount : declared s.bytes = count := by
    rw [declared, hdrop, List.take_left' (LittleEndian.length_put 8 count), LittleEndian.get_put]
    exact Nat.mod_eq_of_lt hword
  refine ⟨by rw [hbytes]; rfl, hcount, ?_, hstream⟩
  rw [hbytes, List.length_append, List.length_append, LittleEndian.length_put, length_magic,
    headerSize]
  omega

/-! ## Why a stream is rejected -/

/-- **Octets that end inside the image they begin**: in the magic, in the count, or in the columns
of as many events as the allocator admits. -/
inductive Cut (a : Allocator) (bs : Bytes) : Prop
  | magic (h : bs.length < 4)
  | count (hm : bs.take 4 = Nev.magic) (h : bs.length < headerSize)
  | columns (hm : bs.take 4 = Nev.magic) (ha : a.Admits (declared bs))
      (h : bs.length < headerSize + 12 * declared bs)

/-- **Why a stream is rejected.** Only where the octets are cut does it matter how the stream
ends. -/
inductive Failure (a : Allocator) (s : Stream) : Stop → Prop
  | cut (got : Nat) (h : Cut a s.bytes) : Failure a s (malformed "nev" (s.shortfall got))
  | magic (hlong : 4 ≤ s.bytes.length) (h : s.bytes.take 4 ≠ Nev.magic) :
      Failure a s (.fault (.report .malformedSource
        ("bad nev magic " ++ Text.quote (s.bytes.take 4))))
  | refused (e : Stop) (hm : s.bytes.take 4 = Nev.magic) (hlong : headerSize ≤ s.bytes.length)
      (h : grant a (declared s.bytes) = .error e) : Failure a s e
  | extra (hm : s.bytes.take 4 = Nev.magic) (ha : a.Admits (declared s.bytes))
      (h : headerSize + 12 * declared s.bytes < s.bytes.length) :
      Failure a s (.fault (.report .malformedSource "trailing data after nev payload"))

theorem decode_eq_error (h : decode a s = .error e) : Failure a s e := by
  unfold decode at h
  cases hheader : header s with
  | error e' =>
    simp only [hheader] at h
    cases h
    rcases header_eq_error hheader with ⟨hshort | ⟨hm, hshort⟩, got, rfl⟩ | ⟨hlong, hm, rfl⟩
    · exact .cut got (.magic hshort)
    · exact .cut got (.count hm hshort)
    · exact .magic hlong hm
  | ok p =>
    obtain ⟨count, s₁⟩ := p
    obtain ⟨hm, rfl, hlength, hstream⟩ := header_layout hheader
    simp only [hheader] at h
    cases hgrant : grant a (declared s.bytes) with
    | error e' =>
      simp only [hgrant] at h
      cases h
      exact .refused _ hm (by omega) hgrant
    | ok _ =>
      simp only [hgrant] at h
      have hadmits := grant_eq_ok_iff.mp hgrant
      rcases body_eq_error h with ⟨hshort, got, rfl⟩ | ⟨hmore, rfl⟩
      · have hshortfall : s₁.shortfall got = s.shortfall got := by
          rw [hstream]
          rfl
        rw [hshortfall]
        exact .cut got (.columns hm hadmits (by omega))
      · exact .extra hm hadmits (by omega)

/-- No image is cut. -/
theorem Cut.ne_image {bs : Bytes} (h : Cut a bs) (es : Array Event) (ha : a.Admits es.size) :
    bs ≠ image es.toList := by
  rintro rfl
  have hlength := length_image es.toList
  have hlt := ha.lt_word
  have hdeclared : declared (image es.toList) = es.toList.length :=
    declared_image (by rw [Array.length_toList]; omega)
  unfold headerSize at hlength
  rcases h with hshort | ⟨-, hshort⟩ | ⟨-, -, hshort⟩
  · omega
  · unfold headerSize at hshort
    omega
  · rw [hdeclared] at hshort
    unfold headerSize at hshort
    omega

/-- **A stream that breaks off inside its image is rejected for what broke it.** -/
theorem decode_cut (h : Cut a s.bytes) (hs : s.ending = .broken f) :
    decode a s = .error (malformed "nev" f) := by
  cases hd : decode a s with
  | ok b =>
    obtain ⟨es, -, hbytes, hadmits⟩ := decode_eq_ok hd
    exact absurd hbytes (h.ne_image es hadmits)
  | error e =>
    cases decode_eq_error hd with
    | cut got _ =>
      unfold Stream.shortfall
      rw [hs]
    | magic hlong hm =>
      rcases h with hshort | ⟨hm', -⟩ | ⟨hm', -, -⟩
      · omega
      · exact absurd hm' hm
      · exact absurd hm' hm
    | refused _ hm hlong hgrant =>
      rcases h with hshort | ⟨-, hshort⟩ | ⟨-, hadmits, -⟩
      · unfold headerSize at hlong
        omega
      · omega
      · rw [grant_eq_ok_iff.mpr hadmits] at hgrant
        cases hgrant
    | extra hm hadmits hmore =>
      rcases h with hshort | ⟨-, hshort⟩ | ⟨-, -, hshort⟩
      · unfold headerSize at hmore
        omega
      · omega
      · omega

/-- Every rejection is for a malformed source, unless the count that a whole header declares is not
admitted. -/
theorem Failure.malformed_or_refused (h : Failure a s e) :
    (∃ f, e = .fault f ∧ f.kind = .malformedSource) ∨
      (s.bytes.take 4 = Nev.magic ∧ headerSize ≤ s.bytes.length ∧
        ¬ a.Admits (declared s.bytes)) := by
  cases h with
  | cut got _ => exact .inl ⟨_, rfl, rfl⟩
  | magic _ _ => exact .inl ⟨_, rfl, rfl⟩
  | extra _ _ _ => exact .inl ⟨_, rfl, rfl⟩
  | refused _ hm hlong hgrant =>
    refine .inr ⟨hm, hlong, fun hadmits => ?_⟩
    rw [grant_eq_ok_iff.mpr hadmits] at hgrant
    cases hgrant

/-- **The reader heeds how a stream ends while it is short of octets, and not after.** It gives a
batch exactly for the octets of an image that the allocator admits, whether the stream ends cleanly
behind them or not. It rejects everything else, for a malformed source unless the declared count is
refused; and octets that are cut, for the failure that cut them. -/
theorem decode_overlooks_ending (a : Allocator) :
    (∀ s b, decode a s = .ok b ↔
      ∃ es : Array Event, b = .live es ∧ s.bytes = image es.toList ∧ a.Admits es.size) ∧
    (∀ s e, decode a s = .error e →
      (∃ f, e = .fault f ∧ f.kind = .malformedSource) ∨
        (s.bytes.take 4 = magic ∧ headerSize ≤ s.bytes.length ∧ ¬ a.Admits (declared s.bytes))) ∧
    (∀ s f, Cut a s.bytes → s.ending = .broken f → decode a s = .error (malformed "nev" f)) := by
  refine ⟨fun s b => ⟨decode_eq_ok, ?_⟩, fun s e h => (decode_eq_error h).malformed_or_refused,
    fun s f => decode_cut⟩
  rintro ⟨es, rfl, hbytes, hadmits⟩
  exact decode_image hadmits hbytes

/-- Two events whose stream breaks off: behind them it gives the batch, one octet before it does
not. -/
theorem decode_overlooks_ending_two :
    let es : Array Event := #[⟨1, 10⟩, ⟨2, 20⟩]
    decode .unlimited (.damaged (image es.toList)) = .ok (.live es) ∧
      decode .unlimited (.damaged (image es.toList).dropLast) =
        .error (malformed "nev" .withheld) := by
  intro es
  have hadmits : Allocator.unlimited.Admits 2 := by
    unfold Allocator.Admits
    decide
  have hdeclared : declared (image es.toList).dropLast = 2 := by decide +kernel
  obtain ⟨hok, -, hcut⟩ := decode_overlooks_ending .unlimited
  refine ⟨(hok _ _).mpr ⟨es, rfl, rfl, hadmits⟩, hcut _ _ (.columns ?_ ?_ ?_) rfl⟩
  · decide +kernel
  · exact hdeclared ▸ hadmits
  · decide +kernel

/-- A stream that turns out damaged behind the last octet of an image is not rejected. -/
theorem decode_accepts_damaged :
    ¬ ∀ (a : Allocator) (s : Stream) (b : Batch), decode a s = .ok b → s.ending = .clean := by
  intro h
  have hending := h .unlimited (.damaged (image [⟨1, 10⟩, ⟨2, 20⟩])) (.live #[⟨1, 10⟩, ⟨2, 20⟩])
    (by decide +kernel)
  cases hending

end Nev

end DetectorStream
