import DetectorStream.Delivery.Verify
import DetectorStream.Proofs.Delivery.Framing
import Mathlib.Data.List.Nodup

/-!
# What a verified file holds

The check of a file reads its frames, decodes each and wants the numbers of the messages to be their
places. It passes for exactly the files that are frames of such messages, and the counts that it
returns are theirs. Since no two of these frames are equal, a file that is put together from frames
of a verified one passes only if it is a beginning of it.

* `Numbered`: frames that hold messages under running numbers.
* `messages_eq_ok`, `messages_of_numbered`: the check of frames succeeds exactly on these.
* **`stream_eq_ok_iff`**: what octets hold for which the check succeeds.
* `Unmistakable`, `Torn`, **`numbered_of_stream`**: what passes where messages may be too long for
  their headers and the last frame may not have been written to its end.
* **`Numbered.prefix_of_mem`**: numbered frames that were taken from numbered frames are the first of
  them.
* `Tampered`, `Tampered.mem`, `Tampered.not_prefix`: what may be done to the frames of a file.
* **`stream_tampered`**: frames that were tampered with do not pass.
-/

namespace DetectorStream.Verify

variable {format : Format} {first n events : Nat} {frame : Bytes} {frames frames' : List Bytes}
  {m : Message} {ms ms' : List Message}

/-! ## Numbered frames -/

/-- **Frames that hold messages under running numbers**, the first of which is `first`. -/
structure Numbered (format : Format) (first : Nat) (frames : List Bytes) (ms : List Message) :
    Prop where
  length_eq : ms.length = frames.length
  message : ∀ i frame, frames[i]? = some frame →
    ∃ m, ms[i]? = some m ∧ format.decode frame = .ok m ∧ m.id = UInt64.ofNat (first + i)

theorem Numbered.nil (format : Format) (first : Nat) : Numbered format first [] [] :=
  ⟨rfl, fun _ _ h => by cases h⟩

theorem Numbered.cons (hdecode : format.decode frame = .ok m) (hid : m.id = UInt64.ofNat first)
    (h : Numbered format (first + 1) frames ms) :
    Numbered format first (frame :: frames) (m :: ms) := by
  refine ⟨congrArg (· + 1) h.length_eq, fun i frame' hi => ?_⟩
  cases i with
  | zero =>
    cases hi
    exact ⟨m, rfl, hdecode, hid⟩
  | succ i =>
    obtain ⟨m', hm', hdecode', hid'⟩ := h.message i frame' hi
    refine ⟨m', hm', hdecode', ?_⟩
    rw [hid', Nat.add_assoc, Nat.add_comm 1]

theorem numbered_range {buf : Nat → Bytes} {m : Nat → Message}
    (h : ∀ i < n, format.decode (buf i) = .ok (m i) ∧ (m i).id = UInt64.ofNat (first + i)) :
    Numbered format first ((List.range n).map buf) ((List.range n).map m) := by
  refine ⟨by rw [List.length_map, List.length_map], fun i frame hi => ?_⟩
  rw [List.getElem?_map] at hi
  obtain ⟨j, hj, rfl⟩ := Option.map_eq_some_iff.mp hi
  obtain ⟨hlt, rfl⟩ := List.getElem?_eq_some_iff.mp hj
  rw [List.length_range] at hlt
  obtain ⟨hdecode, hid⟩ := h i hlt
  refine ⟨m i, ?_, ?_, hid⟩
  · rw [List.getElem?_map, List.getElem?_range hlt]
    rfl
  · rw [List.getElem_range]
    exact hdecode

/-- The first of numbered frames, and the others. -/
theorem Numbered.uncons (h : Numbered format first (frame :: frames) ms) :
    ∃ m rest, ms = m :: rest ∧ format.decode frame = .ok m ∧ m.id = UInt64.ofNat first ∧
      Numbered format (first + 1) frames rest := by
  obtain ⟨m, hm, hdecode, hid⟩ := h.message 0 frame rfl
  cases ms with
  | nil => cases hm
  | cons m' rest =>
    cases hm
    refine ⟨m, rest, rfl, hdecode, hid, Nat.succ.inj h.length_eq, fun i frame' hi => ?_⟩
    obtain ⟨m', hm', hdecode', hid'⟩ := h.message (i + 1) frame' hi
    refine ⟨m', hm', hdecode', ?_⟩
    rw [hid', Nat.add_assoc, Nat.add_comm 1]

theorem Numbered.decodes (h : Numbered format first frames ms) (hframe : frame ∈ frames) :
    ∃ m, format.decode frame = .ok m := by
  obtain ⟨i, hi⟩ := List.mem_iff_getElem?.mp hframe
  obtain ⟨m, -, hdecode, -⟩ := h.message i frame hi
  exact ⟨m, hdecode⟩

/-- The first frames are numbered as all of them are. -/
theorem Numbered.take (h : Numbered format first frames ms) (n : Nat) :
    Numbered format first (frames.take n) (ms.take n) := by
  refine ⟨by rw [List.length_take, List.length_take, h.length_eq], fun i frame hi => ?_⟩
  rw [List.getElem?_take] at hi
  split at hi
  · rename_i hn
    obtain ⟨m, hm, htold⟩ := h.message i frame hi
    exact ⟨m, (List.getElem?_take_of_lt hn).trans hm, htold⟩
  · cases hi

/-! ## The check -/

/-- **Frames that pass the check are numbered**, and the events are those of their messages. -/
theorem messages_eq_ok (h : messages format first frames = .ok events) :
    ∃ ms, Numbered format first frames ms ∧ (ms.map Message.size).sum = events := by
  induction frames generalizing first events with
  | nil =>
    cases h
    exact ⟨[], .nil format first, rfl⟩
  | cons frame frames ih =>
    unfold messages at h
    split at h
    · cases h
    · rename_i m hdecode
      split at h
      · rename_i hid
        cases hrest : messages format (first + 1) frames with
        | error f =>
          rw [hrest] at h
          cases h
        | ok later =>
          rw [hrest] at h
          cases h
          obtain ⟨ms, hnumbered, hsum⟩ := ih hrest
          refine ⟨m :: ms, hnumbered.cons hdecode hid, ?_⟩
          rw [List.map_cons, List.sum_cons, hsum]
      · cases h

/-- Numbered frames pass the check. -/
theorem messages_of_numbered (h : Numbered format first frames ms) :
    messages format first frames = .ok (ms.map Message.size).sum := by
  induction frames generalizing first ms with
  | nil =>
    rw [List.eq_nil_of_length_eq_zero h.length_eq]
    rfl
  | cons frame frames ih =>
    obtain ⟨m, rest, rfl, hdecode, hid, hrest⟩ := h.uncons
    have hnumber : m.id = first.toUInt64 := hid
    rw [messages, hdecode]
    simp only [hnumber, if_true, ih hrest, Except.map, List.map_cons, List.sum_cons]

/-- A file is checked as the stream of its contents. -/
theorem file_eq_stream {fs : Files} {path : Text} {contents : Bytes}
    (hnode : fs.node path = .ok (.file contents)) (format : Format) :
    file fs path format.name = stream format ⟨contents, .clean, false⟩ := by
  have hformat : (if format.name == Format.json.name then Format.json else .ev42) = format := by
    cases format <;> rfl
  have hopened : opened fs path = .ok ⟨contents, .clean, false⟩ := by
    unfold opened
    rw [hnode]
  unfold file
  rw [hopened]
  simp only [hformat]

theorem stream_frames (hfit : ∀ frame ∈ frames, frame.length < 2 ^ 32) (abrupt : Bool) :
    stream format ⟨frames.flatMap Frame.encode, .clean, abrupt⟩ =
      (messages format 0 frames).map fun events => (frames.length, events) := by
  unfold stream
  rw [Frame.decode_frames hfit]

/-- **The check succeeds exactly for the frames of numbered messages**, whatever the octets are, and
counts these messages and their events. -/
theorem stream_eq_ok_iff {contents : Bytes} {abrupt : Bool} :
    stream format ⟨contents, .clean, abrupt⟩ = .ok (n, events) ↔
      ∃ frames ms, contents = frames.flatMap Frame.encode ∧
        (∀ frame ∈ frames, frame.length < 2 ^ 32) ∧ frames.length = n ∧
        Numbered format 0 frames ms ∧ (ms.map Message.size).sum = events := by
  constructor
  · intro h
    obtain ⟨frames, tail, hread, hframed⟩ := Frame.decode_any contents abrupt
    unfold stream at h
    rw [hread] at h
    cases hcomplaint : Frame.complaint? tail with
    | some f =>
      rw [hcomplaint] at h
      cases h
    | none =>
      rw [hcomplaint] at h
      have htail := Frame.complaint?_eq_none.mp hcomplaint
      cases hchecked : messages format 0 frames with
      | error f =>
        simp only [hchecked] at h
        cases h
      | ok later =>
        simp only [hchecked] at h
        cases h
        obtain ⟨ms, hnumbered, hsum⟩ := messages_eq_ok hchecked
        refine ⟨frames, ms, ?_, hframed.fit, rfl, hnumbered, hsum⟩
        rw [hframed.octets_eq, htail, List.append_nil]
  · rintro ⟨frames, ms, rfl, hfit, rfl, hnumbered, rfl⟩
    rw [stream_frames hfit, messages_of_numbered hnumbered]
    rfl

/-- **A message that does not fit into a frame cannot be mistaken for a shorter one**: the octets that
its header counts do not decode. -/
def Unmistakable (format : Format) (frame : Bytes) : Prop :=
  2 ^ 32 ≤ frame.length → ∀ n < 2 ^ 32, ∃ f, format.decode (frame.take n) = .error f

/-- What may stand behind the frames of a file: nothing, or the beginning of a frame that was not
written to its end. -/
def Torn (format : Format) (tail : Bytes) : Prop :=
  ∃ frame, Unmistakable format frame ∧ tail <+: Frame.encode frame ∧ tail ≠ Frame.encode frame

theorem Torn.nil (format : Format) : Torn format [] :=
  ⟨[], fun hlong => absurd hlong (by decide), List.nil_prefix, (Frame.encode_ne_nil []).symm⟩

/-- **What passes as frames and perhaps the beginning of one is numbered frames alone**, if no message
that is too long can be mistaken for a shorter one. -/
theorem numbered_of_stream {tail : Bytes} {abrupt : Bool}
    (hframes : ∀ frame ∈ frames, Unmistakable format frame) (htail : Torn format tail)
    (h : stream format ⟨frames.flatMap Frame.encode ++ tail, .clean, abrupt⟩ = .ok (n, events)) :
    tail = [] ∧ frames.length = n ∧ ∃ ms, Numbered format 0 frames ms := by
  obtain ⟨found, ms, hcontents, hfit, hlength, hnumbered, -⟩ := stream_eq_ok_iff.mp h
  have hfound : Frame.Framed (frames.flatMap Frame.encode ++ tail) found [] :=
    ⟨hfit, by rw [hcontents, List.append_nil], .inl rfl⟩
  have hmistaken : ∀ {frame}, Unmistakable format frame → 2 ^ 32 ≤ frame.length →
      ∀ k < 2 ^ 32, frame.take k ∉ found := by
    intro frame hframe hsize k hk hmem
    obtain ⟨f, hrefused⟩ := hframe hsize k hk
    obtain ⟨m, hdecode⟩ := hnumbered.decodes hmem
    rw [hrefused] at hdecode
    cases hdecode
  by_cases hshort : ∀ frame ∈ frames, frame.length < 2 ^ 32
  · obtain ⟨frame, hframe, hhead, hne⟩ := htail
    rcases Frame.beginning_cases hhead hne with hcut | ⟨hsize, k, hk, rest, rfl⟩
    · have hframed : Frame.Framed (frames.flatMap Frame.encode ++ tail) frames tail :=
        ⟨hshort, rfl, hcut⟩
      obtain ⟨rfl, rfl⟩ := hframed.unique hfound
      exact ⟨rfl, hlength, ms, hnumbered⟩
    · obtain ⟨later, tail', -, hlater⟩ := Frame.decode_any rest false
      have hk' : (frame.take k).length < 2 ^ 32 :=
        Nat.lt_of_le_of_lt (List.length_take_le _ _) hk
      obtain ⟨rfl, -⟩ := ((hlater.cons hk').append hshort).unique hfound
      exact absurd (List.mem_append_right frames List.mem_cons_self) (hmistaken hframe hsize k hk)
  · have hlong : ∃ frame ∈ frames, 2 ^ 32 ≤ frame.length := by
      simpa only [not_forall, exists_prop, Nat.not_lt] using hshort
    obtain ⟨found', tail', hframed, frame, hframe, hsize, k, hk, hmem⟩ :=
      Frame.exists_framed_of_overlong hlong tail
    obtain ⟨rfl, -⟩ := hframed.unique hfound
    exact absurd hmem (hmistaken (hframes frame hframe) hsize k hk)

/-! ## Frames that were rearranged -/

theorem ofNat_inj {i j : Nat} (hi : i < 2 ^ 64) (hj : j < 2 ^ 64)
    (h : UInt64.ofNat i = UInt64.ofNat j) : i = j := by
  have hnat := congrArg UInt64.toNat h
  rwa [UInt64.toNat_ofNat_of_lt' hi, UInt64.toNat_ofNat_of_lt' hj] at hnat

/-- A frame tells its place. -/
theorem Numbered.place_eq (h : Numbered format 0 frames ms) (h' : Numbered format 0 frames' ms')
    {i j : Nat} (hi : i < 2 ^ 64) (hj : j < 2 ^ 64) (hframe : frames[i]? = some frame)
    (hframe' : frames'[j]? = some frame) : i = j := by
  obtain ⟨m, -, hdecode, hid⟩ := h.message i frame hframe
  obtain ⟨m', -, hdecode', hid'⟩ := h'.message j frame hframe'
  rw [hdecode] at hdecode'
  cases hdecode'
  rw [hid, Nat.zero_add, Nat.zero_add] at hid'
  exact ofNat_inj hi hj hid'

/-- **Numbered frames that were taken from numbered frames are the first of them.** -/
theorem Numbered.prefix_of_mem (h : Numbered format 0 frames ms) (hlt : frames.length ≤ 2 ^ 64)
    (h' : Numbered format 0 frames' ms') (hlt' : frames'.length ≤ 2 ^ 64)
    (hmem : ∀ frame ∈ frames', frame ∈ frames) : frames' <+: frames := by
  rw [List.prefix_iff_getElem?]
  intro j hj
  obtain ⟨i, hi⟩ := List.mem_iff_getElem?.mp (hmem _ (List.getElem_mem hj))
  have hlength := (List.getElem?_eq_some_iff.mp hi).1
  have hplace := h.place_eq h' (by omega) (by omega) hi (List.getElem?_eq_getElem hj)
  rwa [hplace] at hi

theorem Numbered.nodup (h : Numbered format 0 frames ms) (hlt : frames.length ≤ 2 ^ 64) :
    frames.Nodup := by
  rw [List.nodup_iff_getElem?_ne_getElem?]
  intro i j hij hj hsame
  have hi := hij.trans hj
  have hframe := List.getElem?_eq_getElem hi
  have hplace := h.place_eq h (by omega) (by omega) hframe (hsame ▸ hframe)
  omega

/-! ## Files that were tampered with -/

/-- **What may be done to the frames of a file**: one that is not the last is taken out, one is put in
again somewhere, or two change places. -/
inductive Tampered (frames : List Bytes) : List Bytes → Prop
  | deleted (i : Nat) (inner : i + 1 < frames.length) : Tampered frames (frames.eraseIdx i)
  | duplicated (i j : Nat) (hi : i < frames.length) (hj : j ≤ frames.length) :
      Tampered frames (frames.insertIdx j frames[i])
  | swapped (i j : Nat) (hi : i < frames.length) (hj : j < frames.length) (apart : i ≠ j) :
      Tampered frames ((frames.set i frames[j]).set j frames[i])

theorem Tampered.mem (h : Tampered frames frames') : ∀ frame ∈ frames', frame ∈ frames := by
  intro frame hframe
  cases h with
  | deleted i inner => exact List.mem_of_mem_eraseIdx hframe
  | duplicated i j hi hj =>
    rcases (List.mem_insertIdx hj).mp hframe with rfl | hframe
    · exact List.getElem_mem hi
    · exact hframe
  | swapped i j hi hj apart =>
    rcases List.mem_or_eq_of_mem_set hframe with hframe | rfl
    · rcases List.mem_or_eq_of_mem_set hframe with hframe | rfl
      · exact hframe
      · exact List.getElem_mem hj
    · exact List.getElem_mem hi

theorem Tampered.length_le (h : Tampered frames frames') :
    frames'.length ≤ frames.length + 1 := by
  cases h with
  | deleted i inner =>
    have hle := List.length_eraseIdx_le frames i
    omega
  | duplicated i j hi hj => rw [List.length_insertIdx_of_le_length hj]
  | swapped i j hi hj apart =>
    rw [List.length_set, List.length_set]
    exact Nat.le_succ _

/-- **Who tampers with frames that are all different leaves no beginning of them.** -/
theorem Tampered.not_prefix (h : Tampered frames frames') (hnodup : frames.Nodup) :
    ¬ frames' <+: frames := by
  intro hprefix
  rw [List.prefix_iff_getElem?] at hprefix
  rw [List.nodup_iff_getElem?_ne_getElem?] at hnodup
  cases h with
  | deleted i inner =>
    have hlength := List.length_eraseIdx_of_lt (Nat.lt_of_succ_lt inner)
    have hi := hprefix i (by omega)
    rw [List.getElem_eraseIdx_of_ge (by omega) (Nat.le_refl i)] at hi
    exact hnodup i (i + 1) (Nat.lt_succ_self i) inner (hi.trans (List.getElem?_eq_getElem inner).symm)
  | duplicated i j hi hj =>
    have hlast := hprefix frames.length (by rw [List.length_insertIdx_of_le_length hj]; omega)
    rw [List.getElem?_eq_none (Nat.le_refl _)] at hlast
    cases hlast
  | swapped i j hi hj apart =>
    have hplace := hprefix i (by simpa using hi)
    rw [List.getElem_set_ne (Ne.symm apart), List.getElem_set_self,
      ← List.getElem?_eq_getElem hj] at hplace
    rcases Nat.lt_or_gt_of_ne apart with hlt | hgt
    · exact hnodup i j hlt hj hplace
    · exact hnodup j i hgt hi hplace.symm

/-- **Numbered frames that were tampered with do not pass**, also not with the beginning of a frame
behind them. -/
theorem stream_tampered {tail : Bytes} (h : Numbered format 0 frames ms)
    (hlt : frames.length < 2 ^ 64) (hframes : ∀ frame ∈ frames, Unmistakable format frame)
    (htampered : Tampered frames frames') (htail : Torn format tail) (abrupt : Bool) :
    ∃ f, stream format ⟨frames'.flatMap Frame.encode ++ tail, .clean, abrupt⟩ = .error f := by
  cases hstream : stream format ⟨frames'.flatMap Frame.encode ++ tail, .clean, abrupt⟩ with
  | error f => exact ⟨f, rfl⟩
  | ok counts =>
    obtain ⟨-, -, ms', h'⟩ := numbered_of_stream
      (fun frame hframe => hframes frame (htampered.mem frame hframe)) htail hstream
    have hlength := htampered.length_le
    exact absurd (h.prefix_of_mem (Nat.le_of_lt hlt) h' (by omega) htampered.mem)
      (htampered.not_prefix (h.nodup (Nat.le_of_lt hlt)))

end DetectorStream.Verify
