import DetectorStream.Proofs.Delivery.FileSink

/-!
# Octets as frames

All octets whatever are whole frames, followed by nothing or by a frame that was cut off. A reader
finds the messages of the whole frames; it complains exactly if a frame was cut off, about its header
or about its message.

* `Cut`: a frame of which something is missing, but not everything.
* `cut_of_short_header`, `cut_of_short_message`: octets that are too few for a frame.
* `complaint?`: what a reader complains about.
* **`decode_any`**: what a reader makes of any octets.
* **`Framed.unique`**: octets are frames in one way only.
* `encode_eq_append`, `exists_framed_of_overlong`: what is read where a message was too long for its
  header.
* `beginning_cases`: what may have been written of a frame.
-/

namespace DetectorStream.Frame

open LittleEndian (put get)

variable {bs tail message : Bytes} {messages : List Bytes}

/-! ## Frames that are cut off -/

/-- **A frame was cut off**: it begins like this, and something of it is missing. -/
def Cut (tail : Bytes) : Prop :=
  tail ≠ [] ∧ ∃ message : Bytes, message.length < 2 ^ 32 ∧ tail <+: encode message ∧
    tail ≠ encode message

/-- Octets that are the number of a message are its header. -/
theorem header_eq (hhead : bs.length = headerSize) (hlength : message.length = get bs) :
    header message = bs := by
  unfold header
  rw [hlength, ← hhead]
  exact LittleEndian.put_get bs

theorem get_lt_of_header (hhead : bs.length = headerSize) : get bs < 2 ^ 32 := by
  have hlt := LittleEndian.get_lt bs
  rw [hhead] at hlt
  exact hlt

/-- Octets that are missing some to be a frame are a frame that was cut off. -/
theorem cut_of_append {rest : Bytes} (hbs : bs ≠ []) (hrest : rest ≠ [])
    (hfit : message.length < 2 ^ 32) (h : encode message = bs ++ rest) : Cut bs := by
  refine ⟨hbs, message, hfit, ⟨rest, h.symm⟩, fun hwhole => ?_⟩
  rw [← hwhole] at h
  exact hrest (List.self_eq_append_right.mp h)

theorem exists_octets (n : Nat) : ∃ fill : Bytes, fill.length = n :=
  ⟨List.replicate n 0, List.length_replicate⟩

/-- Too few octets behind a header. -/
theorem cut_of_short_message {rest : Bytes} (hhead : bs.length = headerSize)
    (h : rest.length < get bs) : Cut (bs ++ rest) := by
  obtain ⟨fill, hfill⟩ := exists_octets (get bs - rest.length)
  have hlength : (rest ++ fill).length = get bs := by
    rw [List.length_append, hfill]
    omega
  have hfit := get_lt_of_header hhead
  rw [← hlength] at hfit
  have hframe : encode (rest ++ fill) = bs ++ rest ++ fill := by
    rw [encode, header_eq hhead hlength, List.append_assoc]
  refine cut_of_append (fun hnil => ?_) (fun hnil => ?_) hfit hframe
  · rw [(List.append_eq_nil_iff.mp hnil).1] at hhead
    cases hhead
  · rw [hnil, List.length_nil] at hfill
    omega

/-- Too few octets for a header. -/
theorem cut_of_short_header (hbs : bs ≠ []) (h : bs.length < headerSize) : Cut bs := by
  obtain ⟨fill, hfill⟩ := exists_octets (headerSize - bs.length)
  obtain ⟨message, hlength⟩ := exists_octets (get (bs ++ fill))
  have hhead : (bs ++ fill).length = headerSize := by
    rw [List.length_append, hfill]
    omega
  have hfit := get_lt_of_header hhead
  rw [← hlength] at hfit
  have hframe : encode message = bs ++ (fill ++ message) := by
    rw [encode, header_eq hhead hlength, List.append_assoc]
  refine cut_of_append hbs (fun hnil => ?_) hfit hframe
  rw [(List.append_eq_nil_iff.mp hnil).1, List.length_nil] at hfill
  omega

/-! ## Reading -/

/-- What a reader complains about that finds these octets behind the last whole frame. A message of
which nothing is there counts as a stream that ends too early, not as one that ends. -/
def complaint? (tail : Bytes) : Option Fault :=
  if tail = [] then none
  else if tail.length < headerSize then
    some (truncated "truncated frame header" (.signal .unexpectedEnd))
  else
    some (truncated "truncated frame"
      (.signal (if tail.length = headerSize then .endOfInput else .unexpectedEnd)))

theorem complaint?_eq_none : complaint? tail = none ↔ tail = [] := by
  unfold complaint?
  split
  · simp [*]
  · split <;> simp [*]

/-- Every complaint is about a malformed source. -/
theorem kind_of_complaint {f : Fault} (h : complaint? tail = some f) :
    f.kind = .malformedSource := by
  unfold complaint? at h
  split at h
  · cases h
  · split at h <;> cases h <;> rfl

/-- **What octets are made of**: whole frames, and a tail that is nothing or a frame that was cut
off. -/
structure Framed (bs : Bytes) (messages : List Bytes) (tail : Bytes) : Prop where
  fit : ∀ m ∈ messages, m.length < 2 ^ 32
  octets_eq : bs = messages.flatMap encode ++ tail
  tail_cut : tail = [] ∨ Cut tail

theorem Framed.cons {rest : Bytes} (hfit : message.length < 2 ^ 32)
    (h : Framed rest messages tail) : Framed (encode message ++ rest) (message :: messages) tail :=
  ⟨List.forall_mem_cons.mpr ⟨hfit, h.fit⟩,
    by rw [h.octets_eq, List.flatMap_cons, List.append_assoc], h.tail_cut⟩

theorem Framed.append {before : List Bytes} {rest : Bytes} (hfit : ∀ m ∈ before, m.length < 2 ^ 32)
    (h : Framed rest messages tail) :
    Framed (before.flatMap encode ++ rest) (before ++ messages) tail := by
  induction before with
  | nil => exact h
  | cons m before ih =>
    obtain ⟨hm, hbefore⟩ := List.forall_mem_cons.mp hfit
    rw [List.flatMap_cons, List.append_assoc]
    exact (ih hbefore).cons hm

/-- A stream that ends before a frame, or in a header. -/
theorem decodeOnto_short_header (abrupt : Bool) (fuel : Nat) (acc : List Bytes)
    (h : bs.length < headerSize) :
    decodeOnto (fuel + 1) acc ⟨bs, .clean, abrupt⟩ = (acc.reverse, complaint? bs) := by
  have htake : bs.take headerSize = bs := List.take_of_length_le (Nat.le_of_lt h)
  unfold decodeOnto
  simp only [Stream.readFull, htake, if_pos h, Stream.shortfall, complaint?, List.length_eq_zero_iff]
  split
  · rfl
  · simp [Fault.signal, Fault.anySignal]

/-- A stream that ends in a message. -/
theorem decodeOnto_short_message (abrupt : Bool) (fuel : Nat) (acc : List Bytes) {rest : Bytes}
    (hhead : bs.length = headerSize) (h : rest.length < get bs) :
    decodeOnto (fuel + 1) acc ⟨bs ++ rest, .clean, abrupt⟩ =
      (acc.reverse, complaint? (bs ++ rest)) := by
  have hread := Stream.readFull_append ⟨[], .clean, abrupt⟩ bs rest
  rw [hhead] at hread
  have htake : rest.take (get bs) = rest := List.take_of_length_le (Nat.le_of_lt h)
  have hnil : bs ++ rest ≠ [] := by
    intro hnil
    rw [(List.append_eq_nil_iff.mp hnil).1] at hhead
    cases hhead
  have hlong : ¬ (bs ++ rest).length < headerSize := by
    rw [List.length_append, hhead]
    omega
  rw [decodeOnto, hread, complaint?, if_neg hnil, if_neg hlong]
  simp only [Stream.readFull, htake, if_pos h, Stream.shortfall, List.length_append, hhead,
    List.length_eq_zero_iff]
  by_cases hrest : rest = []
  · simp [hrest]
  · simp [hrest]

/-- The octets of a stream are read frame by frame, onto the messages read before. -/
theorem decodeOnto_any (abrupt : Bool) {fuel : Nat} (acc : List Bytes)
    (hfuel : bs.length < fuel) :
    ∃ messages tail, decodeOnto fuel acc ⟨bs, .clean, abrupt⟩ =
      (acc.reverse ++ messages, complaint? tail) ∧ Framed bs messages tail := by
  induction fuel generalizing acc bs with
  | zero => cases hfuel
  | succ fuel ih =>
    by_cases hshort : bs.length < headerSize
    · refine ⟨[], bs, ?_, nofun, rfl, ?_⟩
      · rw [decodeOnto_short_header abrupt fuel acc hshort, List.append_nil]
      · by_cases hbs : bs = []
        · exact .inl hbs
        · exact .inr (cut_of_short_header hbs hshort)
    · have hhead : (bs.take headerSize).length = headerSize :=
        List.length_take_of_le (Nat.not_lt.mp hshort)
      rw [← List.take_append_drop headerSize bs] at hfuel ⊢
      generalize bs.take headerSize = head at hhead hfuel ⊢
      generalize bs.drop headerSize = rest at hfuel ⊢
      by_cases hmissing : rest.length < get head
      · refine ⟨[], head ++ rest, ?_, nofun, rfl, .inr (cut_of_short_message hhead hmissing)⟩
        rw [decodeOnto_short_message abrupt fuel acc hhead hmissing, List.append_nil]
      · -- the number in front is the length of the message behind it
        have hlength : (rest.take (get head)).length = get head :=
          List.length_take_of_le (Nat.not_lt.mp hmissing)
        have hfit := get_lt_of_header hhead
        have hframe : head ++ rest = encode (rest.take (get head)) ++ rest.drop (get head) := by
          rw [encode, header_eq hhead hlength, List.append_assoc, List.take_append_drop]
        have hrest : (rest.drop (get head)).length < fuel := by
          rw [List.length_append, hhead, headerSize] at hfuel
          rw [List.length_drop]
          omega
        obtain ⟨messages, tail, hread, hframed⟩ := ih (rest.take (get head) :: acc) hrest
        rw [← hlength] at hfit
        refine ⟨rest.take (get head) :: messages, tail, ?_, hframe ▸ hframed.cons hfit⟩
        rw [hframe, decodeOnto_frame abrupt fuel acc _ hfit, hread, List.reverse_cons,
          List.append_assoc]
        rfl

/-- **What a reader makes of any octets**: the messages of the whole frames, and a complaint exactly
if there is a tail. -/
theorem decode_any (bs : Bytes) (abrupt : Bool) :
    ∃ messages tail, decode ⟨bs, .clean, abrupt⟩ = (messages, complaint? tail) ∧
      Framed bs messages tail :=
  decodeOnto_any abrupt [] (Nat.lt_succ_self _)

/-! ## One way only -/

/-- The header tells where a frame ends. -/
theorem encode_append_inj {message' rest rest' : Bytes} (hfit : message.length < 2 ^ 32)
    (hfit' : message'.length < 2 ^ 32) (h : encode message ++ rest = encode message' ++ rest') :
    message = message' ∧ rest = rest' := by
  unfold encode at h
  rw [List.append_assoc, List.append_assoc] at h
  obtain ⟨hheader, hbody⟩ := List.append_inj h (by rw [length_header, length_header])
  have hlength := congrArg get hheader
  rw [get_header hfit, get_header hfit'] at hlength
  exact List.append_inj hbody hlength

/-- A frame that was cut off does not begin with a whole one. -/
theorem Cut.ne_append (h : Cut tail) (hfit : message.length < 2 ^ 32) (rest : Bytes) :
    tail ≠ encode message ++ rest := by
  rintro rfl
  obtain ⟨-, whole, hwhole, ⟨missing, hmissing⟩, hne⟩ := h
  rw [List.append_assoc, ← List.append_nil (encode whole)] at hmissing
  obtain ⟨rfl, hnil⟩ := encode_append_inj hfit hwhole hmissing
  rw [(List.append_eq_nil_iff.mp hnil).1, List.append_nil] at hne
  exact hne rfl

/-- **Octets are frames in one way only.** -/
theorem Framed.unique {messages' : List Bytes} {tail' : Bytes} (h : Framed bs messages tail)
    (h' : Framed bs messages' tail') : messages = messages' ∧ tail = tail' := by
  have hsame := h.octets_eq.symm.trans h'.octets_eq
  obtain ⟨hfit, -, htail⟩ := h
  obtain ⟨hfit', -, htail'⟩ := h'
  -- a tail is no frame, so that both sides have a frame or neither has
  have hne : ∀ {m t rest : Bytes}, m.length < 2 ^ 32 → t = [] ∨ Cut t → t ≠ encode m ++ rest := by
    rintro m t rest hm (rfl | hcut)
    · exact fun hnil => encode_ne_nil m (List.append_eq_nil_iff.mp hnil.symm).1
    · exact hcut.ne_append hm rest
  induction messages generalizing messages' with
  | nil =>
    cases messages' with
    | nil => exact ⟨rfl, hsame⟩
    | cons m' messages' =>
      rw [List.flatMap_cons, List.append_assoc] at hsame
      exact absurd hsame (hne (hfit' m' List.mem_cons_self) htail)
  | cons m messages ih =>
    obtain ⟨hm, hmessages⟩ := List.forall_mem_cons.mp hfit
    rw [List.flatMap_cons, List.append_assoc] at hsame
    cases messages' with
    | nil => exact absurd hsame.symm (hne hm htail')
    | cons m' messages' =>
      obtain ⟨hm', hmessages'⟩ := List.forall_mem_cons.mp hfit'
      rw [List.flatMap_cons, List.append_assoc] at hsame
      obtain ⟨rfl, hrest⟩ := encode_append_inj hm hm' hsame
      obtain ⟨rfl, rfl⟩ := ih hrest hmessages hmessages'
      exact ⟨rfl, rfl⟩

/-- What a reader makes of frames and a tail. -/
theorem Framed.decode_eq (h : Framed bs messages tail) (abrupt : Bool) :
    decode ⟨bs, .clean, abrupt⟩ = (messages, complaint? tail) := by
  obtain ⟨messages', tail', hread, h'⟩ := decode_any bs abrupt
  obtain ⟨rfl, rfl⟩ := h.unique h'
  exact hread

/-! ## Messages that are too long -/

/-- A message that is too long for its header is the frame of its first octets, and more octets. -/
theorem encode_eq_append (message : Bytes) :
    encode message = encode (message.take (message.length % 2 ^ 32)) ++
      message.drop (message.length % 2 ^ 32) := by
  have hget : get (header message) = message.length % 2 ^ 32 := LittleEndian.get_put _ _
  have hlength : (message.take (message.length % 2 ^ 32)).length = get (header message) := by
    rw [hget, List.length_take_of_le (Nat.mod_le _ _)]
  rw [encode, encode, header_eq (length_header message) hlength, List.append_assoc,
    List.take_append_drop]

/-- **What may have been written of a frame**: nothing, or a frame that was cut off; of a message that
is too long for its header, also the frame of its first octets and more. -/
theorem beginning_cases (hhead : tail <+: encode message) (hne : tail ≠ encode message) :
    (tail = [] ∨ Cut tail) ∨
      2 ^ 32 ≤ message.length ∧ ∃ n < 2 ^ 32, ∃ rest, tail = encode (message.take n) ++ rest := by
  by_cases hnil : tail = []
  · exact .inl (.inl hnil)
  by_cases hfit : message.length < 2 ^ 32
  · exact .inl (.inr ⟨hnil, message, hfit, hhead, hne⟩)
  have hn : message.length % 2 ^ 32 < 2 ^ 32 := Nat.mod_lt _ (by decide)
  have hshort : (message.take (message.length % 2 ^ 32)).length < 2 ^ 32 :=
    Nat.lt_of_le_of_lt (List.length_take_le _ _) hn
  have hfirst : encode (message.take (message.length % 2 ^ 32)) <+: encode message :=
    ⟨_, (encode_eq_append message).symm⟩
  rcases List.prefix_or_prefix_of_prefix hfirst hhead with ⟨rest, hrest⟩ | hcut
  · exact .inr ⟨Nat.not_lt.mp hfit, _, hn, rest, hrest.symm⟩
  by_cases hwhole : tail = encode (message.take (message.length % 2 ^ 32))
  · exact .inr ⟨Nat.not_lt.mp hfit, _, hn, [], by rw [hwhole, List.append_nil]⟩
  · exact .inl (.inr ⟨hnil, _, hshort, hcut, hwhole⟩)

/-- **Where a message was too long for its header, a reader finds less of it.** -/
theorem exists_framed_of_overlong (h : ∃ m ∈ messages, 2 ^ 32 ≤ m.length) (tail : Bytes) :
    ∃ found tail', Framed (messages.flatMap encode ++ tail) found tail' ∧
      ∃ m ∈ messages, 2 ^ 32 ≤ m.length ∧ ∃ n < 2 ^ 32, m.take n ∈ found := by
  induction messages with
  | nil =>
    obtain ⟨m, hm, -⟩ := h
    cases hm
  | cons m messages ih =>
    rw [List.flatMap_cons, List.append_assoc]
    by_cases hfit : m.length < 2 ^ 32
    · have hlater : ∃ m ∈ messages, 2 ^ 32 ≤ m.length := by
        obtain ⟨m', hm', hlong⟩ := h
        rcases List.mem_cons.mp hm' with rfl | hm'
        · exact absurd hfit (Nat.not_lt.mpr hlong)
        · exact ⟨m', hm', hlong⟩
      obtain ⟨found, tail', hframed, m', hm', hlong, n, hn, hfound⟩ := ih hlater
      exact ⟨m :: found, tail', hframed.cons hfit, m', List.mem_cons_of_mem m hm', hlong, n, hn,
        List.mem_cons_of_mem m hfound⟩
    · have hn : m.length % 2 ^ 32 < 2 ^ 32 := Nat.mod_lt _ (by decide)
      have hhead : (m.take (m.length % 2 ^ 32)).length < 2 ^ 32 :=
        Nat.lt_of_le_of_lt (List.length_take_le _ _) hn
      rw [encode_eq_append, List.append_assoc]
      obtain ⟨found, tail', -, hframed⟩ :=
        decode_any (m.drop (m.length % 2 ^ 32) ++ (messages.flatMap encode ++ tail)) false
      exact ⟨_, tail', hframed.cons hhead, m, List.mem_cons_self, Nat.not_lt.mp hfit, _, hn,
        List.mem_cons_self⟩

end DetectorStream.Frame
