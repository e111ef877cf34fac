import DetectorStream.Delivery.FileSink
import DetectorStream.Delivery.Retry
import DetectorStream.Proofs.Files.Writing
import DetectorStream.Proofs.Octets.Reading
import Mathlib.Tactic.SplitIfs

/-!
# Frames in a file

A sink appends each message to the file of its path as a frame, and a reader of the file finds the
messages again, in order.

* **`Frame.decode_frames`**: frames that stand one after the other are read back.
* **`FileSink.Open.writeFrame_taken`**: a file grows by what the disk takes of a frame, however much
  that is.
* `FileSink.Holds`: what a sink has written to a path, whether the file is open or not yet there.
* **`FileSink.Holds.write`**: a message that is written is added as a frame;
  `FileSink.Holds.write_fails`: one that is not may leave a beginning of its frame.
* `FileSink.withRetry_send`: a sink is never asked twice.
-/

namespace DetectorStream

/-! ## Frames -/

namespace Frame

variable {message : Bytes} {messages : List Bytes}

theorem get_header (h : message.length < 2 ^ 32) :
    LittleEndian.get (header message) = message.length := by
  unfold header headerSize
  rw [LittleEndian.get_put]
  exact Nat.mod_eq_of_lt h

theorem length_header (message : Bytes) : (header message).length = headerSize :=
  LittleEndian.length_put _ _

theorem length_encode (message : Bytes) :
    (encode message).length = headerSize + message.length := by
  rw [encode, List.length_append, length_header]

theorem encode_ne_nil (message : Bytes) : encode message ≠ [] := by
  intro hnil
  have hlength := length_header message
  rw [(List.append_eq_nil_iff.mp hnil).1] at hlength
  cases hlength

/-- A whole frame is read, and the stream goes on behind it. -/
theorem decodeOnto_frame (abrupt : Bool) (fuel : Nat) (acc : List Bytes) (rest : Bytes)
    (hfit : message.length < 2 ^ 32) :
    decodeOnto (fuel + 1) acc ⟨encode message ++ rest, .clean, abrupt⟩ =
      decodeOnto fuel (message :: acc) ⟨rest, .clean, abrupt⟩ := by
  have hheader := Stream.readFull_append ⟨[], .clean, abrupt⟩ (header message) (message ++ rest)
  have hmessage := Stream.readFull_append ⟨[], .clean, abrupt⟩ message rest
  rw [length_header] at hheader
  rw [encode, List.append_assoc, decodeOnto, hheader]
  simp only [get_header hfit, hmessage]

/-- The messages of frames are read onto those read before. -/
theorem decodeOnto_frames (h : ∀ m ∈ messages, m.length < 2 ^ 32) {fuel : Nat}
    (hfuel : messages.length < fuel) (acc : List Bytes) (abrupt : Bool) :
    decodeOnto fuel acc ⟨messages.flatMap encode, .clean, abrupt⟩ =
      (acc.reverse ++ messages, none) := by
  induction messages generalizing fuel acc with
  | nil =>
    cases fuel with
    | zero => cases hfuel
    | succ fuel => rw [List.append_nil]; rfl
  | cons m messages ih =>
    obtain ⟨hm, hmessages⟩ := List.forall_mem_cons.mp h
    cases fuel with
    | zero => cases hfuel
    | succ fuel =>
      rw [List.flatMap_cons, decodeOnto_frame abrupt fuel acc _ hm,
        ih hmessages (Nat.lt_of_succ_lt_succ hfuel), List.reverse_cons, List.append_assoc]
      rfl

/-- A frame is longer than nothing. -/
theorem length_le_frames (messages : List Bytes) :
    messages.length ≤ (messages.flatMap encode).length := by
  induction messages with
  | nil => exact Nat.le_refl 0
  | cons m messages ih =>
    rw [List.flatMap_cons, List.length_append, List.length_cons, encode, List.length_append,
      length_header, headerSize]
    omega

/-- **Frames that stand one after the other are read back**, if the length of each message fits into
its header. -/
theorem decode_frames (h : ∀ m ∈ messages, m.length < 2 ^ 32) (abrupt : Bool) :
    decode ⟨messages.flatMap encode, .clean, abrupt⟩ = (messages, none) :=
  decodeOnto_frames h (Nat.lt_succ_of_le (length_le_frames messages)) [] abrupt

end Frame

/-! ## The sink -/

namespace Delivery.FileSink

open Files (taken taken_isPrefix taken_eq_iff taken_append_of_short taken_append_of_whole)

variable {s s' : FileSink} {path k : Text} {contents message : Bytes} {room : Option Nat}

/-- The file of a path is open. -/
structure Open (s : FileSink) (path k : Text) (contents : Bytes) : Prop where
  opened_eq : s.opened.lookup path = some k
  keeps : s.files.Keeps path k contents

/-- **What a sink holds for a path**: the contents of a file that is open, or of one that it would
open. -/
inductive Holds (s : FileSink) (path : Text) (contents : Bytes) : Prop
  | unopened (opened_eq : s.opened.lookup path = none) (found : s.files.Contents path contents)
  | opened (k : Text) (isOpen : s.Open path k contents)

theorem Holds.found (h : s.Holds path contents) : s.files.Contents path contents := by
  cases h with
  | unopened _ found => exact found
  | opened k isOpen => exact Or.inl isOpen.keeps.node_eq

theorem Holds.ensureOpen (h : s.Holds path contents) (hopen : s.ensureOpen path = .ok (k, s')) :
    s'.Open path k contents ∧ s.files.key path = .ok k := by
  unfold FileSink.ensureOpen at hopen
  cases h with
  | unopened opened_eq found =>
    rw [opened_eq] at hopen
    simp only at hopen
    split at hopen
    · cases hopen
    · rename_i key fs hfiles
      cases hopen
      exact ⟨⟨List.lookup_cons_self, found.openToWrite hfiles⟩, (Files.openToWrite_eq_ok hfiles).1⟩
  | opened j isOpen =>
    rw [isOpen.opened_eq] at hopen
    cases hopen
    exact ⟨isOpen, isOpen.keeps.key_eq⟩

/-- What writing a frame complains about when the disk takes so many octets of it. -/
def shortage? (path : Text) (message : Bytes) (n : Nat) : Option Fault :=
  if n < Frame.headerSize then
    some (failed "failed to write frame header" path (Errno.noSpace.fault "write" path))
  else if n < (Frame.encode message).length then
    some (failed "failed to write frame" path (Errno.noSpace.fault "write" path))
  else none

/-- There is no complaint exactly if the whole frame was taken. -/
theorem shortage?_eq_none :
    shortage? path message (taken room (Frame.encode message)).length = none ↔
      taken room (Frame.encode message) = Frame.encode message := by
  have hlength := Frame.length_encode message
  rw [taken_eq_iff]
  unfold shortage?
  split_ifs with hheader hbody
  · exact ⟨nofun, fun _ => by omega⟩
  · exact ⟨nofun, fun _ => by omega⟩
  · exact ⟨fun _ => by omega, fun _ => rfl⟩

/-- The two writes of a frame: the message is written if the header was. -/
theorem writeFrame_eq (s : FileSink) (k path : Text) (message : Bytes) :
    s.writeFrame k path message =
      let h := s.files.append k path (Frame.header message)
      let m := h.1.append k path message
      match h.2 with
      | some f => ({ s with files := h.1 }, some (failed "failed to write frame header" path f))
      | none => ({ s with files := m.1 }, m.2.map (failed "failed to write frame" path)) := by
  unfold FileSink.writeFrame
  rcases s.files.append k path (Frame.header message) with ⟨fs, fault⟩
  cases fault with
  | some f => rfl
  | none =>
    simp only
    rcases fs.append k path message with ⟨fs', fault'⟩
    cases fault' <;> rfl

/-- **A file grows by what the disk takes of a frame**, and the write complains unless that is the
whole frame. -/
theorem Open.writeFrame_taken (h : s.Open path k contents) (message : Bytes) :
    (s.writeFrame k path message).1.Open path k
        (contents ++ taken s.files.room (Frame.encode message)) ∧
      (s.writeFrame k path message).1.files.room =
        s.files.room.map (· - (taken s.files.room (Frame.encode message)).length) ∧
      (s.writeFrame k path message).2 =
        shortage? path message (taken s.files.room (Frame.encode message)).length := by
  obtain ⟨hkeeps, hroom, hfault⟩ := h.keeps.append_taken (Frame.header message)
  rw [Frame.length_header] at hfault
  rw [writeFrame_eq]
  by_cases hshort : (taken s.files.room (Frame.header message)).length < Frame.headerSize
  · -- the header is cut short, and the message is not begun
    have hframe : taken s.files.room (Frame.encode message) =
        taken s.files.room (Frame.header message) :=
      taken_append_of_short (by rwa [Frame.length_header]) message
    rw [if_pos hshort] at hfault
    rw [hframe, shortage?, if_pos hshort]
    simp only [hfault]
    exact ⟨⟨h.opened_eq, hkeeps⟩, hroom, trivial⟩
  · have hwhole : taken s.files.room (Frame.header message) = Frame.header message := by
      rw [taken_eq_iff, Frame.length_header]
      omega
    rw [if_neg hshort] at hfault
    rw [hwhole] at hkeeps hroom
    obtain ⟨hkeeps', hroom', hfault'⟩ := hkeeps.append_taken message
    have hframe := taken_append_of_whole hwhole message
    rw [← hroom, ← Frame.encode] at hframe
    have hlength := congrArg List.length hframe
    rw [List.length_append, Frame.length_header] at hlength
    rw [List.append_assoc, ← hframe] at hkeeps'
    simp only [hfault, hfault']
    refine ⟨⟨h.opened_eq, hkeeps'⟩, ?_, ?_⟩
    · rw [hlength, hroom', hroom, Option.map_map, Frame.length_header]
      exact congrArg (fun f => Option.map f s.files.room) (funext fun r => Nat.sub_sub r _ _)
    · rw [shortage?, hlength, Frame.length_encode,
        if_neg (Nat.not_lt.mpr (Nat.le_add_right Frame.headerSize _))]
      simp only [Nat.add_lt_add_iff_left]
      split_ifs <;> rfl

theorem Open.writeFrame (h : s.Open path k contents)
    (hwrite : s.writeFrame k path message = (s', none)) :
    s'.Open path k (contents ++ Frame.encode message) := by
  obtain ⟨hopen, -, hfault⟩ := h.writeFrame_taken message
  rw [hwrite] at hopen hfault
  rwa [shortage?_eq_none.mp hfault.symm] at hopen

/-- **A message that is written to a file is added as a frame**, under the key that the path was
followed to before. -/
theorem Holds.write (h : s.Holds path contents) (hpath : path ≠ standardOutput)
    (hwrite : s.write path message = (s', none)) :
    ∃ k, s'.Open path k (contents ++ Frame.encode message) ∧ s.files.key path = .ok k := by
  unfold FileSink.write at hwrite
  rw [if_neg (by simpa using hpath)] at hwrite
  split at hwrite
  · cases hwrite
  · rename_i k s₁ hopen
    obtain ⟨hfile, hkey⟩ := h.ensureOpen hopen
    exact ⟨k, hfile.writeFrame hwrite, hkey⟩

/-- A frame that is not written leaves a beginning of it that lacks something. -/
theorem Open.writeFrame_fails {f : Fault} (h : s.Open path k contents)
    (hwrite : s.writeFrame k path message = (s', some f)) :
    ∃ torn, torn <+: Frame.encode message ∧ torn ≠ Frame.encode message ∧
      s'.Open path k (contents ++ torn) := by
  obtain ⟨hopen, -, hfault⟩ := h.writeFrame_taken message
  rw [hwrite] at hopen hfault
  refine ⟨_, taken_isPrefix _ _, fun hwhole => ?_, hopen⟩
  rw [shortage?_eq_none.mpr hwhole] at hfault
  cases hfault

/-- **A message that is not written leaves a beginning of its frame**, or nothing. -/
theorem Holds.write_fails {f : Fault} (h : s.Holds path contents) (hpath : path ≠ standardOutput)
    (hwrite : s.write path message = (s', some f)) :
    ∃ torn, torn <+: Frame.encode message ∧ torn ≠ Frame.encode message ∧
      s'.Holds path (contents ++ torn) := by
  unfold FileSink.write at hwrite
  rw [if_neg (by simpa using hpath)] at hwrite
  split at hwrite
  · cases hwrite
    exact ⟨[], List.nil_prefix, (Frame.encode_ne_nil message).symm, by rwa [List.append_nil]⟩
  · rename_i k s₁ hopen
    obtain ⟨hfile, -⟩ := h.ensureOpen hopen
    obtain ⟨torn, htorn, hne, hopened⟩ := hfile.writeFrame_fails hwrite
    exact ⟨torn, htorn, hne, .opened k hopened⟩

/-- A message that is sent was written. -/
theorem write_of_send {ctx : Context} (h : (send ctx path message s).fault = none) :
    s.write path message = ((send ctx path message s).state, none) := by
  unfold send at h ⊢
  cases hctx : cancelled? ctx with
  | some f =>
    rw [hctx] at h
    cases h
  | none =>
    rw [hctx] at h
    exact Prod.ext rfl h

/-! ## Retries -/

/-- No failure to send to a file has a retry hint. -/
theorem isRetryable_send {ctx : Context} {f : Fault}
    (h : (send ctx path message s).fault = some f) : f.isRetryable = false := by
  unfold send at h
  split at h
  · rename_i f' hctx
    cases h
    obtain ⟨cause, -, rfl⟩ := Option.map_eq_some_iff.mp hctx
    rfl
  · simp only at h
    unfold write at h
    split at h
    · cases h
    split at h
    · rename_i f' hopen
      cases h
      unfold ensureOpen at hopen
      split at hopen
      · cases hopen
      · split at hopen
        · cases hopen
          rfl
        · cases hopen
    · unfold writeFrame at h
      split at h
      · cases h
        rfl
      split at h
      · cases h
        rfl
      · cases h

/-- **A sink is never asked twice**, however often a message may be offered. -/
theorem withRetry_send (p : Policy) (chance : Nat → Chance) : send.withRetry p chance = send := by
  funext ctx path message s
  unfold Transmitter.withRetry Transmitter.offer
  cases hfault : (send ctx path message s).fault with
  | none => simp only [hfault]
  | some f => simp only [hfault, isRetryable_send hfault, Bool.false_eq_true, if_false]

end Delivery.FileSink

end DetectorStream
