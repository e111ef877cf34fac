import DetectorStream.Delivery.Connect
import DetectorStream.Proofs.Batch.Tiling
import DetectorStream.Proofs.Delivery.ProducerSettings
import DetectorStream.Proofs.Flow.Position
import DetectorStream.Proofs.Settings.Rules
import DetectorStream.Run.Basic
import Mathlib.Order.Bounds.Basic

/-!
# Settings that serve a run

The parts of a run have checks of their own: the flow about the size of a message, the wire about the
format, the transport about its kind, and the copying about the number of copies. Settings that pass the
check of the settings pass all of these, for every batch.

* `Settings.isGreatest_messageSize`: a size in bytes is rounded down to whole events, and at least one.
* `Flow.Controller.make_isOk_iff`, `Format.ofName_isOk_iff`, `Delivery.connect_unknown_iff`,
  `Batch.amplify_refuses_iff`: what each part checks.
* `Settings.Serves`: settings that no part refuses.
* `Settings.serves_iff`: the same said about the settings alone.
* **`Settings.check_serves`**: settings that are accepted serve, and others are refused by the check.
-/

namespace DetectorStream

/-! ## The parts -/

theorem Flow.Controller.make_isOk_iff {total : Int64} {p : Params} (htotal : 0 ≤ total) :
    (∃ c, make total p = .ok c) ↔ 1 ≤ p.chunkSize := by
  refine ⟨?_, make_isOk htotal⟩
  rintro ⟨c, h⟩
  unfold make at h
  rw [if_neg (Int64.not_lt.mpr htotal)] at h
  split at h
  · cases h
  · rename_i hsize
    exact Int64.not_lt.mp hsize

theorem Format.ofName_isOk_iff {t : Text} :
    (∃ f, ofName t = .ok f) ↔ t = Text.ofString "ev42" ∨ t = Text.ofString "json" := by
  constructor
  · rintro ⟨f, h⟩
    unfold ofName at h
    split at h
    · rename_i hname
      exact .inl (beq_iff_eq.mp hname)
    split at h
    · rename_i hname
      exact .inr (beq_iff_eq.mp hname)
    · cases h
  · rintro (rfl | rfl)
    · exact ⟨.ev42, rfl⟩
    · exact ⟨.json, rfl⟩

namespace Delivery

/-- The complaint about a kind of transport that there is not. -/
def unknownKind (kind : Text) : Fault :=
  .report .configuration ("unknown transport kind " ++ Text.quote kind)

/-- What is wrong with the settings of a producer is not the kind of transport. -/
theorem Kafka.Producer.Refused.ne_unknownKind {s : TransportSettings} {f : Fault} {kind : Text}
    (h : Kafka.Producer.Refused s f) : f ≠ unknownKind kind := by
  -- the messages differ after the first few letters
  intro hsame
  have hmessage := congrArg (fun f : Fault => (f.first?.map Report.message).bind (·[8]?)) hsame
  have hletter : ((unknownKind kind).first?.map Report.message).bind (·[8]?) = some 0x74 := rfl
  rw [hletter] at hmessage
  cases h with
  | acks hacks =>
    cases (show some (0x61 : UInt8) = some 0x74 from hmessage)
  | packing hacks hpacking =>
    cases (show some (0x63 : UInt8) = some 0x74 from hmessage)
  | unguarded hacks hpacking hguarded hall =>
    cases (show some (0x6E : UInt8) = some 0x74 from hmessage)

theorem connectKafka_ne_unknownKind (reach : Option Fault) (s : TransportSettings) (kind : Text) :
    connectKafka reach s ≠ .error (unknownKind kind) := by
  intro h
  unfold connectKafka at h
  split at h
  · rename_i f hf
    cases h
    exact (Kafka.Producer.ofSettings_eq_error_iff.mp hf).ne_unknownKind rfl
  · split at h
    · cases h
    · cases h

theorem connectNats_ne_unknownKind (reach : Option Fault) (s : TransportSettings) (kind : Text) :
    connectNats reach s ≠ .error (unknownKind kind) := by
  intro h
  unfold connectNats at h
  dsimp only at h
  split at h
  · cases h
  · cases h

theorem connect_unknown_iff (reach : Reach) (s : TransportSettings) :
    connect reach s = .error (unknownKind s.kind) ↔ ¬ s.KnownKind := by
  unfold connect
  split
  · rename_i hkind
    exact ⟨fun h => absurd h (connectKafka_ne_unknownKind _ _ _),
      fun h => absurd (.inl (beq_iff_eq.mp hkind)) h⟩
  split
  · rename_i hkind
    exact ⟨fun h => absurd h (connectNats_ne_unknownKind _ _ _),
      fun h => absurd (.inr (.inl (beq_iff_eq.mp hkind))) h⟩
  split
  · rename_i hkind
    refine ⟨fun h => ?_, fun h => absurd (.inr (.inr (beq_iff_eq.mp hkind))) h⟩
    cases h
  · rename_i hkafka hnats hfile
    refine ⟨fun _ => ?_, fun _ => rfl⟩
    rintro (hkind | hkind | hkind)
    · exact hkafka (beq_iff_eq.mpr hkind)
    · exact hnats (beq_iff_eq.mpr hkind)
    · exact hfile (beq_iff_eq.mpr hkind)

end Delivery

/-- A number of copies is refused for the configuration exactly if it is not positive. -/
theorem Batch.amplify_refuses_iff {factor : Int64} :
    (∃ b a offset f, Batch.amplify b factor a offset = .error (.fault f) ∧ f.kind = .configuration) ↔
      factor.toInt < 1 := by
  constructor
  · rintro ⟨b, a, offset, f, h, hkind⟩
    by_contra hpos
    cases b with
    | released =>
      cases h
      cases hkind
    | live es =>
      have hanswer := amplify_answers a es (not_lt.mp hpos) offset
      rw [h] at hanswer
      cases hanswer with
      | refused _ _ hallocation => cases hkind.symm.trans hallocation
  · intro hlow
    exact ⟨.live #[], ⟨0⟩, 0, .report .configuration _, if_pos hlow, rfl⟩

namespace Settings

variable {s : Settings}

/-! ## The size of a message -/

theorem messageSize_toInt (hbytes : 0 < s.bytes) :
    s.messageSize.toInt = max 1 (s.bytes.toInt / 12) := by
  have hpos : 0 < s.bytes.toInt := Int64.lt_iff_toInt_lt.mp hbytes
  have hone : (1 : Int64).toInt = 1 := rfl
  have hdiv : (s.bytes / eventSize).toInt = s.bytes.toInt / 12 := by
    rw [Int64.toInt_div_of_ne_right _ _ (by decide)]
    exact Int.tdiv_eq_ediv_of_nonneg hpos.le
  unfold messageSize
  rw [if_pos hbytes]
  dsimp only
  split
  · rename_i hlow
    rw [Int64.lt_iff_toInt_lt] at hlow
    omega
  · rename_i hhigh
    rw [Int64.lt_iff_toInt_lt] at hhigh
    omega

/-- **A size in bytes stands for the largest number of events that fits it**, and for one where none
does. -/
theorem isGreatest_messageSize (hbytes : 0 < s.bytes) :
    IsGreatest {c : ℤ | 1 ≤ c ∧ 12 * c ≤ max s.bytes.toInt 12} s.messageSize.toInt := by
  rw [messageSize_toInt hbytes]
  refine ⟨⟨?_, ?_⟩, ?_⟩
  · omega
  · omega
  · rintro c ⟨hc, hfits⟩
    omega

/-! ## All parts -/

/-- **Settings that no part of a run refuses.** A batch has fewer than `2 ^ 63` events, as many as a
word counts. -/
structure Serves (s : Settings) : Prop where
  size : 1 ≤ s.messageSize
  flow : ∀ b : Batch, b.size < 2 ^ 63 →
    ∃ c, Flow.Controller.make (Int64.ofNat b.size) (Run.pacing s) = .ok c
  format : ∃ f, Format.ofName s.format = .ok f
  transport : ∀ reach, Delivery.connect reach s.transport ≠
    .error (Delivery.unknownKind s.transport.kind)
  copies : ∀ (b : Batch) a offset f, b.amplify s.multiplier a offset = .error (.fault f) →
    f.kind ≠ .configuration

/-- **What settings must be like for that.** -/
theorem serves_iff : s.Serves ↔ 1 ≤ s.messageSize ∧
    (s.format = Text.ofString "ev42" ∨ s.format = Text.ofString "json") ∧ s.transport.KnownKind ∧
      1 ≤ s.multiplier.toInt := by
  have hcopies : (∀ (b : Batch) a offset f, b.amplify s.multiplier a offset = .error (.fault f) →
      f.kind ≠ .configuration) ↔ 1 ≤ s.multiplier.toInt := by
    rw [← not_lt, ← Batch.amplify_refuses_iff]
    push Not
    rfl
  constructor
  · intro h
    refine ⟨h.size, Format.ofName_isOk_iff.mp h.format, ?_, hcopies.mp h.copies⟩
    by_contra hunknown
    exact h.transport {} ((Delivery.connect_unknown_iff {} _).mpr hunknown)
  · rintro ⟨hsize, hformat, hkind, hmultiplier⟩
    refine ⟨hsize, fun b hb => ?_, Format.ofName_isOk_iff.mpr hformat, fun reach hconnect => ?_,
      hcopies.mpr hmultiplier⟩
    · have htotal : 0 ≤ Int64.ofNat b.size := by
        rw [Int64.le_iff_toInt_le, Int64.toInt_ofNat_of_lt hb]
        exact Int.natCast_nonneg _
      exact (Flow.Controller.make_isOk_iff htotal).mpr hsize
    · exact (Delivery.connect_unknown_iff reach _).mp hconnect hkind

/-- Settings that obey the rules ask for messages of one event at least. -/
theorem Obeys.one_le_messageSize (h : s.Obeys) : 1 ≤ s.messageSize := by
  by_cases hbytes : 0 < s.bytes
  · rw [Int64.le_iff_toInt_le, messageSize_toInt hbytes]
    exact le_max_left _ _
  · have hzero : s.bytes = 0 := by
      have hlow := h.bytes
      rw [Int64.lt_iff_toInt_lt] at hbytes hlow
      exact Int64.toInt.inj (by omega)
    unfold messageSize
    rw [if_neg hbytes]
    exact Int64.not_lt.mp (h.eventsPerMessage hzero)

theorem Obeys.serves (h : s.Obeys) : s.Serves :=
  serves_iff.mpr ⟨h.one_le_messageSize, h.format, h.transport.kind,
    Int64.le_iff_toInt_le.mp (Int64.not_lt.mp h.multiplier)⟩

/-- **Settings that the check accepts serve a run with every batch**, and the check refuses all others.
It begins with the conflict between the two ways to size a run. -/
theorem check_serves (s : Settings) :
    (s.check = .ok () → s.Serves ∧ (0 < s.bytes →
      IsGreatest {c : ℤ | 1 ≤ c ∧ 12 * c ≤ max s.bytes.toInt 12} s.messageSize.toInt)) ∧
    (¬ s.Serves → ∃ f, s.check = .error f ∧ f.kind = .configuration) ∧
    (0 < s.bytes → 1 < s.multiplier → s.check = .error s.conflict) := by
  refine ⟨fun hcheck => ⟨(check_eq_ok_iff.mp hcheck).serves, isGreatest_messageSize⟩,
    fun hserves => ?_, check_conflict⟩
  cases hcheck : s.check with
  | error f => exact ⟨f, rfl, s.check_kind f hcheck⟩
  | ok _ => exact absurd (check_eq_ok_iff.mp hcheck).serves hserves

/-- Settings that fill messages with two and a half events of twelve octets. -/
def thirtyOctets : Settings :=
  { source := "in.nev", bytes := 30, transport := { topic := "t" } }

/-- They are accepted, and a message holds two events. -/
theorem check_serves_thirty_octets : thirtyOctets.check = .ok () ∧ thirtyOctets.Serves ∧
    IsGreatest {c : ℤ | 1 ≤ c ∧ 12 * c ≤ max 30 12} 2 := by
  have hcheck : thirtyOctets.check = .ok () := by decide +kernel
  obtain ⟨hserves, hgreatest⟩ := (check_serves thirtyOctets).1 hcheck
  exact ⟨hcheck, hserves, hgreatest (by decide)⟩

end Settings

end DetectorStream
