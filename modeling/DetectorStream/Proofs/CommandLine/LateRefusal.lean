import DetectorStream.Proofs.CommandLine.Encode
import DetectorStream.Proofs.Run.Accepted

/-!
# Producer settings that are refused late

The check of the settings does not look at what is for the producer alone. So a run over Kafka whose
producer cannot be set up gets past the check and acquires its events, and only then fails; where the
source fails as well, the complaint about the producer is never made.

* `sourced`: what a run acquires.
* `Settings.check_withProducer`: the check says nothing about the settings of a producer.
* `checked_refused`, `stream_refused`: how a run ends whose producer cannot be set up.
* **`producer_refused_late`**: all of this for settings that the check accepts.
* **`accepted_not_valid`**: the check accepts settings from which no producer can be set up.
-/

namespace DetectorStream

open Delivery.Kafka (Producer)

/-- Settings with other settings of the producer. -/
def Settings.withProducer (cfg : Settings) (acks compression : Text) (idempotent : Bool) : Settings :=
  { cfg with transport :=
      { cfg.transport with acks := acks, compression := compression, idempotent := idempotent } }

/-- **The check says nothing about the settings of a producer.** -/
theorem Settings.check_withProducer (cfg : Settings) (acks compression : Text) (idempotent : Bool) :
    (cfg.withProducer acks compression idempotent).check = cfg.check := rfl

namespace CommandLine

variable {s : Session} {cfg : Settings} {f : Fault} {b : Batch}

/-- The events that a run acquires, and the entries made on the way. -/
def sourced (s : Session) (cfg : Settings) : Except Stop Batch × List Log.Entry :=
  Source.acquire { s.host.origins with files := s.host.files } none s.host.memory cfg

/-- A producer that cannot be set up is no endpoint. -/
theorem connect_refused {reach : Delivery.Reach} (hkind : cfg.transport.kind = "kafka")
    (hrefused : Producer.Refused cfg.transport f) :
    Delivery.connect reach cfg.transport = .error f := by
  unfold Delivery.connect Delivery.connectKafka
  rw [hkind, hrefused.ofSettings]
  rfl

theorem connected_refused (hkind : cfg.transport.kind = "kafka") (hcheck : cfg.check = .ok ())
    (hrefused : Producer.Refused cfg.transport f) (b : Batch) :
    (connected s cfg b).report = .error (.fault f) := by
  obtain ⟨format, hformat⟩ :=
    Format.ofName_isOk_iff.mpr (Settings.check_eq_ok_iff.mp hcheck).format
  unfold connected
  rw [hformat, connect_refused hkind hrefused]
  rfl

/-- **How a run ends whose producer cannot be set up**: with the failure of its source, or else with
the complaint about the producer. What is logged about the source comes first. -/
theorem checked_refused (hkind : cfg.transport.kind = "kafka") (hcheck : cfg.check = .ok ())
    (hrefused : Producer.Refused cfg.transport f) :
    (checked s cfg).report = ((sourced s cfg).1.bind fun _ => .error (.fault f)) ∧
      (sourced s cfg).2 <+: (checked s cfg).entries := by
  have hchecked : checked s cfg = acquired s cfg := by
    unfold checked
    rw [hcheck]
  rw [hchecked]
  unfold acquired sourced
  dsimp only
  split
  · rename_i e entries hacquire
    rw [hacquire]
    exact ⟨rfl, List.prefix_append _ _⟩
  · rename_i b entries hacquire
    rw [hacquire]
    exact ⟨connected_refused hkind hcheck hrefused b, List.prefix_append _ _⟩

/-- A run with its log ends like one without. -/
theorem stream_report {style : Log.Style} {fs : Files} {outputs : List Log.Output}
    (hstyle : Log.Style.ofSettings cfg.log = .ok style)
    (houtputs : Log.outputs s.host.files cfg.log = (fs, .ok outputs)) :
    (stream s cfg).2 = (checked (s.withFiles fs) cfg).report := by
  unfold stream
  rw [hstyle, houtputs]

/-- **Producer settings are looked at late.** -/
theorem producer_refused_late (hkind : cfg.transport.kind = "kafka") (hcheck : cfg.check = .ok ()) :
    ((∃ p, Producer.ofSettings cfg.transport = .ok p) ↔ Producer.Valid cfg.transport) ∧
    (∀ f, Producer.ofSettings cfg.transport = .error f ↔ Producer.Refused cfg.transport f) ∧
    (∀ acks compression idempotent,
      (cfg.withProducer acks compression idempotent).check = .ok ()) ∧
    ∀ f, Producer.Refused cfg.transport f → ∀ s style fs outputs,
      Log.Style.ofSettings cfg.log = .ok style →
        Log.outputs s.host.files cfg.log = (fs, .ok outputs) →
          (stream s cfg).2 = ((sourced (s.withFiles fs) cfg).1.bind fun _ => .error (.fault f)) ∧
            (sourced (s.withFiles fs) cfg).2 <+: (checked (s.withFiles fs) cfg).entries := by
  refine ⟨Producer.ofSettings_isOk_iff, fun f => Producer.ofSettings_eq_error_iff,
    fun acks compression idempotent =>
      (cfg.check_withProducer acks compression idempotent).trans hcheck,
    fun f hrefused s style fs outputs hstyle houtputs => ?_⟩
  rw [stream_report hstyle houtputs]
  exact checked_refused hkind hcheck hrefused

/-- Settings with a number of confirmations that means nothing. -/
def twoAcks (source : Text) : Settings :=
  { source := source, transport := { topic := "t", acks := "2" } }

/-- With events at hand such a run ends with the complaint; without them it does not come to that. -/
theorem producer_refused_late_two :
    (stream oneEvent (twoAcks "in.nev")).2 =
        .error (.fault (Delivery.Kafka.Acks.complaint "2")) ∧
      ∃ f, (stream oneEvent (twoAcks "absent.nev")).2 = .error (.fault f) ∧
        f.kind = .sourceUnavailable := by
  have hlate (source : Text) (hcheck : (twoAcks source).check = .ok ()) :
      (stream oneEvent (twoAcks source)).2 = ((sourced oneEvent (twoAcks source)).1.bind fun _ =>
        .error (.fault (Delivery.Kafka.Acks.complaint "2"))) := by
    obtain ⟨-, hrefused, -, hends⟩ := @producer_refused_late (twoAcks source) rfl hcheck
    exact (hends _ ((hrefused _).mp rfl) oneEvent _ _ _ rfl rfl).1
  have hevents : (sourced oneEvent (twoAcks "in.nev")).1 = .ok (.live #[⟨1, 10⟩]) := by
    decide +kernel
  have habsent : (sourced oneEvent (twoAcks "absent.nev")).1 = .error (Source.unavailable
      (Errno.noEntry.fault "open" "absent.nev") "source file does not exist" "absent.nev") := by
    decide +kernel
  rw [hlate _ (by decide +kernel), hlate _ (by decide +kernel), hevents, habsent]
  exact ⟨rfl, _, rfl, rfl⟩

/-- **The check accepts settings from which no producer can be set up.** -/
theorem accepted_not_valid : ¬ ∀ cfg : Settings, cfg.transport.kind = "kafka" →
    cfg.check = .ok () → ∀ f, Producer.ofSettings cfg.transport ≠ .error f := by
  intro h
  exact h (twoAcks "in.nev") rfl (by decide +kernel) _ rfl

end CommandLine

end DetectorStream
