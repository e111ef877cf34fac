import DetectorStream.Settings.Basic

/-!
# The rules of the settings

A check names the first rule that is broken. So it passes exactly for settings that break none.

* `TransportSettings.Obeys`, `Settings.Obeys`: the rules, each by itself.
* **`TransportSettings.check_eq_ok_iff`**, **`Settings.check_eq_ok_iff`**: the check passes exactly for
  settings that obey them.
* `Settings.check_kind`: whatever else the check finds is a fault of the configuration.
* `Settings.check_conflict`: which fault comes first.
-/

namespace DetectorStream

variable {c : Prop} [Decidable c] {f : Fault} {r : Except Fault Unit}

/-! ## One rule -/

/-- A check passes exactly if its first rule is kept and the others pass. -/
theorem rule_eq_ok_iff : (if c then .error f else r) = .ok () ↔ ¬c ∧ r = .ok () := by
  by_cases hc : c <;> simp [hc]

/-- Whatever a check rejects, it rejects for the configuration. -/
def BlamesConfiguration (r : Except Fault Unit) : Prop :=
  ∀ f, r = .error f → f.kind = .configuration

/-- One rule more. -/
theorem BlamesConfiguration.rule (hf : f.kind = .configuration) (hr : BlamesConfiguration r) :
    BlamesConfiguration (if c then .error f else r) := by
  intro e he
  split at he
  · cases he
    exact hf
  · exact hr e he

/-! ## The transport -/

namespace TransportSettings

variable {t : TransportSettings}

/-- A kind of transport that there is. -/
def KnownKind (t : TransportSettings) : Prop :=
  t.kind = Text.ofString "kafka" ∨ t.kind = Text.ofString "nats" ∨ t.kind = Text.ofString "file"

/-- The rules of the transport. -/
structure Obeys (t : TransportSettings) : Prop where
  topic : t.topic ≠ []
  brokers : t.kind = Text.ofString "kafka" ∨ t.kind = Text.ofString "nats" → t.brokers ≠ []
  kind : t.KnownKind
  retries : ¬ t.retries < 0
  timeout : ¬ t.timeout < 0
  retryBackoff : ¬ t.retryBackoff < 0
  maxRetryBackoff : ¬ t.maxRetryBackoff < 0

/-- **The check of a transport passes exactly if it obeys the rules.** -/
theorem check_eq_ok_iff : t.check = .ok () ↔ t.Obeys := by
  simp only [check, rule_eq_ok_iff, and_true, Bool.not_eq_true', Bool.not_eq_false,
    Bool.and_eq_true, Bool.or_eq_true, beq_iff_eq, decide_eq_true_eq, List.isEmpty_iff, not_and,
    not_or, or_assoc]
  constructor
  · rintro ⟨htopic, hbrokers, hkind, hretries, htimeout, hbackoff, hmax⟩
    exact ⟨htopic, hbrokers, hkind, hretries, htimeout, hbackoff, hmax⟩
  · intro h
    exact ⟨h.topic, h.brokers, h.kind, h.retries, h.timeout, h.retryBackoff, h.maxRetryBackoff⟩

/-- Whatever rule a transport breaks, the fault is one of the configuration. -/
theorem check_kind (t : TransportSettings) : BlamesConfiguration t.check := by
  unfold check
  repeat refine .rule rfl ?_
  exact nofun

end TransportSettings

/-! ## The settings -/

namespace Settings

variable {s : Settings}

/-- The rules of the settings. -/
structure Obeys (s : Settings) : Prop where
  sizing : 0 < s.bytes → ¬ 1 < s.multiplier
  source : s.source ≠ []
  multiplier : ¬ s.multiplier < 1
  bytes : ¬ s.bytes < 0
  eventsPerMessage : s.bytes = 0 → ¬ s.flow.eventsPerMessage < 1
  passes : ¬ s.flow.passes < 1
  delay : ¬ s.flow.delay < 0
  duration : ¬ s.flow.duration < 0
  reportInterval : ¬ s.reportInterval < 0
  rate : ¬ s.flow.rate < 0
  memoryLimit : ¬ s.memoryLimit < 0
  format : s.format = Text.ofString "ev42" ∨ s.format = Text.ofString "json"
  transport : s.transport.Obeys

/-- **The check of settings passes exactly if they obey the rules.** -/
theorem check_eq_ok_iff : s.check = .ok () ↔ s.Obeys := by
  simp only [check, rule_eq_ok_iff, TransportSettings.check_eq_ok_iff, Bool.not_eq_true',
    Bool.not_eq_false, Bool.and_eq_true, Bool.or_eq_true, beq_iff_eq, decide_eq_true_eq,
    List.isEmpty_iff, not_and, not_or, or_assoc, and_assoc]
  constructor
  · rintro ⟨hsizing, hsource, hmultiplier, hbytes, hevents, hpasses, hdelay, hduration, hreport,
      hrate, hmemory, hformat, htransport⟩
    exact ⟨hsizing, hsource, hmultiplier, hbytes, hevents, hpasses, hdelay, hduration, hreport,
      hrate, hmemory, hformat, htransport⟩
  · intro h
    exact ⟨h.sizing, h.source, h.multiplier, h.bytes, h.eventsPerMessage, h.passes, h.delay,
      h.duration, h.reportInterval, h.rate, h.memoryLimit, h.format, h.transport⟩

/-- Whatever rule settings break, the fault is one of the configuration. -/
theorem check_kind (s : Settings) : BlamesConfiguration s.check := by
  have htransport := s.transport.check_kind
  unfold check
  generalize s.transport.check = r at htransport ⊢
  repeat refine .rule rfl ?_
  exact htransport

/-- The complaint about settings that size a run in two ways. -/
def conflict (s : Settings) : Fault :=
  (broken "conflict between parameters `bytes` and `multiplier`").withDetail "bytes"
    (.number s.bytes.toInt) |>.withDetail "multiplier" (.number s.multiplier.toInt)

/-- **Two ways to size a run are the first complaint**, whatever else is wrong. -/
theorem check_conflict (hbytes : 0 < s.bytes) (hmultiplier : 1 < s.multiplier) :
    s.check = .error s.conflict := by
  unfold check
  rw [if_pos (by rw [decide_eq_true hbytes, decide_eq_true hmultiplier]; rfl)]
  rfl

end Settings

end DetectorStream
