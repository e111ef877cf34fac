import DetectorStream.Proofs.Source.Acquisition
import DetectorStream.Proofs.Source.Synthetic

/-!
# Keeping to a limit

Every way to a batch under a limit asks for as many events as it needs, in exact numbers: what comes
out keeps to the limit, what does not keep to it is refused, and what keeps to it is not. A request
that keeps to the limit may still be more than a column can address, and then it is a crash.

* `Source.KeepsTo`: a result that keeps to a limit.
* `Source.Offered`: settings that lead to a well-formed source of given events.
* `Source.Limited`: what it takes for every way to a batch to keep to a limit.
* **`Source.requests_keep_to_limit`**: every way to a batch keeps to its limit, except that an
  acquisition crashes over a source that keeps to the limit and that no column can address.
* `Source.acquire_crashes_beyond_limit`: that happens also if the copies do not keep to the limit.
-/

namespace DetectorStream.Source

variable {σ : Type} {openers : Openers σ} {a host : Allocator} {given : Option Allocator}
  {s : Settings} {w : σ} {es : Array Event} {r : Resource} {stream : Stream} {layout : Layout}

/-- **A result that keeps to a limit of so many octets**, where `n` events are needed. All numbers
are exact. -/
structure KeepsTo (limit n : Int) (result : Except Stop Batch) : Prop where
  /-- What is returned are the events that are needed, and they keep to the limit. -/
  within : ∀ b, result = .ok b → (b.size : Int) = n ∧ 12 * (b.size : Int) ≤ limit
  /-- What does not keep to the limit is refused. -/
  refused : limit < 12 * n → ∃ f, result = .error (.fault f) ∧ f.kind = .allocation
  /-- What keeps to the limit is granted, or is more than a column can address. -/
  granted : 0 ≤ n → 12 * n ≤ limit →
    (∃ b, result = .ok b) ∨ Allocator.maxColumn < n ∧ result = .error .crash

/-- The answer to a request keeps to the limit. -/
theorem KeepsTo.of_answers (ha : 0 < a.limit.toInt) {n : Int} {Right : Batch → Prop}
    {result : Except Stop Batch} (h : a.Answers n Right result)
    (hsize : ∀ b, Right b → (b.size : Int) = n) : KeepsTo a.limit.toInt n result := by
  have hfits : a.Fits n ↔ 0 ≤ n ∧ 12 * n ≤ a.limit.toInt := Allocator.fits_iff ha
  cases h with
  | granted b fits addressed right =>
    refine ⟨?_, ?_, fun _ _ => Or.inl ⟨b, rfl⟩⟩
    · rintro b' heq
      cases heq
      rw [hsize b right]
      exact ⟨rfl, (hfits.mp fits).2⟩
    · intro hlimit
      have hle := (hfits.mp fits).2
      omega
  | refused f misfit kind =>
    refine ⟨nofun, fun _ => ⟨f, rfl, kind⟩, fun hn hle => ?_⟩
    exact absurd (hfits.mpr ⟨hn, hle⟩) misfit
  | crashed fits beyond =>
    refine ⟨nofun, fun hlimit => ?_, fun _ _ => Or.inr ⟨beyond, rfl⟩⟩
    have hle := (hfits.mp fits).2
    omega

/-- So does the answer to a request for given events. -/
theorem KeepsTo.of_live (ha : 0 < a.limit.toInt) {n : Int} {result : Except Stop Batch}
    (h : a.Answers n (fun b => b = .live es) result) (hn : (es.size : Int) = n) :
    KeepsTo a.limit.toInt n result := by
  refine .of_answers ha h fun b hb => ?_
  rw [hb, ← hn]
  rfl

/-! ## Acquisitions -/

/-- **Settings that lead to a well-formed source of the events.** -/
structure Offered (openers : Openers σ) (s : Settings) (w : σ) (es : Array Event) : Prop where
  check : s.check = .ok ()
  source : ∃ u opener r, Locator.ofIdentifier s.source = .ok u ∧
    openers u.scheme = some opener ∧ (opener u w).1 = .ok r ∧ r.Holds es

/-- What is acquired from such a source comes of what the opener returned. -/
theorem Offered.decoded (h : Offered openers s w es) (given : Option Allocator)
    (host : Allocator) : ∃ r : Resource, r.Holds es ∧
      Decoded (allocatorFor given host s) s (.ok r) (acquireFrom openers given host s w).1.1 := by
  obtain ⟨u, opener, r, hid, hopener, hopen, hholds⟩ := h.source
  refine ⟨r, hholds, ?_⟩
  have hacquired := acquireFrom_acquired openers given host s w
  generalize (acquireFrom openers given host s w).1.1 = result at hacquired ⊢
  generalize (acquireFrom openers given host s w).2 = w' at hacquired
  cases hacquired with
  | rejected f check =>
    rw [h.check] at check
    cases check
  | unresolved f check resolves kind =>
    rw [hid] at resolves
    cases resolves
  | unknown u' f check resolves nobody kind =>
    rw [hid] at resolves
    cases resolves
    rw [hopener] at nobody
    cases nobody
  | opened u' opener' _ check resolves found decoded =>
    rw [hid] at resolves
    cases resolves
    rw [hopener] at found
    cases found
    rwa [hopen] at decoded

/-- The allocator of an acquisition: the one handed in, or else that of the settings. -/
theorem allocatorFor_eq (ha : 0 < a.limit.toInt)
    (h : given = some a ∨ given = none ∧ s.memoryLimit = a.limit) :
    allocatorFor given host s = a := by
  unfold allocatorFor
  rcases h with rfl | ⟨rfl, hlimit⟩
  · rfl
  · have hpos : 0 < a.limit := Int64.lt_iff_toInt_lt.mpr ha
    simp only [hlimit, if_pos hpos]

/-- Copies need no fewer events than the batch they are made of. -/
theorem size_le_copies (es : Array Event) {m : Int} (hm : 1 ≤ m) :
    (es.size : Int) ≤ es.size * m := by
  have hmul := Int.mul_le_mul_of_nonneg_left hm (show 0 ≤ (es.size : Int) by omega)
  omega

/-- **An acquisition from a well-formed source keeps to the limit**, unless the source keeps to it
and no column can address its events. -/
theorem Offered.keeps (h : Offered openers s w es) (ha : 0 < a.limit.toInt)
    (hallocator : allocatorFor given host s = a) :
    if Allocator.maxColumn < es.size ∧ 12 * (es.size : Int) ≤ a.limit.toInt then
      (acquireFrom openers given host s w).1.1 = .error .crash
    else
      KeepsTo a.limit.toInt (es.size * s.multiplier.toInt)
        (acquireFrom openers given host s w).1.1 := by
  obtain ⟨r, hholds, hdecoded⟩ := h.decoded given host
  rw [hallocator] at hdecoded
  have hanswer := decode_answers a hholds
  have hm := one_le_multiplier h.check
  have hle := size_le_copies es hm
  have hfits : ∀ n, a.Fits n ↔ 0 ≤ n ∧ 12 * n ≤ a.limit.toInt := fun n => Allocator.fits_iff ha
  generalize (acquireFrom openers given host s w).1.1 = result at hdecoded ⊢
  cases hdecoded with
  | undecoded _ e fails =>
    rw [fails] at hanswer
    cases hanswer with
    | refused f misfit kind =>
      rw [hfits] at misfit
      rw [if_neg (by omega)]
      have hcopies : ¬ a.Fits (es.size * s.multiplier.toInt) := by
        rw [hfits]
        omega
      have hrefused : a.Answers _ (fun _ : Batch => False) (.error (.fault f)) :=
        .refused f hcopies kind
      exact .of_answers ha hrefused nofun
    | crashed fits beyond => rw [if_pos ⟨beyond, ((hfits _).mp fits).2⟩]
  | single _ b decodes admitted one =>
    obtain ⟨hb, hcolumn, rfl⟩ := hanswer.of_ok decodes
    have hone : s.multiplier.toInt = 1 := by
      rw [one]
      rfl
    rw [if_neg (by omega), hone, Int.mul_one]
    exact .of_live ha (.granted _ hb hcolumn rfl) rfl
  | copied _ es' _ decodes admitted many answer =>
    obtain ⟨-, hcolumn, hes⟩ := hanswer.of_ok decodes
    cases hes
    rw [if_neg (by omega)]
    refine .of_answers ha answer fun b hb => ?_
    rw [hb.size, Int.natCast_mul, Int.toNat_of_nonneg (by omega)]

/-- What is acquired keeps to the limit. -/
theorem acquireFrom_within (ha : 0 < a.limit.toInt) (hallocator : allocatorFor given host s = a)
    {b : Batch} (h : (acquireFrom openers given host s w).1.1 = .ok b) :
    12 * (b.size : Int) ≤ a.limit.toInt := by
  have hacquired := acquireFrom_acquired openers given host s w
  rw [hallocator, h] at hacquired
  generalize (acquireFrom openers given host s w).2 = w' at hacquired
  cases hacquired with
  | opened u opener _ check resolves found decoded =>
    generalize (opener u w).1 = returned at decoded
    cases decoded with
    | single r _ decodes admitted one =>
      exact ((Allocator.fits_iff ha).mp (Allocator.admits_iff.mp admitted.admits).1).2
    | copied r es _ decodes admitted many answer =>
      obtain ⟨hfits, -, htiles⟩ := answer.of_ok rfl
      have hle := ((Allocator.fits_iff ha).mp hfits).2
      rw [htiles.size, Int.natCast_mul, Int.toNat_of_nonneg (by omega)]
      exact hle

/-! ## All requests -/

/-- **Every way to a batch keeps to the limit.** -/
structure Limited (a : Allocator) : Prop where
  new : ∀ count : Int64, KeepsTo a.limit.toInt count.toInt (Batch.new a count)
  /-- Images, rows and documents. -/
  read : ∀ layout stream es, Layout.Holds layout stream es →
    KeepsTo a.limit.toInt es.size (layout.read a stream)
  /-- Whatever the source is. -/
  within : ∀ (layout : Layout) stream b, layout.read a stream = .ok b →
    12 * (b.size : Int) ≤ a.limit.toInt
  /-- An image is refused for the count that it declares, whatever follows it. -/
  declared : ∀ stream : Stream, stream.bytes.take 4 = Nev.magic →
    Nev.headerSize ≤ stream.bytes.length →
    ((∃ f, Nev.decode a stream = .error (.fault f) ∧ f.kind = .allocation) ↔
      a.limit.toInt < 12 * (Nev.declared stream.bytes : Int))
  synthesize : ∀ p : Synth.Params,
    KeepsTo a.limit.toInt p.normalize.events.toInt (Synth.synthesize p a)
  amplify : ∀ es (factor : Int64) offset, 1 ≤ factor.toInt →
    KeepsTo a.limit.toInt (es.size * factor.toInt) ((Batch.live es).amplify factor a offset)
  /-- The limit is handed in, or stands in the settings. -/
  acquire : ∀ {σ : Type} (openers : Openers σ) given host s w,
    (given = some a ∨ given = none ∧ s.memoryLimit = a.limit) →
    (∀ b, (acquireFrom openers given host s w).1.1 = .ok b →
      12 * (b.size : Int) ≤ a.limit.toInt) ∧
    ∀ es, Offered openers s w es →
      if Allocator.maxColumn < es.size ∧ 12 * (es.size : Int) ≤ a.limit.toInt then
        (acquireFrom openers given host s w).1.1 = .error .crash
      else
        KeepsTo a.limit.toInt (es.size * s.multiplier.toInt)
          (acquireFrom openers given host s w).1.1

/-- An image is refused for its size exactly if the count that it declares exceeds the limit. -/
theorem declared_refused_iff (ha : 0 < a.limit.toInt)
    (hmagic : stream.bytes.take 4 = Nev.magic) (hlong : Nev.headerSize ≤ stream.bytes.length) :
    (∃ f, Nev.decode a stream = .error (.fault f) ∧ f.kind = .allocation) ↔
      a.limit.toInt < 12 * (Nev.declared stream.bytes : Int) := by
  have hfits : a.Fits (Nev.declared stream.bytes) ↔ _ := Allocator.fits_iff ha
  constructor
  · rintro ⟨f, hf, hkind⟩
    by_contra hle
    have hle : 12 * (Nev.declared stream.bytes : Int) ≤ a.limit.toInt := by omega
    exact Nev.decode_ne_allocation (hfits.mpr ⟨by omega, hle⟩) hf hkind
  · intro hlt
    refine Nev.decode_of_misfit hmagic hlong fun h => ?_
    have hle : 12 * (Nev.declared stream.bytes : Int) ≤ a.limit.toInt := (hfits.mp h).2
    omega

/-- **Every way to a batch keeps to the limit**, in exact numbers. -/
theorem requests_keep_to_limit (ha : 0 < a.limit.toInt) : Limited a where
  new count := .of_answers ha (Batch.new_answers a count) fun _ hb => hb
  read layout stream es h := .of_live ha (Layout.read_answers a h) rfl
  within layout stream b h :=
    ((Allocator.fits_iff ha).mp (Allocator.admits_iff.mp (Layout.read_admitted h).admits).1).2
  declared stream := declared_refused_iff ha
  synthesize p := by
    refine .of_live ha (Synth.synthesizeBy_answers Generator.draws p a) ?_
    rw [Synth.size_replay, Int.toNat_of_nonneg p.normalize_events_nonneg]
  amplify es factor offset hfactor := by
    refine .of_answers ha (Batch.amplify_answers a es hfactor offset) fun b hb => ?_
    rw [hb.size, Int.natCast_mul, Int.toNat_of_nonneg (by omega)]
  acquire openers given host s w hlimit :=
    have hallocator := allocatorFor_eq ha hlimit
    ⟨fun _ hb => acquireFrom_within ha hallocator hb, fun _ h => h.keeps ha hallocator⟩

/-! ## Synthetic sources -/

/-- Synthetic events by name are a well-formed source. -/
theorem Offered.synthetic {τ : Type} {p : Synth.Params} (o : Origins) (d : Draws τ) (w : σ)
    (hrange : p.InRange) (hcheck : s.check = .ok ()) (hsource : s.source = Synth.identifier p) :
    Offered (o.openersBy d) s w (Synth.replay d p id) := by
  obtain ⟨u, hlocator, hscheme, hopen⟩ := Synth.opens_identifier d hrange
  refine ⟨hcheck, u, .quiet (openSynth d), Synth.resource d p, by rw [hsource, hlocator], ?_, hopen,
    ?_⟩
  · rw [hscheme]
    rfl
  · exact Synth.resource_holds d p

/-- What is acquired comes with the numbers of the generator. -/
theorem acquire_eq (o : Origins) (given : Option Allocator) (host : Allocator) (s : Settings) :
    acquire o given host s = (acquireFrom (o.openersBy Generator.draws) given host s ()).1 := rfl

/-- A run with two copies of what a source holds, under a limit of so many octets. -/
def twoCopies (source : Text) (limit : Int64) : Settings where
  source := source
  multiplier := 2
  memoryLimit := limit
  transport := { topic := "t" }

/-- Two copies of one event take twenty-four octets, and one octet less is too little for them. -/
theorem requests_keep_to_limit_two :
    let source : Text := "synth://?events=1&detectors=1&seed=1&period=1"
    (∃ b, (acquire {} none .unlimited (twoCopies source 24)).1 = .ok b ∧ b.size = 2) ∧
      ∃ f, (acquire {} none .unlimited (twoCopies source 23)).1 = .error (.fault f) ∧
        f.kind = .allocation := by
  intro source
  let p : Synth.Params := ⟨1, 1, 1, 1⟩
  have hrange : p.InRange := ⟨by decide, by decide, by decide⟩
  have hsource : source = Synth.identifier p := by decide +kernel
  have hsize : (Synth.replay Generator.draws p id).size = 1 := Synth.size_replay _ p
  have hwide := (requests_keep_to_limit (a := ⟨24⟩) (by decide)).acquire
    (Origins.openersBy {} Generator.draws) none .unlimited (twoCopies source 24) ()
    (Or.inr ⟨rfl, rfl⟩)
  have hnarrow := (requests_keep_to_limit (a := ⟨23⟩) (by decide)).acquire
    (Origins.openersBy {} Generator.draws) none .unlimited (twoCopies source 23) ()
    (Or.inr ⟨rfl, rfl⟩)
  have hwide := hwide.2 _ (.synthetic {} _ () hrange (by decide +kernel) hsource)
  have hnarrow := hnarrow.2 _ (.synthetic {} _ () hrange (by decide +kernel) hsource)
  rw [hsize] at hwide hnarrow
  rw [if_neg (by decide)] at hwide hnarrow
  rw [acquire_eq, acquire_eq]
  refine ⟨?_, hnarrow.refused (by decide)⟩
  rcases hwide.granted (by decide) (by decide) with ⟨b, hb⟩ | ⟨hbeyond, -⟩
  · refine ⟨b, hb, ?_⟩
    have hcopies := (hwide.within b hb).1
    have hmultiplier : (twoCopies source 24).multiplier.toInt = 2 := rfl
    omega
  · exact absurd hbeyond (by decide)

/-- **A source that keeps to the limit may bring an acquisition down whose copies do not**: there
are more events than a column can address, and that shows before the copies are asked for. -/
theorem acquire_crashes_beyond_limit :
    let s := twoCopies
      "synth://?events=70368744177664&detectors=65536&seed=1&period=71428571" 0x4000000000000
    ∃ es, Offered (Origins.openers {}) s () es ∧
      s.memoryLimit.toInt < 12 * (es.size * s.multiplier.toInt) ∧
      (acquire {} none .unlimited s).1 = .error .crash := by
  intro s
  let p : Synth.Params := { events := 0x400000000000 }
  have hrange : p.InRange := ⟨by decide, by decide, by decide⟩
  have hsource : s.source = Synth.identifier p := by decide +kernel
  obtain ⟨es, hes⟩ : ∃ es, es = Synth.replay Generator.draws p id := ⟨_, rfl⟩
  have hsize : (es.size : Int) = 0x400000000000 := by
    rw [hes, Synth.size_replay]
    rfl
  have hoffered : Offered (Origins.openersBy {} Generator.draws) s () es :=
    hes ▸ .synthetic {} _ () hrange (by decide +kernel) hsource
  have hallocator : allocatorFor none .unlimited s = ⟨0x4000000000000⟩ :=
    allocatorFor_eq (by decide) (Or.inr ⟨rfl, rfl⟩)
  have hbeyond : Allocator.maxColumn < es.size ∧
      12 * (es.size : Int) ≤ (Allocator.mk 0x4000000000000).limit.toInt := by
    rw [hsize]
    decide
  have hkeeps := hoffered.keeps (by decide) hallocator
  rw [if_pos hbeyond] at hkeeps
  refine ⟨es, hoffered, ?_, ?_⟩
  · rw [hsize]
    decide
  · rw [acquire_eq]
    exact hkeeps

end DetectorStream.Source
