import DetectorStream.Proofs.Batch.Tiling
import DetectorStream.Proofs.Settings.Rules
import DetectorStream.Proofs.Source.Formats
import DetectorStream.Source.Acquire

/-!
# What acquiring does

The settings are checked, the source is opened and decoded, and the batch is copied; the first of
these steps that fails says how the acquisition ends. Openers may change the world, so a world that
comes out as it went in says that nobody was asked; `Openers.noting` writes down who was. What they
open may break off while it is read; an image and a document are read all the same if they are there.

* `Source.Decoded`: what comes of what an opener returned.
* `Source.Acquired`: what comes of the settings, and the world after it.
* `Source.called`, `Source.asked`: who is asked to open what.
* `Source.BreaksOff`: an opened source that fails while it is read.
* **`Source.acquire_checks_loads_tiles`**: every acquisition is of that form, with one allocator for
  the batch that is decoded and for its copies.
* `Source.acquire_crashes`: a source may bring an acquisition down, without a fault, and may fail
  without bringing it down.
-/

namespace DetectorStream.Source

variable {σ : Type} {openers : Openers σ} {a host : Allocator} {given : Option Allocator}
  {s : Settings} {w : σ}

/-- **What comes of what an opener returned**: its failure, that of decoding, the batch that is
decoded if one copy is asked for, or else the answer to a request for all copies. -/
inductive Decoded (a : Allocator) (s : Settings) : Except Stop Resource → Except Stop Batch → Prop
  | closed (e : Stop) : Decoded a s (.error e) (.error e)
  | undecoded (r : Resource) (e : Stop) (fails : decode a r = .error e) :
      Decoded a s (.ok r) (.error e)
  | single (r : Resource) (b : Batch) (decodes : decode a r = .ok b) (admitted : b.Admitted a)
      (one : s.multiplier = 1) : Decoded a s (.ok r) (.ok b)
  | copied (r : Resource) (es : Array Event) (result : Except Stop Batch)
      (decodes : decode a r = .ok (.live es)) (admitted : (Batch.live es).Admitted a)
      (many : 1 < s.multiplier.toInt)
      (answer : a.Answers (es.size * s.multiplier.toInt)
        (Batch.Tiles es s.multiplier.toInt.toNat s.timeOffset) result) :
      Decoded a s (.ok r) result

/-- **What comes of the settings, and the world after it**: only an opener changes the world, and
only that of the scheme is asked, for settings that pass their check. -/
inductive Acquired (openers : Openers σ) (a : Allocator) (s : Settings) (w : σ) :
    Except Stop Batch → σ → Prop
  | rejected (f : Fault) (check : s.check = .error f) : Acquired openers a s w (.error (.fault f)) w
  | unresolved (f : Fault) (check : s.check = .ok ())
      (resolves : Locator.ofIdentifier s.source = .error f) (kind : f.kind = .sourceUnavailable) :
      Acquired openers a s w (.error (.fault f)) w
  | unknown (u : Locator) (f : Fault) (check : s.check = .ok ())
      (resolves : Locator.ofIdentifier s.source = .ok u) (nobody : openers u.scheme = none)
      (kind : f.kind = .sourceUnavailable) : Acquired openers a s w (.error (.fault f)) w
  | opened (u : Locator) (opener : Opener σ) (result : Except Stop Batch) (check : s.check = .ok ())
      (resolves : Locator.ofIdentifier s.source = .ok u)
      (found : openers u.scheme = some opener) (decoded : Decoded a s (opener u w).1 result) :
      Acquired openers a s w result (opener u w).2

/-! ## Who is asked -/

/-- The openers, each writing down its scheme and the locator it is asked for. -/
def Openers.noting (openers : Openers σ) : Openers (σ × List (Text × Locator)) := fun scheme =>
  (openers scheme).map fun opener u w =>
    let (r, w') := opener u w.1
    (r, w', w.2 ++ [(scheme, u)])

/-- Who is called for an identifier, and with which locator: the opener of its scheme, if there is
one. -/
def called (openers : Openers σ) (id : Text) : List (Text × Locator) :=
  match Locator.ofIdentifier id with
  | .error _ => []
  | .ok u => if (openers u.scheme).isSome then [(u.scheme, u)] else []

/-- Who is asked to open what: nobody, unless the settings pass their check. -/
def asked (openers : Openers σ) (s : Settings) : List (Text × Locator) :=
  match s.check with
  | .error _ => []
  | .ok () => called openers s.source

theorem loadFrom_noting (openers : Openers σ) (a : Allocator) (id : Text) (w : σ)
    (calls : List (Text × Locator)) :
    loadFrom openers.noting a id (w, calls) =
      ((loadFrom openers a id w).1, (loadFrom openers a id w).2, calls ++ called openers id) := by
  unfold loadFrom loadWith called
  cases Locator.ofIdentifier id with
  | error f => simp only [List.append_nil]
  | ok u =>
    cases hopener : openers u.scheme with
    | none =>
      simp only [Openers.noting, hopener, Option.map_none, Option.isSome_none, Bool.false_eq_true,
        if_false, List.append_nil]
    | some opener =>
      simp only [Openers.noting, hopener, Option.map_some, Option.isSome_some, if_true]
      rcases opener u w with ⟨r, w'⟩
      cases r with
      | error e => rfl
      | ok r => rfl

/-- Writing down who is asked changes nothing else. -/
theorem acquireFrom_noting (openers : Openers σ) (given : Option Allocator) (host : Allocator)
    (s : Settings) (w : σ) (calls : List (Text × Locator)) :
    acquireFrom openers.noting given host s (w, calls) =
      ((acquireFrom openers given host s w).1, (acquireFrom openers given host s w).2,
        calls ++ asked openers s) := by
  unfold acquireFrom asked
  cases s.check with
  | error f => simp only [List.append_nil]
  | ok _ =>
    simp only [loadFrom_noting]
    rcases loadFrom openers (allocatorFor given host s) s.source w with ⟨r, w'⟩
    cases r with
    | error e => rfl
    | ok b => rfl

/-! ## What breaks off -/

/-- **An opened source of the format that fails while it is read**, after the octets of the stream. -/
structure BreaksOff (r : Resource) (layout : Layout) (stream : Stream) (f : Fault) : Prop where
  expands : ∃ alg inner, Algorithm.ofPath r.name = (alg, inner) ∧
    Layout.ofSuffix? (Text.toLower (Path.extension inner)) = some layout ∧
    alg.expand r.stream = .ok stream
  ending : stream.ending = .broken f

/-- What is decoded of a source that breaks off. -/
theorem BreaksOff.decode_iff {r : Resource} {layout : Layout} {stream : Stream} {f : Fault}
    (h : BreaksOff r layout stream f)
    (hrows : layout = .csv → f.anySignal (· == .endOfInput) = false) (a : Allocator) (b : Batch) :
    decode a r = .ok b ↔
      layout.StopsShort stream ∧ layout.read a { bytes := stream.bytes } = .ok b := by
  obtain ⟨alg, inner, hpath, hlayout, hexpands⟩ := h.expands
  exact decode_of_broken hpath hlayout hexpands h.ending hrows

/-! ## The steps -/

/-- An identifier that cannot be resolved is a source that is not available. -/
theorem kind_of_ofIdentifier {id : Text} {f : Fault} (h : Locator.ofIdentifier id = .error f) :
    f.kind = .sourceUnavailable := by
  unfold Locator.ofIdentifier at h
  split at h
  · cases h
    rfl
  · split at h
    · cases h
    · split at h
      · cases h
      · cases h
        rfl

/-- Settings that pass their check ask for at least one copy. -/
theorem one_le_multiplier (h : s.check = .ok ()) : 1 ≤ s.multiplier.toInt := by
  exact Int64.le_iff_toInt_le.mp (Int64.not_lt.mp (Settings.check_eq_ok_iff.mp h).multiplier)

/-- A batch that was decoded is copied as often as the settings say. -/
theorem Decoded.of_copies {r : Resource} {b : Batch} (hcheck : s.check = .ok ())
    (h : decode a r = .ok b) : Decoded a s (.ok r) (copies s a b).1 := by
  have hadmitted := decode_admitted h
  have hpos := one_le_multiplier hcheck
  have hone : (1 : Int64).toInt = 1 := rfl
  obtain ⟨es, rfl⟩ := hadmitted.live
  unfold copies
  split_ifs with hmultiplier
  · rw [Int64.le_iff_toInt_le] at hmultiplier
    exact .single r _ h hadmitted (Int64.toInt.inj (by omega))
  · rw [Int64.le_iff_toInt_le] at hmultiplier
    have hanswer := Batch.amplify_answers a es hpos s.timeOffset
    have hresult := Decoded.copied r es _ h hadmitted (by omega) hanswer
    cases hamplify : (Batch.live es).amplify s.multiplier a s.timeOffset with
    | error e => rwa [hamplify] at hresult
    | ok more => rwa [hamplify] at hresult

/-- Every acquisition is a check, a look-up, an opening and a decoding, and then copies. -/
theorem acquireFrom_acquired (openers : Openers σ) (given : Option Allocator) (host : Allocator)
    (s : Settings) (w : σ) :
    Acquired openers (allocatorFor given host s) s w (acquireFrom openers given host s w).1.1
      (acquireFrom openers given host s w).2 := by
  unfold acquireFrom loadFrom loadWith
  cases hcheck : s.check with
  | error f => exact .rejected f hcheck
  | ok _ =>
    cases hid : Locator.ofIdentifier s.source with
    | error f => exact .unresolved f hcheck hid (kind_of_ofIdentifier hid)
    | ok u =>
      cases hopener : openers u.scheme with
      | none =>
        simp only [hopener]
        exact .unknown u _ hcheck hid hopener rfl
      | some opener =>
        have hopened := fun result => Acquired.opened (a := allocatorFor given host s) (w := w) u
          opener result hcheck hid hopener
        simp only [hopener]
        rcases hreturned : opener u w with ⟨r, w'⟩
        rw [hreturned] at hopened
        cases r with
        | error e => exact hopened _ (.closed e)
        | ok r =>
          simp only
          cases hdecode : decode (allocatorFor given host s) r with
          | error e => exact hopened _ (.undecoded r e hdecode)
          | ok b => exact hopened _ (.of_copies hcheck hdecode)

/-- **Acquiring checks the settings, loads the source and copies the batch**, and asks nobody else
than the opener of the scheme, and that one only if the settings pass their check. A source that fails
while it is read is not decoded, unless its format is one whose reader does not ask for the end, and
what came before the failure is a whole source; then it is decoded as that is. -/
theorem acquire_checks_loads_tiles (openers : Openers σ) (given : Option Allocator)
    (host : Allocator) (s : Settings) (w : σ) :
    Acquired openers (allocatorFor given host s) s w (acquireFrom openers given host s w).1.1
        (acquireFrom openers given host s w).2 ∧
      acquireFrom openers.noting given host s (w, []) =
        ((acquireFrom openers given host s w).1, (acquireFrom openers given host s w).2,
          asked openers s) ∧
      ∀ r layout stream f, BreaksOff r layout stream f →
        (layout = .csv → f.anySignal (· == .endOfInput) = false) →
        ∀ b, decode (allocatorFor given host s) r = .ok b ↔
          layout.StopsShort stream ∧
            layout.read (allocatorFor given host s) { bytes := stream.bytes } = .ok b :=
  ⟨acquireFrom_acquired openers given host s w, acquireFrom_noting openers given host s w [],
    fun _ _ _ _ h hrows => h.decode_iff hrows _⟩

/-- The source for every scheme. -/
def Openers.only (r : Resource) : Openers Unit := fun _ => some (.quiet fun _ => .ok r)

/-- The image of one event, from a connection that is lost right behind it. -/
def lost : Resource where
  name := "run.nev"
  head := Nev.image [⟨1, 2⟩]
  ending := .broken (.told "connection reset by peer")

/-- The rows of one event, from a connection that is lost right behind them. -/
def lostRows : Resource where
  name := "run.csv"
  head := ("1,2\n" : Text)
  ending := .broken (.told "connection reset by peer")

/-- The image is decoded, and the rows are not. -/
theorem acquire_checks_loads_tiles_lost :
    BreaksOff lost .nev lost.stream (.told "connection reset by peer") ∧
      BreaksOff lostRows .csv lostRows.stream (.told "connection reset by peer") ∧
      decode .unlimited lost = .ok (.live #[⟨1, 2⟩]) ∧
      ∀ b, decode .unlimited lostRows ≠ .ok b := by
  have hlost : BreaksOff lost .nev lost.stream (.told "connection reset by peer") :=
    ⟨⟨.none, "run.nev", rfl, rfl, rfl⟩, rfl⟩
  have hrows : BreaksOff lostRows .csv lostRows.stream (.told "connection reset by peer") :=
    ⟨⟨.none, "run.csv", rfl, rfl, rfl⟩, rfl⟩
  obtain ⟨-, -, hbroken⟩ := acquire_checks_loads_tiles (Openers.only lost) (some .unlimited)
    .unlimited {} ()
  refine ⟨hlost, hrows, (hbroken _ _ _ _ hlost nofun _).mpr ⟨trivial, by decide +kernel⟩,
    fun b hb => ?_⟩
  exact ((hbroken _ _ _ _ hrows (fun _ => rfl) b).mp hb).1

/-- A file of twelve octets, the header of an image that declares `2 ^ 46` events. -/
def vastHeader : Origins where
  files := .ofList [("run.nev", Nev.opening 0x400000000000)]

/-- The settings of a run with that file, under a limit of `2 ^ 62` octets. -/
def vastRun : Settings where
  source := "run.nev"
  memoryLimit := 0x4000000000000000
  transport := { topic := "t" }

/-- **A source may bring an acquisition down, without a fault, and may fail without bringing it down**: a
count that keeps to the limit may be more than a column can address, and a source that fails behind its
last column is acquired. -/
theorem acquire_crashes :
    (¬ ∀ (o : Origins) (given : Option Allocator) (host : Allocator) (s : Settings) (e : Stop),
      (acquire o given host s).1 = .error e → ∃ f, e = .fault f) ∧
    ¬ ∀ (r : Resource) (f : Fault) (given : Option Allocator) (host : Allocator) (s : Settings)
      (b : Batch), r.ending = .broken f →
      (acquireFrom (Openers.only r) given host s ()).1.1 ≠ .ok b := by
  constructor
  · intro h
    have hcrash : (acquire vastHeader none .unlimited vastRun).1 = .error .crash := by
      decide +kernel
    obtain ⟨f, hf⟩ := h _ _ _ _ _ hcrash
    cases hf
  · intro h
    have hacquired : (acquireFrom (Openers.only lost) none .unlimited vastRun ()).1.1 =
        .ok (.live #[⟨1, 2⟩]) := by decide +kernel
    exact h lost _ _ _ _ _ rfl hacquired

end DetectorStream.Source
