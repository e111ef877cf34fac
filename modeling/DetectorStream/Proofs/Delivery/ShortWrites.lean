import DetectorStream.Proofs.Delivery.Appending

/-!
# Writes that are cut short

A frame is written in two pieces, its header and then its message, and a disk that runs full takes
the beginning of either. Nothing takes back what was written before the failure: the file keeps the
beginning of the frame, and the next message is appended behind it. So a reader finds exactly the
messages that were delivered only if no failure has left anything in the file.

* `Attempt`, `attempt`: messages for one path, each at a time when the disk has some room.
* `Serves.attempt`: what the attempts leave in the file, and how each of them ends.
* `decode_left_iff`: the delivered messages are read back exactly if no failure left anything.
* **`failures_leave_beginnings`**: what failed writes leave in a file, and when it can be read.
* `torn_frame_hides_next`: a header without its message takes the next message with it.
-/

namespace DetectorStream.Delivery.FileSink

open Files (taken taken_eq_iff)

variable {s : FileSink} {path k : Text} {contents : Bytes}

/-! ## One path -/

/-- A sink with the file of a path open serves this path. -/
theorem Open.serves (h : s.Open path k contents) (hpath : path ≠ standardOutput) :
    Serves (· = path) (fun _ => contents) s := by
  refine { ne_output := ?_, regular := ?_, apart := ?_, opened := ?_ }
  · rintro p rfl
    exact hpath
  · rintro p rfl
    exact h.keeps.regular
  · rintro p q _ rfl rfl _ _
    rfl
  · rintro p j rfl hlookup
    rw [h.opened_eq] at hlookup
    cases hlookup
    exact h.keeps

/-- A sink serves its paths however much room there is on the disk. -/
theorem Serves.withRoom {paths : Text → Prop} {held : Text → Bytes} (h : Serves paths held s)
    (room : Option Nat) :
    Serves paths held { s with files := { s.files with room := room } } := by
  refine { ne_output := h.ne_output, regular := ?_, apart := ?_, opened := ?_ }
  · exact fun p hp => (h.regular p hp).room room
  · intro p q j hp hq hj hj'
    rw [Files.key_room] at hj hj'
    exact h.apart p q j hp hq hj hj'
  · exact fun p j hp hlookup => (h.opened p j hp hlookup).room room

/-- **The file of a path grows by what the disk takes of a frame.** -/
theorem Serves.write_taken (h : Serves (· = path) (fun _ => contents) s) (message : Bytes) :
    Serves (· = path) (fun _ => contents ++ taken s.files.room (Frame.encode message))
        (s.write path message).1 ∧
      (s.write path message).2 =
        shortage? path message (taken s.files.room (Frame.encode message)).length := by
  have hpath := h.ne_output path rfl
  obtain ⟨k, s₁, hopen, hroom⟩ := h.ensureOpen rfl
  obtain ⟨hwritten, -, hfault⟩ := (((h.holds rfl).ensureOpen hopen).1).writeFrame_taken message
  unfold FileSink.write
  rw [if_neg (by simpa using hpath), hopen]
  rw [hroom] at hwritten hfault
  exact ⟨hwritten.serves hpath, hfault⟩

/-- A message for a path, at a time when the disk takes so many more octets. -/
structure Attempt where
  context : Context
  message : Bytes
  room : Option Nat := none

namespace Attempt

/-- What an attempt leaves in the file. -/
def left (a : Attempt) : Bytes :=
  match cancelled? a.context with
  | some _ => []
  | none => taken a.room (Frame.encode a.message)

/-- How an attempt ends. -/
def fault? (path : Text) (a : Attempt) : Option Fault :=
  match cancelled? a.context with
  | some f => some f
  | none => shortage? path a.message a.left.length

/-- **How an attempt may end, with what it leaves in the file**: nothing if it was cancelled
beforehand, its frame if that was delivered, or as much of the frame as the disk took. -/
inductive Ends (a : Attempt) : Option Fault → Bytes → Prop
  | cancelled (f : Fault) (refused : cancelled? a.context = some f) : Ends a (some f) []
  | delivered (live : cancelled? a.context = none) : Ends a none (Frame.encode a.message)
  | torn (f : Fault) (r : Nat) (live : cancelled? a.context = none) (room : a.room = some r)
      (short : r < (Frame.encode a.message).length) :
      Ends a (some f) ((Frame.encode a.message).take r)

variable {a : Attempt}

theorem ends (path : Text) (a : Attempt) : a.Ends (a.fault? path) a.left := by
  cases hctx : cancelled? a.context with
  | some f =>
    simp only [fault?, left, hctx]
    exact .cancelled f hctx
  | none =>
    simp only [fault?, left, hctx]
    cases hfault : shortage? path a.message
        (taken a.room (Frame.encode a.message)).length with
    | none =>
      rw [shortage?_eq_none.mp hfault]
      exact .delivered hctx
    | some f =>
      have hshort : taken a.room (Frame.encode a.message) ≠ Frame.encode a.message := fun hwhole => by
        rw [shortage?_eq_none.mpr hwhole] at hfault
        cases hfault
      cases hroom : a.room with
      | none =>
        rw [hroom] at hshort
        exact absurd rfl hshort
      | some r =>
        rw [hroom, Ne, taken_eq_iff, taken, List.length_take] at hshort
        exact .torn f r hctx hroom (by omega)

/-- An attempt ends without a fault exactly if it leaves its whole frame. -/
theorem fault?_eq_none : a.fault? path = none ↔ a.left = Frame.encode a.message := by
  have hends := a.ends path
  generalize a.fault? path = fault at hends ⊢
  generalize a.left = piece at hends ⊢
  cases hends with
  | cancelled f refused => exact ⟨nofun, fun h => absurd h.symm (Frame.encode_ne_nil a.message)⟩
  | delivered live => exact ⟨fun _ => rfl, fun _ => rfl⟩
  | torn f r live room short =>
    refine ⟨nofun, fun h => ?_⟩
    have hlength := congrArg List.length h
    rw [List.length_take] at hlength
    omega

end Attempt

/-- The sink after some attempts, and how each of them ended. -/
def attempt (path : Text) : List Attempt → FileSink → FileSink × List (Option Fault)
  | [], s => (s, [])
  | a :: attempts, s =>
    let o := send a.context path a.message { s with files := { s.files with room := a.room } }
    let later := attempt path attempts o.state
    (later.1, o.fault :: later.2)

variable {attempts : List Attempt}

/-- **What some attempts leave in the file of a path, and how each of them ends.** -/
theorem Serves.attempt (h : Serves (· = path) (fun _ => contents) s) (attempts : List Attempt) :
    Serves (· = path) (fun _ => contents ++ attempts.flatMap Attempt.left)
        (FileSink.attempt path attempts s).1 ∧
      (FileSink.attempt path attempts s).2 = attempts.map (Attempt.fault? path) := by
  induction attempts generalizing s contents with
  | nil => simpa [FileSink.attempt] using h
  | cons a attempts ih =>
    have hfirst : ∀ o, send a.context path a.message
        { s with files := { s.files with room := a.room } } = o →
        Serves (· = path) (fun _ => contents ++ a.left) o.state ∧ o.fault = a.fault? path := by
      rintro o rfl
      unfold send
      cases hctx : cancelled? a.context with
      | some f => simpa [Attempt.left, Attempt.fault?, hctx] using h.withRoom a.room
      | none =>
        simp only [Attempt.left, Attempt.fault?, hctx]
        exact (h.withRoom a.room).write_taken a.message
    obtain ⟨hserves, hfault⟩ := hfirst _ rfl
    obtain ⟨hlater, hfaults⟩ := ih hserves
    rw [List.append_assoc] at hlater
    exact ⟨hlater, List.cons_eq_cons.mpr ⟨hfault, hfaults⟩⟩

/-! ## Reading -/

/-- The messages of the attempts that ended without a fault. -/
def accepted (attempts : List Attempt) (faults : List (Option Fault)) : List Bytes :=
  (attempts.zip faults).filterMap fun p => if p.2.isNone then some p.1.message else none

/-- What a reader finds at a path; nothing where there is no file. -/
def found (s : FileSink) (path : Text) : Bytes :=
  match s.files.read path with
  | .ok bs => bs
  | .error _ => []

theorem found_eq (h : s.files.Contents path contents) : s.found path = contents := by
  unfold found Files.read
  rcases h with hnode | ⟨hnone, rfl⟩
  · rw [hnode]
  · cases hnode : s.files.node path with
    | error e => rfl
    | ok node => exact absurd hnode (hnone node)

theorem accepted_cons (path : Text) (a : Attempt) (attempts : List Attempt) :
    accepted (a :: attempts) ((a :: attempts).map (Attempt.fault? path)) =
      (if a.fault? path = none then [a.message] else []) ++
        accepted attempts (attempts.map (Attempt.fault? path)) := by
  unfold accepted
  cases hfault : a.fault? path <;> simp [hfault]

/-- No failure has left anything in the file. -/
def Untorn (path : Text) (attempts : List Attempt) : Prop :=
  ∀ a ∈ attempts, a.fault? path ≠ none → a.left = []

/-- Attempts leave at least the frames that were delivered, and exactly those if no failure left
anything. -/
theorem length_left (path : Text) (attempts : List Attempt) :
    ((accepted attempts (attempts.map (Attempt.fault? path))).flatMap Frame.encode).length ≤
        (attempts.flatMap Attempt.left).length ∧
      ((attempts.flatMap Attempt.left).length ≤
        ((accepted attempts (attempts.map (Attempt.fault? path))).flatMap Frame.encode).length →
          Untorn path attempts) := by
  induction attempts with
  | nil => exact ⟨Nat.le_refl 0, fun _ => nofun⟩
  | cons a attempts ih =>
    obtain ⟨hle, huntorn⟩ := ih
    rw [accepted_cons, List.flatMap_append, List.flatMap_cons, List.length_append,
      List.length_append]
    by_cases hfault : a.fault? path = none
    · rw [if_pos hfault, Attempt.fault?_eq_none.mp hfault, List.flatMap_singleton]
      refine ⟨by omega, fun hge => List.forall_mem_cons.mpr ⟨fun h => absurd hfault h, ?_⟩⟩
      exact huntorn (by omega)
    · rw [if_neg hfault, List.flatMap_nil, List.length_nil]
      refine ⟨by omega, fun hge => List.forall_mem_cons.mpr ⟨fun _ => ?_, huntorn (by omega)⟩⟩
      exact List.length_eq_zero_iff.mp (by omega)

/-- Where no failure left anything, the file holds the frames that were delivered. -/
theorem Untorn.flatMap_left (h : Untorn path attempts) : attempts.flatMap Attempt.left =
    (accepted attempts (attempts.map (Attempt.fault? path))).flatMap Frame.encode := by
  induction attempts with
  | nil => rfl
  | cons a attempts ih =>
    obtain ⟨hfirst, hlater⟩ := List.forall_mem_cons.mp h
    rw [accepted_cons, List.flatMap_append, List.flatMap_cons, ih hlater]
    by_cases hfault : a.fault? path = none
    · rw [if_pos hfault, Attempt.fault?_eq_none.mp hfault, List.flatMap_singleton]
    · rw [if_neg hfault, hfirst hfault, List.flatMap_nil]

/-- **The delivered messages are read back exactly if no failure left anything**, as far as their
lengths fit into their headers. -/
theorem decode_left_iff (abrupt : Bool) (path : Text) (attempts : List Attempt) :
    Frame.decode ⟨attempts.flatMap Attempt.left, .clean, abrupt⟩ =
        (accepted attempts (attempts.map (Attempt.fault? path)), none) ↔
      Untorn path attempts ∧
        ∀ m ∈ accepted attempts (attempts.map (Attempt.fault? path)), m.length < 2 ^ 32 := by
  constructor
  · intro hread
    obtain ⟨messages, tail, hany, hframed⟩ :=
      Frame.decode_any (attempts.flatMap Attempt.left) abrupt
    rw [hread] at hany
    obtain ⟨rfl, hnone⟩ := Prod.ext_iff.mp hany
    have hwhole := hframed.octets_eq
    rw [Frame.complaint?_eq_none.mp hnone.symm, List.append_nil] at hwhole
    exact ⟨(length_left path attempts).2 (Nat.le_of_eq (congrArg List.length hwhole)), hframed.fit⟩
  · rintro ⟨huntorn, hfit⟩
    rw [huntorn.flatMap_left]
    exact Frame.decode_frames hfit abrupt

/-- What was delivered before a failure left something is read first. -/
theorem Untorn.prefix_decode (h : Untorn path attempts)
    (hfit : ∀ m ∈ accepted attempts (attempts.map (Attempt.fault? path)), m.length < 2 ^ 32)
    (abrupt : Bool) (rest : Bytes) :
    accepted attempts (attempts.map (Attempt.fault? path)) <+:
      (Frame.decode ⟨attempts.flatMap Attempt.left ++ rest, .clean, abrupt⟩).1 := by
  obtain ⟨messages, tail, -, hframed⟩ := Frame.decode_any rest abrupt
  rw [h.flatMap_left, (hframed.append hfit).decode_eq abrupt]
  exact List.prefix_append _ _

/-- **What failed writes leave in a file, and when it can be read.** A new sink is asked to send
messages to a file that is empty or not yet there, and the disk takes as much as it likes of each
frame. Every attempt leaves the octets of its frame that were taken, and fails unless these are all.
A reader of the file finds exactly the delivered messages if and only if no failure left anything,
and their lengths fit into their headers; it finds in any case those that were delivered before. -/
theorem failures_leave_beginnings (abrupt : Bool) (s : FileSink) (path : Text)
    (attempts : List Attempt) (hfresh : s.opened = []) (hpath : path ≠ standardOutput)
    (hfile : s.files.Regular path []) :
    let r := attempt path attempts s
    r.1.found path = attempts.flatMap Attempt.left ∧
      r.2 = attempts.map (Attempt.fault? path) ∧
      (∀ a ∈ attempts, a.Ends (a.fault? path) a.left) ∧
      (Frame.decode ⟨r.1.found path, .clean, abrupt⟩ = (accepted attempts r.2, none) ↔
        Untorn path attempts ∧ ∀ m ∈ accepted attempts r.2, m.length < 2 ^ 32) ∧
      ∀ before after, attempts = before ++ after → Untorn path before →
        let first := accepted before (attempt path before s).2
        (∀ m ∈ first, m.length < 2 ^ 32) →
          first <+: (Frame.decode ⟨r.1.found path, .clean, abrupt⟩).1 := by
  have hdistinct : Distinct s.files (· = path) (fun _ => []) := by
    refine ⟨?_, ?_, ?_⟩
    · rintro p rfl
      exact hpath
    · rintro p rfl
      exact hfile
    · rintro p q k rfl rfl - -
      rfl
  obtain ⟨hserves, hfaults⟩ := (hdistinct.serves hfresh).attempt attempts
  have hfound := found_eq (hserves.holds rfl).found
  rw [List.nil_append] at hfound
  intro r
  refine ⟨hfound, hfaults, fun a _ => a.ends path, ?_, ?_⟩
  · rw [hfound, hfaults]
    exact decode_left_iff abrupt path attempts
  · rintro before after rfl huntorn first hfit
    have hfirst : first = accepted before (before.map (Attempt.fault? path)) :=
      congrArg (accepted before) ((hdistinct.serves hfresh).attempt before).2
    rw [hfirst] at hfit ⊢
    rw [hfound, List.flatMap_append]
    exact huntorn.prefix_decode hfit abrupt _

/-- Two messages are delivered, with a call that was cancelled and a disk that was full between
them. -/
theorem failures_leave_beginnings_full :
    let attempts : List Attempt := [⟨.live, [0x61], none⟩, ⟨.cancelled, [0x62], none⟩,
      ⟨.live, [0x63], some 0⟩, ⟨.live, [], some 4⟩]
    let r := attempt "out" attempts { files := .empty }
    r.1.found "out" = [1, 0, 0, 0, 0x61, 0, 0, 0, 0] ∧ accepted attempts r.2 = [[0x61], []] ∧
      Frame.decode ⟨r.1.found "out", .clean, false⟩ = ([[0x61], []], none) := by
  intro attempts r
  have hfile : Files.empty.Regular "out" [] := ⟨"out", by decide, .inr (by decide)⟩
  obtain ⟨hfound, hfaults, -, hread, -⟩ :=
    failures_leave_beginnings false { files := .empty } "out" attempts rfl (by decide) hfile
  have haccepted : accepted attempts r.2 = [[0x61], []] := by
    rw [hfaults]
    decide +kernel
  refine ⟨hfound.trans (by decide +kernel), haccepted, ?_⟩
  rw [← haccepted]
  refine hread.mpr ⟨by unfold Untorn; decide +kernel, ?_⟩
  rw [haccepted]
  decide

/-- A header whose message did not fit takes the next message with it: one was delivered, and a
reader finds another. And a device that swallows what is written to it is not read at all. -/
theorem torn_frame_hides_next :
    (let attempts : List Attempt := [⟨.live, [0x61], some 4⟩, ⟨.live, [0x62], none⟩]
      let r := attempt "out" attempts { files := .empty }
      r.2.map Option.isNone = [false, true] ∧
        r.1.found "out" = [1, 0, 0, 0, 1, 0, 0, 0, 0x62] ∧
        Frame.decode ⟨r.1.found "out", .clean, false⟩ ≠ (accepted attempts r.2, none)) ∧
      (let attempts : List Attempt := [⟨.live, [0x61], none⟩]
        let r := attempt "/dev/null" attempts { files := .empty }
        r.2 = [none] ∧ r.1.found "/dev/null" = [] ∧
          Frame.decode ⟨r.1.found "/dev/null", .clean, false⟩ ≠ (accepted attempts r.2, none)) := by
  decide +kernel

end DetectorStream.Delivery.FileSink
