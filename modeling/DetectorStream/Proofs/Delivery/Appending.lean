import DetectorStream.Proofs.Delivery.Framing
import DetectorStream.Proofs.Delivery.Numbering

/-!
# Files that grow by frames

Whoever sends to a sink, and whenever it is closed in between: the file of a path holds what it held
before, and behind it the frames of the messages that were sent to this path, in order. A call that
was cancelled beforehand leaves no trace, and what is sent to one file is not found in another.

* `Touches`, `write_touches`: what a write leaves as it was.
* `Distinct`: the paths of regular files of which no two are the same.
* `Serves`: a sink that holds what it should for each of these paths.
* **`Serves.write`**, `Serves.write_unlimited`: a message that is written is added to its file only,
  and on a disk without a limit it is written.
* `Act`, `perform`: calls and closings, one after the other.
* **`Serves.perform`**: what a sink holds after them.
* **`perform_appends_frames`**: the files grow by frames, and a reader finds their messages.
-/

namespace DetectorStream.Delivery.FileSink

variable {s s' s'' : FileSink} {path p k : Text} {contents message : Bytes} {paths : Text → Prop}
  {held : Text → Bytes}

/-! ## One write -/

/-- **Nothing but a path and the file under its key is touched.** -/
structure Touches (path k : Text) (s s' : FileSink) : Prop where
  files : s.files.WritesOnly (· = k) s'.files
  opened_eq : ∀ p, p ≠ path → s'.opened.lookup p = s.opened.lookup p

theorem Touches.trans (h : Touches path k s s') (h' : Touches path k s' s'') :
    Touches path k s s'' :=
  ⟨h.files.trans h'.files, fun p hp => (h'.opened_eq p hp).trans (h.opened_eq p hp)⟩

theorem ensureOpen_touches (h : s.ensureOpen path = .ok (k, s')) : Touches path k s s' := by
  unfold ensureOpen at h
  split at h
  · cases h
    exact ⟨.refl _ _, fun _ _ => rfl⟩
  · split at h
    · cases h
    · rename_i hopen
      cases h
      refine ⟨(Files.openToWrite_writes hopen).2.only rfl, fun p hp => ?_⟩
      rw [List.lookup_cons, beq_eq_false_iff_ne.mpr hp]

theorem writeFrame_touches (hk : Files.IsKey k) :
    Touches path k s (s.writeFrame k path message).1 := by
  have happend : ∀ (fs : Files) bs, fs.WritesOnly (· = k) (fs.append k path bs).1 :=
    fun fs bs => (Files.append_writes hk).only rfl
  have hheader := happend s.files (Frame.header message)
  unfold writeFrame
  split
  · rename_i fs f h
    rw [h] at hheader
    exact ⟨hheader, fun _ _ => rfl⟩
  · rename_i fs h
    rw [h] at hheader
    have hmessage := happend fs message
    split
    · rename_i fs' f h'
      rw [h'] at hmessage
      exact ⟨hheader.trans hmessage, fun _ _ => rfl⟩
    · rename_i fs' h'
      rw [h'] at hmessage
      exact ⟨hheader.trans hmessage, fun _ _ => rfl⟩

/-- What is written to a path touches nothing else. -/
theorem write_touches (h : s.Holds path contents) (hpath : path ≠ standardOutput)
    (hkey : s.files.key path = .ok k) (hwrite : s.write path message = (s', none)) :
    Touches path k s s' := by
  unfold write at hwrite
  rw [if_neg (by simpa using hpath)] at hwrite
  split at hwrite
  · cases hwrite
  · rename_i j s₁ hopen
    obtain ⟨-, hj⟩ := h.ensureOpen hopen
    rw [hkey] at hj
    cases hj
    have hframe : Touches path k s₁ (s₁.writeFrame k path message).1 :=
      writeFrame_touches (Files.key_isKey hkey)
    rw [hwrite] at hframe
    exact (ensureOpen_touches hopen).trans hframe

/-! ## Several files -/

/-- **The paths of distinct regular files**, with what stands in them. -/
structure Distinct (fs : Files) (paths : Text → Prop) (contents : Text → Bytes) : Prop where
  ne_output : ∀ p, paths p → p ≠ standardOutput
  regular : ∀ p, paths p → fs.Regular p (contents p)
  apart : ∀ p q k, paths p → paths q → fs.key p = .ok k → fs.key q = .ok k → p = q

/-- **A sink that holds this for each of the paths**, whether it has opened the file or not. -/
structure Serves (paths : Text → Prop) (held : Text → Bytes) (s : FileSink) : Prop
    extends Distinct s.files paths held where
  opened : ∀ p k, paths p → s.opened.lookup p = some k → s.files.Keeps p k (held p)

theorem Serves.holds (h : Serves paths held s) (hp : paths p) : s.Holds p (held p) := by
  cases hlookup : s.opened.lookup p with
  | none => exact .unopened hlookup (h.regular p hp).found
  | some k => exact .opened k ⟨hlookup, h.opened p k hp hlookup⟩

/-- **A message that is written is added to its file**, and the other files are left alone. -/
theorem Serves.write (h : Serves paths held s) (hpath : paths path)
    (hwrite : s.write path message = (s', none)) :
    Serves paths (Function.update held path (held path ++ Frame.encode message)) s' := by
  have hne := h.ne_output path hpath
  obtain ⟨k, hopen, hkey⟩ := (h.holds hpath).write hne hwrite
  have htouches := write_touches (h.holds hpath) hne hkey hwrite
  have hspares : ∀ p, paths p → p ≠ path → Files.Spares p s.files s'.files := by
    intro p hp hother
    refine htouches.files.spares fun j hj hjk => hother ?_
    rw [hjk] at hj
    exact h.apart p path k hp hpath hj hkey
  refine { ne_output := h.ne_output, regular := ?_, apart := ?_, opened := ?_ }
  · intro p hp
    by_cases hother : p = path
    · rw [hother, Function.update_self]
      exact hopen.keeps.regular
    · rw [Function.update_of_ne hother]
      exact (h.regular p hp).spared (hspares p hp hother)
  · intro p q j hp hq hj hj'
    exact h.apart p q j hp hq ((htouches.files.key_eq_ok p j).mp hj)
      ((htouches.files.key_eq_ok q j).mp hj')
  · intro p j hp hlookup
    by_cases hother : p = path
    · rw [hother, hopen.opened_eq] at hlookup
      cases hlookup
      rw [hother, Function.update_self]
      exact hopen.keeps
    · rw [htouches.opened_eq p hother] at hlookup
      rw [Function.update_of_ne hother]
      exact (h.opened p j hp hlookup).spared (hspares p hp hother)

/-- A file that is closed is opened again when it is next written to. -/
theorem Serves.close (h : Serves paths held s) : Serves paths held s.close :=
  { h.toDistinct with opened := nofun }

/-! ## Writes that succeed -/

/-- The file of a path can be opened. -/
theorem Serves.ensureOpen (h : Serves paths held s) (hpath : paths path) :
    ∃ k s', s.ensureOpen path = .ok (k, s') ∧ s'.files.room = s.files.room := by
  unfold FileSink.ensureOpen
  cases s.opened.lookup path with
  | some k => exact ⟨k, s, rfl, rfl⟩
  | none =>
    obtain ⟨k, fs, hopen, hroom⟩ := (h.regular path hpath).openToWrite
    simp only [hopen]
    exact ⟨k, _, rfl, hroom⟩

theorem Open.writeFrame_unlimited (h : s.Open path k contents) (hroom : s.files.room = none)
    (message : Bytes) :
    (s.writeFrame k path message).2 = none ∧ (s.writeFrame k path message).1.files.room = none := by
  obtain ⟨-, hleft, hfault⟩ := h.writeFrame_taken message
  rw [hroom] at hleft hfault
  exact ⟨hfault.trans (shortage?_eq_none.mpr rfl), hleft⟩

/-- **On a disk without a limit every write succeeds.** -/
theorem Serves.write_unlimited (h : Serves paths held s) (hpath : paths path)
    (hroom : s.files.room = none) (message : Bytes) :
    (s.write path message).2 = none ∧ (s.write path message).1.files.room = none := by
  obtain ⟨k, s₁, hopen, hroom₁⟩ := h.ensureOpen hpath
  have hfile := ((h.holds hpath).ensureOpen hopen).1
  unfold FileSink.write
  rw [if_neg (by simpa using h.ne_output path hpath), hopen]
  exact hfile.writeFrame_unlimited (hroom₁.trans hroom) message

/-! ## Calls and closings -/

/-- What callers do with a sink. -/
inductive Act
  | send (c : Call)
  | close

namespace Act

/-- Why an act is refused: its call was cancelled beforehand. -/
def refusal? : Act → Option Fault
  | send c => cancelled? c.context
  | close => none

/-- The message that an act has for a path, unless it is refused. -/
def message? (path : Text) : Act → Option Bytes
  | send c => if c.topic = path ∧ cancelled? c.context = none then some c.message else none
  | close => none

/-- The act concerns one of the paths, with a message whose length fits into its header. -/
def Fits (paths : Text → Prop) : Act → Prop
  | send c => paths c.topic ∧ c.message.length < 2 ^ 32
  | close => True

/-- The sink after an act, and how the act ended. -/
def result : Act → FileSink → FileSink × Option Fault
  | send c, s =>
    let o := FileSink.send c.context c.topic c.message s
    (o.state, o.fault)
  | close, s => (s.close, none)

end Act

/-- The sink after some acts, and how each of them ended. -/
def perform : List Act → FileSink → FileSink × List (Option Fault)
  | [], s => (s, [])
  | a :: acts, s =>
    let r := a.result s
    let later := perform acts r.1
    (later.1, r.2 :: later.2)

/-- The messages that were sent to a path by calls that were not cancelled beforehand. -/
def sent (path : Text) (acts : List Act) : List Bytes := acts.filterMap (Act.message? path)

variable {a : Act} {acts : List Act}

/-- An act that is not refused is written, and one that is refused does nothing. -/
theorem result_send (c : Call) (s : FileSink) :
    Act.result (.send c) s =
      match cancelled? c.context with
      | some f => (s, some f)
      | none => s.write c.topic c.message := by
  unfold Act.result send
  cases hrefused : cancelled? c.context <;> simp only [hrefused]

/-- **An act that succeeds unless it is refused adds its message to its file.** -/
theorem Serves.result (h : Serves paths held s) (hfits : a.Fits paths)
    (hok : (a.result s).2 = a.refusal?) :
    Serves paths (fun p => held p ++ (a.message? p).toList.flatMap Frame.encode)
      (a.result s).1 := by
  cases a with
  | close => simpa [Act.message?, Act.result] using h.close
  | send c =>
    rw [result_send] at hok ⊢
    cases hrefused : cancelled? c.context with
    | some f => simpa [Act.message?, hrefused] using h
    | none =>
      rw [hrefused] at hok
      simp only [Act.refusal?, hrefused] at hok
      have hwrite := h.write hfits.1 (Prod.ext rfl hok)
      convert hwrite using 1
      funext p
      by_cases hp : p = c.topic
      · simp [Act.message?, hrefused, hp]
      · simp [Act.message?, hrefused, hp, Ne.symm hp]

/-- **What a sink holds after calls and closings** that have succeeded unless they were refused. -/
theorem Serves.perform (h : Serves paths held s) (hfits : ∀ a ∈ acts, a.Fits paths)
    (hok : (perform acts s).2 = acts.map Act.refusal?) :
    Serves paths (fun p => held p ++ (sent p acts).flatMap Frame.encode) (perform acts s).1 := by
  induction acts generalizing s held with
  | nil => simpa [sent, FileSink.perform] using h
  | cons a acts ih =>
    obtain ⟨hfirst, hfits⟩ := List.forall_mem_cons.mp hfits
    obtain ⟨hhead, htail⟩ := List.cons_eq_cons.mp hok
    have hlater := ih (h.result hfirst hhead) hfits htail
    have hheld : (fun p => held p ++ (sent p (a :: acts)).flatMap Frame.encode) = fun p =>
        held p ++ (a.message? p).toList.flatMap Frame.encode ++
          (sent p acts).flatMap Frame.encode := by
      funext p
      cases hmessage : a.message? p <;> simp [sent, hmessage]
    rw [hheld]
    exact hlater

/-- **On a disk without a limit every act succeeds** unless it is refused. -/
theorem Serves.perform_unlimited (h : Serves paths held s) (hfits : ∀ a ∈ acts, a.Fits paths)
    (hroom : s.files.room = none) : (FileSink.perform acts s).2 = acts.map Act.refusal? := by
  induction acts generalizing s held with
  | nil => rfl
  | cons a acts ih =>
    obtain ⟨hfirst, hfits⟩ := List.forall_mem_cons.mp hfits
    have hresult : (a.result s).2 = a.refusal? ∧ (a.result s).1.files.room = none := by
      cases a with
      | close => exact ⟨rfl, hroom⟩
      | send c =>
        rw [result_send]
        cases hrefused : cancelled? c.context with
        | some f => exact ⟨hrefused.symm, hroom⟩
        | none =>
          simp only [Act.refusal?, hrefused]
          exact h.write_unlimited hfirst.1 hroom c.message
    have hlater := ih (h.result hfirst hresult.1) hfits hresult.2
    exact List.cons_eq_cons.mpr ⟨hresult.1, hlater⟩

/-- A sink that has opened nothing serves what stands in the files. -/
theorem Distinct.serves (h : Distinct s.files paths held) (hfresh : s.opened = []) :
    Serves paths held s :=
  { h with opened := fun p k _ hlookup => by rw [hfresh] at hlookup; cases hlookup }

theorem sent_fit (hfits : ∀ a ∈ acts, a.Fits paths) : ∀ m ∈ sent path acts, m.length < 2 ^ 32 := by
  intro m hm
  obtain ⟨a, ha, hmessage⟩ := List.mem_filterMap.mp hm
  cases a with
  | close => cases hmessage
  | send c =>
    obtain ⟨-, hsame⟩ := Option.ite_none_right_eq_some.mp hmessage
    cases hsame
    exact (hfits _ ha).2

/-! ## The whole history of a sink -/

/-- **Files grow by frames, and what stands in a file is read as frames.** A new sink is asked to
send to distinct regular files, and is closed now and then. On a disk without a limit every act
succeeds, apart from the calls that were cancelled beforehand. Whenever they succeed, each file holds
what it held and behind it the frames of the messages that were sent to it, in order; if it was
empty, a reader finds these messages. And of any octets whatever a reader finds the messages of the
whole frames, with no complaint exactly if nothing is left; what is left otherwise is a frame that
was cut off, and the complaint is about a malformed source. -/
theorem perform_appends_frames (abrupt : Bool) :
    (∀ (s : FileSink) (paths : Text → Prop) (initial : Text → Bytes) (acts : List Act),
      s.opened = [] → Distinct s.files paths initial → (∀ a ∈ acts, a.Fits paths) →
      (s.files.room = none → (perform acts s).2 = acts.map Act.refusal?) ∧
      ((perform acts s).2 = acts.map Act.refusal? → ∀ path, paths path →
        ∃ contents, (perform acts s).1.files.Contents path contents ∧
          contents = initial path ++ (sent path acts).flatMap Frame.encode ∧
          (initial path = [] →
            Frame.decode ⟨contents, .clean, abrupt⟩ = (sent path acts, none)))) ∧
    ∀ bs : Bytes, ∃ messages tail fault, Frame.decode ⟨bs, .clean, abrupt⟩ = (messages, fault) ∧
      (∀ m ∈ messages, m.length < 2 ^ 32) ∧ bs = messages.flatMap Frame.encode ++ tail ∧
      (fault = none ↔ tail = []) ∧
      ∀ f, fault = some f → Frame.Cut tail ∧ f.kind = .malformedSource := by
  constructor
  · intro s paths initial acts hfresh hdistinct hfits
    have hserves := hdistinct.serves hfresh
    refine ⟨hserves.perform_unlimited hfits, fun hok path hpath => ?_⟩
    refine ⟨_, ((hserves.perform hfits hok).holds hpath).found, rfl, fun hempty => ?_⟩
    rw [hempty, List.nil_append]
    exact Frame.decode_frames (sent_fit hfits) abrupt
  · intro bs
    obtain ⟨messages, tail, hread, hframed⟩ := Frame.decode_any bs abrupt
    refine ⟨messages, tail, _, hread, hframed.fit, hframed.octets_eq, Frame.complaint?_eq_none,
      fun f hf => ⟨?_, Frame.kind_of_complaint hf⟩⟩
    refine hframed.tail_cut.resolve_left fun hnil => ?_
    rw [Frame.complaint?_eq_none.mpr hnil] at hf
    cases hf

/-- A file that is there and one that is not: a call that was cancelled, an empty message, and a
closing in between. -/
theorem perform_appends_frames_reopened :
    let s : FileSink := { files := { nodes := [("kept", .file [7])] } }
    let acts : List Act := [.send ⟨.live, "new", [1, 2]⟩, .send ⟨.cancelled, "new", [3]⟩,
      .send ⟨.live, "kept", [4]⟩, .close, .send ⟨.live, "new", []⟩]
    (perform acts s).2 = [none, cancelled? .cancelled, none, none, none] ∧
      (perform acts s).1.files.Contents "kept" [7, 1, 0, 0, 0, 4] ∧
      (perform acts s).1.files.Contents "new" [2, 0, 0, 0, 1, 2, 0, 0, 0, 0] ∧
      Frame.decode ⟨[2, 0, 0, 0, 1, 2, 0, 0, 0, 0], .clean, false⟩ = ([[1, 2], []], none) := by
  intro s acts
  let paths : List Text := ["kept", "new"]
  have hkey : ∀ p ∈ paths, s.files.key p = .ok p := by decide
  have hdistinct : Distinct s.files (· ∈ paths) (fun p => if p = "kept" then [7] else []) := by
    refine ⟨by decide, List.forall_mem_cons.mpr ⟨?_, List.forall_mem_singleton.mpr ?_⟩, ?_⟩
    · exact ⟨"kept", hkey _ (by decide), .inl rfl⟩
    · exact ⟨"new", hkey _ (by decide), .inr (by decide)⟩
    · intro p q k hp hq hpk hqk
      rw [hkey p hp] at hpk
      rw [hkey q hq, ← hpk] at hqk
      exact (Except.ok.inj hqk).symm
  have hfits : ∀ a ∈ acts, a.Fits (· ∈ paths) := by
    simp [acts, paths, Act.Fits]
  obtain ⟨hall, hheld⟩ := (perform_appends_frames false).1 s _ _ acts rfl hdistinct hfits
  have hok := hall rfl
  obtain ⟨_, hkept, rfl, -⟩ := hheld hok "kept" (by decide)
  obtain ⟨_, hnew, rfl, hread⟩ := hheld hok "new" (by decide)
  exact ⟨hok, hkept, hnew, hread rfl⟩

end DetectorStream.Delivery.FileSink
