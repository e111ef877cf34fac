import DetectorStream.Source.Load

/-!
# Reading through a mapping

A mapped file has one cursor, which only reads move, and one mark that it is closed, which nothing
takes back. Before it is closed its reads deliver the file from the start on, each going on where the
last one ended, and a read at an offset sees the whole file wherever the cursor stands. Afterwards
there is nothing to read. Nobody who asks for octets, with whatever buffers, can tell an open mapping
from the file itself, so that a large source holds the same batch either way.

* `Request`, `MappedFile.answer`, `MappedFile.history`: the uses of a mapping and what they are told.
* `MappedFile.history_frame`: reads at an offset move nothing.
* `MappedFile.closed_history`: a closed mapping.
* `OpenFile.mapped`, `Consumer.run_mapped`: a mapping against the file itself.
* `Consumer.run_gather`: the stream of a file, with any buffers.
* **`MappedFile.ofPath_serves`**: all that a mapping tells, and the batch that is read through it.
-/

namespace DetectorStream

namespace MappedFile

/-! ## Uses of a mapping -/

/-- A use of a mapping: read on, read at an offset, or close it, with what the system reports of the
mapping and of the file. -/
inductive Request
  | read (room : Nat)
  | readAt (room : Nat) (offset : Int)
  | close (unmapped shut : Option Fault)

/-- Is the request one at an offset? -/
def Request.isAt : Request → Bool
  | readAt _ _ => true
  | read _ | close _ _ => false

/-- Does the request end all reading? -/
def Request.Closes : Request → Prop
  | close _ _ => True
  | read _ | readAt _ _ => False

/-- The octets that a request is told, and the fault. -/
abbrev Reply := Bytes × Option Fault

/-- The reply to a request, and the mapping after it. -/
def answer (m : MappedFile) : Request → MappedFile × Reply
  | .read room => m.read room
  | .readAt room offset => (m, m.readAt room offset)
  | .close unmapped shut => (m.close, [], m.closeReport unmapped shut)

/-- The mapping after requests. -/
def after (m : MappedFile) : List Request → MappedFile
  | [] => m
  | r :: rs => (m.answer r).1.after rs

/-- Requests and the replies to them. -/
def history (m : MappedFile) : List Request → List (Request × Reply)
  | [] => []
  | r :: rs => (r, (m.answer r).2) :: (m.answer r).1.history rs

/-- What a request delivers to whoever reads on. -/
def portion : Request × Reply → Bytes
  | (.read _, bs, _) => bs
  | _ => []

/-- What was read on, one read behind the other. -/
def delivered (past : List (Request × Reply)) : Bytes := past.flatMap portion

/-- A read has told the end. -/
def Finished (past : List (Request × Reply)) : Prop := ∃ n bs, (Request.read n, bs, some ended) ∈ past

variable {m : MappedFile} {c : Bytes} {r : Request} {rs : List Request}

/-- Mapping octets succeeds exactly if there are any. -/
theorem ofContents_eq_ok :
    ofContents c = .ok m ↔ c ≠ [] ∧ m = { contents := c } := by
  unfold ofContents
  cases c with
  | nil =>
    constructor
    · intro h
      cases h
    · exact fun h => absurd rfl h.1
  | cons b bs =>
    exact ⟨fun h => ⟨List.cons_ne_nil b bs, (Except.ok.inj h).symm⟩, fun h => h.2 ▸ rfl⟩

theorem after_append (m : MappedFile) (rs later : List Request) :
    m.after (rs ++ later) = (m.after rs).after later := by
  induction rs generalizing m with
  | nil => rfl
  | cons r rs ih => exact ih _

@[simp] theorem delivered_cons (e : Request × Reply) (past : List (Request × Reply)) :
    delivered (e :: past) = portion e ++ delivered past := List.flatMap_cons

/-- **A read at an offset moves nothing**: without such reads all other requests are told the same. -/
theorem history_frame (m : MappedFile) (rs : List Request) :
    m.history (rs.filter (!·.isAt)) = (m.history rs).filter (!·.1.isAt) := by
  induction rs generalizing m with
  | nil => rfl
  | cons r rs ih =>
    cases r with
    | readAt room offset => exact ih m
    | read room => exact congrArg (_ :: ·) (ih _)
    | close unmapped shut => exact congrArg (_ :: ·) (ih _)

/-! ## A closed mapping -/

/-- What a closed mapping tells: closing it again is fine, and there is nothing to read. -/
def gone : Request → Reply
  | .read _ | .readAt _ _ => ([], some alreadyClosed)
  | .close _ _ => ([], none)

theorem closed_answer (h : m.closed = true) (r : Request) : m.answer r = (m, gone r) := by
  obtain ⟨contents, cursor, closed⟩ := m
  cases h
  cases r <;> rfl

theorem closed_after (h : m.closed = true) (rs : List Request) : m.after rs = m := by
  induction rs with
  | nil => rfl
  | cons r rs ih =>
    rw [after, closed_answer h]
    exact ih

theorem closed_history (h : m.closed = true) (rs : List Request) :
    m.history rs = rs.map fun r => (r, gone r) := by
  induction rs with
  | nil => rfl
  | cons r rs ih =>
    rw [history, closed_answer h, ih]
    rfl

theorem closed_close (m : MappedFile) (rs : List Request) (unmapped shut : Option Fault) :
    (m.after (rs ++ [.close unmapped shut])).closed = true := by
  rw [after_append]
  rfl

end MappedFile

/-! ## An open mapping and the file -/

/-- The mapping that stands where a file stands. -/
def OpenFile.mapped (p : OpenFile) : MappedFile := { contents := p.contents, cursor := p.cursor }

/-- What of a file is still to be read. -/
def OpenFile.rest (p : OpenFile) : Bytes := p.contents.drop p.cursor

namespace OpenFile

variable {p : OpenFile}

theorem rest_eq_nil : p.rest = [] ↔ p.contents.length ≤ p.cursor := List.drop_eq_nil_iff

/-- The file after a read. -/
theorem rest_read (p : OpenFile) (n : Nat) : (p.read n).1.rest = p.rest.drop n := by
  unfold rest read
  simp only
  rw [List.drop_drop, List.length_take, List.length_drop, Nat.min_def]
  split
  · rfl
  · rw [List.drop_eq_nil_of_le (by omega), List.drop_eq_nil_of_le (by omega)]

/-- A mapping that is read delivers what the file holds next, and tells the end if there is nothing
more. -/
theorem read_mapped (p : OpenFile) (n : Nat) :
    p.mapped.read n = ((p.read n).1.mapped, p.rest.take n, if p.rest = [] then some ended else none) := by
  change (if p.contents.length ≤ p.cursor then (p.mapped, [], some ended)
    else ((p.read n).1.mapped, p.rest.take n, none)) = _
  by_cases hend : p.contents.length ≤ p.cursor
  · have hrest := rest_eq_nil.mpr hend
    have hread : (p.read n).1 = p := by
      change { p with cursor := p.cursor + (p.rest.take n).length } = p
      rw [hrest, List.take_nil]
      rfl
    rw [if_pos hend, if_pos hrest, hrest, hread, List.take_nil]
  · rw [if_neg hend, if_neg (mt rest_eq_nil.mp hend)]

/-- With room for an octet, the file tells the end just as a mapping does. -/
theorem read_succ (p : OpenFile) (n : Nat) :
    p.read (n + 1) =
      ((p.read (n + 1)).1, p.rest.take (n + 1), if p.rest = [] then some ended else none) := by
  have hiff : (n + 1 ≠ 0 ∧ p.contents.length ≤ p.cursor) ↔ p.rest = [] := by
    rw [rest_eq_nil]
    exact and_iff_right (Nat.succ_ne_zero n)
  simp only [← hiff]
  rfl

end OpenFile

namespace Consumer

variable {α : Type}

/-- **Nobody can tell an open mapping from the file**, whatever buffers are used and wherever the
reading stops. -/
theorem run_mapped (k : Consumer α) (p : OpenFile) :
    k.run MappedFile.read p.mapped = k.run OpenFile.read p := by
  induction k generalizing p with
  | done result => rfl
  | ask spare next ih =>
    rw [run, run, p.read_mapped, p.read_succ]
    exact ih _ _ _

/-- **Any buffers gather the stream of a file**, if there is a read for each octet and one more that
finds the end. -/
theorem run_gather (spare : Bytes → Nat) {reads : Nat} (sofar : Bytes) (p : OpenFile)
    (h : p.rest.length < reads) :
    (gather spare reads sofar).run OpenFile.read p = { bytes := sofar ++ p.rest } := by
  induction reads generalizing sofar p with
  | zero => exact absurd h (Nat.not_lt_zero _)
  | succ reads ih =>
    rw [gather, run, p.read_succ]
    by_cases hend : p.rest = []
    · rw [if_pos hend, hend, List.take_nil]
      rfl
    · have hpos := List.length_pos_iff.mpr hend
      rw [if_neg hend]
      refine (ih (sofar ++ p.rest.take (spare sofar + 1)) _ ?_).trans ?_
      · rw [p.rest_read, List.length_drop]
        omega
      · rw [p.rest_read, List.append_assoc, List.take_append_drop]

end Consumer

namespace Source

/-- **Reading a file does not depend on whether it is mapped.** -/
theorem readingFile_eq {α : Type} (bs : Bytes) (k : Consumer α) :
    readingFile bs k = k.run OpenFile.read { contents := bs } := by
  unfold readingFile
  split
  · rename_i m h
    split at h
    · cases hmap : MappedFile.ofContents bs with
      | error f =>
        rw [hmap] at h
        cases h
      | ok m' =>
        rw [hmap] at h
        obtain rfl := Option.some.inj h
        obtain ⟨-, rfl⟩ := MappedFile.ofContents_eq_ok.mp hmap
        exact k.run_mapped { contents := bs }
    · cases h
  · rfl

@[simp] theorem fileStream_eq (bs : Bytes) : fileStream bs = { bytes := bs } := by
  unfold fileStream
  rw [readingFile_eq]
  exact Consumer.run_gather _ [] { contents := bs } (Nat.lt_succ_self _)

end Source

/-! ## All that a mapping tells -/

namespace MappedFile

variable {c : Bytes} {r : Request} {rs : List Request}

/-- A request that does not close leaves the mapping of what is then still to be read. -/
theorem open_answer (p : OpenFile) (h : ¬ r.Closes) :
    ∃ q : OpenFile, (p.mapped.answer r).1 = q.mapped ∧ q.contents = p.contents ∧
      portion (r, (p.mapped.answer r).2) ++ q.rest = p.rest := by
  cases r with
  | read room =>
    refine ⟨(p.read room).1, ?_, rfl, ?_⟩
    · rw [answer, p.read_mapped]
    · rw [answer, p.read_mapped, p.rest_read]
      exact List.take_append_drop room p.rest
  | readAt room offset => exact ⟨p, rfl, rfl, rfl⟩
  | close unmapped shut => exact absurd trivial h

/-- A read that tells the end has found nothing more. -/
theorem rest_of_ended {p : OpenFile} {n : Nat} {bs : Bytes}
    (h : (Request.read n, bs, some ended) = (r, (p.mapped.answer r).2)) : p.rest = [] := by
  obtain ⟨rfl, hreply⟩ := Prod.mk.inj h
  rw [answer, p.read_mapped] at hreply
  by_cases hend : p.rest = []
  · exact hend
  · rw [if_neg hend] at hreply
    cases (Prod.mk.inj hreply).2

/-- **Requests that do not close leave the mapping of what is then still to be read**, which is
nothing once a read has told the end. The induction is on the requests, for a mapping at any place. -/
theorem open_after (p : OpenFile) (h : ∀ r ∈ rs, ¬ r.Closes) :
    ∃ q : OpenFile, p.mapped.after rs = q.mapped ∧ q.contents = p.contents ∧
      delivered (p.mapped.history rs) ++ q.rest = p.rest ∧
      (Finished (p.mapped.history rs) → q.rest = []) := by
  induction rs generalizing p with
  | nil =>
    refine ⟨p, rfl, rfl, rfl, ?_⟩
    rintro ⟨_, _, hmem⟩
    cases hmem
  | cons r rs ih =>
    obtain ⟨hr, hrs⟩ := List.forall_mem_cons.mp h
    obtain ⟨q, hq, hcontents, hportion⟩ := open_answer p hr
    obtain ⟨q', hafter, hcontents', hdelivered, hfinished⟩ := ih q hrs
    have hall : portion (r, (p.mapped.answer r).2) ++ delivered (q.mapped.history rs) ++ q'.rest =
        p.rest := by rw [List.append_assoc, hdelivered, hportion]
    rw [after, history, hq, delivered_cons]
    refine ⟨q', hafter, hcontents'.trans hcontents, hall, ?_⟩
    rintro ⟨n, bs, hmem⟩
    rcases List.mem_cons.mp hmem with heq | hlater
    · rw [rest_of_ended heq] at hall
      exact (List.append_eq_nil_iff.mp hall).2
    · exact hfinished ⟨n, bs, hlater⟩

/-- A read at an offset of an open mapping, wherever its cursor stands. -/
theorem readAt_mapped (p : OpenFile) (n o : Nat) :
    p.mapped.readAt n o = ((p.contents.drop o).take n,
      if o < p.contents.length ∧ o + n ≤ p.contents.length then none else some ended) := by
  change (if (o : Int) < 0 then ([], some negativeOffset)
    else if p.contents.length ≤ o then ([], some ended)
    else ((p.contents.drop o).take n,
      if ((p.contents.drop o).take n).length < n then some ended else none)) = _
  rw [if_neg (Int.not_lt.mpr (Int.natCast_nonneg o))]
  by_cases hend : p.contents.length ≤ o
  · rw [if_pos hend, if_neg (fun hin => Nat.not_lt.mpr hend hin.1), List.drop_eq_nil_of_le hend,
      List.take_nil]
  · rw [if_neg hend, List.length_take, List.length_drop]
    by_cases hfull : o + n ≤ p.contents.length
    · rw [if_neg (by omega), if_pos ⟨by omega, hfull⟩]
    · rw [if_pos (by omega), if_neg (fun hin => hfull hin.2)]

/-- **What a mapping of `c` tells after requests none of which closes it.** -/
structure Serves (m : MappedFile) (c : Bytes) (rs : List Request) : Prop where
  beginning : delivered (m.history rs) <+: c
  whole : Finished (m.history rs) → delivered (m.history rs) = c
  size : (m.after rs).size = c.length
  next : ∀ n, ((m.after rs).read n).2 = ((c.drop (delivered (m.history rs)).length).take n,
    if delivered (m.history rs) = c then some ended else none)
  anywhere : ∀ n o : Nat, (m.after rs).readAt n o = ((c.drop o).take n,
    if o < c.length ∧ o + n ≤ c.length then none else some ended)
  extent : ∀ n o : Nat, ((m.after rs).readAt n o).1.length = min n (c.length - o)

/-- **What a closed mapping tells**, and that it stays as it is. -/
structure Gone (m : MappedFile) : Prop where
  size : m.size = 0
  replies : ∀ rs, m.history rs = rs.map fun r => (r, gone r)
  stays : ∀ rs, m.after rs = m

/-- A mapping serves a file if it stands behind what was delivered of it. -/
theorem Serves.of_rest {m : MappedFile} {q : OpenFile} (hafter : m.after rs = q.mapped)
    (hcontents : q.contents = c) (hdelivered : delivered (m.history rs) ++ q.rest = c)
    (hfinished : Finished (m.history rs) → q.rest = []) : Serves m c rs := by
  have hrest : q.rest = c.drop (delivered (m.history rs)).length := by
    conv => rhs; rw [← hdelivered]
    exact List.drop_left.symm
  have hend : q.rest = [] ↔ delivered (m.history rs) = c := by
    constructor
    · intro h
      rw [h, List.append_nil] at hdelivered
      exact hdelivered
    · intro h
      rw [hrest, h, List.drop_length]
  have hanywhere : ∀ n o : Nat, (m.after rs).readAt n o = ((c.drop o).take n,
      if o < c.length ∧ o + n ≤ c.length then none else some ended) := by
    intro n o
    rw [hafter, readAt_mapped, hcontents]
  exact {
    beginning := ⟨q.rest, hdelivered⟩
    whole := fun h => hend.mp (hfinished h)
    size := by rw [hafter, ← hcontents]; rfl
    next := fun n => by
      rw [hafter, q.read_mapped, ← hrest]
      simp only [hend]
    anywhere := hanywhere
    extent := fun n o => by rw [hanywhere, List.length_take, List.length_drop] }

/-- **An open mapping serves the file it was made from.** -/
theorem serves (h : ∀ r ∈ rs, ¬ r.Closes) : Serves { contents := c } c rs := by
  obtain ⟨q, hafter, hcontents, hdelivered, hfinished⟩ := open_after { contents := c } h
  exact .of_rest hafter hcontents hdelivered hfinished

theorem gone_of_closed {m : MappedFile} (h : m.closed = true) : Gone m where
  size := by rw [size, mapped, if_pos h]; rfl
  replies := closed_history h
  stays := closed_after h

/-- **A mapped file is the file, until it is closed.** Its reads deliver the file from the start on,
all of it once one of them has told the end, and a read at an offset finds what stands there and moves
nothing. Once it is closed there is nothing to read, and closing it again is fine. So whoever asks for
its octets gets what he would get from the file, with whatever buffers, and a source that is large
enough to be mapped has the batch of the octets of its file. -/
theorem ofPath_serves {fs : Files} {path : Text} (hfile : fs.node path = .ok (.file c))
    (hne : c ≠ []) :
    ∃ m, ofPath fs path = .ok m ∧
      (∀ rs : List Request, (∀ r ∈ rs, ¬ r.Closes) → Serves m c rs) ∧
      (∀ rs : List Request,
        m.history (rs.filter (!·.isAt)) = (m.history rs).filter (!·.1.isAt)) ∧
      (∀ (rs : List Request) (unmapped shut : Option Fault),
        Gone (m.after (rs ++ [.close unmapped shut]))) ∧
      (∀ {α : Type} (k : Consumer α),
        k.run MappedFile.read m = k.run OpenFile.read { contents := c }) ∧
      (Source.mappedFrom ≤ c.length → ∀ {α : Type} (k : Consumer α),
        Source.readingFile c k = k.run MappedFile.read m) ∧
      ∀ (u : Locator) (a : Allocator) (spare : Bytes → Nat) (reads : Nat),
        u.host ++ u.path = path → c.length < reads →
        (Source.openFile fs u).bind (Source.decode a) = Source.decode a {
          name := Path.base path
          head := ((Consumer.gather spare reads []).run OpenFile.read { contents := c }).bytes } := by
  have hmap : ofContents c = .ok { contents := c } := ofContents_eq_ok.mpr ⟨hne, rfl⟩
  refine ⟨{ contents := c }, ?_, fun rs => serves, history_frame _,
    fun rs unmapped shut => gone_of_closed (closed_close _ rs unmapped shut),
    fun k => k.run_mapped { contents := c }, ?_, ?_⟩
  · rw [ofPath, hfile]
    exact hmap
  · intro hlarge α k
    rw [Source.readingFile, if_pos hlarge, hmap]
    rfl
  · rintro u a spare reads rfl hreads
    rw [Source.openFile]
    simp only [hfile, Source.fileStream_eq, Except.bind]
    rw [Consumer.run_gather spare [] { contents := c } hreads]
    rfl

/-- A file of six octets, mapped: it is served until it is closed, and gone afterwards. -/
theorem ofPath_serves_six :
    ∃ m, ofPath (.ofList [("data.bin", "mapped")]) "data.bin" = .ok m ∧
      (∀ rs : List Request, (∀ r ∈ rs, ¬ r.Closes) → Serves m "mapped" rs) ∧
      ∀ rs : List Request, Gone (m.after (rs ++ [.close none none])) := by
  have hfile : Files.node (.ofList [("data.bin", "mapped")]) "data.bin" = .ok (.file "mapped") := rfl
  obtain ⟨m, hmap, hserves, -, hgone, -⟩ := ofPath_serves hfile (by decide)
  exact ⟨m, hmap, hserves, fun rs => hgone rs none none⟩

end MappedFile

end DetectorStream
