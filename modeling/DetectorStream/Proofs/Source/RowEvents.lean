import DetectorStream.Proofs.Number.Numerals
import DetectorStream.Proofs.Source.RecordReading
import DetectorStream.Source.Csv
import Mathlib.Data.List.Forall2

/-!
# The events of a text of rows

Every record of a text is a row of two numbers and gives one event, except that the first record may
be a heading. A text of such records is read as their events, one for each and in their order, and
every other text is malformed: no row is dropped, repeated or clamped.

* `Csv.IsRow`, `Csv.IsHeading`: which records are rows and headings.
* `Csv.Told`: the events that records tell.
* `Csv.exists_told`, `Csv.eventsOnto_told`: what is read was told, and what is told is read.
* **`Csv.decode_exact`**: what a text of rows is read as.
-/

namespace DetectorStream.Csv

variable {x a b : Text} {ls : List Text} {r : List Text} {rs : List (List Text)} {e : Event}
  {es : List Event} {n : Nat}

/-! ## Rows and headings -/

/-- **The row of an event**: two fields, which are numerals of its detector id and its timestamp but
for white space around them. -/
def IsRow (r : List Text) (e : Event) : Prop :=
  ∃ a b, r = [a, b] ∧ Numeral.Denotes (Text.trimSpace a) e.detector.toInt ∧
    Numeral.Denotes (Text.trimSpace b) e.timestamp.toInt

/-- **A heading**: two fields that are no row, of which the first one names the detector column, in
any case. -/
def IsHeading (r : List Text) : Prop :=
  (∃ a b, r = [a, b] ∧ Text.toLowerAscii (Text.trimSpace a) = Text.ofString "detector_id") ∧
    ∀ e, ¬ IsRow r e

/-- **The events that records tell**, with `n` records before them: one for each row. The first record
of all may be a heading instead. -/
inductive Told : (n : Nat) → (rs : List (List Text)) → (es : List Event) → Prop
  | nil {n : Nat} : Told n [] []
  | row {n : Nat} {r : List Text} {e : Event} {rs : List (List Text)} {es : List Event}
    (h : IsRow r e) (more : Told (n + 1) rs es) : Told n (r :: rs) (e :: es)
  | heading {r : List Text} {rs : List (List Text)} {es : List Event}
    (h : IsHeading r) (more : Told 1 rs es) : Told 0 (r :: rs) es

/-- Later records are rows. -/
theorem told_succ_iff : Told (n + 1) rs es ↔ List.Forall₂ IsRow rs es := by
  constructor
  · intro h
    induction rs generalizing n es with
    | nil =>
      cases h
      exact .nil
    | cons r rs ih =>
      cases h with
      | row h more => exact .cons h (ih more)
  · intro h
    induction h generalizing n with
    | nil => exact .nil
    | cons h _ ih => exact .row h ih

theorem told_zero_iff : Told 0 rs es ↔ List.Forall₂ IsRow rs es ∨
    ∃ r rows, rs = r :: rows ∧ IsHeading r ∧ List.Forall₂ IsRow rows es := by
  constructor
  · intro h
    cases h with
    | nil => exact .inl .nil
    | row h more => exact .inl (.cons h (told_succ_iff.mp more))
    | heading h more => exact .inr ⟨_, _, rfl, h, told_succ_iff.mp more⟩
  · rintro (h | ⟨r, rows, rfl, h, hrows⟩)
    · cases h with
      | nil => exact .nil
      | cons h more => exact .row h (told_succ_iff.mpr more)
    · exact .heading h (told_succ_iff.mpr hrows)

/-- Behind the first of them all records are rows. -/
theorem Told.later (h : Told n (r :: rs) es) : ∀ r' ∈ rs, ∃ e, IsRow r' e := by
  have hrows : ∃ es', List.Forall₂ IsRow rs es' := by
    cases h with
    | row _ more => exact ⟨_, told_succ_iff.mp more⟩
    | heading _ more => exact ⟨_, told_succ_iff.mp more⟩
  obtain ⟨es', hrows⟩ := hrows
  clear h
  intro r' hr'
  induction hrows with
  | nil => cases hr'
  | cons hrow _ ih =>
    rcases List.mem_cons.mp hr' with rfl | hr'
    · exact ⟨_, hrow⟩
    · exact ih hr'

/-! ## One record -/

theorem number_eq_ok {bits : Nat} (hbits : 0 < bits) {i : Int} : number bits a = .ok i ↔
    Numeral.Denotes (Text.trimSpace a) i ∧ -(2 ^ (bits - 1) : Nat) ≤ i ∧
      i < (2 ^ (bits - 1) : Nat) := by
  rw [← Numeral.parseInt_eq_ok hbits]
  unfold number
  simp only
  cases Numeral.parseInt 10 bits (Text.trimSpace a) with
  | error e => exact iff_of_false nofun nofun
  | ok i' => exact ⟨fun h => congrArg _ (Except.ok.inj h), fun h => congrArg _ (Except.ok.inj h)⟩

theorem number_word {i : Int64} : number 64 a = .ok i.toInt ↔
    Numeral.Denotes (Text.trimSpace a) i.toInt := by
  have hlo := i.le_toInt
  have hhi := i.toInt_lt
  rw [number_eq_ok (by decide), and_iff_left (by omega)]

theorem number_half {i : Int32} : number 32 a = .ok i.toInt ↔
    Numeral.Denotes (Text.trimSpace a) i.toInt := by
  have hlo := i.le_toInt
  have hhi := i.toInt_lt
  rw [number_eq_ok (by decide), and_iff_left (by omega)]

/-- A row of two fields. -/
theorem isRow_pair : IsRow [a, b] e ↔
    number 64 a = .ok e.detector.toInt ∧ number 32 b = .ok e.timestamp.toInt := by
  rw [number_word, number_half]
  constructor
  · rintro ⟨_, _, hr, h⟩
    cases hr
    exact h
  · exact fun h => ⟨a, b, rfl, h⟩

/-- A row is that of one event only. -/
theorem IsRow.unique {e' : Event} (h : IsRow r e) (h' : IsRow r e') : e = e' := by
  obtain ⟨a, b, rfl, -⟩ := id h
  obtain ⟨hid, htime⟩ := isRow_pair.mp h
  obtain ⟨hid', htime'⟩ := isRow_pair.mp h'
  have hsame := Int64.toInt_inj.mp (Except.ok.inj (hid.symm.trans hid'))
  have hsame' := Int32.toInt_inj.mp (Except.ok.inj (htime.symm.trans htime'))
  cases e
  cases e'
  simp only at hsame hsame'
  rw [hsame, hsame']

/-- Two numbers that are read are the row of an event. -/
theorem isRow_of_numbers {i j : Int} (hi : number 64 a = .ok i) (hj : number 32 b = .ok j) :
    IsRow [a, b] ⟨Int64.ofInt i, Int32.ofInt j⟩ := by
  obtain ⟨-, hlo, hhi⟩ := (number_eq_ok (by decide)).mp hi
  obtain ⟨-, hlo', hhi'⟩ := (number_eq_ok (by decide)).mp hj
  refine isRow_pair.mpr ⟨?_, ?_⟩
  · rw [hi, Int64.toInt_ofInt_of_le (by omega) (by omega)]
  · rw [hj, Int32.toInt_ofInt_of_le (by omega) (by omega)]

/-- A stop for a malformed source. -/
def Malformed (stop : Stop) : Prop := ∃ f, stop = .fault f ∧ f.kind = .malformedSource

theorem malformed_of (format : Text) (f : Fault) : Malformed (Nev.malformed format f) := ⟨_, rfl, rfl⟩

/-- **What record number `n` is taken for**, if it has two fields. -/
inductive Taken (n : Nat) (a b : Text) : Except Stop (Option Event) → Prop
  | row {e : Event} (h : IsRow [a, b] e) : Taken n a b (.ok (some e))
  | heading (first : n = 1) (h : IsHeading [a, b]) : Taken n a b (.ok none)
  | neither {stop : Stop} (malformed : Malformed stop) (row : ∀ e, ¬ IsRow [a, b] e)
    (heading : n = 1 → ¬ IsHeading [a, b]) : Taken n a b (.error stop)

theorem isHeading_pair (h : ∀ e, ¬ IsRow [a, b] e) : IsHeading [a, b] ↔ isHeading a = true := by
  unfold isHeading
  rw [beq_iff_eq]
  constructor
  · rintro ⟨⟨_, _, hr, hname⟩, -⟩
    cases hr
    exact hname
  · exact fun hname => ⟨⟨a, b, rfl, hname⟩, h⟩

theorem Taken.of_not_row (h : ∀ e, ¬ IsRow [a, b] e) (n : Nat) {stop : Stop} (hstop : Malformed stop) :
    Taken n a b (if n == 1 && isHeading a then .ok none else .error stop) := by
  split
  · rename_i hheading
    rw [Bool.and_eq_true, beq_iff_eq] at hheading
    exact .heading hheading.1 ((isHeading_pair h).mpr hheading.2)
  · rename_i hheading
    rw [Bool.and_eq_true, beq_iff_eq] at hheading
    exact .neither hstop h fun hn hname => hheading ⟨hn, (isHeading_pair h).mp hname⟩

theorem event_taken (n : Nat) (a b : Text) : Taken n a b (event n a b) := by
  have hrow : ∀ e, IsRow [a, b] e → number 64 a = .ok e.detector.toInt ∧
      number 32 b = .ok e.timestamp.toInt := fun e => isRow_pair.mp
  unfold event
  cases hi : number 64 a with
  | error f =>
    have hnot : ∀ e, ¬ IsRow [a, b] e := fun e h => by
      rw [hi] at hrow
      exact nomatch (hrow e h).1
    cases number 32 b with
    | error g => exact .of_not_row hnot n (malformed_of _ _)
    | ok j => exact .of_not_row hnot n (malformed_of _ _)
  | ok i =>
    cases hj : number 32 b with
    | error g =>
      have hnot : ∀ e, ¬ IsRow [a, b] e := fun e h => by
        rw [hj] at hrow
        exact nomatch (hrow e h).2
      exact .of_not_row hnot n (malformed_of _ _)
    | ok j => exact .row (isRow_of_numbers hi hj)

theorem event_row_eq (h : IsRow [a, b] e) (n : Nat) : event n a b = .ok (some e) := by
  have htaken := event_taken n a b
  generalize event n a b = told at htaken
  cases htaken with
  | row h' => rw [h.unique h']
  | heading _ hheading => exact absurd h (hheading.2 e)
  | neither _ hrow _ => exact absurd h (hrow e)

theorem event_heading_eq (h : IsHeading [a, b]) : event 1 a b = .ok none := by
  have htaken := event_taken 1 a b
  generalize event 1 a b = told at htaken
  cases htaken with
  | row hrow => exact absurd hrow (h.2 _)
  | heading => rfl
  | neither _ _ hheading => exact absurd h (hheading rfl)

/-- Behind a record that is taken for a row or a heading, the others are told. -/
theorem Taken.told {found : Option Event} (h : Taken (n + 1) a b (.ok found))
    (more : Told (n + 1) rs es) : Told n ([a, b] :: rs) (found.toList ++ es) := by
  cases h with
  | row hrow => exact .row hrow more
  | heading hfirst hheading =>
    cases hfirst
    exact .heading hheading more

/-- A record that tells events is taken for a row or a heading. -/
theorem Told.taken (h : Told n (r :: rs) es) : ∃ a b found later, r = [a, b] ∧
    event (n + 1) a b = .ok found ∧ Told (n + 1) rs later ∧ es = found.toList ++ later := by
  cases h with
  | @row _ _ e _ later hrow hmore =>
    obtain ⟨a, b, rfl, -⟩ := id hrow
    exact ⟨a, b, some e, later, rfl, event_row_eq hrow (n + 1), hmore, rfl⟩
  | heading hheading hmore =>
    obtain ⟨⟨a, b, rfl, -⟩, -⟩ := id hheading
    exact ⟨a, b, none, es, rfl, event_heading_eq hheading, hmore, rfl⟩

/-- The events of a record and of those behind it go onto the ones that are there. -/
theorem append_found (acc : Array Event) (found : Option Event) (es : List Event) :
    found.elim acc acc.push ++ es.toArray = acc ++ (found.toList ++ es).toArray := by
  cases found <;> simp

/-! ## All records -/

/-- A line that is passed over. -/
theorem isSkipped_iff (hx : 0x0A ∉ x) (hne : ¬ (x = [] ∧ ls = [])) :
    isSkipped (x ++ feed ls) = true ↔ Passed x := by
  unfold isSkipped Passed
  cases x with
  | nil =>
    have hfeed : feed ls = [0x0A] := if_neg fun hempty => hne ⟨rfl, List.isEmpty_iff.mp hempty⟩
    simp [hfeed]
  | cons b x =>
    have hb : b ≠ 0x0A := by
      rintro rfl
      exact hx List.mem_cons_self
    simp [hb]

/-- The place of a reader at the start of a line. -/
theorem at_line (hlines : ∀ y ∈ x :: ls, 0x0A ∉ y) (row : Nat) :
    At ⟨row, 1, x ++ feed ls, fed ls⟩ x ls :=
  ⟨rfl, rfl, hlines⟩

theorem record_eq_ok {size row : Nat} {line : Bytes} {more : List Bytes} {c : Cursor} :
    record size row line more = .ok (a, b, c) ↔
      fields true row size ⟨row, 1, line, more⟩ = .ok ([a, b], c) := by
  unfold record
  split
  · rename_i h
    rw [h]
    exact iff_of_false nofun nofun
  · rename_i h
    rw [h]
    simp [and_assoc]
  · rename_i hno h
    exact iff_of_false nofun fun hpair => hno _ _ _ (Except.ok.inj (h.symm.trans hpair))

/-- No record of a whole text is cut off. -/
theorem eventsOnto_cons (size fuel row n : Nat) (line : Bytes) (more : List Bytes)
    (acc : Array Event) :
    eventsOnto .clean size (fuel + 1) row n (line :: more) acc =
      if isSkipped line then eventsOnto .clean size fuel (row + 1) n more acc
      else
        match record size row line more with
        | .error c => .error (Nev.malformed "csv" (.told c.message))
        | .ok (a, b, c) =>
          match event (n + 1) a b with
          | .error e => .error e
          | .ok e => eventsOnto .clean size fuel (c.row + 1) (n + 1) c.more (e.elim acc acc.push) :=
  rfl

/-- **What is read was told.** -/
theorem exists_told {size fuel row : Nat} {acc acc' : Array Event} (hlines : ∀ y ∈ ls, 0x0A ∉ y)
    (hfuel : (fed ls).length < fuel) (hsize : octets ls ≤ size)
    (h : eventsOnto .clean size fuel row n (fed ls) acc = .ok acc') :
    ∃ rs es, Records ls rs ∧ Told n rs es ∧ acc' = acc ++ es.toArray := by
  induction fuel generalizing ls row n acc with
  | zero => cases hfuel
  | succ fuel ih =>
    cases ls with
    | nil =>
      cases h
      exact ⟨[], [], .nil, .nil, by simp⟩
    | cons x ls =>
      obtain ⟨hx, hls⟩ := List.forall_mem_cons.mp hlines
      by_cases hempty : x = [] ∧ ls = []
      · obtain ⟨rfl, rfl⟩ := hempty
        cases h
        exact ⟨[], [], .pass (.inl rfl) .nil, .nil, by simp⟩
      rw [fed_of_ne hempty] at h hfuel
      rw [octets_cons] at hsize
      rw [List.length_cons] at hfuel
      rw [eventsOnto_cons] at h
      by_cases hskip : isSkipped (x ++ feed ls) = true
      · rw [if_pos hskip] at h
        obtain ⟨rs, es, hrecords, htold, hacc⟩ := ih hls (by omega) (by omega) h
        exact ⟨rs, es, .pass ((isSkipped_iff hx hempty).mp hskip) hrecords, htold, hacc⟩
      · rw [if_neg hskip] at h
        have hstart := mt (isSkipped_iff hx hempty).mpr hskip
        split at h
        · cases h
        · rename_i a b c hrecord
          obtain ⟨rest, hcells, hmore⟩ :=
            exists_cells (at_line hlines row) (by omega) (record_eq_ok.mp hrecord)
          obtain ⟨hclean, hshort, hless⟩ := hcells.leaves hls
          have htaken := event_taken (n + 1) a b
          rw [hmore] at h
          split at h
          · cases h
          · rename_i found hfound
            rw [hfound] at htaken
            obtain ⟨rs, es, hrecords, htold, hacc⟩ := ih hclean (by omega) (by omega) h
            rw [append_found] at hacc
            exact ⟨_, _, .record hstart hcells hrecords, htaken.told htold, hacc⟩

/-- **What is told is read.** -/
theorem eventsOnto_told {size fuel row : Nat} {acc : Array Event} (hlines : ∀ y ∈ ls, 0x0A ∉ y)
    (hfuel : (fed ls).length < fuel) (hsize : octets ls ≤ size) (hrecords : Records ls rs)
    (htold : Told n rs es) :
    eventsOnto .clean size fuel row n (fed ls) acc = .ok (acc ++ es.toArray) := by
  induction hrecords generalizing fuel row n es acc with
  | nil =>
    cases htold
    obtain ⟨fuel, rfl⟩ := Nat.exists_eq_succ_of_ne_zero (Nat.ne_zero_of_lt hfuel)
    simp [eventsOnto, atEnd, fed]
  | @pass x ls rs hpassed hmore ih =>
    obtain ⟨hx, hls⟩ := List.forall_mem_cons.mp hlines
    obtain ⟨fuel, rfl⟩ := Nat.exists_eq_succ_of_ne_zero (Nat.ne_zero_of_lt hfuel)
    by_cases hempty : x = [] ∧ ls = []
    · obtain ⟨rfl, rfl⟩ := hempty
      cases hmore
      cases htold
      simp [eventsOnto, atEnd, fed]
    rw [fed_of_ne hempty, List.length_cons] at hfuel
    rw [octets_cons] at hsize
    rw [fed_of_ne hempty, eventsOnto_cons, if_pos ((isSkipped_iff hx hempty).mpr hpassed)]
    exact ih hls (by omega) (by omega) htold
  | @record x ls fs rest rs hstart hcells hmore ih =>
    obtain ⟨hx, hls⟩ := List.forall_mem_cons.mp hlines
    obtain ⟨fuel, rfl⟩ := Nat.exists_eq_succ_of_ne_zero (Nat.ne_zero_of_lt hfuel)
    have hempty : ¬ (x = [] ∧ ls = []) := fun hempty => hstart (.inl hempty.1)
    obtain ⟨hclean, hshort, hless⟩ := hcells.leaves hls
    rw [fed_of_ne hempty, List.length_cons] at hfuel
    rw [octets_cons] at hsize
    obtain ⟨c, hread, hend⟩ := hcells.read (at_line hlines row) row size (by omega)
    obtain ⟨a, b, found, later, rfl, hevent, hlater, rfl⟩ := htold.taken
    rw [fed_of_ne hempty, eventsOnto_cons, if_neg (mt (isSkipped_iff hx hempty).mp hstart),
      record_eq_ok.mpr hread]
    simp only [hevent, hend]
    rw [ih hclean (by omega) (by omega) hlater, append_found]

/-- Whatever else is there is malformed. -/
theorem malformed_of_eventsOnto {size fuel row : Nat} {lines : List Bytes} {acc : Array Event}
    {stop : Stop} (h : eventsOnto .clean size fuel row n lines acc = .error stop) :
    Malformed stop := by
  induction fuel generalizing row n lines acc with
  | zero => cases h
  | succ fuel ih =>
    cases lines with
    | nil => cases h
    | cons line more =>
      rw [eventsOnto_cons] at h
      split at h
      · exact ih h
      · split at h
        · cases h
          exact malformed_of _ _
        · rename_i a b c hrecord
          have htaken := event_taken (n + 1) a b
          split at h
          · rename_i htold
            rw [htold] at htaken
            cases h
            cases htaken with
            | neither hstop _ _ => exact hstop
          · exact ih h

/-- What a text is read as before its batch is made. -/
theorem events_eq (text : Text) (abrupt : Bool) : events ⟨text, .clean, abrupt⟩ =
    eventsOnto .clean (text.length + 1) ((fed (written text)).length + 1) 1 0 (fed (written text))
      #[] := by
  rw [← linesOf_eq]
  rfl

/-- **What a text of rows is read as.** -/
structure Exact (a : Allocator) (text : Text) (result : Except Stop Batch) : Prop where
  /-- A batch holds one event for each record, in the order of the records, but for a heading in front
  of them. -/
  of_batch : ∀ b, result = .ok b → ∃ rs es, Records (written text) rs ∧ b = .live es.toArray ∧
    (es.length = rs.length ∧ List.Forall₂ IsRow rs es ∨
      ∃ r rows, rs = r :: rows ∧ IsHeading r ∧ es.length = rs.length - 1 ∧
        List.Forall₂ IsRow rows es)
  /-- Records that tell events are a request for their events. -/
  of_told : ∀ rs es, Records (written text) rs → Told 0 rs es → result = Batch.ofEvents a es.toArray
  /-- A text with a later record that is no row is malformed. -/
  of_misfit : ∀ r rs, Records (written text) (r :: rs) → (∃ r' ∈ rs, ∀ e, ¬ IsRow r' e) →
    ∃ stop, result = .error stop ∧ Malformed stop
  /-- So is every text that has no records, or of which the records tell no events. -/
  of_untold : (¬ ∃ rs es, Records (written text) rs ∧ Told 0 rs es) →
    ∃ stop, result = .error stop ∧ Malformed stop

/-- The events that the records of a text tell are read. -/
theorem events_told {text : Text} (abrupt : Bool) (hrecords : Records (written text) rs)
    (htold : Told 0 rs es) : events ⟨text, .clean, abrupt⟩ = .ok es.toArray := by
  rw [events_eq, eventsOnto_told (not_mem_of_written text) (Nat.lt_succ_self _)
    (octets_written_le text) hrecords htold, Array.empty_append]

/-- Records that tell events are a request for their events. -/
theorem decode_told (a : Allocator) {text : Text} (abrupt : Bool)
    (hrecords : Records (written text) rs) (htold : Told 0 rs es) :
    decode a ⟨text, .clean, abrupt⟩ = Batch.ofEvents a es.toArray := by
  unfold decode
  rw [events_told abrupt hrecords htold]

/-- A text of which the records tell no events is malformed. -/
theorem decode_untold (a : Allocator) {text : Text} (abrupt : Bool)
    (h : ¬ ∃ rs es, Records (written text) rs ∧ Told 0 rs es) :
    ∃ stop, decode a ⟨text, .clean, abrupt⟩ = .error stop ∧ Malformed stop := by
  unfold decode
  rw [events_eq]
  cases hread : eventsOnto .clean (text.length + 1) ((fed (written text)).length + 1) 1 0
    (fed (written text)) #[] with
  | error stop => exact ⟨stop, rfl, malformed_of_eventsOnto hread⟩
  | ok acc =>
    obtain ⟨rs, es, hrecords, htold, -⟩ :=
      exists_told (not_mem_of_written text) (Nat.lt_succ_self _) (octets_written_le text) hread
    exact absurd ⟨rs, es, hrecords, htold⟩ h

/-- A batch that is made of events holds them. -/
theorem eq_of_ofEvents {a : Allocator} {es : Array Event} {b : Batch}
    (h : Batch.ofEvents a es = .ok b) : b = .live es := by
  unfold Batch.ofEvents at h
  split at h
  · cases h
  · exact (Except.ok.inj h).symm

/-- **A text of rows is read exactly**: no row is dropped, repeated or clamped. -/
theorem decode_exact (a : Allocator) (text : Text) (abrupt : Bool) :
    Exact a text (decode a ⟨text, .clean, abrupt⟩) := by
  refine ⟨fun b hb => ?_, fun rs es => decode_told a abrupt, fun r rs hrecords hmisfit => ?_,
    decode_untold a abrupt⟩
  · by_cases hany : ∃ rs es, Records (written text) rs ∧ Told 0 rs es
    · obtain ⟨rs, es, hrecords, htold⟩ := hany
      rw [decode_told a abrupt hrecords htold] at hb
      refine ⟨rs, es, hrecords, eq_of_ofEvents hb, ?_⟩
      rcases told_zero_iff.mp htold with hrows | ⟨r, rows, rfl, hheading, hrows⟩
      · exact .inl ⟨hrows.length_eq.symm, hrows⟩
      · exact .inr ⟨r, rows, rfl, hheading, hrows.length_eq.symm, hrows⟩
    · obtain ⟨stop, hstop, -⟩ := decode_untold a abrupt hany
      rw [hb] at hstop
      cases hstop
  · refine decode_untold a abrupt fun ⟨rs', es, hrecords', htold⟩ => ?_
    obtain ⟨r', hr', hrow⟩ := hmisfit
    cases hrecords.unique hrecords'
    obtain ⟨e, he⟩ := htold.later r' hr'
    exact hrow e he

/-- A comment, a heading, and a row with white space. -/
example : events { bytes := "# run 7\nDetector_ID,timestamp\n1, -2\r\n" } =
    .ok #[⟨1, -2⟩] := by
  decide +kernel

end DetectorStream.Csv
