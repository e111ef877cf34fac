import DetectorStream.Proofs.Source.RowEvents
import DetectorStream.Proofs.Text.Plain

/-!
# Reading back rows

A row is a detector id and a timestamp in decimal with a comma between them. A rendering is one row
for each event, with a line feed after each line or between them, and perhaps a heading before all
rows. Reading it gives the events.

* `Csv.written_lines`: the lines of a text whose last line may lack its line feed.
* `Csv.cells_plain`: the record on a line of two plain fields.
* `Csv.row`, `Csv.heading`, `Csv.Renders`: the renderings of events.
* `Csv.rendered_told`: the records of a rendering tell the events.
* **`Csv.events_of_renders`**: the events of a rendering.
-/

namespace DetectorStream.Csv

variable {last x y : Text} {ls tail : List Text} {e : Event} {es : List Event} {headed : Bool}

/-! ## Lines -/

/-- A text within a line: it has no octet that ends one. -/
def Inside (line : Text) : Prop := 0x0A ∉ line ∧ 0x0D ∉ line

theorem written_flatMap (h : ∀ line ∈ ls, Inside line) (hlast : Inside last) :
    written (ls.flatMap (· ++ [0x0A]) ++ last) = ls ++ [last] := by
  induction ls with
  | nil => exact (written_singleton hlast.1).trans (by rw [chop_eq hlast.2]; rfl)
  | cons line ls ih =>
    have hline := h line List.mem_cons_self
    rw [List.flatMap_cons, List.append_assoc, List.append_assoc, List.singleton_append,
      written_append hline.1, chop_eq hline.2, ih fun l hl => h l (List.mem_cons_of_mem line hl)]
    rfl

/-- Behind a last line that has its line feed stands an empty one. -/
theorem written_lines {text : Text} (h : ∀ line ∈ ls, Inside line)
    (htext : text = ls.flatMap (· ++ [0x0A]) ∨ text ++ [0x0A] = ls.flatMap (· ++ [0x0A])) :
    written text = ls ++ [[]] ∨ written text = ls := by
  rcases htext with rfl | htext
  · have hlines := written_flatMap h (show Inside [] from ⟨List.not_mem_nil, List.not_mem_nil⟩)
    rw [List.append_nil] at hlines
    exact .inl hlines
  · rcases List.eq_nil_or_concat' ls with rfl | ⟨front, last, rfl⟩
    · simp at htext
    · rw [List.flatMap_append, List.flatMap_singleton, ← List.append_assoc,
        List.append_left_inj] at htext
      rw [htext]
      exact .inr (written_flatMap (fun line hline => h line (by simp [hline])) (h last (by simp)))

/-! ## Records -/

/-- A plain field stands for itself. -/
theorem cell_plain (hx : x.all Text.isPlain = true) (hne : x ≠ []) (after : Option Text)
    (ls : List Text) : Cell (x ++ behind after) ls x after ls := by
  refine .bare ?_ (Text.not_mem_of_isPlain hx (by decide)) (Text.not_mem_of_isPlain hx (by decide))
  cases x with
  | nil => exact absurd rfl hne
  | cons b x =>
    rw [List.all_cons, Bool.and_eq_true] at hx
    exact Text.trimLeftSpace_plain hx.1 _

/-- **The record on a line of two plain fields.** -/
theorem cells_plain (hx : x.all Text.isPlain = true) (hxne : x ≠ [])
    (hy : y.all Text.isPlain = true) (hyne : y ≠ []) (ls : List Text) :
    Cells (x ++ 0x2C :: y) ls [x, y] ls := by
  have hlast := cell_plain hy hyne none ls
  rw [behind, List.append_nil] at hlast
  exact .cons (cell_plain hx hxne (some y) ls) (.last hlast)

/-- A line that starts with plain text is not passed over. -/
theorem not_passed_plain (hx : x.all Text.isPlain = true) (hne : x ≠ []) (t : Text) :
    ¬ Passed (x ++ t) := by
  cases x with
  | nil => exact absurd rfl hne
  | cons b x =>
    rw [List.all_cons, Bool.and_eq_true] at hx
    rintro (hempty | hhash)
    · cases hempty
    · exact Text.ne_of_isPlain hx.1 (by decide) (Option.some.inj hhash)

/-! ## Rows -/

/-- The row of an event. -/
def row (e : Event) : Text :=
  Decimal.ofInt e.detector.toInt ++ 0x2C :: Decimal.ofInt e.timestamp.toInt

/-- The heading above the rows. -/
def heading : Text := "detector_id,timestamp"

theorem ofInt_plain (i : Int) :
    (Decimal.ofInt i).all Text.isPlain = true ∧ Decimal.ofInt i ≠ [] :=
  ⟨Text.isPlain_ofInt i, Decimal.ofInt_ne_nil i⟩

/-- The row of an event is its row. -/
theorem isRow_row (e : Event) :
    IsRow [Decimal.ofInt e.detector.toInt, Decimal.ofInt e.timestamp.toInt] e := by
  refine ⟨_, _, rfl, ?_, ?_⟩
  · rw [Text.trimSpace_plain (Text.isPlain_ofInt _)]
    exact Numeral.denotes_ofInt _
  · rw [Text.trimSpace_plain (Text.isPlain_ofInt _)]
    exact Numeral.denotes_ofInt _

theorem heading_eq : heading = Text.ofString "detector_id" ++ 0x2C :: Text.ofString "timestamp" := by
  decide

/-- The heading is a heading. -/
theorem isHeading_heading : IsHeading ["detector_id", "timestamp"] := by
  have hevent : event 1 "detector_id" "timestamp" = .ok none := by decide +kernel
  have htaken := event_taken 1 "detector_id" "timestamp"
  rw [hevent] at htaken
  cases htaken with
  | heading _ h => exact h

/-- The records of rows, in front of lines that have none. -/
theorem rows_told (htail : Records tail []) (es : List Event) :
    ∃ rs, Records (es.map row ++ tail) rs ∧ List.Forall₂ IsRow rs es := by
  induction es with
  | nil => exact ⟨[], htail, .nil⟩
  | cons e es ih =>
    obtain ⟨rs, hrecords, hrows⟩ := ih
    obtain ⟨hid, hidne⟩ := ofInt_plain e.detector.toInt
    obtain ⟨htime, htimene⟩ := ofInt_plain e.timestamp.toInt
    exact ⟨_, .record (not_passed_plain hid hidne _) (cells_plain hid hidne htime htimene _) hrecords,
      .cons (isRow_row e) hrows⟩

/-! ## Renderings -/

/-- The lines of a rendering. -/
def renderedLines (headed : Bool) (es : List Event) : List Text :=
  (if headed then [heading] else []) ++ es.map row

/-- **A rendering of events**: one row for each of them, perhaps below a heading. The last line may
lack its line feed. -/
def Renders (headed : Bool) (es : List Event) (text : Text) : Prop :=
  let whole := (renderedLines headed es).flatMap (· ++ [0x0A])
  text = whole ∨ text ++ [0x0A] = whole

theorem inside_plain (hx : x.all Text.isPlain = true) (hy : y.all Text.isPlain = true) :
    Inside (x ++ 0x2C :: y) := by
  have houtside : ∀ b, Text.isPlain b = false → b ≠ 0x2C → b ∉ x ++ 0x2C :: y := by
    intro b hb hcomma hmem
    rcases List.mem_append.mp hmem with hmem | hmem
    · exact Text.not_mem_of_isPlain hx hb hmem
    · rcases List.mem_cons.mp hmem with heq | hmem
      · exact hcomma heq
      · exact Text.not_mem_of_isPlain hy hb hmem
  exact ⟨houtside _ (by decide) (by decide), houtside _ (by decide) (by decide)⟩

theorem inside_rendered : ∀ line ∈ renderedLines headed es, Inside line := by
  intro line hline
  rcases List.mem_append.mp hline with hline | hline
  · cases headed with
    | false => cases hline
    | true =>
      cases List.mem_singleton.mp hline
      exact ⟨by decide, by decide⟩
  · obtain ⟨e, -, rfl⟩ := List.mem_map.mp hline
    exact inside_plain (Text.isPlain_ofInt _) (Text.isPlain_ofInt _)

/-- The records of a rendering tell the events. -/
theorem rendered_told (htail : Records tail []) (headed : Bool) (es : List Event) :
    ∃ rs, Records (renderedLines headed es ++ tail) rs ∧ Told 0 rs es := by
  obtain ⟨rs, hrecords, hrows⟩ := rows_told htail es
  cases headed with
  | false => exact ⟨rs, hrecords, told_zero_iff.mpr (.inl hrows)⟩
  | true =>
    have hname : (Text.ofString "detector_id").all Text.isPlain = true := by decide
    have hother : (Text.ofString "timestamp").all Text.isPlain = true := by decide
    refine ⟨_, .record ?_ ?_ hrecords, told_zero_iff.mpr (.inr ⟨_, rs, rfl, isHeading_heading, hrows⟩)⟩
    · rw [heading_eq]
      exact not_passed_plain hname (by decide) _
    · rw [heading_eq]
      exact cells_plain hname (by decide) hother (by decide) _

/-- **The events of a rendering are the events.** -/
theorem events_of_renders {text : Text} (h : Renders headed es text) :
    events { bytes := text } = .ok es.toArray := by
  have hlines := written_lines inside_rendered h
  obtain ⟨tail, htail, hwritten⟩ : ∃ tail, Records tail [] ∧
      written text = renderedLines headed es ++ tail := by
    rcases hlines with hlines | hlines
    · exact ⟨[[]], .pass (.inl rfl) .nil, hlines⟩
    · exact ⟨[], .nil, hlines.trans (List.append_nil _).symm⟩
  obtain ⟨rs, hrecords, htold⟩ := rendered_told htail headed es
  rw [← hwritten] at hrecords
  exact events_told false hrecords htold

end DetectorStream.Csv
