import DetectorStream.Proofs.Source.Records

/-!
# Reading records

A reader is given lines with their line feeds and finds the fields of a record one by one, in as many
steps as there are octets at the most. What it finds are the fields, and it fails only where there is
no record.

* `Csv.At`: the place of a reader; `Csv.Found`: what it finds.
* `Csv.Quoted.read`, `Csv.Cell.read`, **`Csv.Cells.read`**: what is there is read.
* `Csv.exists_quoted`, `Csv.exists_cell`, **`Csv.exists_cells`**: what is read is there.
-/

namespace DetectorStream.Csv

variable {b : UInt8} {x body t q contents : Text} {after : Option Text}
  {ls later rest fs : List Text}

/-! ## Quoted fields -/

/-- **What a reader finds**: the contents of a field, and what stands behind it. -/
structure Found (f : Field) (contents : Text) (after : Option Text) (later : List Text) : Prop where
  contents_eq : f.contents = contents
  continues_eq : f.continues = after.isSome
  line_eq : ∀ t, after = some t → f.cursor.line = t ++ feed later
  more_eq : f.cursor.more = fed later

/-- An octet that a reader has taken belongs to what it finds. -/
theorem Found.cons {f : Field} {acc : Bytes} (h : Found f ((b :: acc).reverse ++ q) after later) :
    Found f (acc.reverse ++ b :: q) after later := by
  rw [List.reverse_cons, List.append_assoc] at h
  exact h

theorem quoted_octet (h : b ≠ 0x22) {start row column : Nat} {acc : Bytes} (t : Bytes)
    (more : List Bytes) :
    quoted start acc row column (b :: t) more = quoted start (b :: acc) row (column + 1) t more :=
  quoted.eq_6 _ _ _ _ _ _ _ (fun _ hb => absurd hb h) (fun _ hb => absurd hb h) h

/-- A quoted field goes on with the next line. -/
theorem quoted_turn (h : ¬ (x = [] ∧ ls = [])) {start row column : Nat} {acc : Bytes} :
    quoted start acc row column ([] ++ feed (x :: ls)) (fed (x :: ls)) =
      quoted start (0x0A :: acc) (row + 1) 1 (x ++ feed ls) (fed ls) := by
  have hfeed : feed (x :: ls) = [0x0A] := rfl
  rw [List.nil_append, hfeed, fed_of_ne h, quoted_octet (by decide), quoted.eq_2]

/-- A quoted field ends with its line. -/
theorem quoted_end (ls : List Text) (start : Nat) (acc : Bytes) (row column : Nat) :
    quoted start acc row column (0x22 :: feed ls) (fed ls) =
      .ok ⟨acc.reverse, false, ⟨row, column + 1, [], fed ls⟩⟩ := by
  rcases feed_cases ls with hfeed | hfeed
  all_goals
    rw [hfeed, quoted.eq_5 _ _ _ _ _ _ (by simp) (by simp)]
    rfl

/-- A quoted field is read. -/
theorem Quoted.read {tail : Text} (h : Quoted body ls q tail later) (htail : tail = behind after)
    (start : Nat) (acc : Bytes) (row column : Nat) :
    ∃ f, quoted start acc row column (body ++ feed ls) (fed ls) = .ok f ∧
      Found f (acc.reverse ++ q) after later := by
  induction h generalizing acc row column with
  | close tail ls =>
    rw [List.append_nil]
    cases after with
    | some t =>
      rw [htail]
      refine ⟨_, quoted.eq_4 .., rfl, rfl, ?_, rfl⟩
      rintro _ ⟨⟩
      rfl
    | none =>
      rw [htail]
      refine ⟨_, quoted_end ls start acc row column, rfl, rfl, ?_, rfl⟩
      rintro _ ⟨⟩
  | double h ih =>
    obtain ⟨f, hread, hfound⟩ := ih htail (0x22 :: acc) row (column + 2)
    exact ⟨f, (quoted.eq_3 ..).trans hread, hfound.cons⟩
  | @octet b t q tail ls later hb h ih =>
    obtain ⟨f, hread, hfound⟩ := ih htail (b :: acc) row (column + 1)
    refine ⟨f, ?_, hfound.cons⟩
    rw [List.cons_append, quoted_octet hb, hread]
  | @turn x q tail ls later h ih =>
    obtain ⟨f, hread, hfound⟩ := ih htail (0x0A :: acc) (row + 1) 1
    refine ⟨f, ?_, hfound.cons⟩
    have hne : ¬ (x = [] ∧ ls = []) := by
      rintro ⟨rfl, rfl⟩
      cases h
    rw [quoted_turn hne, hread]

/-- A quote is followed by the end of the field, or by a second quote with which the field goes on. -/
theorem quoted_quote (hlines : ∀ y ∈ t :: ls, 0x0A ∉ y) {start row column : Nat} {acc : Bytes}
    {f : Field} (h : quoted start acc row column (0x22 :: t ++ feed ls) (fed ls) = .ok f) :
    (∃ after, t = behind after ∧ Found f acc.reverse after ls) ∨
      ∃ t', t = 0x22 :: t' ∧
        quoted start (0x22 :: acc) row (column + 2) (t' ++ feed ls) (fed ls) = .ok f := by
  cases t with
  | nil =>
    rw [List.cons_append, List.nil_append, quoted_end] at h
    cases h
    refine .inl ⟨none, rfl, rfl, rfl, ?_, rfl⟩
    rintro _ ⟨⟩
  | cons c t =>
    rw [List.cons_append, List.cons_append] at h
    by_cases hdouble : c = 0x22
    · subst hdouble
      rw [quoted.eq_3] at h
      exact .inr ⟨t, rfl, h⟩
    by_cases hcomma : c = 0x2C
    · subst hcomma
      rw [quoted.eq_4] at h
      cases h
      refine .inl ⟨some t, rfl, rfl, rfl, ?_, rfl⟩
      rintro _ ⟨⟩
      rfl
    · have hfeed : c ≠ 0x0A := by
        rintro rfl
        exact hlines _ List.mem_cons_self (by simp)
      rw [quoted.eq_5 _ _ _ _ _ _ (by simp [hdouble]) (by simp [hcomma]), if_neg] at h
      · cases h
      · simp [hfeed]

/-- What is read as a quoted field is one. -/
theorem exists_quoted (body : Text) (ls : List Text) (hlines : ∀ y ∈ body :: ls, 0x0A ∉ y)
    {start row column : Nat} {acc : Bytes} {f : Field}
    (h : quoted start acc row column (body ++ feed ls) (fed ls) = .ok f) :
    ∃ q after later, Quoted body ls q (behind after) later ∧
      Found f (acc.reverse ++ q) after later := by
  match body, ls with
  | [], [] =>
    change quoted start acc row column [] [] = .ok f at h
    rw [quoted.eq_1] at h
    cases h
  | [], x :: ls =>
    by_cases hempty : x = [] ∧ ls = []
    · obtain ⟨rfl, rfl⟩ := hempty
      change quoted start acc row column [0x0A] [] = .ok f at h
      rw [quoted_octet (by decide), quoted.eq_1] at h
      cases h
    · rw [quoted_turn hempty] at h
      obtain ⟨q, after, later, hq, hfound⟩ :=
        exists_quoted x ls (fun y hy => hlines y (List.mem_cons_of_mem _ hy)) h
      exact ⟨0x0A :: q, after, later, .turn hq, hfound.cons⟩
  | b :: t, ls =>
    have hrest : ∀ y ∈ t :: ls, 0x0A ∉ y := not_mem_of_suffix hlines (List.suffix_cons b t)
    by_cases hb : b = 0x22
    · subst hb
      rcases quoted_quote hrest h with ⟨after, rfl, hfound⟩ | ⟨t', rfl, hmore⟩
      · rw [← List.append_nil acc.reverse] at hfound
        exact ⟨[], after, ls, .close (behind after) ls, hfound⟩
      · obtain ⟨q, after, later, hq, hfound⟩ :=
          exists_quoted t' ls (not_mem_of_suffix hrest (List.suffix_cons 0x22 t')) hmore
        exact ⟨0x22 :: q, after, later, .double hq, hfound.cons⟩
    · rw [List.cons_append, quoted_octet hb] at h
      obtain ⟨q, after, later, hq, hfound⟩ := exists_quoted t ls hrest h
      exact ⟨b :: q, after, later, .octet hb hq, hfound.cons⟩
termination_by (ls.length, body.length)

/-! ## One field -/

/-- **The place of a reader**: on the line `x`, with the lines `ls` below. -/
structure At (c : Cursor) (x : Text) (ls : List Text) : Prop where
  line_eq : c.line = x ++ feed ls
  more_eq : c.more = fed ls
  lines : ∀ y ∈ x :: ls, 0x0A ∉ y

variable {c : Cursor} {start : Nat} {f : Field}

/-- White space before a field is skipped. -/
theorem line_skipSpace (h : At c x ls) : (skipSpace c).line =
    if (Text.trimLeftSpace x).isEmpty then [] else Text.trimLeftSpace x ++ feed ls := by
  unfold skipSpace
  simp only [h.line_eq]
  rcases feed_cases ls with hfeed | hfeed
  · rw [hfeed, List.append_nil, List.append_nil]
    split
    · rename_i hempty
      exact List.isEmpty_iff.mp hempty
    · rfl
  · rw [hfeed, Text.trimLeftSpace_append_feed]

/-- A field that is quoted. -/
theorem field_quoted (h : At c x ls) (hline : Text.trimLeftSpace x = 0x22 :: body) (start : Nat) :
    field true start c =
      quoted start [] c.row ((skipSpace c).column + 1) (body ++ feed ls) (fed ls) := by
  have hskip := line_skipSpace h
  rw [hline, if_neg (by simp), List.cons_append] at hskip
  unfold field
  simp only [if_true, hskip]
  rw [← h.more_eq]
  rfl

/-- A field that is not quoted goes up to the comma or the end of the line. -/
theorem bare_eq {d : Cursor} (hline : d.line = if (contents ++ behind after).isEmpty then []
      else contents ++ behind after ++ feed ls)
    (hcomma : 0x2C ∉ contents) (hfeed : 0x0A ∉ contents) (start : Nat) :
    bare start d =
      match contents.idxOf? 0x22 with
      | some j => .error ⟨start, d.row, d.column + j, .bareQuote⟩
      | none => .ok ⟨contents, after.isSome, { d with
          line := after.elim [] (· ++ feed ls), column := d.column + contents.length + 1 }⟩ := by
  cases after with
  | none =>
    obtain ⟨ending, hending, hsplit⟩ : ∃ ending, (ending = [] ∨ ending = [0x0A]) ∧
        d.line = contents ++ ending := by
      rw [behind, List.append_nil] at hline
      split at hline
      · rename_i hempty
        exact ⟨[], .inl rfl, by rw [hline, List.isEmpty_iff.mp hempty, List.append_nil]⟩
      · exact ⟨feed ls, feed_cases ls, hline⟩
    have hnone : 0x2C ∉ contents ++ ending := by
      rcases hending with rfl | rfl <;> simp [hcomma]
    have hwhole := takeWhile_behind hnone none
    rw [behind, List.append_nil, ← hsplit] at hwhole
    have htrim := trimRight_feed hfeed hending
    rw [← hsplit] at htrim
    unfold bare
    simp only [hwhole, List.drop_length, List.isEmpty_nil, if_true, htrim]
    rfl
  | some t =>
    have hsplit : d.line = contents ++ 0x2C :: (t ++ feed ls) := by
      rw [hline, if_neg (by simp [behind]), List.append_assoc]
      rfl
    have hwhole : d.line.takeWhile (· != 0x2C) = contents := by
      rw [hsplit]
      exact takeWhile_behind hcomma (some (t ++ feed ls))
    have hrest : d.line.drop contents.length = 0x2C :: (t ++ feed ls) := by
      rw [hsplit, List.drop_left]
    unfold bare
    simp only [hwhole, hrest, List.isEmpty_cons, Bool.false_eq_true, if_false]
    rfl

theorem field_bare (h : At c x ls) (hline : Text.trimLeftSpace x = contents ++ behind after)
    (hcomma : 0x2C ∉ contents) (hfirst : ∀ t, contents ++ behind after ≠ 0x22 :: t) (start : Nat) :
    ∃ d : Cursor, d.more = fed ls ∧ field true start c =
      match contents.idxOf? 0x22 with
      | some j => .error ⟨start, d.row, d.column + j, .bareQuote⟩
      | none => .ok ⟨contents, after.isSome, { d with
          line := after.elim [] (· ++ feed ls), column := d.column + contents.length + 1 }⟩ := by
  have hskip := line_skipSpace h
  have hfeed : 0x0A ∉ contents := by
    intro hmem
    refine h.lines x List.mem_cons_self ((Text.trimLeftSpace_suffix x).subset ?_)
    rw [hline]
    exact List.mem_append_left _ hmem
  rw [hline] at hskip
  refine ⟨skipSpace c, h.more_eq, ?_⟩
  rw [← bare_eq hskip hcomma hfeed]
  unfold field
  simp only [if_true]
  split
  · rename_i t heq
    rw [hskip] at heq
    split at heq
    · cases heq
    · rename_i hne
      generalize contents ++ behind after = y at hfirst heq hne
      cases y with
      | nil => exact absurd rfl hne
      | cons b y => exact absurd (congrArg (· :: y) (List.cons.inj heq).1) (hfirst y)
  · rfl

/-- A text is what stands before the first comma, and what stands behind it. -/
theorem exists_behind (t : Text) : ∃ contents after, t = contents ++ behind after ∧
    0x2C ∉ contents := by
  by_cases h : 0x2C ∈ t
  · obtain ⟨contents, rest, rfl, hcomma⟩ := List.eq_append_cons_of_mem h
    exact ⟨contents, some rest, rfl, hcomma⟩
  · exact ⟨t, none, (List.append_nil t).symm, h⟩

/-- **A field is read.** -/
theorem Cell.read (h : Cell x ls contents after later) (hat : At c x ls) (start : Nat) :
    ∃ f, field true start c = .ok f ∧ Found f contents after later := by
  cases h with
  | bare hline hcomma hquote =>
    obtain ⟨d, hmore, hread⟩ := field_bare hat hline hcomma (fun _ => bare_ne_quoted hquote after) start
    rw [List.idxOf?_eq_none_iff.mpr hquote] at hread
    refine ⟨_, hread, rfl, rfl, ?_, hmore⟩
    rintro t rfl
    rfl
  | quoted hline h =>
    rw [field_quoted hat hline]
    exact h.read rfl start [] _ _

/-- **What is read as a field is one.** -/
theorem exists_cell (hat : At c x ls) (h : field true start c = .ok f) :
    ∃ contents after later, Cell x ls contents after later ∧ Found f contents after later := by
  by_cases hquoted : ∃ body, Text.trimLeftSpace x = 0x22 :: body
  · obtain ⟨body, hline⟩ := hquoted
    have hbody : ∀ y ∈ body :: ls, 0x0A ∉ y := by
      refine not_mem_of_suffix hat.lines ((List.suffix_cons 0x22 body).trans ?_)
      rw [← hline]
      exact Text.trimLeftSpace_suffix x
    rw [field_quoted hat hline] at h
    obtain ⟨q, after, later, hq, hfound⟩ := exists_quoted body ls hbody h
    exact ⟨q, after, later, .quoted hline hq, hfound⟩
  · obtain ⟨contents, after, hline, hcomma⟩ := exists_behind (Text.trimLeftSpace x)
    have hfirst : ∀ t, contents ++ behind after ≠ 0x22 :: t := fun t ht =>
      hquoted ⟨t, hline.trans ht⟩
    obtain ⟨d, hmore, hread⟩ := field_bare hat hline hcomma hfirst start
    rw [hread] at h
    split at h
    · cases h
    · rename_i hquote
      cases h
      refine ⟨contents, after, ls, .bare hline hcomma (List.idxOf?_eq_none_iff.mp hquote), rfl, rfl,
        ?_, hmore⟩
      rintro t rfl
      rfl

/-! ## All fields -/

/-- Behind a comma a reader goes on with the next field. -/
theorem Found.at (h : Found f contents (some t) later) (hcell : Cell x ls contents (some t) later)
    (hat : At c x ls) : At f.cursor t later :=
  ⟨h.line_eq t rfl, h.more_eq, hcell.left.not_mem hat.lines⟩

/-- **The fields of a record are read.** -/
theorem Cells.read (h : Cells x ls fs rest) (hat : At c x ls) (start fuel : Nat)
    (hfuel : x.length + octets ls < fuel) :
    ∃ c', fields true start fuel c = .ok (fs, c') ∧ c'.more = fed rest := by
  induction h generalizing c fuel with
  | last hcell =>
    obtain ⟨f, hread, hfound⟩ := hcell.read hat start
    obtain ⟨fuel, rfl⟩ := Nat.exists_eq_succ_of_ne_zero (Nat.ne_zero_of_lt hfuel)
    refine ⟨f.cursor, ?_, hfound.more_eq⟩
    rw [fields, hread]
    simp only [hfound.continues_eq, hfound.contents_eq, Option.isSome_none, Bool.false_eq_true,
      if_false]
  | cons hcell hmore ih =>
    obtain ⟨f, hread, hfound⟩ := hcell.read hat start
    obtain ⟨fuel, rfl⟩ := Nat.exists_eq_succ_of_ne_zero (Nat.ne_zero_of_lt hfuel)
    have hless := hcell.left.less
    obtain ⟨c', hrest, hend⟩ := ih (hfound.at hcell hat) fuel (by omega)
    refine ⟨c', ?_, hend⟩
    rw [fields, hread]
    simp only [hfound.continues_eq, hfound.contents_eq, Option.isSome_some, if_true, hrest]
    rfl

/-- **What is read as the fields of a record are its fields.** -/
theorem exists_cells {c' : Cursor} (hat : At c x ls) {fuel : Nat}
    (hfuel : x.length + octets ls < fuel) (h : fields true start fuel c = .ok (fs, c')) :
    ∃ rest, Cells x ls fs rest ∧ c'.more = fed rest := by
  induction fuel generalizing c x ls fs with
  | zero => cases hfuel
  | succ fuel ih =>
    rw [fields] at h
    split at h
    · cases h
    · rename_i f hread
      obtain ⟨contents, after, later, hcell, hfound⟩ := exists_cell hat hread
      rw [hfound.continues_eq] at h
      cases after with
      | none =>
        cases h
        rw [hfound.contents_eq]
        exact ⟨later, .last hcell, hfound.more_eq⟩
      | some t =>
        have hless := hcell.left.less
        simp only [Option.isSome_some, if_true] at h
        cases hmore : fields true start fuel f.cursor with
        | error e =>
          rw [hmore] at h
          cases h
        | ok r =>
          rw [hmore] at h
          cases h
          obtain ⟨rest, hcells, hend⟩ := ih (hfound.at hcell hat) (by omega) hmore
          rw [hfound.contents_eq]
          exact ⟨rest, .cons hcell hcells, hend⟩

end DetectorStream.Csv
