import DetectorStream.Proofs.Source.Lines
import DetectorStream.Proofs.Text.Trimming

/-!
# The records of a text

A record is one line, or several where a quoted field runs over the end of a line. Its fields stand
between commas, each as it is or between quotes, with white space before it that does not count.
Empty lines and lines that start with `#` are no records.

* `Csv.Quoted`, `Csv.Cell`, `Csv.Cells`: what a quoted field holds, one field, and the fields of a
  record.
* `Csv.Records`: the records of lines; **`Csv.Records.unique`**: there is one way only to read them.
* `Csv.Left`: what is left of the lines behind a field.
-/

namespace DetectorStream.Csv

variable {b : UInt8} {x body t q contents : Text} {after : Option Text}
  {ls later rest fs : List Text}

/-! ## Fields -/

/-- **The contents `q` of a quoted field** from `body` on, which stands on one line, with the lines
`ls` below it. Behind the closing quote `tail` is left of a line, and `later` are the lines below. -/
inductive Quoted : (body : Text) → (ls : List Text) → (q tail : Text) → (later : List Text) → Prop
  | close (tail : Text) (ls : List Text) : Quoted (0x22 :: tail) ls [] tail ls
  /-- A quote is written twice. -/
  | double {t q tail : Text} {ls later : List Text} (h : Quoted t ls q tail later) :
    Quoted (0x22 :: 0x22 :: t) ls (0x22 :: q) tail later
  | octet {b : UInt8} {t q tail : Text} {ls later : List Text} (hb : b ≠ 0x22)
    (h : Quoted t ls q tail later) : Quoted (b :: t) ls (b :: q) tail later
  /-- The end of a line belongs to the contents. -/
  | turn {x q tail : Text} {ls later : List Text} (h : Quoted x ls q tail later) :
    Quoted [] (x :: ls) (0x0A :: q) tail later

/-- What stands behind a field: a comma and what follows it, or nothing more on the line. -/
def behind : Option Text → Text
  | none => []
  | some t => 0x2C :: t

/-- **One field** and what stands behind it. It is on the line `x`, with the lines `ls` below. -/
inductive Cell (x : Text) (ls : List Text) :
    (contents : Text) → (after : Option Text) → (later : List Text) → Prop
  | bare {f : Text} {after : Option Text} (line_eq : Text.trimLeftSpace x = f ++ behind after)
    (comma : 0x2C ∉ f) (quote : 0x22 ∉ f) : Cell x ls f after ls
  | quoted {body q : Text} {after : Option Text} {later : List Text}
    (line_eq : Text.trimLeftSpace x = 0x22 :: body) (h : Quoted body ls q (behind after) later) :
    Cell x ls q after later

/-- **The fields of a record** that starts on the line `x`; the lines `rest` are left. -/
inductive Cells : (x : Text) → (ls : List Text) → (fs : List Text) → (rest : List Text) → Prop
  | last {x f : Text} {ls rest : List Text} (h : Cell x ls f none rest) : Cells x ls [f] rest
  | cons {x f t : Text} {ls later fs rest : List Text} (h : Cell x ls f (some t) later)
    (more : Cells t later fs rest) : Cells x ls (f :: fs) rest

/-- No record starts on an empty line, or on one that starts with `#`. -/
def Passed (x : Text) : Prop := x = [] ∨ x.head? = some 0x23

/-- **The records of lines.** -/
inductive Records : (ls : List Text) → (rs : List (List Text)) → Prop
  | nil : Records [] []
  | pass {x : Text} {ls : List Text} {rs : List (List Text)} (h : Passed x) (more : Records ls rs) :
    Records (x :: ls) rs
  | record {x : Text} {ls fs rest : List Text} {rs : List (List Text)} (h : ¬ Passed x)
    (cells : Cells x ls fs rest) (more : Records rest rs) : Records (x :: ls) (fs :: rs)

/-! ## One way only -/

theorem behind_ne (after : Option Text) (t : Text) : behind after ≠ 0x22 :: t := by
  cases after with
  | none => exact nofun
  | some s => exact fun h => absurd (List.cons.inj h).1 (by decide)

theorem behind_injective : Function.Injective behind := by
  rintro (_ | s) (_ | t) h
  · rfl
  · cases h
  · cases h
  · cases h
    rfl

/-- A quoted field ends at the first quote that is not written twice. -/
theorem Quoted.unique {q' tail tail' : Text} {later' : List Text}
    (h : Quoted body ls q tail later) (htail : ∀ t, tail ≠ 0x22 :: t)
    (h' : Quoted body ls q' tail' later') (htail' : ∀ t, tail' ≠ 0x22 :: t) :
    q = q' ∧ tail = tail' ∧ later = later' := by
  induction h generalizing q' with
  | close tail ls =>
    cases h' with
    | close => exact ⟨rfl, rfl, rfl⟩
    | double => exact absurd rfl (htail _)
    | octet hb => exact absurd rfl hb
  | double h ih =>
    cases h' with
    | close => exact absurd rfl (htail' _)
    | double h' =>
      obtain ⟨rfl, htails⟩ := ih htail h'
      exact ⟨rfl, htails⟩
    | octet hb => exact absurd rfl hb
  | octet hb h ih =>
    cases h' with
    | close => exact absurd rfl hb
    | double => exact absurd rfl hb
    | octet hb' h' =>
      obtain ⟨rfl, htails⟩ := ih htail h'
      exact ⟨rfl, htails⟩
  | turn h ih =>
    cases h' with
    | turn h' =>
      obtain ⟨rfl, htails⟩ := ih htail h'
      exact ⟨rfl, htails⟩

/-- A bare field ends at the first comma. -/
theorem takeWhile_behind (h : 0x2C ∉ contents) (after : Option Text) :
    (contents ++ behind after).takeWhile (· != 0x2C) = contents := by
  have hall : ∀ b ∈ contents, (b != 0x2C) = true := by
    intro b hb
    rw [bne_iff_ne]
    rintro rfl
    exact h hb
  rw [List.takeWhile_append_of_pos hall]
  cases after <;> simp [behind]

/-- A bare field is not quoted. -/
theorem bare_ne_quoted (h : 0x22 ∉ contents) (after : Option Text) :
    contents ++ behind after ≠ 0x22 :: body := by
  cases contents with
  | nil => exact behind_ne after body
  | cons b t =>
    intro heq
    rw [(List.cons.inj heq).1] at h
    exact h List.mem_cons_self

theorem Cell.unique {contents' : Text} {after' : Option Text} {later' : List Text}
    (h : Cell x ls contents after later) (h' : Cell x ls contents' after' later') :
    contents = contents' ∧ after = after' ∧ later = later' := by
  cases h with
  | bare hline hcomma hquote =>
    cases h' with
    | bare hline' hcomma' _ =>
      have hsame := hline.symm.trans hline'
      have hcontents : contents = contents' := by
        rw [← takeWhile_behind hcomma after, hsame, takeWhile_behind hcomma']
      rw [hcontents] at hsame
      exact ⟨hcontents, behind_injective (List.append_cancel_left hsame), rfl⟩
    | quoted hline' _ => exact absurd (hline.symm.trans hline') (bare_ne_quoted hquote after)
  | quoted hline h =>
    cases h' with
    | bare hline' _ hquote' => exact absurd (hline'.symm.trans hline) (bare_ne_quoted hquote' after')
    | quoted hline' h' =>
      have hsame := hline.symm.trans hline'
      rw [← (List.cons.inj hsame).2] at h'
      obtain ⟨hq, htail, hlater⟩ := h.unique (behind_ne after) h' (behind_ne after')
      exact ⟨hq, behind_injective htail, hlater⟩

theorem Cells.unique {fs' rest' : List Text} (h : Cells x ls fs rest) (h' : Cells x ls fs' rest') :
    fs = fs' ∧ rest = rest' := by
  induction h generalizing fs' with
  | last hcell =>
    cases h' with
    | last hcell' =>
      obtain ⟨rfl, -, rfl⟩ := hcell.unique hcell'
      exact ⟨rfl, rfl⟩
    | cons hcell' => cases (hcell.unique hcell').2.1
  | cons hcell _ ih =>
    cases h' with
    | last hcell' => cases (hcell.unique hcell').2.1
    | cons hcell' hmore' =>
      obtain ⟨rfl, hafter, rfl⟩ := hcell.unique hcell'
      cases hafter
      obtain ⟨rfl, rfl⟩ := ih hmore'
      exact ⟨rfl, rfl⟩

/-- **Lines have their records in one way only.** -/
theorem Records.unique {rs rs' : List (List Text)} (h : Records ls rs) (h' : Records ls rs') :
    rs = rs' := by
  induction h generalizing rs' with
  | nil =>
    cases h'
    rfl
  | pass hpassed _ ih =>
    cases h' with
    | pass _ hmore' => exact ih hmore'
    | record hnot => exact absurd hpassed hnot
  | record hnot hcells _ ih =>
    cases h' with
    | pass hpassed => exact absurd hpassed hnot
    | record _ hcells' hmore' =>
      obtain ⟨rfl, rfl⟩ := hcells.unique hcells'
      rw [ih hmore']

/-! ## What is left -/

/-- **What is left of lines**: the end `t` of one of them and some of the lines below, less than there
was. -/
structure Left (x : Text) (ls : List Text) (t : Text) (later : List Text) : Prop where
  line : ∃ y ∈ x :: ls, t <:+ y
  below : later <:+ ls
  less : t.length + octets later < x.length + octets ls

theorem Left.front (h : Left x ls t later) (front : Text) : Left (front ++ x) ls t later := by
  obtain ⟨⟨y, hy, hsuffix⟩, hbelow, hless⟩ := h
  refine ⟨?_, hbelow, ?_⟩
  · rcases List.mem_cons.mp hy with rfl | hy
    · exact ⟨_, List.mem_cons_self, hsuffix.trans (List.suffix_append front y)⟩
    · exact ⟨y, List.mem_cons_of_mem _ hy, hsuffix⟩
  · rw [List.length_append]
    omega

/-- What is left has no line feeds, if the lines have none. -/
theorem Left.not_mem (h : Left x ls t later) (hlines : ∀ y ∈ x :: ls, 0x0A ∉ y) :
    ∀ y ∈ t :: later, 0x0A ∉ y := by
  obtain ⟨⟨z, hz, hsuffix⟩, hbelow, -⟩ := h
  intro y hy
  rcases List.mem_cons.mp hy with rfl | hy
  · exact fun hmem => hlines z hz (hsuffix.subset hmem)
  · exact hlines y (List.mem_cons_of_mem x (hbelow.subset hy))

theorem not_mem_of_suffix (hlines : ∀ y ∈ x :: ls, 0x0A ∉ y) (h : t <:+ x) :
    ∀ y ∈ t :: ls, 0x0A ∉ y :=
  List.forall_mem_cons.mpr ⟨fun hmem => hlines x List.mem_cons_self (h.subset hmem),
    (List.forall_mem_cons.mp hlines).2⟩

theorem Quoted.left {tail : Text} (h : Quoted body ls q tail later) : Left body ls tail later := by
  induction h with
  | close tail ls =>
    refine ⟨⟨_, List.mem_cons_self, List.suffix_cons _ _⟩, List.suffix_refl ls, ?_⟩
    rw [List.length_cons]
    omega
  | double h ih => exact ih.front [0x22, 0x22]
  | @octet b t q tail ls later hb h ih => exact ih.front [b]
  | turn h ih =>
    obtain ⟨⟨y, hy, hsuffix⟩, hbelow, hless⟩ := ih
    refine ⟨⟨y, List.mem_cons_of_mem _ hy, hsuffix⟩, hbelow.trans (List.suffix_cons _ _), ?_⟩
    rw [octets_cons]
    omega

/-- Behind the comma after a field there is less than there was. -/
theorem Cell.left (h : Cell x ls contents (some t) later) : Left x ls t later := by
  have hcomma : ∀ {tail y : Text} {ls later : List Text}, Left y ls tail later → t <:+ tail →
      t.length < tail.length + 1 → Left y ls t later := by
    rintro tail y ls later ⟨⟨z, hz, hsuffix⟩, hbelow, hless⟩ ht hlength
    exact ⟨⟨z, hz, ht.trans hsuffix⟩, hbelow, by omega⟩
  obtain ⟨blank, hblank⟩ := Text.trimLeftSpace_suffix x
  cases h with
  | bare hline _ _ =>
    rw [← hblank, hline, behind]
    refine Left.front (Left.front ⟨⟨_, List.mem_cons_self, List.suffix_cons _ t⟩,
      List.suffix_refl ls, ?_⟩ contents) blank
    rw [List.length_cons]
    omega
  | quoted hline h =>
    rw [← hblank, hline]
    have hleft := (h.left.front [0x22]).front blank
    refine hcomma hleft (List.suffix_cons _ t) ?_
    rw [behind, List.length_cons]
    omega

theorem Cell.later_suffix (h : Cell x ls contents after later) : later <:+ ls := by
  cases h with
  | bare => exact List.suffix_refl ls
  | quoted _ h => exact h.left.below

theorem Cells.rest_suffix (h : Cells x ls fs rest) : rest <:+ ls := by
  induction h with
  | last hcell => exact hcell.later_suffix
  | cons hcell _ ih => exact ih.trans hcell.later_suffix

/-- A record leaves some of the lines below it. -/
theorem Cells.leaves (h : Cells x ls fs rest) (hls : ∀ y ∈ ls, 0x0A ∉ y) :
    (∀ y ∈ rest, 0x0A ∉ y) ∧ (fed rest).length ≤ (fed ls).length ∧ octets rest ≤ octets ls :=
  ⟨fun y hy => hls y (h.rest_suffix.subset hy), length_fed_suffix h.rest_suffix,
    octets_suffix h.rest_suffix⟩

end DetectorStream.Csv
