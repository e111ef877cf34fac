import DetectorStream.Proofs.Json.Reading

/-!
# How long written JSON is

* `length_ofInt_le`: an integer has no more octets than its range asks for.
* **`length_quote_le`**: a string takes six octets for each of its own, at the most, and its quotes.
  `length_quote_strays`: as many as a string of stray octets takes.
* `length_join`: texts with a comma between any two of them.
* `length_numbers_le`: an array of numbers of which each is short.
-/

namespace DetectorStream.Json

variable {k : Nat}

/-! ## Numbers -/

/-- A negative number may have as many octets as a positive one, and its sign. -/
theorem length_ofInt_le {i : Int} (hk : 0 < k) (hlo : -(10 ^ k : Nat) < i)
    (hhi : i < (10 ^ (k + 1) : Nat)) : (Decimal.ofInt i).length ≤ k + 1 := by
  cases i with
  | ofNat n => exact Decimal.length_ofNat_le (Nat.succ_pos k) (Int.ofNat_lt.mp hhi)
  | negSucc n =>
    have hsize : n + 1 < 10 ^ k := by omega
    exact Nat.succ_le_succ (Decimal.length_ofNat_le hk hsize)

/-- A word is written with at most twenty octets. -/
theorem length_ofInt_word (i : Int64) : (Decimal.ofInt i.toInt).length ≤ 20 := by
  have hlo := i.le_toInt
  have hhi := i.toInt_lt
  exact length_ofInt_le (k := 19) (by decide) (by omega) (by omega)

/-- A half word is written with at most eleven octets. -/
theorem length_ofInt_half (i : Int32) : (Decimal.ofInt i.toInt).length ≤ 11 := by
  have hlo := i.le_toInt
  have hhi := i.toInt_lt
  exact length_ofInt_le (k := 10) (by decide) (by omega) (by omega)

/-! ## Strings -/

theorem length_unitEscape (n : Nat) : (unitEscape n).length = 6 := rfl

/-- The longest form of a character is an escape of six octets, and a character that is written as
it is takes the octets it has. -/
theorem length_quoteGlyph_le (g : Glyph) : (quoteGlyph g).length ≤ 6 * g.text.length := by
  have hpos := g.length_text_pos
  cases g with
  | stray b =>
    rw [quoteGlyph, length_unitEscape]
    omega
  | char c =>
    have hshort : ∀ s : Text, s.length ≤ 6 → s.length ≤ 6 * (Glyph.char c).text.length :=
      fun s hs => by omega
    simp only [quoteGlyph]
    iterate 5
      split
      · exact hshort _ (by decide)
    split
    · exact hshort _ (Nat.le_of_eq (length_unitEscape _))
    · exact Nat.le_mul_of_pos_left _ (by decide)

/-- **A string takes six octets for each of its own, at the most, and its quotes.** -/
theorem length_quote_le (t : Text) : (quote t).length ≤ 6 * t.length + 2 := by
  have hglyphs : ∀ gs : List Glyph,
      (gs.flatMap quoteGlyph).length ≤ 6 * (Text.ofGlyphs gs).length := by
    intro gs
    induction gs with
    | nil => exact Nat.le_refl 0
    | cons g gs ih =>
      have hglyph := length_quoteGlyph_le g
      unfold Text.ofGlyphs at ih ⊢
      rw [List.flatMap_cons, List.flatMap_cons, List.length_append, List.length_append]
      omega
  have hbody := hglyphs (Glyph.read t)
  rw [Text.ofGlyphs_read] at hbody
  rw [quote, List.length_append, List.length_cons, List.length_singleton]
  omega

/-- No string is longer than one of stray octets. -/
theorem length_quote_strays (n : Nat) : (quote (List.replicate n 0xFF)).length = 6 * n + 2 := by
  have hbody : ((Glyph.read (List.replicate n 0xFF)).flatMap quoteGlyph).length = 6 * n := by
    induction n with
    | zero =>
      rw [List.replicate_zero, Glyph.read_nil]
      rfl
    | succ n ih =>
      have hread : Glyph.read (0xFF :: List.replicate n 0xFF) =
          .stray 0xFF :: Glyph.read (List.replicate n 0xFF) := Glyph.read_cons _ _
      rw [List.replicate_succ, hread, List.flatMap_cons, List.length_append, ih, quoteGlyph,
        length_unitEscape]
      omega
  rw [quote, List.length_append, List.length_cons, List.length_singleton, hbody]

/-! ## Lists -/

/-- Each text but the last one has a comma behind it. -/
theorem length_join (ts : List Text) :
    (Text.join "," ts).length = (ts.map fun t => t.length + 1).sum - 1 := by
  induction ts with
  | nil => rfl
  | cons a ts ih =>
    cases ts with
    | nil => rw [join_singleton, List.map_singleton, List.sum_singleton, Nat.add_sub_cancel]
    | cons b ts =>
      have hcomma : (Text.ofString ",").length = 1 := rfl
      rw [join_cons_cons, List.length_append, List.length_append, hcomma, ih]
      simp only [List.map_cons, List.sum_cons]
      omega

/-- An array stands between brackets. -/
theorem length_numbers (ns : List Int) :
    (numbers ns).length = (ns.map fun i => (Decimal.ofInt i).length + 1).sum - 1 + 2 := by
  rw [numbers, List.length_append, List.length_cons, List.length_singleton, length_join,
    List.map_map]
  rfl

/-- An array of numbers of which each is short. -/
theorem length_numbers_le (k : Nat) (ns : List Int)
    (h : ∀ i ∈ ns, (Decimal.ofInt i).length ≤ k) :
    (numbers ns).length ≤ (k + 1) * ns.length - 1 + 2 := by
  have hsum : (ns.map fun i => (Decimal.ofInt i).length + 1).sum ≤ (k + 1) * ns.length := by
    induction ns with
    | nil => exact Nat.zero_le _
    | cons i ns ih =>
      obtain ⟨hi, hns⟩ := List.forall_mem_cons.mp h
      have hrest := ih hns
      rw [List.map_cons, List.sum_cons, List.length_cons, Nat.mul_succ]
      omega
  rw [length_numbers]
  omega

/-- An array of one number over and over. -/
theorem length_numbers_replicate (n : Nat) (i : Int) :
    (numbers (List.replicate n i)).length = ((Decimal.ofInt i).length + 1) * n - 1 + 2 := by
  rw [length_numbers, List.map_replicate, List.sum_replicate_nat, Nat.mul_comm]

/-- An object stands between braces. -/
theorem length_record (ms : List (Text × Text)) :
    (record ms).length =
      (ms.map fun (k, v) => (quote k).length + v.length + 2).sum - 1 + 2 := by
  rw [record, List.length_append, List.length_cons, List.length_singleton, length_join,
    List.map_map]
  have hmember : ((fun t : Text => t.length + 1) ∘ fun (k, v) => quote k ++ [0x3A] ++ v) =
      fun (k, v) => (quote k).length + v.length + 2 := by
    funext ⟨k, v⟩
    simp only [Function.comp_apply, List.length_append, List.length_singleton]
    omega
  rw [hmember]

end DetectorStream.Json
