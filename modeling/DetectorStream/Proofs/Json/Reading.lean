import DetectorStream.Json.Reader
import DetectorStream.Json.Writer
import DetectorStream.Proofs.Number.Digits
import DetectorStream.Proofs.Text.Glyphs

/-!
# Reading back what was written as JSON

Every kind of value is read back from what was written for it, in front of whatever may follow a
value: a comma or a closing bracket.

* `natural_ofNat`, `integer_ofInt`: numbers.
* **`string_quote`**: a string is read back with its stray octets replaced.
* `array_numbers`: arrays of numbers.
* `Fills`: members whose texts lead from one state to another, each through the reader of its field.
* **`object_record`**: an object that is written from such members leads from the one state to the
  other.
-/

namespace DetectorStream.Json

variable {n bits : Nat} {b : UInt8} {t rest : Bytes}

/-- **What may follow a value**: a comma or a closing bracket comes next. -/
def Ended (rest : Bytes) : Prop := ∃ b t, rest = b :: t ∧ (b = 0x2C ∨ b = 0x5D ∨ b = 0x7D)

theorem Ended.comma (t : Bytes) : Ended (0x2C :: t) := ⟨_, t, rfl, Or.inl rfl⟩

theorem Ended.bracket (t : Bytes) : Ended (0x5D :: t) := ⟨_, t, rfl, Or.inr (Or.inl rfl)⟩

theorem Ended.brace (t : Bytes) : Ended (0x7D :: t) := ⟨_, t, rfl, Or.inr (Or.inr rfl)⟩

theorem skipBlank_cons (h : isBlank b = false) (t : Bytes) : skipBlank (b :: t) = b :: t := by
  unfold skipBlank
  rw [List.dropWhile_cons_of_neg (by simp [h])]

/-! ## Numbers -/

theorem ne_of_isDigit {c : UInt8} (hb : Text.isDigit b = true) (hc : Text.isDigit c = false) :
    b ≠ c := by
  rintro rfl
  rw [hb] at hc
  cases hc

theorem isBlank_of_isDigit (h : Text.isDigit b = true) : isBlank b = false := by
  simp [isBlank, ne_of_isDigit h (show Text.isDigit 0x20 = false by decide),
    ne_of_isDigit h (show Text.isDigit 0x0A = false by decide),
    ne_of_isDigit h (show Text.isDigit 0x09 = false by decide),
    ne_of_isDigit h (show Text.isDigit 0x0D = false by decide)]

theorem Ended.not_isDigit (hb : b = 0x2C ∨ b = 0x5D ∨ b = 0x7D) : ¬ Text.isDigit b = true := by
  rcases hb with rfl | rfl | rfl <;> decide

theorem takeWhile_digits (h : Ended rest) (n : Nat) :
    (Decimal.ofNat n ++ rest).takeWhile Text.isDigit = Decimal.ofNat n ∧
      (Decimal.ofNat n ++ rest).dropWhile Text.isDigit = rest := by
  have hdigits := Decimal.isDigit_of_mem_ofNat n
  obtain ⟨b, t, rfl, hb⟩ := h
  rw [List.takeWhile_append_of_pos hdigits, List.dropWhile_append_of_pos hdigits,
    List.takeWhile_cons_of_neg (Ended.not_isDigit hb),
    List.dropWhile_cons_of_neg (Ended.not_isDigit hb),
    List.append_nil]
  exact ⟨rfl, rfl⟩

/-- A written number begins with a digit, and with a zero only if it is zero. -/
theorem exists_ofNat (n : Nat) : ∃ b t, Decimal.ofNat n = b :: t ∧ Text.isDigit b = true ∧
    (b = 0x30 → t = []) := by
  cases hd : Decimal.ofNat n with
  | nil => exact absurd hd (Decimal.ofNat_ne_nil n)
  | cons b t =>
    refine ⟨b, t, rfl, Decimal.isDigit_of_mem_ofNat n b (by rw [hd]; exact List.mem_cons_self), ?_⟩
    rintro rfl
    rcases Nat.eq_zero_or_pos n with rfl | hn
    · rw [Decimal.ofNat_of_lt (by decide)] at hd
      exact (List.cons.inj hd).2.symm
    · have hhead := Decimal.head?_ofNat (Nat.ne_of_gt hn)
      rw [hd] at hhead
      exact absurd rfl hhead

theorem digitRun_ofNat (h : Ended rest) (n : Nat) :
    digitRun (Decimal.ofNat n ++ rest) = (Decimal.ofNat n, rest) := by
  obtain ⟨b, t, hn, -, hzero⟩ := exists_ofNat n
  obtain ⟨htake, hdrop⟩ := takeWhile_digits h n
  unfold digitRun
  split
  · rename_i t' heq
    rw [hn, List.cons_append] at heq
    obtain ⟨rfl, rfl⟩ := List.cons.inj heq
    rw [hn, hzero rfl]
    rfl
  · rw [htake, hdrop]

theorem digitsValue_ofNat (n : Nat) : digitsValue (Decimal.ofNat n) = n := Decimal.valueFrom_ofNat n

/-- A number that fits is read back. -/
theorem natural_ofNat (h : Ended rest) (hbits : bits ≤ 64) (hn : n < 2 ^ bits) :
    natural bits (Decimal.ofNat n ++ rest) = some (some n, rest) := by
  have hlt : n < 2 ^ 64 := Nat.lt_of_lt_of_le hn (Nat.pow_le_pow_right (by decide) hbits)
  have hlength : (Decimal.ofNat n).length ≤ 20 := Decimal.length_ofNat_le (by decide) (by omega)
  obtain ⟨b, t, hd, hb, -⟩ := exists_ofNat n
  have hskip : skipBlank (Decimal.ofNat n ++ rest) = Decimal.ofNat n ++ rest := by
    rw [hd, List.cons_append, skipBlank_cons (isBlank_of_isDigit hb)]
  unfold natural
  rw [hskip]
  split
  · rename_i heq
    rw [hd, List.cons_append] at heq
    exact absurd (List.cons.inj heq).1 (ne_of_isDigit hb (by decide))
  · have hmod : n % 0x10000000000000000 = n := Nat.mod_eq_of_lt hlt
    rw [digitRun_ofNat h]
    simp only [digitsValue_ofNat, hmod]
    rw [if_neg]
    simp [Decimal.ofNat_ne_nil, hlength, hn]

/-- The word of a negative number is that of its digits, negated. -/
theorem toInt_neg_ofNat {n : Nat} (h : n ≤ 2 ^ 63) : (-(Int64.ofNat n)).toInt = -(n : Int) := by
  rw [← Int64.ofInt_eq_ofNat, ← Int64.ofInt_neg, Int64.toInt_ofInt_of_le (by omega) (by omega)]

/-- A number that fits is read back. -/
theorem integer_ofInt {i : Int} (h : Ended rest) (hlo : -(2 ^ 63) ≤ i) (hhi : i < 2 ^ 63)
    (hfits : fits bits i = true) (loneMinus : Bool) :
    integer bits loneMinus (Decimal.ofInt i ++ rest) = some (some i, rest) := by
  cases i with
  | ofNat n =>
    rw [Int.ofNat_eq_natCast] at hlo hhi hfits ⊢
    have hlength : (Decimal.ofNat n).length ≤ 19 := Decimal.length_ofNat_le (by decide) (by omega)
    have hword : (Int64.ofNat n).toInt = (n : Int) := Int64.toInt_ofNat_of_lt (by omega)
    obtain ⟨b, t, hd, hb, -⟩ := exists_ofNat n
    have hskip : skipBlank (Decimal.ofNat n ++ rest) = Decimal.ofNat n ++ rest := by
      rw [hd, List.cons_append, skipBlank_cons (isBlank_of_isDigit hb)]
    unfold integer Decimal.ofInt
    simp only [hskip]
    split
    · rename_i heq
      rw [hd, List.cons_append] at heq
      exact absurd (List.cons.inj heq).1 (ne_of_isDigit hb (by decide))
    · rename_i heq
      rw [hd, List.cons_append] at heq
      exact absurd (List.cons.inj heq).1 (ne_of_isDigit hb (by decide))
    · rw [digitRun_ofNat h]
      simp only [digitsValue_ofNat, hword, hfits]
      rw [if_neg]
      simp [Decimal.ofNat_ne_nil, hlength]
  | negSucc n =>
    have hlength : (Decimal.ofNat (n + 1)).length ≤ 19 :=
      Decimal.length_ofNat_le (by decide) (by omega)
    have hword : (-(Int64.ofNat (n + 1))).toInt = Int.negSucc n := by
      rw [toInt_neg_ofNat (by omega)]
      omega
    have hskip : ∀ t, skipBlank (0x2D :: t) = 0x2D :: t := skipBlank_cons (by decide)
    unfold integer Decimal.ofInt
    simp only [List.cons_append, hskip, (takeWhile_digits h (n + 1)).1, digitsValue_ofNat, hword,
      hfits, List.drop_left]
    rw [if_neg]
    simp [Decimal.ofNat_ne_nil, hlength]

/-- A word fits. -/
theorem fits_word (i : Int64) :
    -(2 ^ 63) ≤ i.toInt ∧ i.toInt < 2 ^ 63 ∧ fits 64 i.toInt = true :=
  ⟨i.le_toInt, i.toInt_lt, rfl⟩

/-- So does half a word. -/
theorem fits_half (i : Int32) :
    -(2 ^ 63) ≤ i.toInt ∧ i.toInt < 2 ^ 63 ∧ fits 32 i.toInt = true := by
  have hlo := i.le_toInt
  have hhi := i.toInt_lt
  refine ⟨by omega, by omega, ?_⟩
  simp [fits]
  omega

/-! ## Strings -/

/-- An octet that stands for itself inside a string. -/
def isPlain (b : UInt8) : Bool := b != 0x22 && b != 0x5C && b != 0

theorem stringRest_plain (acc : Text) (h : isPlain b = true) (t : Bytes) :
    stringRest acc none (b :: t) = stringRest (b :: acc) none t := by
  simp only [isPlain, Bool.and_eq_true, bne_iff_ne] at h
  obtain ⟨⟨hquote, hbackslash⟩, hzero⟩ := h
  rw [stringRest.eq_7 acc none b t hquote (fun _ _ _ _ _ h => absurd h hbackslash)
    (fun _ _ h => absurd h hbackslash), if_neg (by simpa using hzero)]
  rfl

theorem stringRest_plains (acc : Text) {bs : Text} (h : ∀ b ∈ bs, isPlain b = true) (t : Bytes) :
    stringRest acc none (bs ++ t) = stringRest (bs.reverse ++ acc) none t := by
  induction bs generalizing acc with
  | nil => rfl
  | cons b bs ih =>
    rw [List.cons_append, stringRest_plain acc (h b List.mem_cons_self),
      ih (b :: acc) fun c hc => h c (List.mem_cons_of_mem b hc), List.reverse_cons,
      List.append_assoc]
    rfl

theorem isPlain_high (h : 0x80 ≤ n) (hn : n < 0x100) : isPlain n.toUInt8 = true := by
  have hvalue : n.toUInt8.toNat = n := by simpa using Nat.mod_eq_of_lt hn
  simp only [isPlain, Bool.and_eq_true, bne_iff_ne, ← UInt8.toNat_inj.ne, hvalue]
  refine ⟨⟨?_, ?_⟩, ?_⟩ <;> exact Nat.ne_of_gt (Nat.lt_of_lt_of_le (by decide) h)

/-- The octets of a character stand for themselves if the character does. -/
theorem isPlain_ofChar {c : Char} (hquote : c.toNat ≠ 0x22) (hbackslash : c.toNat ≠ 0x5C)
    (hzero : c.toNat ≠ 0) : ∀ b ∈ Text.ofChar c, isPlain b = true := by
  have hlt : c.toNat < 0x110000 := by
    rcases c.valid with h | h
    · exact Nat.lt_trans h (by decide)
    · exact h.2
  unfold Text.ofChar
  simp only
  -- One octet stands for the character itself; where there are several, none is below `0x80`.
  split
  · have hvalue : c.toNat.toUInt8.toNat = c.toNat := by simpa using (by omega : c.toNat < 256)
    simp only [List.forall_mem_singleton, isPlain, Bool.and_eq_true, bne_iff_ne,
      ← UInt8.toNat_inj.ne, hvalue]
    exact ⟨⟨hquote, hbackslash⟩, hzero⟩
  split
  · simp only [List.forall_mem_cons, List.not_mem_nil, false_imp_iff, implies_true, and_true]
    exact ⟨isPlain_high (by omega) (by omega), isPlain_high (by omega) (by omega)⟩
  split
  · simp only [List.forall_mem_cons, List.not_mem_nil, false_imp_iff, implies_true, and_true]
    exact ⟨isPlain_high (by omega) (by omega), isPlain_high (by omega) (by omega),
      isPlain_high (by omega) (by omega)⟩
  · simp only [List.forall_mem_cons, List.not_mem_nil, false_imp_iff, implies_true, and_true]
    exact ⟨isPlain_high (by omega) (by omega), isPlain_high (by omega) (by omega),
      isPlain_high (by omega) (by omega), isPlain_high (by omega) (by omega)⟩

theorem hexValue?_hexDigit : ∀ d < 16, Text.hexValue? (Text.hexDigit d) = some d := by decide

/-- The digits of an escape are read back. -/
theorem hex4?_digits (hn : n < 0x10000) :
    hex4? (Text.hexDigit (n / 16 / 16 / 16 % 16)) (Text.hexDigit (n / 16 / 16 % 16))
      (Text.hexDigit (n / 16 % 16)) (Text.hexDigit (n % 16)) = some n := by
  unfold hex4?
  have hdigit : ∀ d, Text.hexValue? (Text.hexDigit (d % 16)) = some (d % 16) := fun d =>
    hexValue?_hexDigit _ (Nat.mod_lt d (by decide))
  simp only [hdigit]
  simp only [Option.bind_eq_bind, Option.bind_some, Option.pure_def, Option.some.injEq]
  omega

/-- An escape for a character is read as the character. -/
theorem stringRest_unitEscape (acc : Text) (hvalid : n.isValidChar) (hn : n < 0x10000) (t : Bytes) :
    stringRest acc none (unitEscape n ++ t) =
      stringRest ((Text.ofChar (Char.ofNat n)).reverse ++ acc) none t := by
  have hescape : unitEscape n ++ t =
      0x5C :: 0x75 :: Text.hexDigit (n / 16 / 16 / 16 % 16) ::
        Text.hexDigit (n / 16 / 16 % 16) :: Text.hexDigit (n / 16 % 16) ::
        Text.hexDigit (n % 16) :: t := rfl
  have hsurrogate : ¬ (0xD800 ≤ n ∧ n < 0xE000) := by
    rintro ⟨hlo, hhi⟩
    rcases hvalid with h | h <;> omega
  have hunit : unitText n = Text.ofChar (Char.ofNat n) := by
    unfold unitText
    rw [if_neg (by simpa using hsurrogate)]
  rw [hescape, stringRest.eq_5 acc _ _ _ _ t n (hex4?_digits hn), if_neg, hunit]
  simp only [Bool.and_eq_true, decide_eq_true_eq]
  omega

/-- An octet after a backslash is read as the one it stands for. -/
theorem stringRest_escape (acc : Text) {c : UInt8} (h : escape? b = some c) (t : Bytes) :
    stringRest acc none (0x5C :: b :: t) = stringRest (c :: acc) none t := by
  have hunit : b ≠ 0x75 := by
    rintro rfl
    cases h
  rw [stringRest.eq_6 acc none b t fun _ _ _ _ _ hb => absurd hb hunit, h]
  rfl

/-- **A glyph inside a string is read back, a stray octet as its replacement.** -/
theorem stringRest_quoteGlyph (acc : Text) (g : Glyph) (t : Bytes) :
    stringRest acc none (quoteGlyph g ++ t) =
      stringRest ((Text.cleaned g).reverse ++ acc) none t := by
  cases g with
  | stray b => exact stringRest_unitEscape acc (Or.inr (by decide)) (by decide) t
  | char c =>
    have hsmall : ∀ {b d : UInt8}, c.toNat = d.toNat → d.toNat < 0x80 → escape? b = some d →
        stringRest acc none ([0x5C, b] ++ t) =
          stringRest ((Text.ofChar c).reverse ++ acc) none t := by
      intro b d hc hd h
      rw [← Char.ofNat_toNat c, hc, Glyph.ofChar_one hd]
      exact stringRest_escape acc h t
    simp only [quoteGlyph, Text.cleaned, beq_iff_eq, Bool.or_eq_true, decide_eq_true_eq]
    split
    · exact hsmall (d := 0x22) ‹_› (by decide) rfl
    split
    · exact hsmall (d := 0x5C) ‹_› (by decide) rfl
    split
    · exact hsmall (d := 0x0A) ‹_› (by decide) rfl
    split
    · exact hsmall (d := 0x0D) ‹_› (by decide) rfl
    split
    · exact hsmall (d := 0x09) ‹_› (by decide) rfl
    split
    · have hescape := stringRest_unitEscape acc (n := c.toNat) c.valid (by omega) t
      rwa [Char.ofNat_toNat] at hescape
    · exact stringRest_plains acc (isPlain_ofChar ‹_› ‹_› (by omega)) t

theorem stringRest_glyphs (acc : Text) (gs : List Glyph) (t : Bytes) :
    stringRest acc none (gs.flatMap quoteGlyph ++ t) =
      stringRest ((gs.flatMap Text.cleaned).reverse ++ acc) none t := by
  induction gs generalizing acc with
  | nil => rfl
  | cons g gs ih =>
    rw [List.flatMap_cons, List.append_assoc, stringRest_quoteGlyph, ih, List.flatMap_cons,
      List.reverse_append, List.append_assoc]

/-- **A string is read back with its stray octets replaced.** -/
theorem string_quote (s : Text) (rest : Bytes) :
    string (quote s ++ rest) = some (some (Text.sanitize s), rest) := by
  have hquote : quote s ++ rest = 0x22 :: ((Glyph.read s).flatMap quoteGlyph ++ 0x22 :: rest) := by
    simp [quote]
  unfold string
  rw [hquote, skipBlank_cons (by decide)]
  simp only [stringRest_glyphs, stringRest.eq_2, stringRest.flush, List.append_nil,
    List.reverse_reverse, Text.sanitize_eq_cleaned, Option.map_some]

/-! ## Lists of texts -/

theorem join_singleton (sep a : Text) : Text.join sep [a] = a := by
  simp [Text.join, List.intercalate]

theorem join_cons_cons (sep a b : Text) (ts : List Text) :
    Text.join sep (a :: b :: ts) = a ++ sep ++ Text.join sep (b :: ts) := by
  simp [Text.join, List.intercalate]

/-- There is a comma between any two of the texts. -/
theorem length_le_join (ts : List Text) : ts.length ≤ (Text.join "," ts).length + 1 := by
  induction ts with
  | nil => exact Nat.zero_le _
  | cons a ts ih =>
    cases ts with
    | nil => exact Nat.le_add_left 1 _
    | cons b ts =>
      have hcomma : (Text.ofString ",").length = 1 := rfl
      rw [join_cons_cons, List.length_append, List.length_append, hcomma]
      simp only [List.length_cons] at ih ⊢
      omega

/-! ## Arrays -/

section Arrays

variable {α β : Type} {elem : Bytes → Option (Option α × Bytes)} {write : β → Text} {value : β → α}
  {default : α} {xs : List β}

/-- Elements that are read back one by one are read back together. -/
theorem elements_join {fuel : Nat} {old acc : List α}
    (hread : ∀ x ∈ xs, ∀ rest, Ended rest → elem (write x ++ rest) = some (some (value x), rest))
    (hne : xs ≠ []) (hfuel : xs.length ≤ fuel) (rest : Bytes) :
    elements elem default fuel old acc (Text.join "," (xs.map write) ++ 0x5D :: rest) =
      some (acc.reverse ++ xs.map value, rest) := by
  induction xs generalizing fuel old acc with
  | nil => exact absurd rfl hne
  | cons x xs ih =>
    have hx := hread x List.mem_cons_self
    cases fuel with
    | zero => cases hfuel
    | succ fuel =>
      cases xs with
      | nil =>
        rw [List.map_singleton, join_singleton, elements, hx _ (Ended.bracket rest)]
        simp [skipBlank_cons (show isBlank 0x5D = false by decide)]
      | cons y xs =>
        have hsplit : Text.join "," ((x :: y :: xs).map write) ++ 0x5D :: rest =
            write x ++ 0x2C :: (Text.join "," ((y :: xs).map write) ++ 0x5D :: rest) := by
          rw [List.map_cons, List.map_cons, join_cons_cons, List.append_assoc, List.append_assoc]
          rfl
        rw [hsplit, elements, hx _ (Ended.comma _)]
        simp only [skipBlank_cons (show isBlank 0x2C = false by decide)]
        rw [ih (fun z hz => hread z (List.mem_cons_of_mem x hz)) (List.cons_ne_nil y xs)
          (Nat.le_of_succ_le_succ hfuel)]
        simp

/-- An array whose elements are read back one by one is read back, if no element could be taken for
a blank or for the end of the array. -/
theorem array_join (write : β → Text) (value : β → α) {old : List α}
    (hread : ∀ x ∈ xs, ∀ rest, Ended rest → elem (write x ++ rest) = some (some (value x), rest))
    (hhead : ∀ x ∈ xs, ∃ b t, write x = b :: t ∧ isBlank b = false ∧ b ≠ 0x5D) (rest : Bytes) :
    array elem default old (0x5B :: Text.join "," (xs.map write) ++ [0x5D] ++ rest) =
      some (xs.map value, rest) := by
  have hbracket : ∀ t, skipBlank (0x5B :: t) = 0x5B :: t := skipBlank_cons (by decide)
  unfold array
  simp only [List.cons_append, hbracket, List.append_assoc, List.nil_append]
  cases xs with
  | nil =>
    simp [Text.join, List.intercalate, skipBlank_cons (show isBlank 0x5D = false by decide)]
  | cons x xs =>
    obtain ⟨b, t, hb, hblank, hend⟩ := hhead x List.mem_cons_self
    have hstart : ∃ t, Text.join "," ((x :: xs).map write) = b :: t := by
      cases xs with
      | nil => exact ⟨t, by rw [List.map_singleton, join_singleton, hb]⟩
      | cons y xs =>
        rw [List.map_cons, List.map_cons, join_cons_cons, hb]
        exact ⟨_, rfl⟩
    obtain ⟨t, ht⟩ := hstart
    have hlength := length_le_join ((x :: xs).map write)
    rw [List.length_map] at hlength
    rw [ht, List.cons_append, skipBlank_cons hblank]
    split
    · rename_i heq
      exact absurd (List.cons.inj heq).1 hend
    · rw [← List.cons_append, ← ht, elements_join hread (List.cons_ne_nil x xs)]
      · rfl
      · rw [List.length_append]
        omega

end Arrays

/-- A written number begins with a digit or a minus sign. -/
theorem exists_ofInt (i : Int) :
    ∃ b t, Decimal.ofInt i = b :: t ∧ isBlank b = false ∧ b ≠ 0x5D := by
  cases i with
  | ofNat n =>
    obtain ⟨b, t, hn, hb, -⟩ := exists_ofNat n
    exact ⟨b, t, hn, isBlank_of_isDigit hb, ne_of_isDigit hb (by decide)⟩
  | negSucc n => exact ⟨0x2D, _, rfl, by decide, by decide⟩

/-- **An array of numbers that fit is read back.** -/
theorem array_numbers {α : Type} {toInt : α → Int} {ofInt : Int → α} {default : α} {old xs : List α}
    {loneMinus : Bool}
    (hfits : ∀ x ∈ xs, -(2 ^ 63) ≤ toInt x ∧ toInt x < 2 ^ 63 ∧ fits bits (toInt x) = true)
    (hback : ∀ x ∈ xs, ofInt (toInt x) = x) (rest : Bytes) :
    array (fun t => (integer bits loneMinus t).map fun (n, t) => (n.map ofInt, t)) default old
      (numbers (xs.map toInt) ++ rest) = some (xs, rest) := by
  unfold numbers
  rw [List.map_map, array_join (Decimal.ofInt ∘ toInt) id]
  · rw [List.map_id]
  · intro x hx rest hrest
    obtain ⟨hlo, hhi, hbits⟩ := hfits x hx
    simp only [Function.comp, integer_ofInt hrest hlo hhi hbits, Option.map_some, hback x hx, id]
  · intro x _
    exact exists_ofInt (toInt x)

/-! ## Objects -/

/-- The octets of the names of fields. -/
def isNameOctet (b : UInt8) : Bool := Text.isLower b || b == 0x5F

theorem isNameOctet_iff : isNameOctet b = true ↔
    (0x61 ≤ b.toNat ∧ b.toNat ≤ 0x7A) ∨ b.toNat = 0x5F := by
  simp [isNameOctet, Text.isLower, Text.within, UInt8.le_iff_toNat_le, ← UInt8.toNat_inj]

theorem quoteGlyph_name (h : isNameOctet b = true) :
    quoteGlyph (.char (Char.ofNat b.toNat)) = [b] := by
  have hb := isNameOctet_iff.mp h
  have hchar : (Char.ofNat b.toNat).toNat = b.toNat := Glyph.toNat_ofNat (Or.inl (by omega))
  simp only [quoteGlyph, hchar, beq_iff_eq, Bool.or_eq_true, decide_eq_true_eq]
  rw [if_neg (by omega), if_neg (by omega), if_neg (by omega), if_neg (by omega), if_neg (by omega),
    if_neg (by omega), Glyph.ofChar_one (by omega)]

/-- A name needs no escapes. -/
theorem quote_name {k : Text} (h : k.all isNameOctet = true) : quote k = 0x22 :: k ++ [0x22] := by
  have hglyphs : (Glyph.read k).flatMap quoteGlyph = k := by
    induction k with
    | nil => rw [Glyph.read_nil]; rfl
    | cons b k ih =>
      rw [List.all_cons, Bool.and_eq_true] at h
      have hb := isNameOctet_iff.mp h.1
      rw [Glyph.read_ascii (by omega), List.flatMap_cons, quoteGlyph_name h.1, ih h.2]
      rfl
  rw [quote, hglyphs]

/-- A name is read back as a key. -/
theorem keyRest_name {k : Text} (h : k.all isNameOctet = true) (acc : Text) (width : Nat)
    (t : Bytes) : keyRest acc width (k ++ 0x22 :: t) =
      some (acc.reverse ++ k, width + k.length, t) := by
  induction k generalizing acc width with
  | nil => simp [keyRest]
  | cons b k ih =>
    rw [List.all_cons, Bool.and_eq_true] at h
    have hb := isNameOctet_iff.mp h.1
    have hne : ∀ {c : UInt8}, isNameOctet c = false → b ≠ c := by
      rintro c hc rfl
      exact absurd h.1 (by simp [hc])
    have hlower : Text.lowerOctet b = b := by
      unfold Text.lowerOctet
      rw [if_neg]
      simp only [Text.isUpper, Glyph.within_iff, UInt8.reduceToNat]
      omega
    rw [List.cons_append, keyRest.eq_5 acc width b _ (hne (by decide))
      (fun _ _ _ _ _ hc => absurd hc (hne (by decide))) (fun _ _ hc => absurd hc (hne (by decide))),
      if_neg (by simpa using hne (show isNameOctet 0 = false by decide)), hlower, ih h.2]
    simp only [List.reverse_cons, List.append_assoc, List.length_cons, Option.some.injEq,
      Prod.mk.injEq, and_true]
    exact ⟨rfl, by omega⟩

section Objects

variable {σ : Type} {fields : List (Field σ)} {strict : Bool} {s s₁ s' : σ} {k v : Text}
  {ms : List (Text × Text)} {f : Field σ}

/-- **Members that lead from one state to another**, each through the reader of the field it
names. -/
inductive Fills (fields : List (Field σ)) : List (Text × Text) → σ → σ → Prop
  | nil (s : σ) : Fills fields [] s s
  | cons {k v : Text} {ms : List (Text × Text)} {f : Field σ} {s s' : σ} (s₁ : σ)
      (name : k.all isNameOctet = true) (field : field? fields k k.length = some f)
      (read : ∀ rest, Ended rest → f.read s (v ++ rest) = some (s₁, rest))
      (others : Fills fields ms s₁ s') : Fills fields ((k, v) :: ms) s s'

/-- The text of a member. -/
def member (m : Text × Text) : Text := quote m.1 ++ [0x3A] ++ m.2

/-- A member hands its value to the reader of its field. -/
theorem members_member (name : k.all isNameOctet = true) (field : field? fields k k.length = some f)
    (read : ∀ rest, Ended rest → f.read s (v ++ rest) = some (s₁, rest)) (fuel : Nat) (t : Bytes) :
    members fields strict (fuel + 1) s (member (k, v) ++ 0x7D :: t) = some (s₁, t) ∧
      members fields strict (fuel + 1) s (member (k, v) ++ 0x2C :: t) =
        members fields strict fuel s₁ t := by
  have hmember : ∀ rest, member (k, v) ++ rest = 0x22 :: (k ++ 0x22 :: 0x3A :: (v ++ rest)) := by
    intro rest
    simp [member, quote_name name]
  have hquote : ∀ t, skipBlank (0x22 :: t) = 0x22 :: t := skipBlank_cons (by decide)
  have hcolon : ∀ t, skipBlank (0x3A :: t) = 0x3A :: t := skipBlank_cons (by decide)
  have hbrace : ∀ t, skipBlank (0x7D :: t) = 0x7D :: t := skipBlank_cons (by decide)
  have hcomma : ∀ t, skipBlank (0x2C :: t) = 0x2C :: t := skipBlank_cons (by decide)
  constructor
  · rw [hmember, members, hquote]
    simp only [keyRest_name name, hcolon, List.reverse_nil, List.nil_append, Nat.zero_add, field,
      read _ (Ended.brace t), hbrace]
  · rw [hmember, members, hquote]
    simp only [keyRest_name name, hcolon, List.reverse_nil, List.nil_append, Nat.zero_add, field,
      read _ (Ended.comma t), hcomma]

theorem members_join (h : Fills fields ms s s') (hne : ms ≠ []) {fuel : Nat}
    (hfuel : ms.length ≤ fuel) (rest : Bytes) :
    members fields strict fuel s (Text.join "," (ms.map member) ++ 0x7D :: rest) =
      some (s', rest) := by
  induction h generalizing fuel with
  | nil => exact absurd rfl hne
  | @cons k v ms f s s' s₁ name field read others ih =>
    cases fuel with
    | zero => cases hfuel
    | succ fuel =>
      cases ms with
      | nil =>
        cases others
        rw [List.map_singleton, join_singleton, (members_member name field read fuel rest).1]
      | cons m ms =>
        have hsplit : Text.join "," (((k, v) :: m :: ms).map member) ++ 0x7D :: rest =
            member (k, v) ++ 0x2C :: (Text.join "," ((m :: ms).map member) ++ 0x7D :: rest) := by
          rw [List.map_cons, List.map_cons, join_cons_cons, List.append_assoc, List.append_assoc]
          rfl
        rw [hsplit, (members_member name field read fuel _).2]
        exact ih (List.cons_ne_nil m ms) (Nat.le_of_succ_le_succ hfuel)

/-- **An object that is written from such members leads from the one state to the other.** -/
theorem object_record (h : Fills fields ms s s') (rest : Bytes) :
    object fields strict s (record ms ++ rest) = some (s', rest) := by
  have hrecord : record ms ++ rest = 0x7B :: (Text.join "," (ms.map member) ++ 0x7D :: rest) := by
    unfold record
    rw [List.cons_append, List.cons_append, List.append_assoc]
    rfl
  unfold object
  rw [hrecord, skipBlank_cons (by decide)]
  cases h with
  | nil => simp [Text.join, List.intercalate, skipBlank_cons (show isBlank 0x7D = false by decide)]
  | @cons k v ms f _ _ s₁ name field read others =>
    have hstart : ∃ t, Text.join "," (((k, v) :: ms).map member) = 0x22 :: t := by
      cases ms with
      | nil => exact ⟨_, join_singleton _ _⟩
      | cons m ms => exact ⟨_, join_cons_cons _ _ _ _⟩
    have hlength := length_le_join (((k, v) :: ms).map member)
    rw [List.length_map] at hlength
    obtain ⟨t, ht⟩ := hstart
    have hfuel : ((k, v) :: ms).length ≤
        (Text.join "," (((k, v) :: ms).map member) ++ 0x7D :: rest).length + 1 := by
      rw [List.length_append]
      omega
    have hmembers : members fields strict _ s _ = some (s', rest) :=
      members_join (.cons s₁ name field read others) (List.cons_ne_nil _ _) hfuel rest
    rw [ht, List.cons_append] at hmembers
    simp only [ht, List.cons_append, skipBlank_cons (show isBlank 0x22 = false by decide)]
    exact hmembers

end Objects

end DetectorStream.Json
