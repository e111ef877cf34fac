import DetectorStream.Proofs.Settings.References
import DetectorStream.Proofs.Text.Glyphs
import DetectorStream.Yaml.Writer

/-!
# Written texts and references

Writing a text into a document spreads it out: quotes, indentation and escapes come in between, and
each of them begins with an octet that no opening of a reference has. So a document refers to the
environment only if a text in it does.

* `Scalar.flatMap_chars`: the characters of a well-formed text make it up.
* `Scalar.styled_spread`: a text in any style is the text, spread out.
* `Scalar.written_not_opens`: what is written opens nothing that the text does not open.
* `Entry.Inert`: an entry in which nothing opens.
* **`Entry.render_not_opens`**: nothing opens in a document of such entries.
-/

namespace DetectorStream.Yaml

open Reference (separates)
open Text (Spread Ended Shut Opens)

namespace Scalar

variable {t : Text} {cs : List Char} {c : Char} {indent : Nat}

/-! ## Characters -/

/-- The character of a glyph. -/
def char? : Glyph → Option Char
  | .char c => some c
  | .stray _ => none

theorem chars_eq (t : Text) : chars t = (Glyph.read t).filterMap char? := by
  unfold chars
  congr 1

/-- **The characters of a well-formed text make it up.** -/
theorem flatMap_chars (h : Text.isUtf8 t = true) : (chars t).flatMap Text.ofChar = t := by
  have hread : ∀ gs : List Glyph, gs.all Glyph.isChar = true →
      (gs.filterMap char?).flatMap Text.ofChar = Text.ofGlyphs gs := by
    intro gs hgs
    induction gs with
    | nil => rfl
    | cons g gs ih =>
      rw [List.all_cons, Bool.and_eq_true] at hgs
      cases g with
      | char c => exact congrArg (Text.ofChar c ++ ·) (ih hgs.2)
      | stray b => cases hgs.1
  rw [chars_eq, hread _ h, Text.ofGlyphs_read]

/-- The characters of a text have no octets but those of the text. -/
theorem mem_of_mem_chars {b : UInt8} (h : b ∈ (chars t).flatMap Text.ofChar) : b ∈ t := by
  rw [chars_eq] at h
  obtain ⟨c, hc, hb⟩ := List.mem_flatMap.mp h
  obtain ⟨g, hg, hchar⟩ := List.mem_filterMap.mp hc
  rw [← Text.ofGlyphs_read t]
  cases g with
  | char d =>
    cases hchar
    exact List.mem_flatMap.mpr ⟨_, hg, hb⟩
  | stray d => cases hchar

/-- A line break ends with a separating octet. -/
theorem ended_ofChar (h : isBreak c = true) : Ended (Text.ofChar c) := by
  have hcode : c.toNat = 0x0A ∨ c.toNat = 0x0D ∨ c.toNat = 0x85 ∨ c.toNat = 0x2028 ∨
      c.toNat = 0x2029 := by
    unfold isBreak at h
    simp only [Bool.or_eq_true, beq_iff_eq] at h
    rcases h with (((rfl | rfl) | h) | h) | h
    · exact Or.inl rfl
    · exact Or.inr (Or.inl rfl)
    · exact Or.inr (Or.inr (Or.inl h))
    · exact Or.inr (Or.inr (Or.inr (Or.inl h)))
    · exact Or.inr (Or.inr (Or.inr (Or.inr h)))
  unfold Text.ofChar
  rcases hcode with hc | hc | hc | hc | hc <;> simp only [hc]
  · exact ⟨[], 0x0A, rfl, rfl⟩
  · exact ⟨[], 0x0D, rfl, rfl⟩
  · exact ⟨[0xC2], 0x85, rfl, rfl⟩
  · exact ⟨[0xE2, 0x80], 0xA8, rfl, rfl⟩
  · exact ⟨[0xE2, 0x80], 0xA9, rfl, rfl⟩

theorem separates_of_le {b : UInt8} (h : 0x80 ≤ b.toNat) : separates b = true := by
  have hhigh : ∀ n < 0x100, 0x80 ≤ n → separates (UInt8.ofNat n) = true := by decide +kernel
  rw [← UInt8.ofNat_toNat (x := b)]
  exact hhigh b.toNat b.toNat_lt h

/-- A stray octet is none of ASCII, and so it separates. -/
theorem separates_stray {b : UInt8} (h : .stray b ∈ Glyph.read t) : separates b = true := by
  refine separates_of_le (Nat.le_of_not_lt fun hb => ?_)
  induction t using Glyph.reading_induction with
  | nil => simp at h
  | cons c t ih =>
    rw [Glyph.read_cons, List.mem_cons] at h
    rcases h with h | h
    · have hc : c = b := by
        unfold Glyph.next at h
        split at h
        · exact (Glyph.stray.inj h).symm
        · split at h
          · cases h
          · exact (Glyph.stray.inj h).symm
      rw [Glyph.next_ascii (hc ▸ hb)] at h
      cases h
    · exact ih h

/-- A text whose last character is a line break ends with a separating octet. -/
theorem ended_of_break (h : (chars t).getLast?.any isBreak = true) : Ended t := by
  rw [chars_eq] at h
  rw [← Text.ofGlyphs_read t]
  rcases List.eq_nil_or_concat' (Glyph.read t) with hnil | ⟨gs, g, hlast⟩
  · rw [hnil] at h
    cases h
  · rw [hlast] at h ⊢
    unfold Text.ofGlyphs
    rw [List.flatMap_append, List.flatMap_singleton]
    rw [List.filterMap_append] at h
    cases g with
    | char c =>
      obtain ⟨a, x, hx, hc⟩ := ended_ofChar (c := c) (by simpa [char?] using h)
      exact ⟨gs.flatMap Glyph.text ++ a, x, hx, by simp [Glyph.text, hc]⟩
    | stray b =>
      have hb : .stray b ∈ Glyph.read t := by simp [hlast]
      exact ⟨gs.flatMap Glyph.text, b, separates_stray hb, rfl⟩

/-! ## Styles -/

theorem spaces_spread {u : Text} (n : Nat) (h : Spread t u) : Spread t (spaces n ++ u) := by
  induction n with
  | zero => exact h
  | succ n ih => exact ih.octet rfl

/-- Quotes and indentation come in between. -/
theorem singleQuotedFrom_spread (indent : Nat) (fresh : Bool) (cs : List Char) :
    Spread (cs.flatMap Text.ofChar) (singleQuotedFrom indent fresh cs) := by
  induction cs generalizing fresh with
  | nil => exact Spread.nil.octet rfl
  | cons c cs ih =>
    rw [List.flatMap_cons, singleQuotedFrom]
    split
    · exact (ih true).append _
    · have hquote : Spread (Text.ofChar c ++ cs.flatMap Text.ofChar)
          ((if c == '\'' then [0x27] else []) ++
            (Text.ofChar c ++ singleQuotedFrom indent false cs)) := by
        split
        · exact ((ih false).append _).octet rfl
        · exact (ih false).append _
      rw [List.append_assoc, List.append_assoc]
      split
      · exact spaces_spread indent hquote
      · exact hquote

/-- Indentation comes in between. -/
theorem blockFrom_spread (indent : Nat) (fresh : Bool) (cs : List Char) :
    Spread (cs.flatMap Text.ofChar) (blockFrom indent fresh cs) := by
  induction cs generalizing fresh with
  | nil => exact .nil
  | cons c cs ih =>
    rw [List.flatMap_cons, blockFrom]
    split
    · exact (ih true).append _
    · rw [List.append_assoc]
      split
      · exact spaces_spread indent ((ih false).append _)
      · exact (ih false).append _

theorem dollar_not_mem_upperHex (width n : Nat) : 0x24 ∉ Text.toUpperAscii (Text.hex width n) := by
  have hdigit : ∀ d < 16, Text.upperOctet (Text.hexDigit d) ≠ 0x24 := by decide
  unfold Text.toUpperAscii
  induction width generalizing n with
  | zero => exact List.not_mem_nil
  | succ width ih =>
    rw [Text.hex, List.map_append, List.mem_append, not_or, List.map_singleton, List.mem_singleton]
    exact ⟨ih (n / 16), (hdigit (n % 16) (Nat.mod_lt n (by decide))).symm⟩

/-- An escape begins with a backslash and has no dollar sign. -/
theorem escaped_eq (c : Char) : ∃ added, 0x24 ∉ added ∧ escaped c = 0x5C :: added := by
  have hcoded : ∀ (letter : UInt8) (width : Nat), letter ≠ 0x24 →
      0x24 ∉ letter :: Text.toUpperAscii (Text.hex width c.toNat) := by
    intro letter width hletter
    rw [List.mem_cons, not_or]
    exact ⟨hletter.symm, dollar_not_mem_upperHex width c.toNat⟩
  unfold escaped
  dsimp only
  split
  case h_16 =>
    split
    · exact ⟨_, hcoded 0x78 2 (by decide), rfl⟩
    · split
      · exact ⟨_, hcoded 0x75 4 (by decide), rfl⟩
      · exact ⟨_, hcoded 0x55 8 (by decide), rfl⟩
  all_goals exact ⟨_, by decide, rfl⟩

/-- Escapes stand in for characters. -/
theorem doubleQuoted_spread (cs : List Char) :
    Spread (cs.flatMap Text.ofChar) (doubleQuoted cs) := by
  have hinner : Spread (cs.flatMap Text.ofChar) (cs.flatMap (fun c =>
      if !isPrintable c || isBreak c || c == '"' || c == '\\' then escaped c else Text.ofChar c)
      ++ [0x22]) := by
    induction cs with
    | nil => exact Spread.nil.octet rfl
    | cons c cs ih =>
      rw [List.flatMap_cons, List.flatMap_cons, List.append_assoc]
      split
      · obtain ⟨added, hadded, heq⟩ := escaped_eq c
        rw [heq]
        exact .between (Text.ofChar c) added rfl hadded ih
      · exact ih.append _
  exact hinner.octet rfl

/-- What follows the bar has no dollar sign. -/
theorem dollar_not_mem_blockHints (cs : List Char) : 0x24 ∉ blockHints cs := by
  unfold blockHints
  refine List.not_mem_append ?_ ?_
  · split <;> decide
  · split
    · decide
    · split <;> decide
    · split
      · decide
      · split <;> decide

theorem blocked_spread (indent : Nat) (cs : List Char) :
    Spread (cs.flatMap Text.ofChar) (blocked indent cs) := by
  have hlines := blockFrom_spread indent true cs
  have hfeed : Spread (cs.flatMap Text.ofChar)
      ((if cs.head?.any isBreak then [] else [0x0A]) ++ blockFrom indent true cs) := by
    split
    · exact hlines
    · exact hlines.octet rfl
  unfold blocked
  rw [List.append_assoc, List.append_assoc]
  exact .between [] (blockHints cs) rfl (dollar_not_mem_blockHints cs) hfeed

/-- **A text in any style is the text, spread out.** -/
theorem styled_spread (indent : Nat) (cs : List Char) (style : Style) :
    Spread (cs.flatMap Text.ofChar) (styled indent cs style) := by
  cases style with
  | bare => exact .refl _
  | single => exact (singleQuotedFrom_spread indent false cs).octet rfl
  | double => exact doubleQuoted_spread cs
  | block => exact blocked_spread indent cs

/-! ## Written texts -/

theorem digit_ne_dollar (n : Nat) : Base64.digit n ≠ 0x24 := by
  have hlow : ∀ k < 62, Base64.digit k ≠ 0x24 := by decide
  by_cases h : n < 62
  · exact hlow n h
  · unfold Base64.digit
    rw [if_neg (by omega), if_neg (by omega), if_neg h]
    split <;> decide

theorem dollar_not_mem_encode (t : Bytes) : 0x24 ∉ Base64.encode t := by
  fun_induction Base64.encode t with
  | case1 a b c r n ih => simp [(digit_ne_dollar _).symm, ih]
  | case2 a b n => simp [(digit_ne_dollar _).symm]
  | case3 a => simp [(digit_ne_dollar _).symm]
  | case4 => exact List.not_mem_nil

theorem dollar_not_mem_binaryLines (fuel : Nat) (h : 0x24 ∉ t) : 0x24 ∉ binaryLines fuel t := by
  induction fuel generalizing t with
  | zero => exact List.not_mem_nil
  | succ fuel ih =>
    unfold binaryLines
    split
    · exact List.not_mem_nil
    · simp only [List.mem_append, not_or]
      exact ⟨⟨fun hmem => h (List.mem_of_mem_take hmem), by decide⟩,
        ih fun hmem => h (List.mem_of_mem_drop hmem)⟩

/-- A text in any style opens nothing that its characters do not open. -/
theorem styled_not_opens {style : Style} (h : ¬ Opens (cs.flatMap Text.ofChar)) :
    ¬ Opens (styled indent cs style) :=
  fun hopens => h ((styled_spread indent cs style).opens hopens)

/-- **What is written opens nothing that the text does not open.** What is no sequence of characters
is written in an alphabet without a dollar sign. -/
theorem written_not_opens (h : Text.isUtf8 t = true → ¬ Opens t) :
    ¬ Opens (written indent t) := by
  unfold written
  split
  · rename_i hutf8
    refine styled_not_opens ?_
    rw [flatMap_chars hutf8]
    exact h hutf8
  · have hcode := dollar_not_mem_encode t
    dsimp only
    intro hopens
    have hopens := hopens.of_append (by decide)
    split at hopens
    · exact Text.not_opens_of_no_dollar hcode hopens
    · refine styled_not_opens (Text.not_opens_of_no_dollar fun hmem => ?_) hopens
      exact dollar_not_mem_binaryLines _ hcode (mem_of_mem_chars hmem)

end Scalar

namespace Entry

variable {t : Text}

/-- A line that is ended ends with a separating octet. -/
theorem lineEnd_ended (t : Text) : Ended (lineEnd t) := by
  unfold lineEnd
  split
  · rename_i h
    exact Scalar.ended_of_break h
  · exact ⟨t, 0x0A, rfl, rfl⟩

theorem lineEnd_not_opens (h : ¬ Opens t) : ¬ Opens (lineEnd t) := by
  unfold lineEnd
  split
  · exact h
  · intro hopens
    rcases hopens.of_separates (b := []) rfl with hbefore | hafter
    · exact h hbefore
    · exact Text.not_opens_of_no_dollar List.not_mem_nil hafter

/-- A text on a line of its own, after a text without a dollar sign. -/
theorem written_shut {head : Text} {indent : Nat} (hhead : 0x24 ∉ head)
    (h : Text.isUtf8 t = true → ¬ Opens t) : Shut (head ++ lineEnd (Scalar.written indent t)) :=
  .after hhead (lineEnd_not_opens (Scalar.written_not_opens h)) (lineEnd_ended _)

end Entry

/-- **Nothing opens in what an entry holds.** Texts that are no sequences of characters may hold
anything. -/
def Written.Inert : Written → Prop
  | .literal t => 0x24 ∉ t
  | .text t => Text.isUtf8 t = true → ¬ Opens t
  | .texts ts => ∀ t ∈ ts, Text.isUtf8 t = true → ¬ Opens t

namespace Entry

variable {e : Entry} {es : List Entry}

/-- **Nothing opens in an entry.** -/
structure Inert (e : Entry) : Prop where
  group : 0x24 ∉ e.group
  name : 0x24 ∉ e.name
  value : e.value.Inert

theorem dollar_not_mem_spaces (n : Nat) : 0x24 ∉ Scalar.spaces n := by
  intro h
  exact absurd (List.eq_of_mem_replicate h) (by decide)

theorem line_shut (h : e.Inert) (indent : Nat) : Shut (e.line indent) := by
  obtain ⟨group, name, value⟩ := e
  have hname : 0x24 ∉ name := h.name
  have hvalue : value.Inert := h.value
  have hhead : 0x24 ∉ Scalar.spaces indent ++ name ++ Text.ofString ":" :=
    List.not_mem_append (List.not_mem_append (dollar_not_mem_spaces indent) hname) (by decide)
  have hfeed : ¬ Opens [0x0A] := Text.not_opens_of_no_dollar (by decide)
  have hended : Ended [0x0A] := ⟨[], 0x0A, rfl, rfl⟩
  unfold line
  dsimp only
  split
  · rename_i t
    exact .after (List.not_mem_append (List.not_mem_append hhead (by decide)) hvalue) hfeed hended
  · rename_i t
    exact written_shut (List.not_mem_append hhead (by decide)) hvalue
  · exact .after hhead (Text.not_opens_of_no_dollar (by decide))
      ⟨[0x20, 0x5B, 0x5D], 0x0A, rfl, rfl⟩
  · rename_i ts hts
    refine (Shut.after hhead hfeed hended).append (.flatMap fun t ht => ?_)
    exact written_shut (List.not_mem_append (dollar_not_mem_spaces _) (by decide)) (hvalue t ht)

/-- **Nothing opens in a document of entries in which nothing opens.** -/
theorem render_not_opens (h : ∀ e ∈ es, e.Inert) : ¬ Opens (render es) := by
  have hafter : ∀ group : Text, Shut (renderAfter group es) := by
    induction es with
    | nil => exact fun _ => .nil
    | cons e es ih =>
      intro group
      obtain ⟨he, hes⟩ := List.forall_mem_cons.mp h
      have hgroup : Shut (if e.group.isEmpty || e.group == group then []
          else e.group ++ Text.ofString ":\n") := by
        split
        · exact .nil
        · exact .after he.group (Text.not_opens_of_no_dollar (by decide)) ⟨[0x3A], 0x0A, rfl, rfl⟩
      exact (hgroup.append (line_shut he _)).append (ih hes e.group)
  exact (hafter []).not_opens

end Entry

end DetectorStream.Yaml
