import DetectorStream.Proofs.Json.Reading

/-!
# Texts that go on

What has been read of a text stands when the text goes on. A string, an array and an object end with
a sign of their own. A number ends where something else follows, so it stands only if something
does.

* `Settled`: a reader of values whose results stand.
* `integer_settled`, `natural_settled`, `string_settled`, `array_settled`: readers of values are
  settled.
* `skipValue_settled`: so is skipping.
* **`object_append`**: an object whose fields have settled readers is read as it is, whatever follows
  it.
-/

namespace DetectorStream.Json

variable {α β σ : Type} {b : UInt8} {t rest : Bytes}

/-! ## Blanks and words -/

theorem skipBlank_append (h : skipBlank t = b :: rest) (more : Bytes) :
    skipBlank (t ++ more) = b :: (rest ++ more) := by
  unfold skipBlank at h ⊢
  rw [List.dropWhile_append, h]
  rfl

theorem length_skipBlank (h : skipBlank t = b :: rest) : rest.length < t.length := by
  have hle := (List.dropWhile_suffix isBlank (l := t)).length_le
  unfold skipBlank at h
  rwa [h] at hle

theorem not_isBlank (h : skipBlank t = b :: rest) : isBlank b = false := by
  unfold skipBlank at h
  have hne : t.dropWhile isBlank ≠ [] := by
    rw [h]
    exact List.cons_ne_nil b rest
  have hhead := List.head_dropWhile_not isBlank hne
  simpa only [h, List.head_cons] using hhead

theorem skipBlank_skipBlank (t : Bytes) : skipBlank (skipBlank t) = skipBlank t := by
  cases hskip : skipBlank t with
  | nil => rfl
  | cons b rest => exact skipBlank_cons (not_isBlank hskip) rest

theorem word?_eq_some {w : Text} : word? w t = some rest ↔ t = w ++ rest := by
  unfold word? Text.startsWith
  constructor
  · intro h
    split at h
    · rename_i hprefix
      cases h
      obtain ⟨rest, rfl⟩ := List.isPrefixOf_iff_prefix.mp hprefix
      rw [List.drop_left]
    · cases h
  · rintro rfl
    rw [if_pos (List.isPrefixOf_iff_prefix.mpr (List.prefix_append w rest)), List.drop_left]

theorem word?_append {w : Text} (h : word? w t = some rest) :
    rest.length ≤ t.length ∧ ∀ more, word? w (t ++ more) = some (rest ++ more) := by
  obtain rfl := word?_eq_some.mp h
  refine ⟨?_, fun more => word?_eq_some.mpr (List.append_assoc w rest more)⟩
  rw [List.length_append]
  exact Nat.le_add_left _ _

/-! ## Settled readers -/

/-- **A reader of values is settled**: a value takes an octet at least, and if something follows the
value it is read in the same way when the text goes on. -/
structure Settled (read : Bytes → Option (α × Bytes)) : Prop where
  shorter : ∀ {t rest : Bytes} {v : α}, read t = some (v, rest) → rest.length < t.length
  append : ∀ {t rest : Bytes} {v : α}, read t = some (v, rest) → rest ≠ [] →
    ∀ more, read (t ++ more) = some (v, rest ++ more)

/-- A reader that skips blanks is settled if it is on texts that do not begin with one. -/
theorem Settled.of_cons {read : Bytes → Option (α × Bytes)}
    (hskip : ∀ t, read t = read (skipBlank t)) (hnil : read [] = none)
    (hcons : ∀ {b : UInt8} {t rest : Bytes} {v : α}, isBlank b = false →
      read (b :: t) = some (v, rest) → rest.length ≤ t.length ∧
        (rest ≠ [] → ∀ more, read (b :: (t ++ more)) = some (v, rest ++ more))) :
    Settled read := by
  have hread : ∀ {t rest : Bytes} {v : α}, read t = some (v, rest) →
      ∃ b u, skipBlank t = b :: u ∧ rest.length ≤ u.length ∧
        (rest ≠ [] → ∀ more, read (b :: (u ++ more)) = some (v, rest ++ more)) := by
    intro t rest v h
    rw [hskip] at h
    cases hu : skipBlank t with
    | nil =>
      rw [hu, hnil] at h
      cases h
    | cons b u =>
      rw [hu] at h
      exact ⟨b, u, rfl, hcons (not_isBlank hu) h⟩
  constructor
  · intro t rest v h
    obtain ⟨b, u, hu, hle, -⟩ := hread h
    exact Nat.lt_of_le_of_lt hle (length_skipBlank hu)
  · intro t rest v h hrest more
    obtain ⟨b, u, hu, -, happend⟩ := hread h
    rw [hskip, skipBlank_append hu]
    exact happend hrest more

/-- What is made of the value makes no difference, as long as it leaves the rest of the text alone. -/
theorem Settled.map {read : Bytes → Option (α × Bytes)} (h : Settled read)
    {g : α × Bytes → β × Bytes} (hg : ∀ v rest more, g (v, more) = ((g (v, rest)).1, more)) :
    Settled fun t => (read t).map g := by
  have hread : ∀ {t rest : Bytes} {v : β}, (read t).map g = some (v, rest) →
      ∃ v', read t = some (v', rest) ∧ ∀ more, g (v', more) = (v, more) := by
    intro t rest v hv
    obtain ⟨⟨v', rest'⟩, hread, heq⟩ := Option.map_eq_some_iff.mp hv
    rw [hg v' rest rest'] at heq
    cases heq
    exact ⟨v', hread, hg v' rest⟩
  constructor
  · intro t rest v hv
    obtain ⟨v', hread, -⟩ := hread hv
    exact h.shorter hread
  · intro t rest v hv hrest more
    obtain ⟨v', hread, hvalue⟩ := hread hv
    rw [h.append hread hrest more, Option.map_some, hvalue]

/-- A null is settled. -/
theorem null_append {v v' : α} (h : (word? "ull" t).map (fun t => (v, t)) = some (v', rest)) :
    rest.length ≤ t.length ∧
      ∀ more, (word? "ull" (t ++ more)).map (fun t => (v, t)) = some (v', rest ++ more) := by
  obtain ⟨rest', hword, heq⟩ := Option.map_eq_some_iff.mp h
  cases heq
  obtain ⟨hle, happend⟩ := word?_append hword
  exact ⟨hle, fun more => by rw [happend more, Option.map_some]⟩

/-! ## Numbers -/

/-- A run of octets that ends before the text does. -/
theorem span_append {p : UInt8 → Bool} (h : t.dropWhile p ≠ []) (more : Bytes) :
    (t ++ more).takeWhile p = t.takeWhile p ∧ (t ++ more).dropWhile p = t.dropWhile p ++ more := by
  have hne : (t.dropWhile p).isEmpty = false := by simpa using h
  have hlength : (t.takeWhile p).length ≠ t.length := by
    intro hall
    have happend := congrArg List.length (List.takeWhile_append_dropWhile (p := p) (l := t))
    rw [List.length_append, hall] at happend
    exact h (List.eq_nil_of_length_eq_zero (by omega))
  rw [List.dropWhile_append, hne, List.takeWhile_append, if_neg hlength]
  exact ⟨rfl, rfl⟩

theorem drop_length_takeWhile (p : UInt8 → Bool) (t : Bytes) :
    t.drop (t.takeWhile p).length = t.dropWhile p := by
  have hdrop : (t.takeWhile p ++ t.dropWhile p).drop (t.takeWhile p).length = t.dropWhile p :=
    List.drop_left
  rwa [List.takeWhile_append_dropWhile] at hdrop

theorem length_digitRun (t : Bytes) : (digitRun t).1.length + (digitRun t).2.length = t.length := by
  unfold digitRun
  split
  · exact Nat.add_comm _ _
  · rw [← List.length_append, List.takeWhile_append_dropWhile]

theorem digitRun_append (h : (digitRun t).2 ≠ []) (more : Bytes) :
    digitRun (t ++ more) = ((digitRun t).1, (digitRun t).2 ++ more) := by
  cases t with
  | nil => exact absurd rfl h
  | cons b t =>
    by_cases hb : b = 0x30
    · subst hb
      rfl
    · have hrun : ∀ u, digitRun (b :: u) =
          ((b :: u).takeWhile Text.isDigit, (b :: u).dropWhile Text.isDigit) := by
        intro u
        unfold digitRun
        split
        · rename_i heq
          exact absurd (List.cons.inj heq).1 hb
        · rfl
      rw [hrun] at h
      obtain ⟨htake, hdrop⟩ := span_append h more
      rw [List.cons_append] at htake hdrop
      rw [List.cons_append, hrun, hrun, htake, hdrop]

/-- A run of digits that is read. -/
theorem digitRun_cons {ds : Bytes} (h : digitRun (b :: t) = (ds, rest))
    (hne : ds.isEmpty = false) :
    rest.length ≤ t.length ∧
      (rest ≠ [] → ∀ more, digitRun (b :: (t ++ more)) = (ds, rest ++ more)) := by
  have hlength := length_digitRun (b :: t)
  have happend := digitRun_append (t := b :: t)
  rw [h] at hlength happend
  have hpos : 0 < ds.length := List.length_pos_iff.mpr (by simpa using hne)
  simp only [List.length_cons] at hlength
  exact ⟨by omega, happend⟩

theorem natural_settled (bits : Nat) : Settled (natural bits) := by
  refine .of_cons (fun t => ?_) rfl fun {b t rest v} hb h => ?_
  · unfold natural
    rw [skipBlank_skipBlank]
  · unfold natural at h ⊢
    simp only [skipBlank_cons hb] at h ⊢
    split at h
    · rename_i heq
      cases heq
      obtain ⟨hle, happend⟩ := null_append h
      exact ⟨hle, fun _ => happend⟩
    · rename_i hnull
      cases hrun : digitRun (b :: t) with
      | mk ds r =>
        simp only [hrun] at h
        split at h
        · cases h
        · rename_i hgood
          cases h
          obtain ⟨hle, happend⟩ := digitRun_cons hrun (by simp_all)
          refine ⟨hle, fun hrest more => ?_⟩
          split
          · rename_i heq
            cases heq
            exact absurd rfl (hnull t)
          · simp only [happend hrest more, if_neg hgood]

theorem integer_settled (bits : Nat) (loneMinus : Bool) : Settled (integer bits loneMinus) := by
  refine .of_cons (fun t => ?_) rfl fun {b t rest v} hb h => ?_
  · unfold integer
    rw [skipBlank_skipBlank]
  · unfold integer at h ⊢
    simp only [skipBlank_cons hb] at h ⊢
    split at h
    · rename_i heq
      cases heq
      obtain ⟨hle, happend⟩ := null_append h
      exact ⟨hle, fun _ => happend⟩
    · rename_i heq
      cases heq
      split at h
      · cases h
      · rename_i hgood
        rw [drop_length_takeWhile] at h
        cases h
        refine ⟨(List.dropWhile_suffix _).length_le, fun hrest more => ?_⟩
        obtain ⟨htake, hdrop⟩ := span_append hrest more
        simp only [htake, if_neg hgood]
        rw [← htake, drop_length_takeWhile, hdrop]
    · rename_i hnull hminus
      cases hrun : digitRun (b :: t) with
      | mk ds r =>
        simp only [hrun] at h
        split at h
        · cases h
        · rename_i hgood
          cases h
          obtain ⟨hle, happend⟩ := digitRun_cons hrun (by simp_all)
          refine ⟨hle, fun hrest more => ?_⟩
          split
          · rename_i heq
            cases heq
            exact absurd rfl (hnull t)
          · rename_i heq
            cases heq
            exact absurd rfl (hminus t)
          · simp only [happend hrest more, if_neg hgood]

/-! ## Strings -/

/-- A backslash that ends the text is not the last octet of a string. -/
theorem ne_backslash {read : Bytes → Option α} {v : α}
    (hlone : ∀ c u, b = 0x5C → t = c :: u → False) (hnil : read [] = none)
    (h : read t = some v) : b ≠ 0x5C := by
  rintro rfl
  cases t with
  | nil =>
    rw [hnil] at h
    cases h
  | cons c u => exact hlone c u rfl rfl

theorem length_stringRest {acc : Text} {high : Option Nat} {s : Text}
    (h : stringRest acc high t = some (s, rest)) : rest.length ≤ t.length := by
  fun_induction stringRest acc high t with
  | case1 | case3 | case9 | case11 => cases h
  | case2 =>
    cases h
    exact Nat.le_succ _
  | case4 | case5 | case6 | case7 | case8 | case10 | case12 =>
    rename_i ih
    have hle := ih h
    simp only [List.length_cons]
    omega

theorem stringRest_append {acc : Text} {high : Option Nat} {s : Text}
    (h : stringRest acc high t = some (s, rest)) (more : Bytes) :
    stringRest acc high (t ++ more) = some (s, rest ++ more) := by
  fun_induction stringRest acc high t with
  | case1 | case3 | case9 | case11 => cases h
  | case2 acc high t =>
    cases h
    rfl
  -- escapes of code units, after a high surrogate and without one
  | case4 acc a b c d t n high hn hlow whole ih =>
    exact (stringRest.eq_4 acc a b c d _ n high hn).trans ((if_pos hlow).trans (ih h))
  | case5 acc a b c d t n high hn hlow hhigh ih =>
    exact (stringRest.eq_4 acc a b c d _ n high hn).trans
      ((if_neg hlow).trans ((if_pos hhigh).trans (ih h)))
  | case6 acc a b c d t n high hn hlow hhigh ih =>
    exact (stringRest.eq_4 acc a b c d _ n high hn).trans
      ((if_neg hlow).trans ((if_neg hhigh).trans (ih h)))
  | case7 acc a b c d t n hn hhigh ih =>
    exact (stringRest.eq_5 acc a b c d _ n hn).trans ((if_pos hhigh).trans (ih h))
  | case8 acc a b c d t n hn hhigh ih =>
    exact (stringRest.eq_5 acc a b c d _ n hn).trans ((if_neg hhigh).trans (ih h))
  | case10 acc high b t hunit c hescape ih =>
    have hb : b ≠ 0x75 := by
      rintro rfl
      cases hescape
    rw [List.cons_append, List.cons_append,
      stringRest.eq_6 acc high b _ (fun _ _ _ _ _ hb' => absurd hb' hb), hescape]
    exact ih h
  | case12 acc high b t hquote hunit hescape hzero ih =>
    have hb : b ≠ 0x5C := ne_backslash hescape rfl h
    rw [List.cons_append, stringRest.eq_7 acc high b _ hquote
      (fun _ _ _ _ _ hb' => absurd hb' hb) (fun _ _ hb' => absurd hb' hb), if_neg hzero]
    exact ih h

theorem string_settled : Settled string := by
  refine .of_cons (fun t => ?_) rfl fun {b t rest v} hb h => ?_
  · unfold string
    rw [skipBlank_skipBlank]
  · unfold string at h ⊢
    simp only [skipBlank_cons hb] at h ⊢
    split at h
    · rename_i heq
      cases heq
      obtain ⟨hle, happend⟩ := null_append h
      exact ⟨hle, fun _ => happend⟩
    · rename_i heq
      cases heq
      obtain ⟨⟨s, rest'⟩, hread, heq⟩ := Option.map_eq_some_iff.mp h
      cases heq
      refine ⟨length_stringRest hread, fun _ more => ?_⟩
      simp only [stringRest_append hread more, Option.map_some]
    · cases h

/-! ## Skipping -/

theorem skipString_append (h : skipString t = some rest) (more : Bytes) :
    skipString (t ++ more) = some (rest ++ more) := by
  fun_induction skipString t with
  | case1 | case3 | case5 => cases h
  | case2 t =>
    cases h
    rfl
  | case4 b t hzero ih =>
    rw [List.cons_append, List.cons_append, skipString, if_neg hzero]
    exact ih h
  | case6 b t hquote hescape hzero ih =>
    have hb : b ≠ 0x5C := ne_backslash hescape rfl h
    rw [List.cons_append, skipString.eq_4 b _ hquote fun _ _ hb' => absurd hb' hb, if_neg hzero]
    exact ih h

theorem length_skipNested {opening closing : UInt8} {depth : Nat}
    (h : skipNested opening closing depth t = some rest) : rest.length ≤ t.length := by
  fun_induction skipNested opening closing depth t with
  | case1 | case2 | case3 => cases h
  | case4 depth b t hzero hquote r hstring hshorter ih =>
    exact Nat.le_succ_of_le ((ih h).trans hshorter)
  | case6 =>
    cases h
    exact Nat.le_succ _
  | case5 | case7 | case8 =>
    rename_i ih
    exact Nat.le_succ_of_le (ih h)

theorem skipNested_append {opening closing : UInt8} {depth : Nat}
    (h : skipNested opening closing depth t = some rest) (more : Bytes) :
    skipNested opening closing depth (t ++ more) = some (rest ++ more) := by
  fun_induction skipNested opening closing depth t with
  | case1 | case2 | case3 => cases h
  | case4 depth b t hzero hquote r hstring hshorter ih =>
    rw [← ih h, List.cons_append, skipNested, if_neg hzero, if_pos hquote]
    split
    · rename_i hnone
      rw [skipString_append hstring] at hnone
      cases hnone
    · rename_i r' hsome
      rw [skipString_append hstring] at hsome
      cases hsome
      rfl
  | case5 depth b t hzero hquote hopening ih =>
    rw [← ih h, List.cons_append, skipNested, if_neg hzero, if_neg hquote, if_pos hopening]
  | case6 depth b t hzero hquote hopening hclosing hdepth =>
    cases h
    rw [List.cons_append, skipNested, if_neg hzero, if_neg hquote, if_neg hopening, if_pos hclosing,
      if_pos hdepth]
  | case7 depth b t hzero hquote hopening hclosing hdepth ih =>
    rw [← ih h, List.cons_append, skipNested, if_neg hzero, if_neg hquote, if_neg hopening,
      if_pos hclosing, if_neg hdepth]
  | case8 depth b t hzero hquote hopening hclosing ih =>
    rw [← ih h, List.cons_append, skipNested, if_neg hzero, if_neg hquote, if_neg hopening,
      if_neg hclosing]

/-- Skipping a value that leaves the state as it is. -/
theorem skipValue_settled (s : σ) : Settled fun t => (skipValue t).map fun rest => (s, rest) := by
  refine .of_cons (fun t => ?_) rfl fun {b t rest v} hb h => ?_
  · unfold skipValue
    rw [skipBlank_skipBlank]
  · obtain ⟨rest', hskip, heq⟩ := Option.map_eq_some_iff.mp h
    cases heq
    -- which value it is shows in its first octet, and that stays
    suffices hrest : rest.length ≤ t.length ∧
        (rest ≠ [] → ∀ more, skipValue (b :: (t ++ more)) = some (rest ++ more)) from
      ⟨hrest.1, fun hne more => by simp only [hrest.2 hne more, Option.map_some]⟩
    unfold skipValue at hskip ⊢
    simp only [skipBlank_cons hb] at hskip ⊢
    by_cases hbrace : (b == 0x7B) = true
    · simp only [if_pos hbrace] at hskip ⊢
      exact ⟨length_skipNested hskip, fun _ => skipNested_append hskip⟩
    by_cases hbracket : (b == 0x5B) = true
    · simp only [if_neg hbrace, if_pos hbracket] at hskip ⊢
      exact ⟨length_skipNested hskip, fun _ => skipNested_append hskip⟩
    by_cases hquote : (b == 0x22) = true
    · simp only [if_neg hbrace, if_neg hbracket, if_pos hquote] at hskip ⊢
      exact ⟨length_skipString hskip, fun _ => skipString_append hskip⟩
    by_cases hnumber : (b == 0x2D || Text.isDigit b) = true
    · simp only [if_neg hbrace, if_neg hbracket, if_neg hquote, if_pos hnumber] at hskip ⊢
      cases hskip
      refine ⟨(List.dropWhile_suffix _).length_le, fun hne more => ?_⟩
      rw [(span_append hne more).2]
    simp only [if_neg hbrace, if_neg hbracket, if_neg hquote, if_neg hnumber] at hskip ⊢
    by_cases htrue : (b == 0x74) = true
    · simp only [if_pos htrue] at hskip ⊢
      exact ⟨(word?_append hskip).1, fun _ => (word?_append hskip).2⟩
    by_cases hfalse : (b == 0x66) = true
    · simp only [if_neg htrue, if_pos hfalse] at hskip ⊢
      exact ⟨(word?_append hskip).1, fun _ => (word?_append hskip).2⟩
    by_cases hnull : (b == 0x6E) = true
    · simp only [if_neg htrue, if_neg hfalse, if_pos hnull] at hskip ⊢
      exact ⟨(word?_append hskip).1, fun _ => (word?_append hskip).2⟩
    · simp only [if_neg htrue, if_neg hfalse, if_neg hnull] at hskip
      cases hskip

/-! ## Arrays -/

/-- Elements stand when the text goes on, also with more fuel. -/
theorem elements_append {elem : Bytes → Option (Option α × Bytes)} (helem : Settled elem)
    {default : α} {fuel : Nat} {old acc xs : List α}
    (h : elements elem default fuel old acc t = some (xs, rest)) :
    rest.length < t.length ∧ ∀ more fuel', fuel ≤ fuel' →
      elements elem default fuel' old acc (t ++ more) = some (xs, rest ++ more) := by
  induction fuel generalizing old acc t with
  | zero => cases h
  | succ fuel ih =>
    rw [elements] at h
    cases hread : elem t with
    | none =>
      rw [hread] at h
      cases h
    | some p =>
      obtain ⟨x, u⟩ := p
      simp only [hread] at h
      cases hskip : skipBlank u with
      | nil =>
        simp only [hskip] at h
        cases h
      | cons b v =>
        have hu : u ≠ [] := by
          rintro rfl
          cases hskip
        have hshorter := helem.shorter hread
        have hblank := length_skipBlank hskip
        simp only [hskip] at h
        split at h
        · rename_i heq
          cases heq
          cases h
          refine ⟨by omega, fun more fuel' hfuel => ?_⟩
          obtain ⟨fuel', rfl⟩ := Nat.exists_eq_add_of_le' (Nat.le_of_add_left_le hfuel)
          rw [elements, helem.append hread hu more]
          simp only [skipBlank_append hskip more]
        · rename_i heq
          cases heq
          obtain ⟨hlt, happend⟩ := ih h
          refine ⟨by omega, fun more fuel' hfuel => ?_⟩
          obtain ⟨fuel', rfl⟩ := Nat.exists_eq_add_of_le' (Nat.le_of_add_left_le hfuel)
          rw [elements, helem.append hread hu more]
          simp only [skipBlank_append hskip more]
          exact happend more fuel' (Nat.le_of_succ_le_succ hfuel)
        · cases h

theorem array_settled {elem : Bytes → Option (Option α × Bytes)} (helem : Settled elem)
    (default : α) (old : List α) : Settled (array elem default old) := by
  refine .of_cons (fun t => ?_) rfl fun {b t rest v} hb h => ?_
  · unfold array
    rw [skipBlank_skipBlank]
  · unfold array at h ⊢
    simp only [skipBlank_cons hb] at h ⊢
    split at h
    · rename_i heq
      cases heq
      obtain ⟨hle, happend⟩ := null_append h
      exact ⟨hle, fun _ => happend⟩
    · rename_i heq
      cases heq
      cases hskip : skipBlank t with
      | nil =>
        simp only [hskip] at h
        exact absurd (elements_append helem h).1 (Nat.not_lt_zero _)
      | cons c u =>
        have hblank := length_skipBlank hskip
        simp only [hskip] at h
        split at h
        · rename_i heq
          cases heq
          cases h
          refine ⟨Nat.le_of_lt hblank, fun _ more => ?_⟩
          simp only [skipBlank_append hskip more]
        · rename_i hbracket
          obtain ⟨hlt, happend⟩ := elements_append helem h
          rw [List.length_cons] at hlt
          refine ⟨by omega, fun _ more => ?_⟩
          simp only [skipBlank_append hskip more]
          split
          · rename_i heq
            cases heq
            exact absurd rfl (hbracket u)
          · refine happend more _ ?_
            simp only [List.length_cons, List.length_append]
            omega
    · cases h

/-! ## Objects -/

theorem length_keyRest {acc k : Text} {width w : Nat}
    (h : keyRest acc width t = some (k, w, rest)) : rest.length < t.length := by
  fun_induction keyRest acc width t with
  | case1 | case4 | case6 => cases h
  | case2 =>
    cases h
    exact Nat.lt_succ_self _
  | case3 | case5 | case7 =>
    rename_i ih
    have hlt := ih h
    simp only [List.length_cons]
    omega

/-- A key stands if enough follows it: an escape at its end that lacks digits does not find them behind
the text. -/
theorem keyRest_append {acc k : Text} {width w : Nat}
    (h : keyRest acc width t = some (k, w, rest)) (hlong : 3 ≤ rest.length) (more : Bytes) :
    keyRest acc width (t ++ more) = some (k, w, rest ++ more) := by
  fun_induction keyRest acc width t with
  | case1 | case4 | case6 => cases h
  | case2 acc width t =>
    cases h
    rfl
  | case3 acc width a b c d t n ih => exact (keyRest.eq_3 acc width a b c d _).trans (ih h)
  | case5 acc width b t hunit hzero ih =>
    have hlt := length_keyRest h
    rw [List.cons_append, List.cons_append, keyRest.eq_4 acc width b, if_neg hzero]
    · exact ih h
    · rintro a b' c d t' rfl heq
      rcases t with _ | ⟨a, _ | ⟨b', _ | ⟨c, _ | ⟨d, t⟩⟩⟩⟩
      case cons.cons.cons.cons => exact hunit a b' c d t rfl rfl
      all_goals
        simp only [List.length_cons, List.length_nil] at hlt
        omega
  | case7 acc width b t hquote hunit hescape hzero ih =>
    have hb : b ≠ 0x5C := ne_backslash hescape rfl h
    rw [List.cons_append, keyRest.eq_5 acc width b _ hquote
      (fun _ _ _ _ _ hb' => absurd hb' hb) (fun _ _ hb' => absurd hb' hb), if_neg hzero]
    exact ih h

section Objects

variable {fields : List (Field σ)} {strict : Bool} {s s' : σ}

theorem mem_of_field? {f : Field σ} {key : Text} {width : Nat}
    (h : field? fields key width = some f) : f ∈ fields := by
  unfold field? at h
  split at h
  · cases h
  · exact List.mem_of_find?_eq_some (Option.filter_eq_some_iff.mp h).1

/-- The value of a member, which is read or skipped. -/
def memberValue (fields : List (Field σ)) (strict : Bool) (key : Text) (width : Nat) (s : σ)
    (t : Bytes) : Option (σ × Bytes) :=
  match field? fields key width with
  | some f => f.read s t
  | none => if strict then none else (skipValue t).map fun t => (s, t)

theorem memberValue_settled (hfields : ∀ f ∈ fields, ∀ s, Settled (f.read s)) (key : Text)
    (width : Nat) (s : σ) : Settled (memberValue fields strict key width s) := by
  unfold memberValue
  cases hfield : field? fields key width with
  | some f => exact hfields f (mem_of_field? hfield) s
  | none =>
    cases strict with
    | true => exact ⟨nofun, nofun⟩
    | false => exact skipValue_settled s

theorem members_succ (fuel : Nat) :
    members fields strict (fuel + 1) s t =
      match skipBlank t with
      | 0x22 :: t =>
        match keyRest [] 0 t with
        | none => none
        | some (key, width, t) =>
          match skipBlank t with
          | 0x3A :: t =>
            match memberValue fields strict key width s t with
            | none => none
            | some (s, t) =>
              match skipBlank t with
              | 0x7D :: t => some (s, t)
              | 0x2C :: t => members fields strict fuel s t
              | _ => none
          | _ => none
      | _ => none := rfl

/-- **Members are a key, a colon and a value**, and then a closing brace, or a comma and more
members. -/
theorem members_eq_some {fuel : Nat} :
    members fields strict (fuel + 1) s t = some (s', rest) ↔
      ∃ key width s₁ t₁ t₂ t₃ t₄, skipBlank t = 0x22 :: t₁ ∧
        keyRest [] 0 t₁ = some (key, width, t₂) ∧ skipBlank t₂ = 0x3A :: t₃ ∧
        memberValue fields strict key width s t₃ = some (s₁, t₄) ∧
        (skipBlank t₄ = 0x7D :: rest ∧ s₁ = s' ∨
          ∃ t₅, skipBlank t₄ = 0x2C :: t₅ ∧ members fields strict fuel s₁ t₅ = some (s', rest)) := by
  constructor
  · intro h
    rw [members_succ] at h
    split at h
    · rename_i t₁ hquote
      split at h
      · cases h
      · rename_i key width t₂ hkey
        split at h
        · rename_i t₃ hcolon
          split at h
          · cases h
          · rename_i s₁ t₄ hvalue
            refine ⟨key, width, s₁, t₁, t₂, t₃, t₄, hquote, hkey, hcolon, hvalue, ?_⟩
            split at h
            · rename_i t₅ hbrace
              cases h
              exact .inl ⟨hbrace, rfl⟩
            · rename_i t₅ hcomma
              exact .inr ⟨t₅, hcomma, h⟩
            · cases h
        · cases h
    · cases h
  · rintro ⟨key, width, s₁, t₁, t₂, t₃, t₄, hquote, hkey, hcolon, hvalue, hnext⟩
    rw [members_succ, hquote]
    simp only [hkey, hcolon, hvalue]
    rcases hnext with ⟨hbrace, rfl⟩ | ⟨t₅, hcomma, hothers⟩
    · simp only [hbrace]
    · simp only [hcomma, hothers]

/-- Members stand when the text goes on, also with more fuel. -/
theorem members_append (hfields : ∀ f ∈ fields, ∀ s, Settled (f.read s)) {fuel : Nat}
    (h : members fields strict fuel s t = some (s', rest)) :
    rest.length < t.length ∧ ∀ more fuel', fuel ≤ fuel' →
      members fields strict fuel' s (t ++ more) = some (s', rest ++ more) := by
  induction fuel generalizing s t with
  | zero => cases h
  | succ fuel ih =>
    obtain ⟨key, width, s₁, t₁, t₂, t₃, t₄, hquote, hkey, hcolon, hvalue, hnext⟩ :=
      members_eq_some.mp h
    have hkeyed := length_keyRest hkey
    have hsettled : Settled (memberValue fields strict key width s) :=
      memberValue_settled hfields key width s
    have h₁ := length_skipBlank hquote
    have h₃ := length_skipBlank hcolon
    have h₄ := hsettled.shorter hvalue
    -- what follows the value shows that the value is over, and the key long before
    have hmember : ∀ {b t₅}, skipBlank t₄ = b :: t₅ → t₅.length < t.length ∧ ∀ more,
        keyRest [] 0 (t₁ ++ more) = some (key, width, t₂ ++ more) ∧
          memberValue fields strict key width s (t₃ ++ more) = some (s₁, t₄ ++ more) := by
      intro b t₅ hblank
      have h₅ := length_skipBlank hblank
      have hne : t₄ ≠ [] := by
        rintro rfl
        cases hblank
      exact ⟨by omega, fun more => ⟨keyRest_append hkey (by omega) more,
        hsettled.append hvalue hne more⟩⟩
    rcases hnext with ⟨hbrace, rfl⟩ | ⟨t₅, hcomma, hothers⟩
    · obtain ⟨hlt, hsame⟩ := hmember hbrace
      refine ⟨hlt, fun more fuel' hfuel => ?_⟩
      obtain ⟨fuel', rfl⟩ := Nat.exists_eq_add_of_le' (Nat.le_of_add_left_le hfuel)
      obtain ⟨hkeyMore, hvalueMore⟩ := hsame more
      exact members_eq_some.mpr ⟨key, width, s₁, _, _, _, _, skipBlank_append hquote more, hkeyMore,
        skipBlank_append hcolon more, hvalueMore, .inl ⟨skipBlank_append hbrace more, rfl⟩⟩
    · obtain ⟨hlt, hsame⟩ := hmember hcomma
      obtain ⟨hrest, hothers'⟩ := ih hothers
      refine ⟨hrest.trans hlt, fun more fuel' hfuel => ?_⟩
      obtain ⟨fuel', rfl⟩ := Nat.exists_eq_add_of_le' (Nat.le_of_add_left_le hfuel)
      obtain ⟨hkeyMore, hvalueMore⟩ := hsame more
      exact members_eq_some.mpr ⟨key, width, s₁, _, _, _, _, skipBlank_append hquote more, hkeyMore,
        skipBlank_append hcolon more, hvalueMore,
        .inr ⟨_, skipBlank_append hcomma more, hothers' more fuel' (Nat.le_of_succ_le_succ hfuel)⟩⟩

/-- **An object is read as it is, whatever follows it**, if the readers of its fields are settled. -/
theorem object_append (hfields : ∀ f ∈ fields, ∀ s, Settled (f.read s))
    (h : object fields strict s t = some (s', rest)) (more : Bytes) :
    object fields strict s (t ++ more) = some (s', rest ++ more) := by
  unfold object at h ⊢
  split at h
  · rename_i u hskip
    simp only [skipBlank_append hskip more]
    exact (null_append h).2 more
  · rename_i u hskip
    simp only [skipBlank_append hskip more]
    cases hblank : skipBlank u with
    | nil =>
      simp only [hblank] at h
      exact absurd (members_append hfields h).1 (Nat.not_lt_zero _)
    | cons c v =>
      simp only [hblank] at h
      simp only [skipBlank_append hblank more]
      split at h
      · rename_i heq
        cases heq
        cases h
        rfl
      · rename_i hbrace
        split
        · rename_i heq
          cases heq
          exact absurd rfl (hbrace v)
        · refine (members_append hfields h).2 more _ ?_
          simp only [List.length_cons, List.length_append]
          omega
  · cases h

end Objects

end DetectorStream.Json
