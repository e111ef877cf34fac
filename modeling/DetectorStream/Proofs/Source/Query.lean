import DetectorStream.Proofs.Text.Plain
import DetectorStream.Source.Locator
import Mathlib.Data.List.Basic

/-!
# Reading back a query

A locator `synth://?key=value&key=value` whose names and values are plain text means what it says:
nothing in it is an escape, a separator or the end of the query.

* `Text.cut?_of_not_mem`, `Text.cut?_append`: where an octet is first met.
* `Escape.decode_query`: plain text needs no escapes.
* `Locator.queryText`: a query as it is written.
* **`Locator.params_queryText`**: the parameters of a written query.
* `Locator.ofIdentifier_queryText`: the locator of an identifier that is a scheme and a query.
-/

namespace DetectorStream

namespace Text

variable {b c : UInt8} {s t : Text}

theorem startsWith_singleton : startsWith [c] (b :: t) = (c == b) := by
  simp [startsWith, List.isPrefixOf]

/-- An octet that is not there is not found. -/
theorem cut?_of_not_mem (h : c ∉ t) : cut? [c] t = none := by
  induction t with
  | nil => rfl
  | cons b t ih =>
    rw [List.mem_cons, not_or] at h
    rw [cut?, startsWith_singleton, if_neg (by simpa using h.1), ih h.2]
    rfl

/-- An octet that is not there before is found where it stands. -/
theorem cut?_append (h : c ∉ s) (t : Text) : cut? [c] (s ++ c :: t) = some (s, t) := by
  induction s with
  | nil =>
    rw [List.nil_append, cut?, startsWith_singleton, if_pos (beq_self_eq_true c)]
    rfl
  | cons b s ih =>
    rw [List.mem_cons, not_or] at h
    rw [List.cons_append, cut?, startsWith_singleton, if_neg (by simpa using h.1), ih h.2]
    rfl

/-- The octets of joined parts. -/
theorem mem_join {sep : Text} {parts : List Text} (h : b ∈ join sep parts) :
    b ∈ sep ∨ ∃ part ∈ parts, b ∈ part := by
  unfold join at h
  induction parts with
  | nil => cases h
  | cons part parts ih =>
    cases parts with
    | nil =>
      rw [List.intercalate_singleton] at h
      exact Or.inr ⟨part, List.mem_cons_self, h⟩
    | cons next parts =>
      rw [List.intercalate_cons_cons, List.mem_append, List.mem_append] at h
      rcases h with (h | h) | h
      · exact Or.inr ⟨part, List.mem_cons_self, h⟩
      · exact Or.inl h
      · rcases ih h with hsep | ⟨other, hother, hb⟩
        · exact Or.inl hsep
        · exact Or.inr ⟨other, List.mem_cons_of_mem part hother, hb⟩

end Text

/-! ## Plain text -/

namespace Escape

/-- Plain text needs no escapes. -/
theorem decodeOnto_query {acc t : Text} (h : t.all Text.isPlain = true) :
    decodeOnto .query acc t = .ok (acc.reverse ++ t) := by
  induction t generalizing acc with
  | nil => rw [decodeOnto, List.append_nil]
  | cons b t ih =>
    rw [List.all_cons, Bool.and_eq_true] at h
    have hpercent : b ≠ 0x25 := Text.ne_of_isPlain h.1 (by decide)
    have hplus : b ≠ 0x2B := Text.ne_of_isPlain h.1 (by decide)
    rw [decodeOnto.eq_3 _ _ _ _ (fun _ _ _ hb _ => hpercent hb)]
    simp [hpercent, hplus, ih h.2]

theorem decode_query {t : Text} (h : t.all Text.isPlain = true) : decode .query t = .ok t :=
  decodeOnto_query h

end Escape

/-! ## Queries -/

namespace Locator

variable {q : Text} {kvs : List (Text × Text)}

/-- A parameter as it is written. -/
def paramText (kv : Text × Text) : Text := kv.1 ++ 0x3D :: kv.2

/-- A query as it is written. -/
def queryText (kvs : List (Text × Text)) : Text := Text.join "&" (kvs.map paramText)

/-- Parameters of plain text. -/
def ArePlain (kvs : List (Text × Text)) : Prop :=
  ∀ kv ∈ kvs, kv.1.all Text.isPlain = true ∧ kv.2.all Text.isPlain = true

theorem ArePlain.part (h : ArePlain kvs) {part : Text} (hpart : part ∈ kvs.map paramText) :
    ∀ b ∈ part, Text.isPlain b = true ∨ b = 0x3D := by
  obtain ⟨kv, hkv, rfl⟩ := List.mem_map.mp hpart
  obtain ⟨hk, hv⟩ := h kv hkv
  intro b hb
  rw [paramText, List.mem_append, List.mem_cons] at hb
  rcases hb with hb | hb | hb
  · exact Or.inl (List.all_eq_true.mp hk b hb)
  · exact Or.inr hb
  · exact Or.inl (List.all_eq_true.mp hv b hb)

/-- The octets of a written query are plain, or stand between names and values. -/
theorem ArePlain.query (h : ArePlain kvs) :
    ∀ b ∈ queryText kvs, Text.isPlain b = true ∨ b = 0x3D ∨ b = 0x26 := by
  intro b hb
  rcases Text.mem_join hb with hb | ⟨part, hpart, hb⟩
  · exact Or.inr (Or.inr (List.mem_singleton.mp hb))
  · rcases h.part hpart b hb with hb | hb
    · exact Or.inl hb
    · exact Or.inr (Or.inl hb)

/-- What is neither plain nor a separator does not occur in a written query. -/
theorem ArePlain.not_mem (h : ArePlain kvs) {c : UInt8} (hc : Text.isPlain c = false)
    (hequal : c ≠ 0x3D) (hand : c ≠ 0x26) : c ∉ queryText kvs := by
  intro hmem
  rcases h.query c hmem with hplain | heq | heq
  · exact Text.ne_of_isPlain hplain hc rfl
  · exact hequal heq
  · exact hand heq

/-- Nothing in a written query is a control character. -/
theorem not_control {b : UInt8} (h : Text.isPlain b = true ∨ b = 0x3D ∨ b = 0x26) :
    ¬ (b < 0x20 || b == 0x7F) = true := by
  simp only [Text.isPlain_iff, Bool.or_eq_true, decide_eq_true_eq, beq_iff_eq,
    UInt8.lt_iff_toNat_lt, ← UInt8.toNat_inj, UInt8.reduceToNat] at h ⊢
  omega

theorem split_queryText (h : ArePlain kvs) (hne : kvs ≠ []) :
    Text.split 0x26 (queryText kvs) = kvs.map paramText := by
  refine List.splitOn_intercalate 0x26 ?_ (by simpa using hne)
  intro part hpart hmem
  rcases h.part hpart _ hmem with hb | hb
  · exact Text.ne_of_isPlain hb (show Text.isPlain 0x26 = false by decide) rfl
  · exact absurd hb (by decide)

/-- **The parameters of a written query.** -/
theorem params_queryText (h : ArePlain kvs) (hne : kvs ≠ []) {u : Locator}
    (hu : u.query = queryText kvs) : u.params = kvs := by
  unfold params
  rw [hu, split_queryText h hne, List.filterMap_map]
  refine (List.filterMap_congr fun kv hkv => ?_).trans List.filterMap_some
  obtain ⟨hk, hv⟩ := h kv hkv
  have hsemicolon : (paramText kv).elem 0x3B = false := by
    rw [← Bool.not_eq_true, List.elem_iff]
    intro hmem
    rcases h.part (List.mem_map_of_mem hkv) _ hmem with hb | hb
    · exact Text.ne_of_isPlain hb (show Text.isPlain 0x3B = false by decide) rfl
    · exact absurd hb (by decide)
  have hfilled : (paramText kv).isEmpty = false := by simp [paramText]
  have hcut : Text.cut? "=" (paramText kv) = some kv :=
    Text.cut?_append (Text.not_mem_of_isPlain hk (by decide)) kv.2
  simp only [Function.comp, hsemicolon, hfilled, hcut, Option.getD_some, Escape.decode_query hk,
    Escape.decode_query hv]
  rfl

theorem queryText_ne_nil (h : ArePlain kvs) (hne : kvs ≠ []) : queryText kvs ≠ [] := by
  intro hnil
  have hsplit := split_queryText h hne
  rw [hnil] at hsplit
  cases kvs with
  | nil => exact hne rfl
  | cons kv kvs => simp [Text.split, paramText] at hsplit

/-- Behind a scheme, all that follows a question mark is the query. -/
theorem parseBody_query (hne : q ≠ []) (hcontrol : q.any (fun b => b < 0x20 || b == 0x7F) = false) :
    parseBody ("synth://?" ++ q) = .ok { scheme := "synth", query := q } := by
  have hempty : q.isEmpty = false := by simpa using hne
  have hclean : ("synth://?" ++ q : Text).any (fun b => b < 0x20 || b == 0x7F) = false := by
    rw [List.any_append, hcontrol, Bool.or_false]
    decide
  have hscheme : scheme? ("synth://?" ++ q) = .ok (some (Text.ofString "synth", "//?" ++ q)) := rfl
  have hstar : ("synth://?" ++ q == Text.ofString "*") = false := rfl
  unfold parseBody
  rw [hclean, hscheme, hstar]
  show hierarchy { scheme := "synth", query := q, forceQuery := q.isEmpty } "//" = _
  rw [hempty]
  rfl

/-- **The locator of an identifier that is a scheme and a query.** -/
theorem ofIdentifier_queryText (h : ArePlain kvs) (hne : kvs ≠ []) :
    ofIdentifier ("synth://?" ++ queryText kvs) =
      .ok { scheme := "synth", query := queryText kvs } := by
  have hcontrol : (queryText kvs).any (fun b => b < 0x20 || b == 0x7F) = false :=
    List.any_eq_false.mpr fun b hb => not_control (h.query b hb)
  have hbody := parseBody_query (queryText_ne_nil h hne) hcontrol
  have hhash : (0x23 : UInt8) ∉ ("synth://?" ++ queryText kvs : Text) := by
    rw [List.mem_append, not_or]
    exact ⟨by decide, h.not_mem (by decide) (by decide) (by decide)⟩
  have hcut : Text.cut? "#" ("synth://?" ++ queryText kvs) = none := Text.cut?_of_not_mem hhash
  have hincludes : Text.includes "://" ("synth://?" ++ queryText kvs) = true := rfl
  have hparse : parse ("synth://?" ++ queryText kvs) =
      .ok { scheme := "synth", query := queryText kvs } := by
    unfold parse
    simp only [hcut, Option.getD_none, hbody]
    rfl
  unfold ofIdentifier
  rw [hparse, hincludes]
  rfl

end Locator

end DetectorStream
