import DetectorStream.CommandLine.Synthesize
import DetectorStream.Proofs.Files.Writing
import DetectorStream.Proofs.Source.Renderings
import DetectorStream.Proofs.Text.Glyphs

/-!
# Names of files

The name of a file says how it is packed and what it holds. Its last suffix is compared in lower case
but is cut off by the length of the lower case, which is a length of another text: a lower-case letter
can take fewer octets than the letter, or more. Every suffix there is avoids the letters for which that
happens, so that what is cut off is the suffix itself. Whoever writes a file looks at the whole path and
whoever reads it at the last name of the path; both find the same suffix.

* **`Text.length_toLower`**: a lower case without these letters is as long as the text.
* `Path.Ending`, `Path.extension_append`, `Path.extension_cases`: the last suffix of a path.
* `Path.base_append`: the last name of a path keeps the suffixes.
* **`Algorithm.ofPath_eq_iff`**: exactly which names are split, and how.
* `Source.NamesImage`: the paths of packed images.
* **`Source.load_written`**: an image that is written to such a path is loaded from it.
-/

namespace DetectorStream

/-! ## Lower case -/

namespace Text

variable {t : Text} {gs : List Glyph}

/-- Octets of lower-case text that may come from a text of another length: `i` and `k`, which are also
the lower case of two letters outside of ASCII, and the first octet of what stands for a stray one. -/
def shifting : List UInt8 := [0x69, 0x6B, 0xEF]

theorem length_lowerGlyph {g : Glyph} (h : ∀ b ∈ lowerGlyph g, b ∉ shifting) :
    (lowerGlyph g).length = g.text.length := by
  cases g with
  | stray b => exact absurd (by decide) (h 0xEF List.mem_cons_self)
  | char c =>
    unfold lowerGlyph at h ⊢
    simp only at h ⊢
    split at h
    · exact absurd (by decide) (h 0x69 List.mem_cons_self)
    · split at h
      · exact absurd (by decide) (h 0x6B List.mem_cons_self)
      · rename_i hdotted hkelvin
        rw [if_neg hdotted, if_neg hkelvin, List.length_map]
        rfl

theorem length_lowerGlyphs (h : ∀ b ∈ gs.flatMap lowerGlyph, b ∉ shifting) :
    (gs.flatMap lowerGlyph).length = (ofGlyphs gs).length := by
  induction gs with
  | nil => rfl
  | cons g gs ih =>
    rw [List.flatMap_cons] at h
    obtain ⟨hg, hgs⟩ := List.forall_mem_append.mp h
    rw [List.flatMap_cons, List.length_append, length_lowerGlyph hg, ih hgs, ofGlyphs, ofGlyphs,
      List.flatMap_cons, List.length_append]

/-- **A lower case without such octets is as long as the text.** -/
theorem length_toLower (h : ∀ b ∈ toLower t, b ∉ shifting) : (toLower t).length = t.length := by
  unfold toLower at h ⊢
  split at h
  · rename_i hascii
    rw [if_pos hascii, toLowerAscii, List.length_map]
  · rename_i hascii
    rw [if_neg hascii, length_lowerGlyphs h, ofGlyphs_read]

/-! ## The last octet of a kind -/

section LastOctet

variable {p : UInt8 → Bool} {before after : Text} {b : UInt8}

/-- A text has none of the octets, or a last one of them. -/
theorem last_cases (p : UInt8 → Bool) (t : Text) :
    (∀ c ∈ t, p c = false) ∨
      ∃ before b after, t = before ++ b :: after ∧ p b = true ∧ ∀ c ∈ after, p c = false := by
  induction t with
  | nil =>
    left
    intro c hc
    cases hc
  | cons a t ih =>
    rcases ih with hnone | ⟨before, b, after, rfl, hb, hafter⟩
    · cases ha : p a with
      | true => exact .inr ⟨[], a, t, rfl, ha, hnone⟩
      | false => exact .inl (List.forall_mem_cons.mpr ⟨ha, hnone⟩)
    · exact .inr ⟨a :: before, b, after, rfl, hb, hafter⟩

theorem cutLast?_append (hb : p b = true) (hafter : ∀ c ∈ after, p c = false) :
    cutLast? p (before ++ b :: after) = some (before, b, after) := by
  have hback : ∀ c ∈ after.reverse, (!p c) = true := by
    intro c hc
    rw [hafter c (List.mem_reverse.mp hc)]
    rfl
  have hreverse : (before ++ b :: after).reverse = after.reverse ++ b :: before.reverse := by
    rw [List.reverse_append, List.reverse_cons, List.append_assoc]
    rfl
  unfold cutLast?
  simp only [hreverse, List.dropWhile_append_of_pos hback, List.takeWhile_append_of_pos hback,
    List.dropWhile_cons, List.takeWhile_cons, hb, Bool.not_true, Bool.false_eq_true, if_false,
    List.reverse_reverse, List.append_nil]

theorem cutLast?_none (h : ∀ c ∈ t, p c = false) : cutLast? p t = none := by
  have hback : ∀ c ∈ t.reverse, (!p c) = true := by
    intro c hc
    rw [h c (List.mem_reverse.mp hc)]
    rfl
  have hdrop : (t.reverse ++ []).dropWhile (fun b => !p b) = [] :=
    List.dropWhile_append_of_pos hback
  rw [List.append_nil] at hdrop
  unfold cutLast?
  simp only [hdrop]

end LastOctet

end Text

/-! ## The last suffix and the last name of a path -/

namespace Path

open Text (last_cases cutLast?_append cutLast?_none)

variable {p stem part dir name : Text}

/-- **A suffix of a name**: a dot, and what is neither a dot nor a slash. -/
def Ending (part : Text) : Prop := ∃ rest, part = dot :: rest ∧ dot ∉ rest ∧ slash ∉ rest

theorem Ending.ne_nil (h : Ending part) : part ≠ [] := by
  obtain ⟨rest, rfl, -⟩ := h
  exact List.cons_ne_nil _ _

theorem Ending.slash_not_mem (h : Ending part) : slash ∉ part := by
  obtain ⟨rest, rfl, -, hslash⟩ := h
  exact List.not_mem_cons_of_ne_of_not_mem (by decide) hslash

/-- The suffix of a path is the one that it ends with. -/
theorem extension_append (h : Ending part) (stem : Text) : extension (stem ++ part) = part := by
  obtain ⟨rest, rfl, hdot, hslash⟩ := h
  have hrest : ∀ c ∈ rest, (c == dot || c == slash) = false := by
    intro c hc
    rw [Bool.or_eq_false_iff, beq_eq_false_iff_ne, beq_eq_false_iff_ne]
    exact ⟨fun heq => hdot (heq ▸ hc), fun heq => hslash (heq ▸ hc)⟩
  unfold extension
  rw [cutLast?_append (p := fun b => b == dot || b == slash) (by decide) hrest]
  rfl

/-- A path has no suffix, or it ends with its suffix. -/
theorem extension_cases (p : Text) :
    extension p = [] ∨ ∃ stem, p = stem ++ extension p ∧ Ending (extension p) := by
  rcases last_cases (fun b => b == dot || b == slash) p with hnone | ⟨stem, b, rest, rfl, hb, hrest⟩
  · left
    unfold extension
    rw [cutLast?_none hnone]
  · have hends : slash ∉ rest ∧ dot ∉ rest := by
      constructor
      · intro hmem
        cases hrest slash hmem
      · intro hmem
        cases hrest dot hmem
    by_cases hdot : b = dot
    · subst hdot
      have hending : Ending (dot :: rest) := ⟨rest, rfl, hends.2, hends.1⟩
      right
      rw [extension_append hending]
      exact ⟨stem, rfl, hending⟩
    · left
      unfold extension
      rw [cutLast?_append hb hrest]
      simp only [beq_iff_eq, hdot, if_false]

/-- The last name of a path, if that is not empty. -/
theorem base_eq (hne : name ≠ []) (hslash : slash ∉ name)
    (hdir : dir = [] ∨ ∃ above, dir = above ++ [slash]) : base (dir ++ name) = name := by
  have hnone : ∀ c ∈ name, (c == slash) = false := by
    intro c hc
    rw [beq_eq_false_iff_ne]
    exact fun heq => hslash (heq ▸ hc)
  have hempty : ∀ t : Text, (t ++ name).isEmpty = false := by
    intro t
    rw [List.isEmpty_eq_false_iff]
    exact fun h => hne (List.append_eq_nil_iff.mp h).2
  have htrim : Text.trimRight (· == slash) (dir ++ name) = dir ++ name := by
    obtain ⟨front, c, rfl⟩ : ∃ front c, name = front ++ [c] :=
      ⟨name.dropLast, name.getLast hne, (List.dropLast_append_getLast hne).symm⟩
    have hc : (c == slash) = false := hnone c (List.mem_append_right _ List.mem_cons_self)
    unfold Text.trimRight
    rw [List.reverse_append, List.reverse_append, List.reverse_singleton, List.singleton_append,
      List.cons_append, List.dropWhile_cons_of_neg (by rw [hc]; exact Bool.false_ne_true)]
    simp
  unfold base
  simp only [hempty, htrim, Bool.false_eq_true, if_false]
  rcases hdir with rfl | ⟨above, rfl⟩
  · rw [List.nil_append, cutLast?_none hnone]
  · rw [List.append_assoc, List.singleton_append, cutLast?_append (by decide) hnone]

/-- **The last name of a path keeps what is put behind the path**, unless there is a slash in it. -/
theorem base_append (stem : Text) (hne : part ≠ []) (hslash : slash ∉ part) :
    ∃ dir name, stem = dir ++ name ∧ base (stem ++ part) = name ++ part := by
  have hpart : ∀ name, name ++ part ≠ [] := fun name h => hne (List.append_eq_nil_iff.mp h).2
  rcases last_cases (· == slash) stem with hnone | ⟨above, b, name, rfl, hb, hname⟩
  · refine ⟨[], stem, rfl, ?_⟩
    have hfree : slash ∉ stem ++ part := by
      rw [List.mem_append, not_or]
      exact ⟨fun h => absurd (hnone slash h) (by decide), hslash⟩
    exact base_eq (hpart stem) hfree (.inl (rfl : ([] : Text) = []))
  · rw [beq_iff_eq] at hb
    subst hb
    have hfree : slash ∉ name ++ part := by
      rw [List.mem_append, not_or]
      exact ⟨fun h => absurd (hname slash h) (by decide), hslash⟩
    refine ⟨above ++ [slash], name, by rw [List.append_assoc]; rfl, ?_⟩
    rw [← List.singleton_append, ← List.append_assoc, List.append_assoc]
    exact base_eq (hpart name) hfree (.inr ⟨above, rfl⟩)

end Path

/-! ## How a name is split -/

namespace Algorithm

variable {alg : Algorithm} {name inner part s : Text}

/-- The suffixes differ from each other, and none has an octet that may come from a text of another
length. -/
theorem suffixes_spec : ∀ e ∈ suffixes, ofSuffix? e.1 = some e.2 ∧ e.2 ≠ none ∧
    ∀ b ∈ e.1, b ∉ Text.shifting := by
  decide +kernel

theorem ofSuffix?_eq_some : ofSuffix? s = some alg ↔ (s, alg) ∈ suffixes := by
  constructor
  · intro h
    obtain ⟨l, l', hl, -⟩ := List.lookup_eq_some_iff.mp h
    rw [hl]
    exact List.mem_append_right l List.mem_cons_self
  · exact fun h => (suffixes_spec _ h).1

/-- A known suffix is as long as its lower case. -/
theorem length_of_mem_suffixes (h : (Text.toLower part, alg) ∈ suffixes) :
    (Text.toLower part).length = part.length :=
  Text.length_toLower (suffixes_spec _ h).2.2

/-- A name that ends in a known suffix is split in front of it. -/
theorem ofPath_append (hending : Path.Ending part) (hknown : (Text.toLower part, alg) ∈ suffixes)
    (inner : Text) : ofPath (inner ++ part) = (alg, inner) := by
  unfold ofPath
  simp only [Path.extension_append hending, ofSuffix?_eq_some.mpr hknown,
    length_of_mem_suffixes hknown, List.length_append, Nat.add_sub_cancel, List.take_left']

/-- **Which names are split**: those that end in a suffix of an algorithm in any case, and then in
front of that suffix. -/
theorem ofPath_eq_iff (halg : alg ≠ none) : ofPath name = (alg, inner) ↔
    ∃ part, name = inner ++ part ∧ Path.Ending part ∧ (Text.toLower part, alg) ∈ suffixes := by
  constructor
  · intro h
    rcases Path.extension_cases name with hnone | ⟨stem, hstem, hending⟩
    · unfold ofPath at h
      rw [hnone] at h
      cases h
      exact absurd rfl halg
    · cases hknown : ofSuffix? (Text.toLower (Path.extension name)) with
      | none =>
        unfold ofPath at h
        simp only [hknown] at h
        cases h
        exact absurd rfl halg
      | some found =>
        have hmem := ofSuffix?_eq_some.mp hknown
        have hsplit := ofPath_append hending hmem stem
        rw [← hstem, h] at hsplit
        cases hsplit
        exact ⟨_, hstem, hending, hmem⟩
  · rintro ⟨part, rfl, hending, hknown⟩
    exact ofPath_append hending hknown inner

/-- A name that is not split is left as it is. -/
theorem ofPath_none (h : (ofPath name).1 = none) : ofPath name = (none, name) := by
  unfold ofPath at h ⊢
  simp only at h ⊢
  split at h
  · rename_i found hknown
    exact absurd h (suffixes_spec _ (ofSuffix?_eq_some.mp hknown)).2.1
  · rfl

/-- The suffix that is written for an algorithm is one that is known for it. -/
theorem extension_known (halg : alg ≠ none) :
    Path.Ending alg.extension ∧ (Text.toLower alg.extension, alg) ∈ suffixes := by
  cases alg with
  | none => exact absurd rfl halg
  | gzip => exact ⟨⟨_, rfl, by decide, by decide⟩, by decide +kernel⟩
  | zstd => exact ⟨⟨_, rfl, by decide, by decide⟩, by decide +kernel⟩
  | lz4 => exact ⟨⟨_, rfl, by decide, by decide⟩, by decide +kernel⟩
  | s2 => exact ⟨⟨_, rfl, by decide, by decide⟩, by decide +kernel⟩
  | snappy => exact ⟨⟨_, rfl, by decide, by decide⟩, by decide +kernel⟩

end Algorithm

/-! ## Images by name -/

/-- **The codec gives a text back** that it packed. -/
def Codec.Inverts (c : Codec) (text : Bytes) : Prop :=
  c.expand { bytes := c.pack text } = .ok { bytes := text }

/-- If those that compress give a text back, all do. -/
theorem Codec.of_inverts {codecs : Algorithm → Codec} {text : Bytes} {alg : Algorithm}
    (h : alg ≠ .none → (codecs alg).Inverts text) : (Codec.of codecs alg).Inverts text := by
  cases alg with
  | none => rfl
  | gzip | zstd | lz4 | s2 | snappy => exact h (by decide)

namespace Source

/-- The suffixes of images, in lower case. -/
def imageSuffixes : List Text := [".nev", ".bin"]

theorem imageSuffixes_spec : ∀ s ∈ imageSuffixes,
    Algorithm.ofSuffix? s = none ∧ Layout.ofSuffix? s = some .nev := by
  decide +kernel

/-- **The path of an image that is packed by an algorithm**: it ends in a suffix of images, with a
suffix of the algorithm behind it if there is one, both in any case. -/
inductive NamesImage : Algorithm → Text → Prop
  | plain (stem : Text) {ending : Text} (ends : Path.Ending ending)
      (image : Text.toLower ending ∈ imageSuffixes) : NamesImage .none (stem ++ ending)
  | packed (stem : Text) {alg : Algorithm} {ending packing : Text} (ends : Path.Ending ending)
      (image : Text.toLower ending ∈ imageSuffixes) (packs : Path.Ending packing)
      (known : (Text.toLower packing, alg) ∈ Algorithm.suffixes) :
      NamesImage alg (stem ++ ending ++ packing)

variable {alg : Algorithm} {path : Text}

/-- **Both ends read such a path alike**: the whole path tells the writer the algorithm that its last
name tells the reader, who finds an image in what is left. -/
theorem NamesImage.split (h : NamesImage alg path) :
    path ≠ [] ∧ (Algorithm.ofPath path).1 = alg ∧
      ∃ inner, Algorithm.ofPath (Path.base path) = (alg, inner) ∧
        Layout.ofSuffix? (Text.toLower (Path.extension inner)) = some .nev := by
  cases h with
  | @plain stem ending ends image =>
    obtain ⟨hunknown, hlayout⟩ := imageSuffixes_spec _ image
    have hsplit : ∀ front, Algorithm.ofPath (front ++ ending) = (.none, front ++ ending) := by
      intro front
      unfold Algorithm.ofPath
      simp only [Path.extension_append ends, hunknown]
    obtain ⟨dir, name, -, hbase⟩ := Path.base_append stem ends.ne_nil ends.slash_not_mem
    refine ⟨fun hnil => ends.ne_nil (List.append_eq_nil_iff.mp hnil).2, by rw [hsplit],
      name ++ ending, ?_, ?_⟩
    · rw [hbase, hsplit]
    · rw [Path.extension_append ends]
      exact hlayout
  | @packed stem _ ending packing ends image packs known =>
    have hslash : Path.slash ∉ ending ++ packing := by
      rw [List.mem_append, not_or]
      exact ⟨ends.slash_not_mem, packs.slash_not_mem⟩
    have hne : ending ++ packing ≠ [] := fun hnil =>
      ends.ne_nil (List.append_eq_nil_iff.mp hnil).1
    obtain ⟨dir, name, -, hbase⟩ := Path.base_append stem hne hslash
    rw [← List.append_assoc, ← List.append_assoc] at hbase
    refine ⟨fun hnil => packs.ne_nil (List.append_eq_nil_iff.mp hnil).2,
      by rw [Algorithm.ofPath_append packs known], name ++ ending, ?_, ?_⟩
    · rw [hbase]
      exact Algorithm.ofPath_append packs known _
    · rw [Path.extension_append ends]
      exact (imageSuffixes_spec _ image).2

/-- **An image that is written is loaded again**: the path can be written, the disk takes the image,
the codec gives it back and its events are admitted. -/
theorem loadBy_writeSourceBy {codecs : Algorithm → Codec} {o : Origins} {old : Bytes}
    {es : Array Event} {a : Allocator} (hpath : NamesImage alg path)
    (hbare : Text.includes "://" path = false) (hregular : o.files.Regular path old)
    (hinverts : alg ≠ .none → (codecs alg).Inverts (Nev.image es.toList))
    (hroom : Files.taken o.files.room ((Codec.of codecs alg).pack (Nev.image es.toList)) =
      (Codec.of codecs alg).pack (Nev.image es.toList)) (hadmits : a.Admits es.size) :
    ∃ fs, CommandLine.writeSourceBy codecs o.files path (.live es) = (fs, none) ∧
      loadBy codecs { o with files := fs } a path = .ok (.live es) := by
  obtain ⟨hne, halg, inner, hsplit, hlayout⟩ := hpath.split
  obtain ⟨k, opened, hopen, hkeeps, hsame⟩ := hregular.openToWrite_clear
  obtain ⟨hwritten, -, hfault⟩ :=
    hkeeps.append_taken ((Codec.of codecs alg).pack (Nev.image es.toList))
  rw [hsame, hroom, if_neg (Nat.lt_irrefl _)] at hfault
  rw [hsame, hroom, List.nil_append] at hwritten
  rcases happend : opened.append k path ((Codec.of codecs alg).pack (Nev.image es.toList)) with
    ⟨fs, fault⟩
  rw [happend] at hwritten hfault
  obtain rfl : fault = none := hfault
  refine ⟨fs, ?_, ?_⟩
  · unfold CommandLine.writeSourceBy
    simp only [hopen, Nev.write, halg, happend]
  · have hword : es.size < 2 ^ 64 := Nat.lt_trans hadmits.lt_word (by decide)
    have hanswer := Nev.decode_answers a (s := { bytes := Nev.image es.toList }) hword rfl
    obtain ⟨b, hdecode, rfl⟩ := hanswer.of_admits hadmits
    have hexpand := Codec.of_inverts hinverts
    have hnode : ({ o with files := fs } : Origins).files.node path =
        .ok (.file ((Codec.of codecs alg).pack (Nev.image es.toList))) := hwritten.node_eq
    have hdecoded := decodeBy_eq (a := a) codecs (r := {
      name := Path.base path
      head := (Codec.of codecs alg).pack (Nev.image es.toList) }) hsplit hlayout
    rw [Resource.stream_whole, hexpand] at hdecoded
    exact (loadWith_bare (decodeBy codecs a) hne hbare hnode).trans (hdecoded.trans hdecode)

/-- **What a path says of a file is exact, and an image is loaded from where it was written.** Whatever
codecs are used, an image whose path can be written is loaded again with the events it was written
with. A name is split if it ends in a suffix of an algorithm in any case, in front of exactly that
suffix, and is left as it is otherwise; so the suffix that is written for an algorithm always comes off
again. -/
theorem load_written :
    (∀ (codecs : Algorithm → Codec) (o : Origins) (a : Allocator) (alg : Algorithm) (path : Text)
      (old : Bytes) (es : Array Event), NamesImage alg path →
      Text.includes "://" path = false → o.files.Regular path old →
      (alg ≠ .none → (codecs alg).Inverts (Nev.image es.toList)) →
      Files.taken o.files.room ((Codec.of codecs alg).pack (Nev.image es.toList)) =
        (Codec.of codecs alg).pack (Nev.image es.toList) →
      a.Admits es.size →
      ∃ fs, CommandLine.writeSourceBy codecs o.files path (.live es) = (fs, none) ∧
        loadBy codecs { o with files := fs } a path = .ok (.live es)) ∧
    (∀ (alg : Algorithm) (name inner : Text), alg ≠ .none → (Algorithm.ofPath name = (alg, inner) ↔
      ∃ part, name = inner ++ part ∧ Path.Ending part ∧
        (Text.toLower part, alg) ∈ Algorithm.suffixes)) ∧
    (∀ name : Text, (∀ inner part alg, name = inner ++ part → Path.Ending part →
        (Text.toLower part, alg) ∉ Algorithm.suffixes) →
      Algorithm.ofPath name = (.none, name)) ∧
    ∀ (alg : Algorithm) (name : Text), alg ≠ .none →
      Algorithm.ofPath (name ++ alg.extension) = (alg, name) := by
  refine ⟨fun codecs o a alg path old es => loadBy_writeSourceBy,
    fun alg name inner => Algorithm.ofPath_eq_iff, fun name hunknown => ?_, fun alg name halg => ?_⟩
  · apply Algorithm.ofPath_none
    rcases hsplit : Algorithm.ofPath name with ⟨alg, inner⟩
    by_cases halg : alg = .none
    · exact halg
    · obtain ⟨part, hname, hending, hknown⟩ := (Algorithm.ofPath_eq_iff halg).mp hsplit
      exact absurd hknown (hunknown inner part alg hname hending)
  · obtain ⟨hending, hknown⟩ := Algorithm.extension_known halg
    exact Algorithm.ofPath_append hending hknown name

/-- An event that is written to a file with capital suffixes, packed by the codec there is. -/
theorem load_written_capitals :
    ∃ fs, CommandLine.writeSource {} "run.NEV.Gz" (.live #[⟨1, 2⟩]) = (fs, none) ∧
      load { files := fs } .unlimited "run.NEV.Gz" = .ok (.live #[⟨1, 2⟩]) := by
  have himage : Path.Ending ".NEV" := ⟨"NEV", rfl, by decide, by decide⟩
  have hgzip : Path.Ending ".Gz" := ⟨"Gz", rfl, by decide, by decide⟩
  have hpath : NamesImage .gzip "run.NEV.Gz" :=
    .packed "run" himage (by decide +kernel) hgzip (by decide +kernel)
  have hregular : Files.Regular {} "run.NEV.Gz" [] :=
    ⟨"run.NEV.Gz", rfl, .inr ⟨rfl, rfl, by decide⟩⟩
  have hinverts : (Algorithm.codec .gzip).Inverts (Nev.image [⟨1, 2⟩]) := by
    let packed : Stream := { bytes := Algorithm.gzip.pack (Nev.image [⟨1, 2⟩]) }
    have hexpand : (Algorithm.gzip.expand packed).toOption =
        some { bytes := Nev.image [⟨1, 2⟩] } := by decide +kernel
    unfold Codec.Inverts Algorithm.codec
    simp only
    cases hresult : Algorithm.gzip.expand packed with
    | error f =>
      rw [hresult] at hexpand
      cases hexpand
    | ok s =>
      rw [hresult] at hexpand
      exact congrArg Except.ok (Option.some.inj hexpand)
  have hadmits : Allocator.unlimited.Admits 1 := ⟨by decide, fun hpos => absurd hpos (by decide)⟩
  exact load_written.1 Algorithm.codec {} .unlimited .gzip "run.NEV.Gz" [] #[⟨1, 2⟩] hpath
    (by decide +kernel) hregular (fun _ => hinverts) rfl hadmits

end Source

end DetectorStream
