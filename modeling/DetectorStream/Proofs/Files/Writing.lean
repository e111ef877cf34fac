import DetectorStream.Proofs.Files.Keys

/-!
# Writing to files

Whatever is done to a file under a key, paths are followed as before and other keys lead to what
they led to before. So a path is spared by everything that is written under other keys.

* `Writes`: the file system before and after something was done under a key.
* `openToWrite_writes`, `append_writes`, `truncate_writes`: opening, appending and emptying do so.
* `Spares`, **`Writes.spares`**: a path that leads to another key leads to the same as before.
* `WritesOnly`: the file system before and after files were written under some keys.
* `taken`: what a disk with so much room takes of some octets.
* `Keeps`, **`Keeps.append_taken`**: the file that a path leads to grows by what the disk takes of an
  append; `Keeps.append`: by all of it if that does not fail.
* `write_file`: a file that is replaced has the new contents.
* `Contents`: what a reader finds at a path, whether there is a file or not.
* `Regular`: the path of a file that is there or can be created; `Regular.openToWrite`,
  `Regular.openToWrite_clear`: it opens.
-/

namespace DetectorStream.Files

variable {fs fs' : Files} {path j k : Text} {contents bs : Bytes} {clear : Bool} {node : Node}

theorem node_eq_ok :
    fs.node path = .ok node ↔ ∃ k, fs.key path = .ok k ∧ fs.get? k = some node := by
  unfold Files.node
  cases hkey : fs.key path with
  | error e => simp
  | ok k =>
    cases hget : fs.get? k with
    | none => simp [hget]
    | some n => simp [hget]

/-! ## Under one key -/

/-- **Something was done under a key**: nothing at all, or a file was put there, where no directory
was. -/
inductive Writes (k : Text) (fs : Files) : Files → Prop
  | nothing : Writes k fs fs
  | put (placed : Placed fs k) (vacant : fs.get? k ≠ some .directory) (contents : Bytes)
      (room : Option Nat) : Writes k fs { fs.put k (.file contents) with room := room }

/-- Paths are followed to the same keys as before. -/
theorem Writes.key_eq_ok (h : Writes k fs fs') : fs'.key path = .ok j ↔ fs.key path = .ok j := by
  cases h with
  | nothing => rfl
  | put placed vacant contents room =>
    rw [key_room]
    exact key_put placed vacant

/-- Other keys lead to what they led to before. -/
theorem Writes.get?_eq (h : Writes k fs fs') (hj : IsKey j) (hne : j ≠ k) :
    fs'.get? j = fs.get? j := by
  cases h with
  | nothing => rfl
  | put placed vacant contents room =>
    have hput : (fs.put k (.file contents)).get? j = _ := get?_put placed hj
    rw [if_neg hne] at hput
    exact hput

/-- A file that is opened is under the key of its path: it was there, or it is there now. -/
theorem openToWrite_eq_ok (h : fs.openToWrite path false = .ok (k, fs')) :
    fs.key path = .ok k ∧
      ((∃ node, fs.get? k = some node ∧ node ≠ .directory ∧ fs' = fs) ∨
        (fs.get? k = none ∧ fs' = fs.put k (.file []))) := by
  unfold openToWrite at h
  split at h
  · cases h
  · rename_i key hkey
    split at h
    · cases h
    · rename_i c hget
      cases h
      exact ⟨hkey, Or.inl ⟨_, hget, nofun, rfl⟩⟩
    · rename_i node hdirectory hfile hget
      cases h
      exact ⟨hkey, Or.inl ⟨node, hget, hdirectory, rfl⟩⟩
    · rename_i hget
      split at h
      · cases h
      · cases h
        exact ⟨hkey, Or.inr ⟨hget, rfl⟩⟩

theorem openToWrite_writes (h : fs.openToWrite path false = .ok (k, fs')) :
    fs.key path = .ok k ∧ Writes k fs fs' := by
  obtain ⟨hkey, ⟨node, -, -, rfl⟩ | ⟨hget, rfl⟩⟩ := openToWrite_eq_ok h
  · exact ⟨hkey, .nothing⟩
  · exact ⟨hkey, .put (key_placed hkey) (by rw [hget]; exact nofun) [] fs.room⟩

/-- A file that is opened and emptied is under the key of its path; a device is left alone. -/
theorem openToWrite_clear_eq_ok (h : fs.openToWrite path true = .ok (k, fs')) :
    fs.key path = .ok k ∧
      ((∃ node, fs.get? k = some node ∧ (∀ c, node ≠ .file c) ∧ fs' = fs) ∨
        (fs.get? k ≠ some .directory ∧ fs' = fs.put k (.file []))) := by
  unfold openToWrite at h
  split at h
  · cases h
  · rename_i key hkey
    split at h
    · cases h
    · rename_i c hget
      cases h
      exact ⟨hkey, Or.inr ⟨by rw [hget]; exact nofun, rfl⟩⟩
    · rename_i node hdirectory hfile hget
      cases h
      exact ⟨hkey, Or.inl ⟨node, hget, hfile, rfl⟩⟩
    · rename_i hget
      split at h
      · cases h
      · cases h
        exact ⟨hkey, Or.inr ⟨by rw [hget]; exact nofun, rfl⟩⟩

theorem openToWrite_clear_writes (h : fs.openToWrite path true = .ok (k, fs')) :
    fs.key path = .ok k ∧ Writes k fs fs' := by
  obtain ⟨hkey, ⟨node, -, -, rfl⟩ | ⟨hvacant, rfl⟩⟩ := openToWrite_clear_eq_ok h
  · exact ⟨hkey, .nothing⟩
  · exact ⟨hkey, .put (key_placed hkey) hvacant [] fs.room⟩

/-- Appending to a file, as far as the disk takes it. -/
theorem append_writes (hk : IsKey k) : Writes k fs (fs.append k path bs).1 := by
  unfold append
  split
  · rename_i old hget
    exact .put (placed_of_file hk hget) (by rw [hget]; exact nofun) _ _
  · exact .nothing
  · exact .nothing

/-- A file that is emptied was there, and is empty. -/
theorem truncate_eq_ok (h : fs.truncate path = .ok fs') :
    ∃ k c, fs.key path = .ok k ∧ fs.get? k = some (.file c) ∧ fs' = fs.put k (.file []) := by
  unfold truncate at h
  split at h
  · cases h
  · rename_i k hkey
    split at h
    · cases h
    · rename_i c hget
      cases h
      exact ⟨k, c, hkey, hget, rfl⟩
    · cases h
    · cases h

/-! ## What a path leads to -/

/-- **The path leads to the same as before**, if anywhere. -/
structure Spares (path : Text) (fs fs' : Files) : Prop where
  key_eq_ok : ∀ k, fs'.key path = .ok k ↔ fs.key path = .ok k
  get?_eq : ∀ k, fs.key path = .ok k → fs'.get? k = fs.get? k

theorem Spares.refl (path : Text) (fs : Files) : Spares path fs fs :=
  ⟨fun _ => Iff.rfl, fun _ _ => rfl⟩

theorem Spares.trans {fs'' : Files} (h : Spares path fs fs') (h' : Spares path fs' fs'') :
    Spares path fs fs'' :=
  ⟨fun k => (h'.key_eq_ok k).trans (h.key_eq_ok k),
    fun k hk => (h'.get?_eq k ((h.key_eq_ok k).mpr hk)).trans (h.get?_eq k hk)⟩

/-- What is done under another key spares a path. -/
theorem Writes.spares (h : Writes k fs fs') (hne : fs.key path ≠ .ok k) : Spares path fs fs' := by
  refine ⟨fun j => h.key_eq_ok, fun j hj => h.get?_eq (key_isKey hj) ?_⟩
  rintro rfl
  exact hne hj

theorem Spares.node_eq_ok (h : Spares path fs fs') :
    fs'.node path = .ok node ↔ fs.node path = .ok node := by
  rw [Files.node_eq_ok, Files.node_eq_ok]
  constructor
  · rintro ⟨k, hk, hget⟩
    have hkey := (h.key_eq_ok k).mp hk
    exact ⟨k, hkey, (h.get?_eq k hkey) ▸ hget⟩
  · rintro ⟨k, hk, hget⟩
    exact ⟨k, (h.key_eq_ok k).mpr hk, (h.get?_eq k hk).trans hget⟩

/-! ## Under several keys -/

section

variable {P : Text → Prop}

/-- **Files were written under these keys only**: every path is followed as before, and every other
key leads to what it led to. -/
structure WritesOnly (P : Text → Prop) (fs fs' : Files) : Prop where
  key_eq_ok : ∀ path k, fs'.key path = .ok k ↔ fs.key path = .ok k
  get?_eq : ∀ k, IsKey k → ¬ P k → fs'.get? k = fs.get? k

theorem WritesOnly.refl (P : Text → Prop) (fs : Files) : WritesOnly P fs fs :=
  ⟨fun _ _ => Iff.rfl, fun _ _ _ => rfl⟩

theorem WritesOnly.trans {fs'' : Files} (h : WritesOnly P fs fs') (h' : WritesOnly P fs' fs'') :
    WritesOnly P fs fs'' :=
  ⟨fun path k => (h'.key_eq_ok path k).trans (h.key_eq_ok path k),
    fun k hk hP => (h'.get?_eq k hk hP).trans (h.get?_eq k hk hP)⟩

theorem Writes.only (h : Writes k fs fs') (hk : P k) : WritesOnly P fs fs' := by
  refine ⟨fun path j => h.key_eq_ok, fun j hj hP => h.get?_eq hj ?_⟩
  rintro rfl
  exact hP hk

/-- A path that leads to none of the keys is spared. -/
theorem WritesOnly.spares (h : WritesOnly P fs fs') (hpath : ∀ k, fs.key path = .ok k → ¬ P k) :
    Spares path fs fs' :=
  ⟨h.key_eq_ok path, fun k hk => h.get?_eq k (key_isKey hk) (hpath k hk)⟩

end

/-- The path leads to a file with these contents, which is kept under the key. -/
structure Keeps (fs : Files) (path k : Text) (contents : Bytes) : Prop where
  key_eq : fs.key path = .ok k
  get?_eq : fs.get? k = some (.file contents)

theorem Keeps.node_eq (h : Keeps fs path k contents) : fs.node path = .ok (.file contents) :=
  Files.node_eq_ok.mpr ⟨k, h.key_eq, h.get?_eq⟩

/-- A file that is put where a path leads to is where the path leads to. -/
theorem keeps_put (hkey : fs.key path = .ok k) (hvacant : fs.get? k ≠ some .directory)
    (contents : Bytes) (room : Option Nat) :
    Keeps { fs.put k (.file contents) with room := room } path k contents := by
  have hplaced := key_placed hkey
  refine ⟨?_, ?_⟩
  · rw [key_room]
    exact (key_put hplaced hvacant).mpr hkey
  · have hput : (fs.put k (.file contents)).get? k = _ := get?_put hplaced hplaced.isKey
    rw [if_pos rfl] at hput
    exact hput

/-! ### What a disk takes -/

section Taken

variable {room : Option Nat}

/-- What a disk with so much room takes of some octets; without a limit it takes all. -/
def taken (room : Option Nat) (bs : Bytes) : Bytes :=
  match room with
  | none => bs
  | some r => bs.take r

theorem taken_isPrefix (room : Option Nat) (bs : Bytes) : taken room bs <+: bs := by
  cases room with
  | none => exact List.prefix_rfl
  | some r => exact List.take_prefix r bs

/-- As many octets as there are means all of them. -/
theorem taken_eq_iff : taken room bs = bs ↔ bs.length ≤ (taken room bs).length :=
  ⟨fun h => Nat.le_of_eq (congrArg List.length h).symm, (taken_isPrefix room bs).eq_of_length_le⟩

/-- Of octets that do not all fit, those behind them are not reached. -/
theorem taken_append_of_short (h : (taken room bs).length < bs.length) (bs' : Bytes) :
    taken room (bs ++ bs') = taken room bs := by
  cases room with
  | none => exact absurd h (Nat.lt_irrefl _)
  | some r =>
    unfold taken at h ⊢
    rw [List.length_take] at h
    exact List.take_append_of_le_length (by omega)

/-- Octets that fit leave the rest of the room to those behind them. -/
theorem taken_append_of_whole (h : taken room bs = bs) (bs' : Bytes) :
    taken room (bs ++ bs') = bs ++ taken (room.map (· - bs.length)) bs' := by
  cases room with
  | none => rfl
  | some r =>
    have hfits : bs.length ≤ r := by
      have hlength := congrArg List.length h
      rw [taken, List.length_take] at hlength
      omega
    show (bs ++ bs').take r = bs ++ bs'.take (r - bs.length)
    rw [List.take_append, List.take_of_length_le hfits]

end Taken

/-- **A file grows by what the disk takes of an append**, which fails if that is not all of it. -/
theorem Keeps.append_taken (h : Keeps fs path k contents) (bs : Bytes) :
    Keeps (fs.append k path bs).1 path k (contents ++ taken fs.room bs) ∧
      (fs.append k path bs).1.room = fs.room.map (· - (taken fs.room bs).length) ∧
      (fs.append k path bs).2 =
        if (taken fs.room bs).length < bs.length then some (Errno.noSpace.fault "write" path)
        else none := by
  have hvacant : fs.get? k ≠ some .directory := by
    rw [h.get?_eq]
    exact nofun
  have happend : fs.append k path bs =
      ({ fs.put k (.file (contents ++ taken fs.room bs)) with
          room := fs.room.map (· - (taken fs.room bs).length) },
        if (taken fs.room bs).length < bs.length then some (Errno.noSpace.fault "write" path)
        else none) := by
    unfold Files.append
    rw [h.get?_eq]
    rfl
  rw [happend]
  exact ⟨keeps_put h.key_eq hvacant _ _, rfl, rfl⟩

/-- **An append that does not fail adds its octets to the file.** -/
theorem Keeps.append (h : Keeps fs path k contents) (happend : fs.append k path bs = (fs', none)) :
    Keeps fs' path k (contents ++ bs) := by
  obtain ⟨hkeeps, -, hfault⟩ := h.append_taken bs
  rw [happend] at hkeeps hfault
  split at hfault
  · cases hfault
  · rename_i hwhole
    rwa [taken_eq_iff.mpr (Nat.not_lt.mp hwhole)] at hkeeps

/-- **A file that is replaced has the new contents**, unless the write fails. -/
theorem write_file (h : fs.write path bs = (fs', none))
    (hnode : fs'.node path = .ok (.file contents)) : contents = bs := by
  unfold write at h
  split at h
  · cases h
  · rename_i k opened hopen
    obtain ⟨hkey, ⟨node, hget, hdevice, rfl⟩ | ⟨hvacant, rfl⟩⟩ := openToWrite_clear_eq_ok hopen
    · have hfs : fs' = opened := by
        unfold append at h
        rw [hget] at h
        split at h
        · rename_i old hold
          exact absurd (Option.some.inj hold) (hdevice old)
        · exact (congrArg Prod.fst h).symm
        · exact (congrArg Prod.fst h).symm
      obtain ⟨j, hj, hfile⟩ := node_eq_ok.mp hnode
      rw [hfs] at hj hfile
      rw [hkey] at hj
      cases hj
      rw [hget] at hfile
      exact absurd (Option.some.inj hfile) (hdevice contents)
    · have hnew := ((keeps_put hkey hvacant [] fs.room).append h).node_eq
      rw [hnode] at hnew
      cases hnew
      rfl

/-- **What a reader finds at a path**: the contents of a file, and nothing where the path leads
nowhere. -/
def Contents (fs : Files) (path : Text) (contents : Bytes) : Prop :=
  fs.node path = .ok (.file contents) ∨ ((∀ node, fs.node path ≠ .ok node) ∧ contents = [])

theorem Contents.spared (hfound : Contents fs path contents) (h : Spares path fs fs') :
    Contents fs' path contents := by
  rcases hfound with hnode | ⟨hnone, rfl⟩
  · exact Or.inl (h.node_eq_ok.mpr hnode)
  · exact Or.inr ⟨fun node hnode => hnone node (h.node_eq_ok.mp hnode), rfl⟩

/-- A path that can be opened leads to what is found there. -/
theorem Contents.openToWrite (h : Contents fs path contents)
    (hopen : fs.openToWrite path false = .ok (k, fs')) : Keeps fs' path k contents := by
  obtain ⟨hkey, hfile⟩ := openToWrite_eq_ok hopen
  rcases h with hnode | ⟨hnone, rfl⟩
  · obtain ⟨j, hj, hget⟩ := Files.node_eq_ok.mp hnode
    rw [hkey] at hj
    cases hj
    rcases hfile with ⟨node, -, -, rfl⟩ | ⟨hvacant, -⟩
    · exact ⟨hkey, hget⟩
    · rw [hget] at hvacant
      cases hvacant
  · rcases hfile with ⟨node, hget, -, -⟩ | ⟨hvacant, rfl⟩
    · exact absurd (Files.node_eq_ok.mpr ⟨k, hkey, hget⟩) (hnone node)
    · exact keeps_put hkey (by rw [hvacant]; exact nofun) [] fs.room

/-- **The path of a regular file** with these contents, or of one that is not there yet and can be
created. -/
def Regular (fs : Files) (path : Text) (contents : Bytes) : Prop :=
  ∃ k, fs.key path = .ok k ∧
    (fs.get? k = some (.file contents) ∨
      fs.get? k = none ∧ contents = [] ∧ path.getLast? ≠ some 0x2F)

theorem Keeps.regular (h : Keeps fs path k contents) : Regular fs path contents :=
  ⟨k, h.key_eq, .inl h.get?_eq⟩

theorem Regular.found (h : Regular fs path contents) : Contents fs path contents := by
  obtain ⟨k, hkey, hfile | ⟨hnone, rfl, -⟩⟩ := h
  · exact .inl (node_eq_ok.mpr ⟨k, hkey, hfile⟩)
  · refine .inr ⟨fun node hnode => ?_, rfl⟩
    obtain ⟨j, hj, hget⟩ := node_eq_ok.mp hnode
    rw [hkey] at hj
    cases hj
    rw [hnone] at hget
    cases hget

theorem Regular.spared (h : Regular fs path contents) (hs : Spares path fs fs') :
    Regular fs' path contents := by
  obtain ⟨k, hkey, hfile⟩ := h
  refine ⟨k, (hs.key_eq_ok k).mpr hkey, ?_⟩
  rwa [hs.get?_eq k hkey]

/-- How much room there is does not matter to what a path leads to. -/
theorem Regular.room (h : Regular fs path contents) (room : Option Nat) :
    Regular { fs with room := room } path contents := by
  obtain ⟨k, hkey, hfile⟩ := h
  exact ⟨k, (key_room fs room path).trans hkey, hfile⟩

theorem Keeps.room (h : Keeps fs path k contents) (room : Option Nat) :
    Keeps { fs with room := room } path k contents :=
  ⟨(key_room fs room path).trans h.key_eq, h.get?_eq⟩

theorem Keeps.spared (h : Keeps fs path k contents) (hs : Spares path fs fs') :
    Keeps fs' path k contents :=
  ⟨(hs.key_eq_ok k).mpr h.key_eq, (hs.get?_eq k h.key_eq).trans h.get?_eq⟩

/-- **A regular file can be opened**, which leaves the room on the disk as it is. -/
theorem Regular.openToWrite (h : Regular fs path contents) :
    ∃ k fs', fs.openToWrite path false = .ok (k, fs') ∧ fs'.room = fs.room := by
  obtain ⟨k, hkey, hfile | ⟨hnone, -, hslash⟩⟩ := h
  · refine ⟨k, fs, ?_, rfl⟩
    unfold Files.openToWrite
    simp only [hkey, hfile, Bool.false_eq_true, if_false]
  · refine ⟨k, fs.put k (.file []), ?_, rfl⟩
    have hfree : (path.getLast? == some 0x2F) = false := beq_eq_false_iff_ne.mpr hslash
    unfold Files.openToWrite
    simp only [hkey, hnone, hfree, Bool.false_eq_true, if_false]

/-- **A regular file can be opened and emptied**, which leaves the room on the disk as it is. -/
theorem Regular.openToWrite_clear (h : Regular fs path contents) :
    ∃ k fs', fs.openToWrite path true = .ok (k, fs') ∧ Keeps fs' path k [] ∧ fs'.room = fs.room := by
  obtain ⟨k, hkey, hfile⟩ := h
  have hvacant : fs.get? k ≠ some .directory := by
    rcases hfile with hget | ⟨hget, -⟩ <;> rw [hget] <;> exact nofun
  refine ⟨k, fs.put k (.file []), ?_, keeps_put hkey hvacant [] fs.room, rfl⟩
  unfold Files.openToWrite
  rcases hfile with hget | ⟨hget, -, hslash⟩
  · simp only [hkey, hget, if_true]
  · have hfree : (path.getLast? == some 0x2F) = false := beq_eq_false_iff_ne.mpr hslash
    simp only [hkey, hget, hfree, Bool.false_eq_true, if_false]

end DetectorStream.Files
