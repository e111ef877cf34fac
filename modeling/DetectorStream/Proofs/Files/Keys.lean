import DetectorStream.Files

/-!
# Paths and keys

A path is followed name by name to a key, and what is kept under a key is looked up by the names
that the key is made of. Both ways of naming a place agree, and putting a file under a key changes
what that key leads to and nothing else: no other place, and no way to follow a path.

* `place`, `IsKey`: the key of a list of names.
* `get?_place`: what a key leads to is what its names lead to.
* `Placed`: all directories above a key are there.
* `key_isKey`, `key_placed`: a path is followed to such a key.
* **`get?_put`**: what keys lead to after a file was put under one of them.
* **`key_put`**: the keys that paths are followed to are the same as before.
-/

namespace DetectorStream.Files

variable {fs : Files} {rooted : Bool} {n path j k : Text} {names back rest : List Text}
  {node : Node} {contents : Bytes}

/-! ## Names -/

/-- A name that can stand between slashes. -/
def IsName (n : Text) : Prop := n ≠ [] ∧ 0x2F ∉ n

/-- The key that names from the current directory, or from the root, stand for. -/
def place (rooted : Bool) (names : List Text) : Text :=
  (if rooted then [0x2F] else []) ++ Text.join "/" names

/-- **A key**: names stand for it. -/
def IsKey (k : Text) : Prop := ∃ rooted names, (∀ n ∈ names, IsName n) ∧ k = place rooted names

theorem split_join (h : ∀ n ∈ names, IsName n) (hne : names ≠ []) :
    Text.split 0x2F (Text.join "/" names) = names :=
  List.splitOn_intercalate 0x2F (fun n hn => (h n hn).2) hne

theorem filter_names (h : ∀ n ∈ names, IsName n) : names.filter (fun n => !n.isEmpty) = names := by
  refine List.filter_eq_self.mpr fun n hn => ?_
  simpa using (h n hn).1

/-- The names that a key stands for can be told from the key. -/
theorem split_place (h : ∀ n ∈ names, IsName n) :
    (Text.split 0x2F (place rooted names)).filter (fun n => !n.isEmpty) = names := by
  have hsplit : (Text.split 0x2F (Text.join "/" names)).filter (fun n => !n.isEmpty) = names := by
    by_cases hne : names = []
    · rw [hne]
      rfl
    · rw [split_join h hne, filter_names h]
  cases rooted with
  | false => exact hsplit
  | true =>
    have hroot : Text.split 0x2F (place true names) =
        [] :: Text.split 0x2F (Text.join "/" names) :=
      List.splitOn_append_cons_self [] _
    rw [hroot]
    exact hsplit

theorem startsWith_place (h : ∀ n ∈ names, IsName n) :
    Text.startsWith [0x2F] (place rooted names) = rooted := by
  cases rooted with
  | true => rfl
  | false =>
    cases names with
    | nil => rfl
    | cons n names =>
      obtain ⟨hne, hslash⟩ := h n List.mem_cons_self
      cases n with
      | nil => exact absurd rfl hne
      | cons b n =>
        have hb : (0x2F == b) = false := by
          rw [beq_eq_false_iff_ne]
          rintro rfl
          exact hslash List.mem_cons_self
        cases names <;>
          simp [place, Text.join, List.intercalate, Text.startsWith, List.isPrefixOf, hb]

/-- **What a key leads to is what its names lead to.** -/
theorem get?_place (h : ∀ n ∈ names, IsName n) :
    fs.get? (place rooted names) = fs.at? rooted names := by
  unfold get?
  rw [startsWith_place h, split_place h]

/-! ## Putting a node under a key -/

/-- Is there anything below a key? -/
def below (fs : Files) (k : Text) : Bool :=
  (fs.nodes ++ devices).any fun p => Text.startsWith (k ++ "/") p.1

theorem at?_eq (fs : Files) (rooted : Bool) (names : List Text) :
    fs.at? rooted names =
      match (fs.nodes ++ devices).lookup (place rooted names) with
      | some node => some node
      | none =>
        if names.all (· == "..") || fs.below (place rooted names) then some .directory else none :=
  rfl

theorem lookup_filter {l : List (Text × Node)} (h : k ≠ j) :
    (l.filter fun p => p.1 != j).lookup k = l.lookup k := by
  induction l with
  | nil => rfl
  | cons p l ih =>
    obtain ⟨i, node⟩ := p
    by_cases hi : i = j
    · rw [List.filter_cons_of_neg (by simpa using hi), ih, List.lookup_cons,
        beq_eq_false_iff_ne.mpr (hi ▸ h)]
    · rw [List.filter_cons_of_pos (by simpa using hi), List.lookup_cons, List.lookup_cons, ih]

theorem lookup_put (h : k ≠ j) :
    ((fs.put j node).nodes ++ devices).lookup k = (fs.nodes ++ devices).lookup k := by
  unfold put
  rw [List.lookup_append, List.lookup_append, List.lookup_cons, beq_eq_false_iff_ne.mpr h,
    lookup_filter h]

theorem any_filter {l : List (Text × Node)} {test : Text → Bool} (h : test j = false) :
    ((l.filter fun p => p.1 != j).any fun p => test p.1) = l.any fun p => test p.1 := by
  rw [List.any_filter]
  refine congrArg l.any (funext fun p => ?_)
  by_cases hp : p.1 = j
  · simp [hp, h]
  · simp [hp]

/-- What lies below a key after a node was put under another. -/
theorem below_put : (fs.put j node).below k = (Text.startsWith (k ++ "/") j || fs.below k) := by
  unfold below put
  rw [List.cons_append, List.any_cons]
  cases hj : Text.startsWith (k ++ "/") j with
  | true => rfl
  | false => rw [Bool.false_or, List.any_append, List.any_append, any_filter hj]; rfl

/-- All that stands above a key is there. -/
structure Placed (fs : Files) (k : Text) : Prop where
  isKey : IsKey k
  above : ∀ rooted names, (∀ n ∈ names, IsName n) →
    Text.startsWith (place rooted names ++ "/") k = true → fs.at? rooted names ≠ none

/-- **What names lead to after a node was put under a key.** -/
theorem at?_put (hj : Placed fs j) (h : ∀ n ∈ names, IsName n) :
    (fs.put j node).at? rooted names =
      if place rooted names = j then some node else fs.at? rooted names := by
  have habove := hj.above rooted names h
  rw [at?_eq] at habove
  rw [at?_eq, at?_eq]
  by_cases hplace : place rooted names = j
  · rw [if_pos hplace, hplace]
    simp [put]
  · rw [if_neg hplace, lookup_put hplace, below_put]
    cases hlookup : (fs.nodes ++ devices).lookup (place rooted names) with
    | some n => rfl
    | none =>
      rw [hlookup] at habove
      cases hj : Text.startsWith (place rooted names ++ "/") j with
      | false => rfl
      | true =>
        -- the key lies below these names, which lead to a directory already
        have hthere := habove hj
        simp only at hthere ⊢
        split at hthere
        · rename_i hdirectory
          rw [if_pos hdirectory, if_pos (by simp)]
        · exact absurd rfl hthere

/-- **What a key leads to after a node was put under a key.** -/
theorem get?_put (hj : Placed fs j) (hk : IsKey k) :
    (fs.put j node).get? k = if k = j then some node else fs.get? k := by
  obtain ⟨rooted, names, hnames, rfl⟩ := hk
  rw [get?_place hnames, get?_place hnames, at?_put hj hnames]

/-- All that stands above a file is there. -/
theorem placed_of_file (hj : IsKey j) (h : fs.get? j = some (.file contents)) : Placed fs j := by
  refine ⟨hj, fun rooted names hnames hbelow => ?_⟩
  obtain ⟨rooted', names', hnames', rfl⟩ := hj
  rw [get?_place hnames', at?_eq] at h
  cases hfile : (fs.nodes ++ devices).lookup (place rooted' names') with
  | none =>
    rw [hfile] at h
    simp only at h
    split at h <;> cases h
  | some node =>
    have hany : fs.below (place rooted names) = true := by
      obtain ⟨l, l', hl, -⟩ := List.lookup_eq_some_iff.mp hfile
      unfold below
      rw [hl]
      simp [hbelow]
    rw [at?_eq, hany, Bool.or_true, if_pos rfl]
    cases (fs.nodes ++ devices).lookup (place rooted names) <;> exact nofun

/-! ## Following a path -/

/-- Every one of the names, given in reverse, was found in a directory. -/
def Climbs (fs : Files) (rooted : Bool) : List Text → Prop
  | [] => True
  | n :: back => IsName n ∧ fs.at? rooted back.reverse = some .directory ∧ Climbs fs rooted back

theorem Climbs.isName (h : Climbs fs rooted back) : ∀ n ∈ back, IsName n := by
  induction back with
  | nil => exact nofun
  | cons n back ih => exact List.forall_mem_cons.mpr ⟨h.1, ih h.2.2⟩

theorem Climbs.above (h : Climbs fs rooted (n :: (rest ++ back))) :
    fs.at? rooted back.reverse = some .directory := by
  induction rest generalizing n with
  | nil => exact h.2.1
  | cons m rest ih => exact ih h.2.2

/-- Where a name leads to from a directory, both given as reversed names. -/
def turn (rooted : Bool) (back : List Text) (n : Text) : Except Errno (List Text) :=
  if n.isEmpty || n == "." then .ok back
  else if n == ".." then
    match back with
    | [] => .ok (if rooted then [] else [n])
    | b :: up => .ok (if b == ".." then n :: back else up)
  else if 255 < n.length then .error .nameTooLong
  else .ok (n :: back)

/-- From a directory a path goes on with its next name. -/
theorem follow_directory (h : fs.at? rooted back.reverse = some .directory) :
    fs.follow rooted back (n :: rest) =
      match turn rooted back n with
      | .error e => .error e
      | .ok back => fs.follow rooted back rest := by
  rw [follow.eq_def]
  simp only [h]
  unfold turn
  split
  · rfl
  split
  · cases back <;> rfl
  split <;> rfl

/-- From anything else a path does not go on. -/
theorem follow_end (h : fs.at? rooted back.reverse ≠ some .directory) :
    fs.follow rooted back (n :: rest) ≠ .ok names := by
  rw [follow.eq_def]
  simp only
  split
  · exact nofun
  · exact absurd ‹_› h
  · exact nofun

theorem turn_climbs {back' : List Text} (h : turn rooted back n = .ok back')
    (hdirectory : fs.at? rooted back.reverse = some .directory) (hback : Climbs fs rooted back)
    (hslash : 0x2F ∉ n) : Climbs fs rooted back' := by
  unfold turn at h
  split at h
  · cases h
    exact hback
  rename_i hn
  have hname : IsName n := by
    refine ⟨?_, hslash⟩
    rintro rfl
    exact hn rfl
  split at h
  · cases back with
    | nil =>
      cases h
      split
      · exact trivial
      · exact ⟨hname, hdirectory, trivial⟩
    | cons b up =>
      cases h
      split
      · exact ⟨hname, hdirectory, hback⟩
      · exact hback.2.2
  split at h
  · cases h
  · cases h
    exact ⟨hname, hdirectory, hback⟩

/-- Following a path leads from directory to directory. -/
theorem follow_climbs (h : fs.follow rooted back rest = .ok names) (hback : Climbs fs rooted back)
    (hrest : ∀ n ∈ rest, 0x2F ∉ n) : Climbs fs rooted names.reverse := by
  induction rest generalizing back with
  | nil =>
    cases h
    rwa [List.reverse_reverse]
  | cons n rest ih =>
    obtain ⟨hslash, hrest⟩ := List.forall_mem_cons.mp hrest
    by_cases hdirectory : fs.at? rooted back.reverse = some .directory
    · rw [follow_directory hdirectory] at h
      split at h
      · cases h
      · rename_i back' hturn
        exact ih h (turn_climbs hturn hdirectory hback hslash) hrest
    · exact absurd h (follow_end hdirectory)

/-- What a key lies below is made up of the first of its names. -/
theorem names_of_below {rooted' : Bool} {names' : List Text} (h : ∀ n ∈ names, IsName n)
    (h' : ∀ n ∈ names', IsName n) (hne : names' ≠ [])
    (hbelow : Text.startsWith (place rooted' names' ++ "/") (place rooted names) = true) :
    rooted' = rooted ∧ ∃ more, more ≠ [] ∧ names = names' ++ more := by
  obtain ⟨t, ht⟩ := List.isPrefixOf_iff_prefix.mp hbelow
  have hcut : place rooted names = place rooted' names' ++ 0x2F :: t := by
    rw [← ht, List.append_assoc]
    rfl
  have hnames : names = names' ++ (Text.split 0x2F t).filter fun n => !n.isEmpty := by
    have hsplit' : (Text.split 0x2F (place rooted names)).filter (fun n => !n.isEmpty) = names :=
      split_place h
    have hsplit : Text.split 0x2F (place rooted' names' ++ 0x2F :: t) =
        Text.split 0x2F (place rooted' names') ++ Text.split 0x2F t :=
      List.splitOn_append_cons_self _ _
    rw [← hsplit', hcut, hsplit, List.filter_append, split_place h']
  have hrooted : rooted' = rooted := by
    have hhead : Text.startsWith [0x2F] (place rooted' names' ++ 0x2F :: t) =
        Text.startsWith [0x2F] (place rooted' names') := by
      cases hplace : place rooted' names' with
      | nil =>
        rw [← split_place h', hplace] at hne
        exact absurd rfl hne
      | cons b k => simp [Text.startsWith, List.isPrefixOf]
    rwa [startsWith_place h', ← hcut, startsWith_place h, eq_comm] at hhead
  refine ⟨hrooted, _, fun hmore => ?_, hnames⟩
  rw [hmore, List.append_nil] at hnames
  rw [hrooted, hnames] at hcut
  have hlength := congrArg List.length hcut
  simp at hlength

/-- All that stands above the names of a path is there. -/
theorem placed_of_climbs (h : Climbs fs rooted names.reverse) : Placed fs (place rooted names) := by
  have hnames : ∀ n ∈ names, IsName n := fun n hn => h.isName n (List.mem_reverse.mpr hn)
  refine ⟨⟨rooted, names, hnames, rfl⟩, fun rooted' names' hnames' hbelow => ?_⟩
  by_cases hne : names' = []
  · rw [hne, at?_eq]
    cases (fs.nodes ++ devices).lookup (place rooted' []) <;> exact nofun
  · obtain ⟨rfl, more, hmore, rfl⟩ := names_of_below hnames hnames' hne hbelow
    rw [List.reverse_append] at h
    cases hrev : more.reverse with
    | nil => exact absurd (List.reverse_eq_nil_iff.mp hrev) hmore
    | cons n rest =>
      rw [hrev] at h
      have hdirectory := Climbs.above h
      rw [List.reverse_reverse] at hdirectory
      rw [hdirectory]
      exact nofun

theorem not_mem_of_mem_split {t : Text} : ∀ n ∈ Text.split 0x2F t, 0x2F ∉ n := by
  unfold Text.split
  induction t with
  | nil => simp
  | cons b t ih =>
    rw [List.splitOn_cons_eq_if_modifyHead]
    split
    · exact List.forall_mem_cons.mpr ⟨List.not_mem_nil, ih⟩
    · rename_i hb
      cases hsplit : t.splitOn 0x2F with
      | nil => exact absurd hsplit (List.splitOn_ne_nil _ _)
      | cons n names =>
        rw [hsplit, List.forall_mem_cons] at ih
        rw [List.modifyHead_cons, List.forall_mem_cons]
        refine ⟨fun hmem => ?_, ih.2⟩
        rcases List.mem_cons.mp hmem with hslash | hmem
        · exact hb (by simp [← hslash])
        · exact ih.1 hmem

/-- A path that can be followed is followed from directory to directory. -/
theorem key_climbs (h : fs.key path = .ok k) :
    ∃ rooted names, k = place rooted names ∧ Climbs fs rooted names.reverse := by
  unfold key at h
  simp only at h
  split at h
  · cases h
  split at h
  · cases h
  split at h
  · cases h
  split at h
  · cases h
  · rename_i names hfollow
    cases h
    exact ⟨_, names, rfl, follow_climbs hfollow trivial not_mem_of_mem_split⟩

theorem key_placed (h : fs.key path = .ok k) : Placed fs k := by
  obtain ⟨rooted, names, rfl, hclimbs⟩ := key_climbs h
  exact placed_of_climbs hclimbs

theorem key_isKey (h : fs.key path = .ok k) : IsKey k := (key_placed h).isKey

/-- Paths are followed as before after a file was put where no directory is. -/
theorem follow_put (hj : Placed fs j) (hdir : fs.get? j ≠ some .directory)
    (hback : Climbs fs rooted back) (hrest : ∀ n ∈ rest, 0x2F ∉ n) :
    (fs.put j (.file contents)).follow rooted back rest = .ok names ↔
      fs.follow rooted back rest = .ok names := by
  induction rest generalizing back with
  | nil => rfl
  | cons n rest ih =>
    obtain ⟨hslash, hrest⟩ := List.forall_mem_cons.mp hrest
    have hnames : ∀ n ∈ back.reverse, IsName n := fun n hn =>
      hback.isName n (List.mem_reverse.mp hn)
    have hput : (fs.put j (.file contents)).at? rooted back.reverse = _ := at?_put hj hnames
    by_cases hplace : place rooted back.reverse = j
    · -- at the key itself neither way goes on
      rw [← hplace, get?_place hnames] at hdir
      rw [if_pos hplace] at hput
      have hend : (fs.put j (.file contents)).at? rooted back.reverse ≠ some .directory := by
        rw [hput]
        exact nofun
      exact ⟨fun h => absurd h (follow_end hend), fun h => absurd h (follow_end hdir)⟩
    · rw [if_neg hplace] at hput
      by_cases hdirectory : fs.at? rooted back.reverse = some .directory
      · rw [follow_directory (hput.trans hdirectory), follow_directory hdirectory]
        split
        · exact ⟨nofun, nofun⟩
        · rename_i back' hturn
          exact ih (turn_climbs hturn hdirectory hback hslash) hrest
      · exact ⟨fun h => absurd h (follow_end (hput ▸ hdirectory)),
          fun h => absurd h (follow_end hdirectory)⟩

/-- **After a file was put where no directory is, paths are followed to the same keys as
before.** -/
theorem key_put (hj : Placed fs j) (hdir : fs.get? j ≠ some .directory) :
    (fs.put j (.file contents)).key path = .ok k ↔ fs.key path = .ok k := by
  have hfollow : ∀ names, (fs.put j (.file contents)).follow (Text.startsWith [0x2F] path) []
      (Text.split 0x2F path) = .ok names ↔
        fs.follow (Text.startsWith [0x2F] path) [] (Text.split 0x2F path) = .ok names :=
    fun names => follow_put hj hdir trivial not_mem_of_mem_split
  unfold key
  simp only
  split
  · rfl
  split
  · rfl
  split
  · rfl
  cases h : fs.follow (Text.startsWith [0x2F] path) [] (Text.split 0x2F path) with
  | ok names => rw [(hfollow names).mpr h]
  | error e =>
    cases h' : (fs.put j (.file contents)).follow (Text.startsWith [0x2F] path) []
        (Text.split 0x2F path) with
    | ok names =>
      rw [(hfollow names).mp h'] at h
      cases h
    | error e' => exact ⟨nofun, nofun⟩

/-- How much room there is does not matter to paths. -/
theorem key_room (fs : Files) (room : Option Nat) (path : Text) :
    ({ fs with room := room } : Files).key path = fs.key path := by
  have hfollow : ∀ rooted back rest, ({ fs with room := room } : Files).follow rooted back rest =
      fs.follow rooted back rest := by
    intro rooted back rest
    induction rest generalizing back with
    | nil => rfl
    | cons n rest ih =>
      rw [follow.eq_def, follow.eq_def fs]
      simp only [ih]
      rfl
  unfold key
  simp only [hfollow]

end DetectorStream.Files
