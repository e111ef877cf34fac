import DetectorStream.CommandLine.Flag
import Mathlib.Algebra.Group.Nat.Defs

/-!
# What a command line gives

A value that was given on a command line was read for its flag. So it has the type of the flag, and a
whole number fits its word.

* `Numeral.parseInt_range`: a number that is read fits its word, in every base.
* `Flag.Value.Of`: the values of a type.
* `Flag.Parsed.Typed`: every value that was given belongs to a flag, and has its type.
* **`Flag.parse_typed`**: so it is behind every command line.
-/

namespace DetectorStream

theorem Numeral.parseInt_range {base bits : Nat} {t : Text} {n : Int}
    (h : parseInt base bits t = .ok n) :
    -(2 ^ (bits - 1) : Nat) ≤ n ∧ n < (2 ^ (bits - 1) : Nat) := by
  have hpow : Nat.pow 2 (bits - 1) = 2 ^ (bits - 1) := rfl
  have hpos : 0 < 2 ^ (bits - 1) := Nat.two_pow_pos _
  unfold parseInt at h
  rw [hpow] at h
  dsimp only at h
  split at h
  · cases h
  split at h
  all_goals
    split at h
    · cases h
      omega
    · cases h

namespace Flag

variable {flags : List Flag} {f : Flag} {p p' : Parsed} {v : Value} {type : FlagType} {word : Text}
  {rest rest' args : List Text}

/-- **The values of a type.** -/
inductive Value.Of : FlagType → Value → Prop
  | text (t : Text) : Of .text (.text t)
  | whole {bits : Nat} {n : Int} (hlo : -(2 ^ (bits - 1) : Nat) ≤ n)
      (hhi : n < (2 ^ (bits - 1) : Nat)) : Of (.whole bits) (.whole n)
  | flag (b : Bool) : Of .flag (.flag b)
  | real (x : Float) : Of .real (.real x)
  | duration (d : Duration) : Of .duration (.duration d)
  | texts (ts : List Text) : Of .texts (.texts ts)

/-- What was read behind a value. -/
theorem Value.exists_read {ε α : Type} {x : Except ε α} {complain : ε → Text} {c : α → Value}
    (h : (x.mapError complain).map c = .ok v) : ∃ a, x = .ok a ∧ c a = v := by
  cases x with
  | error e => cases h
  | ok a =>
    cases h
    exact ⟨a, rfl, rfl⟩

/-- A word is read as a value of the type it is read for. -/
theorem Value.parse_of (h : Value.parse type word = .ok v) : v.Of type := by
  cases type with
  | text =>
    cases h
    exact .text word
  | whole bits =>
    obtain ⟨n, hread, rfl⟩ := exists_read h
    exact .whole (Numeral.parseInt_range hread).1 (Numeral.parseInt_range hread).2
  | flag =>
    obtain ⟨b, -, rfl⟩ := exists_read h
    exact .flag b
  | real =>
    obtain ⟨x, -, rfl⟩ := exists_read h
    exact .real x
  | duration =>
    obtain ⟨d, -, rfl⟩ := exists_read h
    exact .duration d
  | texts =>
    unfold Value.parse at h
    dsimp only at h
    split at h
    · cases h
      exact .texts []
    split at h
    · cases h
      exact .texts _
    · cases h
    · cases h

/-- It keeps its type when it joins values that were given before. -/
theorem Value.Of.after (h : v.Of type) (old : Option Value) : (Value.after old v).Of type := by
  unfold Value.after
  split
  · cases h
    exact .texts _
  · exact h

/-- **Every value that was given belongs to a flag, and has its type.** -/
def Parsed.Typed (flags : List Flag) (p : Parsed) : Prop :=
  ∀ e ∈ p.given, ∃ f ∈ flags, f.name = e.1 ∧ e.2.Of f.type

theorem Parsed.Typed.give (h : p.Typed flags) (hf : f ∈ flags) (hgive : p.give f word = .ok p') :
    p'.Typed flags := by
  unfold Parsed.give at hgive
  split at hgive
  · cases hgive
  · rename_i v hread
    cases hgive
    intro e he
    rcases List.mem_cons.mp he with rfl | he
    · exact ⟨f, hf, rfl, (Value.parse_of hread).after _⟩
    · exact h e (List.mem_filter.mp he).1

theorem Parsed.Typed.give_then (h : p.Typed flags) (hf : f ∈ flags)
    (hgive : (p.give f word).map (·, rest) = .ok (p', rest')) : p'.Typed flags := by
  cases hgiven : p.give f word with
  | error e =>
    rw [hgiven] at hgive
    cases hgive
  | ok q =>
    rw [hgiven] at hgive
    cases hgive
    exact h.give hf hgiven

theorem Parsed.Typed.long (h : p.Typed flags) (hlong : long flags p word rest = .ok (p', rest')) :
    p'.Typed flags := by
  unfold Flag.long at hlong
  dsimp only at hlong
  split at hlong
  · cases hlong
  split at hlong
  · cases hlong
  rename_i f hfind
  have hf : f ∈ flags := List.mem_of_find?_eq_some hfind
  split at hlong
  · exact h.give_then hf hlong
  split at hlong
  · exact h.give_then hf hlong
  · exact h.give_then hf hlong
  · cases hlong

theorem Parsed.Typed.short {t : Text} (h : p.Typed flags)
    (hshort : short flags p rest t = .ok (p', rest')) : p'.Typed flags := by
  induction t generalizing p with
  | nil =>
    cases hshort
    exact h
  | cons c t ih =>
    unfold Flag.short at hshort
    split at hshort
    · cases hshort
      exact h
    split at hshort
    · cases hshort
    rename_i f hfind
    have hf : f ∈ flags := List.mem_of_find?_eq_some hfind
    split at hshort
    · exact h.give_then hf hshort
    split at hshort
    · -- a flag that needs no value may have others behind it
      split at hshort
      · cases hshort
      · rename_i hgive
        exact ih (h.give hf hgive) hshort
    split at hshort
    · exact h.give_then hf hshort
    split at hshort
    · exact h.give_then hf hshort
    · cases hshort

theorem Parsed.Typed.parseFrom {fuel : Nat} (h : p.Typed flags)
    (hparse : parseFrom flags fuel p args = .ok p') : p'.Typed flags := by
  induction fuel generalizing p args with
  | zero =>
    cases hparse
    exact h
  | succ fuel ih =>
    cases args with
    | nil =>
      cases hparse
      exact h
    | cons w rest =>
      unfold Flag.parseFrom at hparse
      split at hparse
      · cases hparse
        exact h
      · split at hparse
        · cases hparse
        · rename_i hlong
          exact ih (h.long hlong) hparse
      · split at hparse
        · cases hparse
        · rename_i hshort
          exact ih (h.short hshort) hparse
      · have hkept : ({ p with rest := p.rest ++ [w] } : Parsed).Typed flags := h
        exact ih hkept hparse

/-- **What a command line gives has the type of its flag.** -/
theorem parse_typed (h : parse flags args = .ok p) : p.Typed flags := by
  have hnothing : ({} : Parsed).Typed flags := fun e he => absurd he List.not_mem_nil
  exact hnothing.parseFrom h

/-- The same for a flag by its name. -/
theorem Parsed.Typed.of_get? {name : Text} (h : p.Typed flags) (hget : p.get? name = some v) :
    ∃ f ∈ flags, f.name = name ∧ v.Of f.type := by
  obtain ⟨before, after, hgiven, -⟩ := List.lookup_eq_some_iff.mp hget
  refine h (name, v) ?_
  rw [hgiven]
  exact List.mem_append_right before List.mem_cons_self

end Flag

end DetectorStream
