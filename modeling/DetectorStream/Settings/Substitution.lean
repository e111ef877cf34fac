import DetectorStream.Text.Basic

/-!
# References to the environment

In a settings file `$` and a name in braces stand for a variable of the environment. After the name
a text may follow, set off by a colon and a dash, that stands in for a variable that is empty or
not set. Anything else stays as it is, and what was put in is not looked at again.

* `Environment.substitute`: a text with its references replaced.
-/

namespace DetectorStream

/-- The variables of a process. -/
abbrev Environment := List (Text × Text)

/-- A reference to a variable, with what stands in for it. -/
structure Reference where
  name : Text
  standIn : Text

namespace Reference

/-- Octets of a variable's name. -/
def isNameOctet (b : UInt8) : Bool := Text.isAlnum b || b == 0x5F

/-- Is the text the name of a variable? -/
def isName (t : Text) : Bool := t.all isNameOctet && t.head?.any fun b => !Text.isDigit b

/-- The reference at the start of a text, and the text after it. -/
def read? : Text → Option (Reference × Text)
  | 0x24 :: 0x7B :: t =>
    let name := t.takeWhile isNameOctet
    if !isName name then none
    else
      match t.dropWhile isNameOctet with
      | 0x7D :: rest => some (⟨name, []⟩, rest)
      | 0x3A :: 0x2D :: t' =>
        match t'.dropWhile (· != 0x7D) with
        | _ :: rest => some (⟨name, t'.takeWhile (· != 0x7D)⟩, rest)
        | [] => none
      | _ => none
  | _ => none

theorem length_dropWhile_le {α : Type} (p : α → Bool) (l : List α) :
    (l.dropWhile p).length ≤ l.length := by
  induction l with
  | nil => exact Nat.le_refl _
  | cons a l ih =>
    simp only [List.dropWhile_cons]
    split
    · exact Nat.le_succ_of_le ih
    · exact Nat.le_refl _

/-- A reference takes at least its first two octets. -/
theorem length_read? {t : Text} {r : Reference × Text} (h : read? t = some r) :
    r.2.length < t.length := by
  unfold read? at h
  split at h
  · rename_i t'
    have hd := length_dropWhile_le isNameOctet t'
    dsimp only at h
    split at h
    · cases h
    · split at h
      · rename_i rest heq
        cases h
        rw [heq] at hd
        simp only [List.length_cons] at hd ⊢
        omega
      · rename_i u heq
        have hu := length_dropWhile_le (fun b : UInt8 => b != 0x7D) u
        rw [heq] at hd
        split at h
        · rename_i rest heq'
          cases h
          rw [heq'] at hu
          simp only [List.length_cons] at hd hu ⊢
          omega
        · cases h
      · cases h
  · cases h

/-- What a reference stands for. -/
def value (env : Environment) (r : Reference) : Text :=
  match env.lookup r.name with
  | some v => if v.isEmpty then r.standIn else v
  | none => r.standIn

end Reference

/-- A text with its references replaced, from left to right. -/
def Environment.substitute (env : Environment) : Text → Text
  | [] => []
  | b :: t =>
    match _h : Reference.read? (b :: t) with
    | some (r, rest) => r.value env ++ substitute env rest
    | none => b :: substitute env t
termination_by t => t.length
decreasing_by
  · exact Reference.length_read? _h
  · exact Nat.lt_succ_self _

end DetectorStream
