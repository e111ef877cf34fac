import DetectorStream.Settings.Field
import DetectorStream.Yaml.Writer

/-!
# The written form of the settings

Every field on a line of its own, sections indented, durations as texts. A list of outputs that is
empty is left out.
-/

namespace DetectorStream.Settings

/-- The text of a floating-point field. -/
def numberText (f : Float) : Text :=
  if f.isInf then if f < 0 then "-.inf" else ".inf"
  else if f.isNaN then ".nan"
  else FloatStyle.general.render f

/-- What a field holds, for a document; `none` for one that is left out. -/
def written? (s : Settings) : Slot → Option Yaml.Written
  | .text l => some (.text (l.get s))
  | .texts l omitEmpty => if omitEmpty && (l.get s).isEmpty then none else some (.texts (l.get s))
  | .word l => some (.literal (Decimal.ofInt (l.get s).toInt))
  | .shortWord l => some (.literal (Decimal.ofInt (l.get s).toInt))
  | .flag l => some (.literal (if l.get s then "true" else "false"))
  | .number l => some (.literal (numberText (l.get s)))
  | .duration l => some (.text (Duration.text (l.get s)))

/-- The settings as a document. -/
def document (s : Settings) : Text :=
  Yaml.Entry.render (Field.all.filterMap fun f =>
    (s.written? f.slot).map fun w => ⟨f.group, f.name, w⟩)

end DetectorStream.Settings
