import DetectorStream.Fault.Signal

/-!
# Faults

A fault is a tree. Its leaves are diagnostics; a **report** (kind, message, details, retry hint) may
stand alone or above a cause; a label may stand above a cause; and faults may be joined. What a
caller decides on is read off the first report met when the tree is walked from the outside in,
causes before later branches.

* `Fault.text`: the whole wording.
* `Fault.shown`: the wording passed on to a caller, in which diagnostics of other programs are
  withheld.
* `Fault.kind`, `Fault.isRetryable`, `Fault.isKind`: classification.
* `Fault.wrap`: put a report above a fault, keeping the retry hint of the first report below.
-/

namespace DetectorStream

/-- The category of a fault. -/
inductive Kind
  | internal
  | configuration
  | allocation
  | sourceUnavailable
  | malformedSource
  | encoding
  | transmission
  | missingField
  | fieldType
  | cancelled
  /-- A category of the caller's own. -/
  | custom (name : String)
deriving DecidableEq, Repr

namespace Kind

/-- All kinds but the caller's own, in the order in which they are listed. -/
def all : List Kind :=
  [internal, configuration, allocation, sourceUnavailable, malformedSource, encoding, transmission,
    missingField, fieldType, cancelled]

/-- The name of a kind, the first word of a report. -/
def name : Kind → String
  | internal => "internal"
  | configuration => "configuration"
  | allocation => "allocation"
  | sourceUnavailable => "source_unavailable"
  | malformedSource => "malformed_source"
  | encoding => "encoding"
  | transmission => "transmission"
  | missingField => "missing_field"
  | fieldType => "field_type"
  | cancelled => "cancelled"
  | custom s => s

/-- The kind with the given name. -/
def ofName (s : String) : Kind := (all.find? fun k => k.name == s).getD (custom s)

end Kind

/-- A value attached to a report. -/
inductive Detail
  | number (n : Int)
  | text (t : Text)
  | texts (ts : List Text)
  /-- A value of any other shape, held as its JSON text. -/
  | json (t : Text)
deriving DecidableEq, Repr

/-- What a report says, its cause apart. -/
structure Report where
  kind : Kind
  message : Text
  details : List (Text × Detail) := []
  retryable : Bool := false
deriving DecidableEq, Repr

/-- Attach a detail, in place of an earlier one of the same name. -/
def Report.withDetail (r : Report) (key : Text) (d : Detail) : Report :=
  { r with details := r.details.filter (fun p => p.1 != key) ++ [(key, d)] }

/-- The leaf of a fault. -/
inductive Diagnostic
  /-- Wording of this program, of its platform or of its caller. -/
  | told (text : Text)
  /-- Wording of another program, which is not passed on. -/
  | withheld
  | signal (s : Signal)
deriving DecidableEq, Repr

namespace Diagnostic

/-- What stands for wording that is not passed on. -/
def veil : Text := "<opaque>"

/-- The wording of a diagnostic. -/
def text : Diagnostic → Text
  | told t => t
  | withheld => veil
  | signal s => s.text

/-- May the wording be passed on? -/
def isTold : Diagnostic → Bool
  | told _ => true
  | withheld => false
  | signal s => s.isPlatform

end Diagnostic

/-- Something that went wrong. -/
inductive Fault
  | plain (d : Diagnostic)
  /-- A report without a cause. -/
  | raised (r : Report)
  /-- A report above its cause. -/
  | wrapped (r : Report) (cause : Fault)
  | labelled (label : Text) (cause : Fault)
  | joined (first second : Fault)
  /-- The join of a single fault. -/
  | joinedOne (only : Fault)
deriving DecidableEq, Repr

namespace Fault

/-! ## Building faults -/

/-- A fault that is nothing but its wording. -/
def told (t : Text) : Fault := plain (.told t)

/-- A fault whose wording is not passed on. -/
def withheld : Fault := plain .withheld

/-- A fault that is a condition from outside. -/
def signal (s : Signal) : Fault := plain (.signal s)

/-- A report of the given kind. -/
def report (kind : Kind) (message : Text) : Fault := raised ⟨kind, message, [], false⟩

/-- The first report on the way in, branches in order. -/
def first? : Fault → Option Report
  | plain _ => none
  | raised r => some r
  | wrapped r _ => some r
  | labelled _ c => c.first?
  | joined a b => a.first?.or b.first?
  | joinedOne a => a.first?

/-- Put a report above a fault. The retry hint of the first report below is kept. -/
def wrap (kind : Kind) (message : Text) (cause : Fault) : Fault :=
  wrapped ⟨kind, message, [], (cause.first?.map Report.retryable).getD false⟩ cause

/-- A transmission failure with its retry hint. -/
def transmission (retryable : Bool) (message : Text) : Option Fault → Fault
  | none => raised ⟨.transmission, message, [], retryable⟩
  | some cause => wrapped ⟨.transmission, message, [], retryable⟩ cause

/-- Attach a detail to the outermost report; a fault without one stays as it is. -/
def withDetail (key : Text) (d : Detail) : Fault → Fault
  | raised r => raised (r.withDetail key d)
  | wrapped r c => wrapped (r.withDetail key d) c
  | f => f

/-- Join two optional faults; absent ones are dropped. -/
def join? : Option Fault → Option Fault → Option Fault
  | none, none => none
  | some a, none => some (joinedOne a)
  | none, some b => some (joinedOne b)
  | some a, some b => some (joined a b)

/-- The single cause, when there is one. -/
def cause? : Fault → Option Fault
  | wrapped _ c => some c
  | labelled _ c => some c
  | _ => none

/-- The outermost report, when the fault itself is one. -/
def outermost? : Fault → Option Report
  | raised r => some r
  | wrapped r _ => some r
  | _ => none

/-! ## Wording -/

/-- A report's own words. -/
def headline (r : Report) : Text := r.kind.name ++ ": " ++ r.message

/-- The whole wording of a fault. -/
def text : Fault → Text
  | plain d => d.text
  | raised r => headline r
  | wrapped r c => headline r ++ ": " ++ c.text
  | labelled l c => l ++ ": " ++ c.text
  | joined a b => a.text ++ "\n" ++ b.text
  | joinedOne a => a.text

/-- Is the fault free of reports and of wording that is not to be passed on? -/
def isTold : Fault → Bool
  | plain d => d.isTold
  | raised _ => false
  | wrapped _ _ => false
  | labelled _ c => c.isTold
  | joined a b => a.isTold && b.isTold
  | joinedOne a => a.isTold

/-- The wording of a cause as passed on: reports in full, anything else only if it may be told. -/
def shownCause : Fault → Text
  | raised r => headline r
  | wrapped r c => headline r ++ ": " ++ c.shownCause
  | f => if f.isTold then f.text else Diagnostic.veil

/-- The wording of a fault as passed on to a caller. A fault that is no report is told as it is. -/
def shown : Fault → Text
  | raised r => headline r
  | wrapped r c => headline r ++ ": " ++ c.shownCause
  | f => f.text

/-- Withhold the wording of every cause that is not a report. -/
def veiled : Fault → Fault
  | wrapped r (raised r') => wrapped r (raised r')
  | wrapped r (wrapped r' c) => wrapped r (veiled (wrapped r' c))
  | wrapped r _ => wrapped r withheld
  | f => f

/-! ## Classification -/

/-- The kind of the first report; a fault without one counts as internal. -/
def kind (f : Fault) : Kind := (f.first?.map Report.kind).getD .internal

/-- Is the first report a transmission failure with a retry hint? -/
def isRetryable (f : Fault) : Bool :=
  match f.first? with
  | some r => r.kind == .transmission && r.retryable
  | none => false

/-- Has the first report the kind `k`, or the first report below its cause, and so on? -/
def isKind (k : Kind) : Fault → Bool
  | plain _ => false
  | raised r => r.kind == k
  | wrapped r c => r.kind == k || c.isKind k
  | labelled _ c => c.isKind k
  | joined a b => if a.first?.isSome then a.isKind k else b.isKind k
  | joinedOne a => a.isKind k

/-- The first leaf signal that satisfies `p`, branches in order. -/
def anySignal (p : Signal → Bool) : Fault → Bool
  | plain (.signal s) => p s
  | plain _ => false
  | raised _ => false
  | wrapped _ c => c.anySignal p
  | labelled _ c => c.anySignal p
  | joined a b => a.anySignal p || b.anySignal p
  | joinedOne a => a.anySignal p

/-- The first broker error code in the fault, branches in order. -/
def kafkaCode? : Fault → Option Int
  | plain (.signal (.kafkaCode c)) => some c
  | plain _ => none
  | raised _ => none
  | wrapped _ c => c.kafkaCode?
  | labelled _ c => c.kafkaCode?
  | joined a b => a.kafkaCode?.or b.kafkaCode?
  | joinedOne a => a.kafkaCode?

end Fault

/-- How an operation that does not succeed ends: with a fault, or by a crash, which no caller
handles. -/
inductive Stop
  | fault (f : Fault)
  | crash
deriving DecidableEq, Repr

instance : Coe Fault Stop := ⟨Stop.fault⟩

/-- Run an operation that cannot crash where one that can is expected. -/
def liftFault {α : Type} (x : Except Fault α) : Except Stop α := x.mapError Stop.fault

end DetectorStream
