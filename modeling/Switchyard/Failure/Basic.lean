import Switchyard.Failure.Fault

/-!
  Failures: error values on their way to an answer.  A failure made from an exception carries the
  lineage of the exception's kind; one made from any other error value carries none.
-/

namespace Switchyard

/-- An error value with the lineage under which an answer is looked for. -/
structure Failure where
  fault : Fault
  lineage : List Kind

namespace Failure

/-- A failure from an exception of a kind. -/
def ofException (h : Hierarchy) (k : Kind) (fault : Fault) : Failure := ⟨fault, h.lineage k⟩

/-- A failure from an exception that names its status; nothing stands above its kind. -/
def ofHttp (e : HttpException) : Failure := ⟨.http e, [HttpException.kind]⟩

/-- A failure from any error value, without lineage. -/
def ofFault (fault : Fault) : Failure := ⟨fault, []⟩

/-- A failure from a message. -/
def ofMessage (s : String) : Failure := ofFault (.message s)

/-- The failure as an error value of its own. -/
def toFault (f : Failure) : Fault := .wrapped f.lineage f.fault

/-- The wording for people: that of the error value. -/
def text (f : Failure) : String := f.fault.text

/-- The wording for developers. -/
def debug (f : Failure) : String := f.toFault.debug

/-- The causes behind the error value, nearest first. -/
def sources (f : Failure) : List Fault := f.fault.sources

/-- The kind of exception, if it was made from one. -/
def kind? (f : Failure) : Option Kind := f.lineage.head?

/-- The error value, if it is of this kind. -/
def downcast? (f : Failure) (k : Kind) : Option Fault :=
  if f.fault.kind? = some k then some f.fault else none

/-- The exception with a status, if the error value is one. -/
def http? (f : Failure) : Option HttpException :=
  match f.fault with
  | .http e => some e
  | _ => none

end Failure

/-- What a stage ends with: a reply or a failure. -/
abbrev Outcome (Rep : Type) := Except Failure Rep

end Switchyard
