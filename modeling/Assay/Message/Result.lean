import Assay.Message.Basic

/-!
# Results of analyzers

An analyzer gives messages or fails, never both.
-/

namespace Assay

/-- What one analyzer gave for one context. -/
structure AnalysisResult where
  name : Value
  outcome : Except Failure (List Message)

namespace AnalysisResult

/-- Whether the analyzer gave messages. -/
def ok (r : AnalysisResult) : Bool := r.outcome.isOk

/-- The result of messages or a failure; exactly one of them must be there. -/
def of (name : Value) (messages : Option (List Message)) (failure : Option Failure) :
    Except Failure AnalysisResult :=
  match messages, failure with
  | some ms, none => .ok { name, outcome := .ok ms }
  | none, some f => .ok { name, outcome := .error f }
  | _, _ => .error (.value "AnalysisResult needs exactly one of 'messages' or 'error'")

end AnalysisResult

end Assay
