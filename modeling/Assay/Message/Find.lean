import Assay.Message.Basic
import Assay.Text.Cut
import Assay.Value.Items

/-!
# Looking for messages

Tests of analyzers ask for a message with a code, or with a text that contains another.
-/

namespace Assay

/-- Whether a value contains another: a text a part, a list an item, a mapping a key. -/
def Value.holds (whole part : Value) : Except Failure Bool :=
  match whole with
  | .list items | .tuple items => .ok (items.any fun v => v.same part)
  | .set _ items => do
      part.requireKey
      return items.any fun v => v.same part
  | .mapping entries => do
      part.requireKey
      return entries.any fun e => e.1.same part
  | v => match v.text?, part.text? with
    | some s, some p => .ok (Text.contains s p)
    | some _, Option.none => .error (.type
        ("'in <string>' requires string as left operand, not " ++ part.typeName))
    | Option.none, _ => .error (.type ("argument of type '" ++ v.typeName ++ "' is not iterable"))

namespace Message

/-- Whether a message is asked for; what is not given does not matter. -/
def isAskedFor (code text : Value) (m : Message) : Except Failure Bool := do
  if code.typeName != "NoneType" && !m.code.same code then return false
  if text.typeName == "NoneType" then return true
  m.text.holds text

/-- The first message that is asked for. -/
def firstAskedFor? (code text : Value) : List Message → Except Failure (Option Message)
  | [] => .ok none
  | m :: rest => do
      if ← m.isAskedFor code text then return some m else firstAskedFor? code text rest

/-- Find a message with a code and a text. If there is none the failure lists those there are. -/
def find (code text : Value) (messages : List Message) : Except Failure Message := do
  match ← firstAskedFor? code text messages with
  | some m => return m
  | none =>
      let listed := Value.commaed (messages.map fun m => m.code.str ++ ": " ++ m.text.str)
      let listed := if listed = "" then "<none>" else listed
      throw (.of "AssertionError" ("no message with code=" ++ code.shown ++ " message=" ++
        text.shown ++ "; got [" ++ listed ++ "]"))

end Message

end Assay
