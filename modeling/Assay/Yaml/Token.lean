import Assay.Failure

/-!
# YAML tokens

A document is read as a list of tokens. Indentation shows as tokens that open and close blocks, and a
key that is only known as one by the colon behind it has its own token in front. Where a character
cannot be made, the tokens end with one that holds the failure.
-/

namespace Assay.Yaml

/-- Why a document has no value: it is wrong, or something in it failed. -/
inductive Fault where
  | invalid
  | failed (failure : Failure)
  deriving DecidableEq, Repr

/-- A token. -/
inductive Token where
  | version (major minor : Nat)
  | tagHandle (handle start : String)
  | otherDirective
  | documentStart
  | documentEnd
  | blockSequenceStart
  | blockMappingStart
  | blockEnd
  | flowSequenceStart
  | flowSequenceEnd
  | flowMappingStart
  | flowMappingEnd
  | blockEntry
  | flowEntry
  | key
  | value
  | alias (name : String)
  | anchor (name : String)
  | tag (handle : Option String) (suffix : String)
  | scalar (text : String) (plain : Bool)
  | streamEnd
  | unreadable (failure : Failure)
  deriving DecidableEq, Repr, Inhabited

/-- Whether a token is a directive. -/
def Token.isDirective : Token → Bool
  | version .. | tagHandle .. | otherDirective => true
  | _ => false

/-! ## Characters -/

/-- Whether a character may stand in a document. -/
def isAllowed (c : Char) : Bool :=
  let n := c.toNat
  n = 0x09 || n = 0x0a || n = 0x0d || (0x20 ≤ n && n ≤ 0x7e) || n = 0x85 ||
    (0xa0 ≤ n && n ≤ 0xfffd) || 0x10000 ≤ n

/-- The character that stands for the end of the document. -/
def ending : Char := '\x00'

/-- Whether a character ends a line. -/
def isBreak (c : Char) : Bool :=
  c = '\n' || c = '\r' || c = '\u0085' || c = '\u2028' || c = '\u2029'

/-- Whether a character ends a line or the document. -/
def isLineEnd (c : Char) : Bool := c = ending || isBreak c

/-- Whether a character is a blank or ends a line. -/
def isBlankOrEnd (c : Char) : Bool := c = ' ' || isLineEnd c

/-- Whether a character is a blank, a tab or ends a line. -/
def isSpaceOrEnd (c : Char) : Bool := c = '\t' || isBlankOrEnd c

/-- Whether a character may stand in a name. -/
def isNameChar (c : Char) : Bool := c.isAlphanum || c = '-' || c = '_'

/-- Whether a character may stand in a tag. -/
def isTagChar (c : Char) : Bool :=
  c.isAlphanum || "-;/?:@&=+$,_.!~*'()[]%".toList.contains c

end Assay.Yaml
