/-!
# Ranges of diagnostics

Lines count from one and columns from zero. Ranges come from plugins too, so their numbers can be
any integers.
-/

namespace Assay

/-- A range of a file. -/
structure Range where
  file : String
  startLine : Int
  startColumn : Int
  endLine : Int
  endColumn : Int
  deriving DecidableEq, Repr, Inhabited

/-- Where a node of a tree says it stands; ends may be unknown. -/
structure NodePlace where
  line : Option Int := none
  column : Option Int := none
  endLine : Option Int := none
  endColumn : Option Int := none
  deriving DecidableEq, Repr, Inhabited

/-- The range of a node. An end line that is unknown or zero is the first line, an unknown end
column is the first column. -/
def Range.ofNode (file : String) (node : NodePlace) : Range :=
  let line := node.line.getD 1
  let column := node.column.getD 0
  let endLine := match node.endLine with
    | some n => if n = 0 then line else n
    | none => line
  { file, startLine := line, startColumn := column, endLine,
    endColumn := node.endColumn.getD column }

end Assay
