import Assay.Text.Ranges

/-!
# Blank characters

Characters that separate words: Unicode white space and the information separators.
-/

namespace Assay.Text

/-- Ranges of the blank characters (Unicode 14). -/
def blankClass : CharClass := .ofHex
  "9-d,1c-20,85,a0,1680,2000-200a,2028-2029,202f,205f,3000"

/-- Whether a character counts as white space. -/
def isBlank (c : Char) : Bool := blankClass.contains c

/-- Whether a text has no character but white space. -/
def isBlankText (s : String) : Bool := s.toList.all isBlank

end Assay.Text
