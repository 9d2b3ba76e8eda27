import Assay.Text.CharacterName.Aliases
import Assay.Text.CharacterName.Alphabets
import Assay.Text.CharacterName.Ancient
import Assay.Text.CharacterName.Pictograms
import Assay.Text.CharacterName.Scripts
import Assay.Text.CharacterName.Signs
import Assay.Text.CharacterName.Symbols
import Assay.Text.Ranges

/-!
# Names of characters

A table of names is a text without blanks. Each name follows the one before it and stands for the
next code point, unless an equals sign and a code point stand in front of it. Small letters tell how
many characters it shares with the name before it, `a` none and `z` twenty-five, and add up; what
follows is the rest of the name, in which low lines stand for blanks.

The names of the syllables of Hangul and of unified ideographs are not listed: they are made of the
parts of the syllable, and of the code point.
-/

namespace Assay.Text

/-! ## Listed names -/

/-- The state of a search for a name: the code point of the name being read, how many characters of
it have been read, how many at its front are those of the wanted name, and whether a code point or
the number of shared characters is being read. -/
structure NameSearch where
  code : Nat := 0
  length : Nat := 0
  fitting : Nat := 0
  inCode : Bool := false
  inCount : Bool := false
  found : Option Nat := none

namespace NameSearch

/-- Close the name that has been read: it is the wanted one if all of it fits. -/
def close (s : NameSearch) (wanted : Array Char) : NameSearch :=
  if s.length = wanted.size && s.fitting = wanted.size && s.found.isNone then
    { s with found := some s.code }
  else s

/-- Begin a name that shares nothing yet with the one before it. -/
def start (s : NameSearch) : NameSearch :=
  { s with code := if s.inCode then s.code else s.code + 1, length := 0, inCode := false,
           inCount := true }

/-- Read one more character of a table. What two names in a row share fits as far as it did in the
first of them. -/
def step (wanted : Array Char) (s : NameSearch) (c : Char) : NameSearch :=
  if c = ' ' || c = '\n' then s
  else if c = '=' then { s.close wanted with code := 0, length := 0, inCode := true, inCount := false }
  else if c.isLower then
    let s := if s.inCount then s else (if s.inCode then s else s.close wanted).start
    { s with length := s.length + (c.toNat - 'a'.toNat) }
  else if s.inCode then { s with code := s.code * 16 + CharClass.hexDigit c }
  else
    let s := if s.inCount then { s with inCount := false, fitting := min s.fitting s.length } else s
    let c := if c = '_' then ' ' else c
    let fits := s.fitting = s.length && wanted[s.length]? = some c
    { s with length := s.length + 1, fitting := if fits then s.fitting + 1 else s.fitting }

end NameSearch

/-- The code point that a table lists a name for. -/
def listedCode? (table : String) (name : Array Char) : Option Nat :=
  ((table.toList.foldl (NameSearch.step name) {}).close name).found

/-- All tables of names. -/
def nameTables (_ : Unit) : List String :=
  [alphabetNames, signNames, scriptNames, ancientNames, pictogramNames, symbolNames, aliasNames]

/-! ## Names made of parts -/

/-- The leading, middle and trailing parts of the syllables of Hangul. -/
def syllableParts : List (List String) :=
  [["G", "GG", "N", "D", "DD", "R", "M", "B", "BB", "S", "SS", "", "J", "JJ", "C", "K", "T", "P",
    "H"],
   ["A", "AE", "YA", "YAE", "EO", "E", "YEO", "YE", "O", "WA", "WAE", "OE", "YO", "U", "WEO", "WE",
    "WI", "YU", "EU", "YI", "I"],
   ["", "G", "GG", "GS", "N", "NJ", "NH", "D", "L", "LG", "LM", "LB", "LS", "LT", "LP", "LH", "M",
    "B", "BS", "S", "SS", "NG", "J", "C", "K", "T", "P", "H"]]

/-- The longest part that a text begins with: its number, and its length. -/
def longestPart (parts : List String) (cs : List Char) : Option (Nat × Nat) :=
  parts.zipIdx.foldl (fun best (part, number) =>
    let longer := match best with
      | some (_, length) => length < part.length
      | none => true
    if longer && part.toList.isPrefixOf cs then some (number, part.length) else best) none

/-- The number of a syllable among all, from its leading part on. -/
def syllableNumber? (number : Nat) : List (List String) → List Char → Option Nat
  | [], [] => some number
  | [], _ :: _ => none
  | parts :: rest, cs => match longestPart parts cs with
    | some (n, length) => syllableNumber? (number * parts.length + n) rest (cs.drop length)
    | none => none

/-- The ranges of unified ideographs (Unicode 14). -/
def ideographClass : CharClass := .ofHex
  "3400-4dbf,4e00-9fff,20000-2a6df,2a700-2b738,2b740-2b81d,2b820-2cea1,2ceb0-2ebe0,30000-3134a"

/-- The code point of a name that is made of parts. -/
def composedCode? (name : String) : Option Nat :=
  let syllable := "HANGUL SYLLABLE "
  let ideograph := "CJK UNIFIED IDEOGRAPH-"
  if name.startsWith syllable then
    (syllableNumber? 0 syllableParts (name.toList.drop syllable.length)).map (0xac00 + ·)
  else if name.startsWith ideograph then
    let digits := name.toList.drop ideograph.length
    let isDigit (c : Char) : Bool := c.isDigit || ('A' ≤ c && c ≤ 'F')
    let code := digits.foldl (fun n c => n * 16 + CharClass.hexDigit c) 0
    if (digits.length = 4 || digits.length = 5) && digits.all isDigit &&
        ideographClass.containsCode code then some code
    else none
  else none

/-- The character with a name. Case does not matter for names that are listed. -/
def namedChar? (name : String) : Option Char :=
  if !name.toList.all (·.toNat < 128) then none
  else
    let wanted := name.toUpper.toList.toArray
    ((composedCode? name).or ((nameTables ()).findSome? (listedCode? · wanted))).map Char.ofNat

end Assay.Text
