/-!
# Cutting texts

A text is cut at each occurrence of a separator; the parts joined with the separator are the text.
-/

namespace Assay.Text

/-- Cut a text at each occurrence of a character. -/
def cut (separator : Char) : List Char → List (List Char)
  | [] => [[]]
  | c :: cs =>
      if c = separator then [] :: cut separator cs
      else match cut separator cs with
        | part :: parts => (c :: part) :: parts
        | [] => [[c]]

/-- A text cut into its lines; a line feed at the end opens an empty last line. -/
def lines (s : String) : List String := (cut '\n' s.toList).map String.ofList

/-- Whether a list of characters begins with another. -/
def beginsWith : List Char → List Char → Bool
  | [], _ => true
  | _ :: _, [] => false
  | p :: ps, c :: cs => p = c && beginsWith ps cs

/-- Whether a list of characters stands somewhere in another. -/
def standsIn (part : List Char) : List Char → Bool
  | [] => part.isEmpty
  | c :: cs => beginsWith part (c :: cs) || standsIn part cs

/-- Whether a text contains another. -/
def contains (s part : String) : Bool := standsIn part.toList s.toList

end Assay.Text
