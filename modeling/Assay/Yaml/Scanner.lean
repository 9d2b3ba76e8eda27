import Assay.Decimal.Reading
import Assay.Text.Utf8
import Assay.Yaml.Supply

/-!
# Scanning YAML

The scanner goes through a document character by character. It keeps the columns of the open blocks,
the depth of brackets, and for each depth the place where a key may have begun. Whatever is wrong
with a document, the scan has no result, except that a character that cannot be read or made only
ends it. A step looks ahead only as far as it must, because the characters there may be out of reach.
-/

namespace Assay.Yaml

/-- A place where a key may have begun: a token of which only a colon would tell that it is a key. -/
structure PossibleKey where
  level : Nat
  number : Nat
  required : Bool
  index : Nat
  line : Nat
  column : Nat
  deriving DecidableEq, Repr

/-- The state of a scan. -/
structure Scanner where
  rest : List Char
  index : Nat := 0
  line : Nat := 0
  column : Nat := 0
  level : Nat := 0
  indent : Int := -1
  indents : List Int := []
  keyAllowed : Bool := true
  keys : List PossibleKey := []
  tokens : Array Token := #[]

/-- Whether a key is no longer possible: a key stands on one line and is not long. -/
def PossibleKey.isStale (k : PossibleKey) (s : Scanner) : Bool :=
  k.line ≠ s.line || 1024 < s.index - k.index

/-- The tokens that stay as they are. Before a possible key, and behind it, a colon may still put
others. -/
def Scanner.ready (s : Scanner) : List Token :=
  s.tokens.toList.take
    ((s.keys.filter fun k => !k.isStale s).foldl (fun n k => min n k.number) s.tokens.size)

/-- A step of a scan. It knows why it cannot go on behind the characters that it has. -/
abbrev Scan := ReaderT (Option Fault) (ExceptT Fault (StateM Scanner))

namespace Scan

/-- The document is wrong. -/
def refuse {α : Type} : Scan α := throw .invalid

/-- A character or a number cannot be made. -/
def fail {α : Type} (f : Failure) : Scan α := throw (.failed f)

/-! ## Characters -/

/-- Ask for one character and some more. If there are fewer, the document must end with them. -/
def want (more : Nat) : Scan Unit := do
  if ((← get).rest.drop more).isEmpty then
    match ← read with
    | some f => throw f
    | none => return ()

/-- The character some places ahead. -/
def peekAt (n : Nat) : Scan Char := do
  want n
  return ((← get).rest[n]?).getD ending

/-- The next character. -/
def peek : Scan Char := peekAt 0

/-- Go one character on. -/
def advance (s : Scanner) : Scanner :=
  match s.rest with
  | [] => s
  | c :: rest =>
      let s := { s with rest, index := s.index + 1 }
      if isBreak c && !(c = '\r' && rest.head? = some '\n') then
        { s with line := s.line + 1, column := 0 }
      else if c = '\uFEFF' then s
      else { s with column := s.column + 1 }

/-- Go some characters on. -/
def advanceBy : Nat → Scanner → Scanner
  | 0, s => s
  | n + 1, s => advanceBy n (advance s)

/-- Go some characters on, to one that can be looked at. -/
def forward (n : Nat) : Scan Unit := do
  want n
  modify (advanceBy n)

/-- Take the characters at the front that pass a test. -/
def takeWhile (p : Char → Bool) : Scan (List Char) := do
  let taken := (← get).rest.takeWhile p
  forward taken.length
  return taken

/-- Skip blanks. -/
def skipBlanks : Scan Unit := do
  let _ ← takeWhile (· = ' ')

/-- Skip a comment. -/
def skipComment : Scan Unit := do
  if (← peek) = '#' then
    let _ ← takeWhile (fun c => !isLineEnd c)

/-- Take the end of a line, if there is one. -/
def lineBreak : Scan (List Char) := do
  let c ← peek
  if c = '\n' || c = '\r' || c = '\u0085' then
    let next ← peekAt 1
    forward (if c = '\r' && next = '\n' then 2 else 1)
    return ['\n']
  else if c = '\u2028' || c = '\u2029' then
    forward 1
    return [c]
  else return []

/-- Whether three dashes or points stand here with nothing behind them. -/
def atSeparator : Scan Bool := do
  want 2
  let front := (← get).rest.take 3
  if front = ['-', '-', '-'] || front = ['.', '.', '.'] then return isSpaceOrEnd (← peekAt 3)
  else return false

/-- How many steps a loop can take from here. -/
def bound : Scan Nat := return (← get).rest.length + 1

/-! ## Keys and indentation -/

/-- Add a token. -/
def emit (t : Token) : Scan Unit := modify fun s => { s with tokens := s.tokens.push t }

/-- Put a token before the one with a number. -/
def insertAt (n : Nat) (t : Token) : Scan Unit := modify fun s =>
  { s with tokens := (s.tokens.extract 0 n).push t ++ s.tokens.extract n s.tokens.size }

/-- Drop the keys that have become impossible. -/
def dropStaleKeys : Scan Unit := do
  let s ← get
  if s.keys.any fun k => k.isStale s && k.required then refuse
  set { s with keys := s.keys.filter fun k => !k.isStale s }

/-- Drop the possible key at this depth. -/
def removeKey : Scan Unit := do
  let s ← get
  if s.keys.any fun k => k.level = s.level && k.required then refuse
  set { s with keys := s.keys.filter fun k => k.level ≠ s.level }

/-- Remember that a key may begin here. -/
def saveKey : Scan Unit := do
  let s ← get
  if s.keyAllowed then
    removeKey
    modify fun t => { t with keys := t.keys ++ [
      { level := s.level, number := s.tokens.size,
        required := s.level = 0 && s.indent = s.column, index := s.index, line := s.line,
        column := s.column }] }

/-- Close the blocks that are indented more than a column. -/
def unwind (column : Int) : Scan Unit := do
  let s ← get
  if s.level = 0 then
    let closing := s.indents.length
    loop closing
where
  loop : Nat → Scan Unit
    | 0 => return ()
    | n + 1 => do
        let s ← get
        if column < s.indent then
          set { s with indent := s.indents.headD (-1), indents := s.indents.tail,
                       tokens := s.tokens.push .blockEnd }
          loop n

/-- Open a block at a column, if it is indented more than the one around it. -/
def addIndent (column : Int) : Scan Bool := do
  let s ← get
  if s.indent < column then
    set { s with indents := s.indent :: s.indents, indent := column }
    return true
  else return false

/-- Say whether a key may begin next. -/
def allowKey (b : Bool) : Scan Unit := modify fun s => { s with keyAllowed := b }

/-! ## Blanks between tokens -/

/-- Skip blanks, comments and line ends before a token. -/
def skipToToken : Scan Unit := do
  if (← get).index = 0 then
    if (← peek) = '\uFEFF' then forward 1
  loop (← bound)
where
  loop : Nat → Scan Unit
    | 0 => return ()
    | n + 1 => do
        skipBlanks
        skipComment
        if (← lineBreak).isEmpty then return ()
        if (← get).level = 0 then allowKey true
        loop n

/-- Skip the rest of a line that holds nothing but a comment. -/
def skipLine : Scan Unit := do
  skipBlanks
  skipComment
  if !isLineEnd (← peek) then refuse
  let _ ← lineBreak

/-! ## Directives, anchors and tags -/

/-- A number. -/
def number : Scan Nat := do
  let digits ← takeWhile Char.isDigit
  if digits.isEmpty then refuse
  match Decimal.readWhole 10 (String.ofList digits) with
  | .ok n => return n.toNat
  | .error fault => fail (.value fault.message)

/-- Whether a character is a hexadecimal digit. -/
def isHex (c : Char) : Bool := c.isDigit || "abcdefABCDEF".toList.contains c

/-- As many hexadecimal digits as there must be. They are not taken. -/
def hexDigits (count : Nat) : Scan (List Char) := do
  let digits := ((← get).rest.take count).takeWhile isHex
  if digits.length < count then
    want digits.length
    refuse
  return digits

/-- The value of two hexadecimal digits behind a percent sign. -/
def escapedByte : Scan UInt8 := do
  forward 1
  let digits ← hexDigits 2
  forward 2
  return UInt8.ofNat (Decimal.natOf 16 digits)

/-- The bytes behind percent signs. -/
def escapedBytes : Nat → Scan (List UInt8)
  | 0 => return []
  | n + 1 => do
      if (← peek) = '%' then
        let b ← escapedByte
        return b :: (← escapedBytes n)
      else return []

/-- The rest of a tag. Bytes behind percent signs are those of its characters. -/
def tagText : Scan String := do
  let cs ← loop (← bound)
  if cs.isEmpty then refuse
  return String.ofList cs
where
  loop : Nat → Scan (List Char)
    | 0 => return []
    | n + 1 => do
        let c ← peek
        if c = '%' then
          match Text.Utf8.decode (← escapedBytes (← bound)) with
          | .ok cs => return cs ++ (← loop n)
          | .error _ => refuse
        else if isTagChar c then
          forward 1
          return c :: (← loop n)
        else return []

/-- The handle of a tag: a name between exclamation marks, or one mark alone. -/
def tagHandle : Scan String := do
  if (← peek) ≠ '!' then refuse
  forward 1
  if (← peek) = ' ' then return "!"
  let name ← takeWhile isNameChar
  if (← peek) ≠ '!' then refuse
  forward 1
  return String.ofList ('!' :: name ++ ['!'])

/-- A directive. -/
def directive : Scan Token := do
  forward 1
  let name ← takeWhile isNameChar
  if name.isEmpty || !isBlankOrEnd (← peek) then refuse
  let token ← match String.ofList name with
    | "YAML" => do
        skipBlanks
        let major ← number
        if (← peek) ≠ '.' then refuse
        forward 1
        let minor ← number
        if !isBlankOrEnd (← peek) then refuse
        pure (Token.version major minor)
    | "TAG" => do
        skipBlanks
        let handle ← tagHandle
        if (← peek) ≠ ' ' then refuse
        skipBlanks
        let start ← tagText
        if !isBlankOrEnd (← peek) then refuse
        pure (Token.tagHandle handle start)
    | _ => do
        let _ ← takeWhile (fun c => !isLineEnd c)
        pure Token.otherDirective
  skipLine
  return token

/-- The name of an anchor or an alias. -/
def anchorName : Scan String := do
  forward 1
  let name ← takeWhile isNameChar
  if name.isEmpty then refuse
  let c ← peek
  if !(isSpaceOrEnd c || "?:,]\x7d%@`".toList.contains c) then refuse
  return String.ofList name

/-- A tag. -/
def tag : Scan Token := do
  let c ← peekAt 1
  let token ←
    if c = '<' then do
      forward 2
      let suffix ← tagText
      if (← peek) ≠ '>' then refuse
      forward 1
      pure (Token.tag none suffix)
    else if isSpaceOrEnd c then do
      forward 1
      pure (Token.tag none "!")
    else do
      let front := ((← get).rest.drop 1).takeWhile fun c => !(isBlankOrEnd c || c = '!')
      let mark ← peekAt (front.length + 1)
      let handle ← if mark = '!' then tagHandle else do
        forward 1
        pure "!"
      pure (Token.tag (some handle) (← tagText))
  if !isBlankOrEnd (← peek) then refuse
  return token

/-! ## Scalars -/

/-- How the line ends behind a block scalar are kept: all of them, none, or one. -/
inductive Chomping where
  | keep
  | strip
  | clip
  deriving DecidableEq, Repr

/-- The sign of a block scalar that says what happens to the line ends behind it. -/
def chomping? : Scan (Option Chomping) := do
  let c ← peek
  if c = '+' then
    forward 1
    return some .keep
  else if c = '-' then
    forward 1
    return some .strip
  else return none

/-- The digit of a block scalar that says how far it is indented. -/
def increment? : Scan (Option Nat) := do
  let c ← peek
  if !c.isDigit then return none
  if c = '0' then refuse
  forward 1
  return some (c.toNat - '0'.toNat)

/-- Skip the indentation of a line of a block scalar. -/
def skipIndent (indent : Nat) : Scan Unit := do
  let s ← get
  let blanks := (s.rest.takeWhile (· = ' ')).length
  forward (min blanks (indent - s.column))

/-- The line ends in front of a line of a block scalar. -/
def blockBreaks (indent : Nat) : Nat → Scan (List Char)
  | 0 => return []
  | n + 1 => do
      skipIndent indent
      if isBreak (← peek) then
        let c ← lineBreak
        return c ++ (← blockBreaks indent n)
      else return []

/-- The line ends in front of a block scalar, and its indentation. -/
def blockIndent : Nat → Nat → Scan (List Char × Nat)
  | 0, widest => return ([], widest)
  | n + 1, widest => do
      let c ← peek
      if c = ' ' then
        forward 1
        blockIndent n (max widest (← get).column)
      else if isBreak c then
        let c ← lineBreak
        let (cs, widest) ← blockIndent n widest
        return (c ++ cs, widest)
      else return ([], widest)

/-- The lines of a block scalar from one that has begun, with the last line end and the line ends
behind it. -/
def blockLines (folded : Bool) (indent : Nat) : Nat → List Char → List Char →
    Scan (List Char × List Char × List Char)
  | 0, lastBreak, breaks => return ([], lastBreak, breaks)
  | n + 1, lastBreak, breaks => do
      let c ← peek
      if (← get).column = indent && c ≠ ending then
        let flush := !(c = ' ' || c = '\t')
        let line ← takeWhile (fun c => !isLineEnd c)
        let newBreak ← lineBreak
        let newBreaks ← blockBreaks indent (← bound)
        let next ← peek
        if (← get).column = indent && next ≠ ending then
          let nextFlush := !(next = ' ' || next = '\t')
          let joint :=
            if folded && newBreak = ['\n'] && flush && nextFlush then
              (if newBreaks.isEmpty then [' '] else [])
            else newBreak
          let (cs, finalBreak, finalBreaks) ← blockLines folded indent n newBreak newBreaks
          return (breaks ++ line ++ joint ++ cs, finalBreak, finalBreaks)
        else return (breaks ++ line, newBreak, newBreaks)
      else return ([], lastBreak, breaks)

/-- A block scalar. -/
def blockScalar (folded : Bool) : Scan Token := do
  forward 1
  let (chomping, increment) ← do
    match ← chomping? with
    | some c => pure (c, ← increment?)
    | none =>
        let i ← increment?
        pure ((← chomping?).getD .clip, i)
  if !isBlankOrEnd (← peek) then refuse
  skipLine
  let least : Nat := max ((← get).indent + 1).toNat 1
  let (breaks, indent) ← match increment with
    | some i => do
        let indent := least + i - 1
        pure (← blockBreaks indent (← bound), indent)
    | none => do
        let (breaks, widest) ← blockIndent (← bound) 0
        pure (breaks, max least widest)
  let (cs, lastBreak, breaks) ← blockLines folded indent (← bound) [] breaks
  let last := if chomping = .strip then [] else lastBreak
  let kept := if chomping = .keep then breaks else []
  return .scalar (String.ofList (cs ++ last ++ kept)) false

/-- The characters that a letter stands for behind a backslash. -/
def escape? (c : Char) : Option Char :=
  match c with
  | '0' => some '\x00'
  | 'a' => some '\x07'
  | 'b' => some '\x08'
  | 't' | '\t' => some '\t'
  | 'n' => some '\n'
  | 'v' => some '\x0b'
  | 'f' => some '\x0c'
  | 'r' => some '\r'
  | 'e' => some '\x1b'
  | ' ' => some ' '
  | '"' => some '"'
  | '\\' => some '\\'
  | '/' => some '/'
  | 'N' => some '\u0085'
  | '_' => some '\u00a0'
  | 'L' => some '\u2028'
  | 'P' => some '\u2029'
  | _ => none

/-- How many digits follow a letter behind a backslash. -/
def escapeDigits? (c : Char) : Option Nat :=
  if c = 'x' then some 2 else if c = 'u' then some 4 else if c = 'U' then some 8 else none

/-- The line ends inside a quoted scalar. -/
def quotedBreaks : Nat → Scan (List Char)
  | 0 => return []
  | n + 1 => do
      if ← atSeparator then refuse
      let _ ← takeWhile (fun c => c = ' ' || c = '\t')
      if isBreak (← peek) then
        let c ← lineBreak
        return c ++ (← quotedBreaks n)
      else return []

/-- What a backslash in a quoted scalar stands for. -/
def escaped : Scan (List Char) := do
  forward 1
  let c ← peek
  match escape? c, escapeDigits? c with
  | some e, _ => do
      forward 1
      return [e]
  | none, some count => do
      forward 1
      let digits ← hexDigits count
      let code := Decimal.natOf 16 digits
      if 0x80000000 ≤ code then
        fail (.of "OverflowError" "Python int too large to convert to C int")
      if 0x110000 ≤ code then fail (.value "chr() arg not in range(0x110000)")
      forward count
      return [Char.ofNat code]
  | none, none =>
      if isBreak c then do
        let _ ← lineBreak
        quotedBreaks (← bound)
      else refuse

/-- The part of a quoted scalar up to blanks or the closing quote. -/
def quotedWord (double : Bool) : Nat → Scan (List Char)
  | 0 => return []
  | n + 1 => do
      let plain ← takeWhile fun c => !(isSpaceOrEnd c || c = '\'' || c = '"' || c = '\\')
      let c ← peek
      let doubled ← if !double && c = '\'' then (· == '\'') <$> peekAt 1 else pure false
      if doubled then
        forward 2
        return plain ++ '\'' :: (← quotedWord double n)
      else if (double && c = '\'') || (!double && (c = '"' || c = '\\')) then
        forward 1
        return plain ++ c :: (← quotedWord double n)
      else if double && c = '\\' then
        let cs ← escaped
        return plain ++ cs ++ (← quotedWord double n)
      else return plain

/-- The blanks in a quoted scalar; the end of a line is a blank unless empty lines follow. -/
def quotedSpaces : Scan (List Char) := do
  let blanks ← takeWhile (fun c => c = ' ' || c = '\t')
  let c ← peek
  if c = ending then refuse
  if isBreak c then
    let first ← lineBreak
    let breaks ← quotedBreaks (← bound)
    if first ≠ ['\n'] then return first ++ breaks
    else if breaks.isEmpty then return [' ']
    else return breaks
  else return blanks

/-- A quoted scalar. -/
def quotedScalar (double : Bool) : Scan Token := do
  let quote := if double then '"' else '\''
  forward 1
  let first ← quotedWord double (← bound)
  let rest ← loop quote (← bound)
  forward 1
  return .scalar (String.ofList (first ++ rest)) false
where
  loop (quote : Char) : Nat → Scan (List Char)
    | 0 => refuse
    | n + 1 => do
        if (← peek) = quote then return []
        let blanks ← quotedSpaces
        let word ← quotedWord double (← bound)
        return blanks ++ word ++ (← loop quote n)

/-- The length of the part of a plain scalar up to blanks. -/
def plainLength (inFlow : Bool) : List Char → Nat
  | [] => 0
  | c :: cs =>
      let next := cs.head?.getD ending
      if isSpaceOrEnd c || (inFlow && ",?[]\x7b\x7d".toList.contains c) ||
          (c = ':' && (isSpaceOrEnd next || (inFlow && ",[]\x7b\x7d".toList.contains next))) then 0
      else plainLength inFlow cs + 1

/-- The line ends inside a plain scalar; at a separator of documents it ends. -/
def plainBreaks : Nat → Scan (Option (List Char))
  | 0 => return some []
  | n + 1 => do
      let c ← peek
      if c = ' ' then
        forward 1
        plainBreaks n
      else if isBreak c then
        let first ← lineBreak
        if ← atSeparator then return none
        return (← plainBreaks n).map (first ++ ·)
      else return some []

/-- The blanks behind a part of a plain scalar. -/
def plainSpaces : Scan (List Char) := do
  let blanks ← takeWhile (· = ' ')
  if isBreak (← peek) then
    let first ← lineBreak
    allowKey true
    if ← atSeparator then return []
    match ← plainBreaks (← bound) with
    | none => return []
    | some breaks =>
        if first ≠ ['\n'] then return first ++ breaks
        else if breaks.isEmpty then return [' ']
        else return breaks
  else return blanks

/-- A plain scalar. -/
def plainScalar : Scan Token := do
  let s ← get
  let cs ← loop (0 < s.level) (s.indent + 1) [] (← bound)
  return .scalar (String.ofList cs) true
where
  loop (inFlow : Bool) (indent : Int) (spaces : List Char) : Nat → Scan (List Char)
    | 0 => return []
    | n + 1 => do
        if (← peek) = '#' then return []
        let rest := (← get).rest
        let length := plainLength inFlow rest
        -- a colon ends a scalar only by what follows it
        if (← peekAt length) = ':' then want (length + 1)
        if length = 0 then return []
        allowKey false
        let word := rest.take length
        forward length
        let next ← plainSpaces
        if next.isEmpty || (← peek) = '#' || (!inFlow && ((← get).column : Int) < indent) then
          return spaces ++ word
        return spaces ++ word ++ (← loop inFlow indent next n)

/-! ## Tokens -/

/-- A token that ends all blocks. -/
def outermost (t : Scan Token) : Scan Unit := do
  unwind (-1)
  removeKey
  allowKey false
  emit (← t)

/-- A token that may be a key. -/
def maybeKey (t : Scan Token) : Scan Unit := do
  saveKey
  allowKey false
  emit (← t)

/-- An entry of a block sequence, or the key of an entry of a block mapping. -/
def blockIndicator (opening token : Token) (keyAfterwards : Bool) : Scan Unit := do
  let s ← get
  if s.level = 0 then
    if !s.keyAllowed then refuse
    if ← addIndent s.column then emit opening
  allowKey (keyAfterwards || s.level = 0)
  removeKey
  forward 1
  emit token

/-- The colon between a key and its value. -/
def valueIndicator : Scan Unit := do
  let s ← get
  match s.keys.find? fun k => k.level = s.level with
  | some k => do
      set { s with keys := s.keys.filter fun k => k.level ≠ s.level }
      insertAt k.number .key
      if s.level = 0 then
        if ← addIndent k.column then insertAt k.number .blockMappingStart
      allowKey false
  | none => do
      if s.level = 0 then
        if !s.keyAllowed then refuse
        if ← addIndent s.column then emit .blockMappingStart
      allowKey (s.level = 0)
      removeKey
  forward 1
  emit .value

/-- An opening bracket. -/
def openFlow (t : Token) : Scan Unit := do
  saveKey
  modify fun s => { s with level := s.level + 1, keyAllowed := true }
  forward 1
  emit t

/-- A closing bracket. -/
def closeFlow (t : Token) : Scan Unit := do
  removeKey
  modify fun s => { s with level := s.level - 1, keyAllowed := false }
  forward 1
  emit t

/-- Whether a plain scalar begins here. -/
def atPlain : Scan Bool := do
  let c ← peek
  if isSpaceOrEnd c || "-?:,[]\x7b\x7d#&*!|>'\"%@`".toList.contains c then
    let next ← peekAt 1
    let inFlow := 0 < (← get).level
    return !isSpaceOrEnd next && (c = '-' || (!inFlow && (c = '?' || c = ':')))
  else return true

/-- Whether a dash, a question mark or a colon is an indicator here. Between brackets the last two
always are. -/
def isIndicator (c : Char) : Scan Bool := do
  if c = '-' || ((c = '?' || c = ':') && (← get).level = 0) then
    return isSpaceOrEnd (← peekAt 1)
  else return c = '?' || c = ':'

/-- Scan the next token; false at the end of the document. -/
def nextToken : Scan Bool := do
  dropStaleKeys
  skipToToken
  dropStaleKeys
  unwind (← get).column
  let c ← peek
  if c = ending then
    outermost (pure .streamEnd)
    return false
  let s ← get
  let inFlow := 0 < s.level
  let separates ← if s.column = 0 && (c = '-' || c = '.') then atSeparator else pure false
  let indicates ← if separates then pure false else isIndicator c
  if c = '%' && s.column = 0 then outermost directive
  else if separates then
    outermost (do
      forward 3
      return if c = '-' then .documentStart else .documentEnd)
  else if c = '[' then openFlow .flowSequenceStart
  else if c = '\x7b' then openFlow .flowMappingStart
  else if c = ']' then closeFlow .flowSequenceEnd
  else if c = '\x7d' then closeFlow .flowMappingEnd
  else if c = ',' then
    allowKey true
    removeKey
    forward 1
    emit .flowEntry
  else if c = '-' && indicates then blockIndicator .blockSequenceStart .blockEntry true
  else if c = '?' && indicates then blockIndicator .blockMappingStart .key false
  else if c = ':' && indicates then valueIndicator
  else if c = '*' then maybeKey (return .alias (← anchorName))
  else if c = '&' then maybeKey (return .anchor (← anchorName))
  else if c = '!' then maybeKey tag
  else if (c = '|' || c = '>') && !inFlow then
    allowKey true
    removeKey
    emit (← blockScalar (c = '>'))
  else if c = '\'' || c = '"' then maybeKey (quotedScalar (c = '"'))
  else if ← atPlain then maybeKey plainScalar
  else refuse
  return true

end Scan

/-- Scan tokens, each of which takes at least a character. A failure ends the tokens that were ready
when the one that fails was asked for. -/
def tokensFrom (fault? : Option Fault) : Nat → Scanner → Option (List Token)
  | 0, s => some s.tokens.toList
  | n + 1, s =>
      match ((Scan.nextToken.run fault?).run).run s with
      | (.ok true, t) => tokensFrom fault? n t
      | (.ok false, t) => some t.tokens.toList
      | (.error (.failed f), _) => some (s.ready ++ [.unreadable f])
      | (.error .invalid, _) => none

/-- The tokens of a document, unless it is wrong. -/
def tokens? (s : Supply) : Option (List Token) :=
  tokensFrom s.fault? (s.chars.length + 2) { rest := s.chars }

end Assay.Yaml
