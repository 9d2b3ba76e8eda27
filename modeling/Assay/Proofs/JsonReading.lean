import Assay.Json.Reader
import Assay.Json.Writer
import Mathlib.Data.List.Basic

/-! # Reading what was written

Reading undoes writing: a value without floating-point numbers whose objects do not repeat a name is
read back from its text, whatever the layout. Each part is read up to where it ends, so that the
statements are about a text with more behind it.
-/

namespace Assay.Json

/-! ## Texts -/

theorem readUnit_append {digits : List Char} (h : digits.length = 4) (rest : List Char) :
    readUnit (digits ++ rest) = (readUnit digits).map fun u => (u.1, u.2 ++ rest) := by
  match digits, h with
  | [a, b, c, d], _ =>
      simp only [readUnit, List.cons_append, List.nil_append]
      split <;> rfl

theorem readUnit_control :
    ∀ n < 0x20, (Text.hexPadded 4 n).toList.length = 4 ∧
      readUnit (Text.hexPadded 4 n).toList = some (n, []) := by
  decide

/-- A control character is escaped by its number. -/
theorem readText_control {c : Char} (hc : c.toNat < 0x20) (fuel : Nat) (done rest : List Char) :
    readText (fuel + 1) done
        ('\\' :: 'u' :: ((Text.hexPadded 4 c.toNat).toList ++ rest)) =
      readText fuel (c :: done) rest := by
  obtain ⟨hlength, hunit⟩ := readUnit_control c.toNat hc
  have hread : readUnit ((Text.hexPadded 4 c.toNat).toList ++ rest) = some (c.toNat, rest) := by
    rw [readUnit_append hlength, hunit]
    rfl
  have hlow : ¬ (0xd800 ≤ c.toNat) := by omega
  have hhigh : ¬ (0xdc00 ≤ c.toNat) := by omega
  simp [readText, hread, hlow, hhigh, Char.ofNat_toNat]

theorem readText_plain {c : Char} (hquote : c ≠ '"') (hslash : c ≠ '\\') (hc : 0x20 ≤ c.toNat)
    (fuel : Nat) (done rest : List Char) :
    readText (fuel + 1) done (c :: rest) = readText fuel (c :: done) rest := by
  have hnot : ¬ c.toNat < 0x20 := Nat.not_lt.mpr hc
  simp [readText, hslash, hnot]

/-- Each character is read back from how it is written. -/
theorem readText_escapeChar (c : Char) (fuel : Nat) (done rest : List Char) :
    readText (fuel + 1) done ((escapeChar c).toList ++ rest) = readText fuel (c :: done) rest := by
  unfold escapeChar
  split
  next h => subst h; rfl
  split
  next h => subst h; rfl
  split
  next h => subst h; rfl
  split
  next h => subst h; rfl
  split
  next h => subst h; rfl
  split
  next h => subst h; rfl
  split
  next h => subst h; rfl
  split
  next h => simpa using readText_control h fuel done rest
  next hquote hslash _ _ _ _ _ hc =>
    simpa using readText_plain hquote hslash (Nat.not_lt.mp hc) fuel done rest

theorem readText_escaped (cs : List Char) {fuel : Nat} (hfuel : cs.length < fuel)
    (done rest : List Char) :
    readText fuel done (cs.flatMap (fun c => (escapeChar c).toList) ++ '"' :: rest) =
      some (done.reverse ++ cs, rest) := by
  induction cs generalizing fuel done with
  | nil =>
      obtain ⟨fuel, rfl⟩ : ∃ n, fuel = n + 1 := ⟨fuel - 1, by simp at hfuel; omega⟩
      simp [readText]
  | cons c cs ih =>
      obtain ⟨fuel, rfl⟩ : ∃ n, fuel = n + 1 := ⟨fuel - 1, by simp at hfuel; omega⟩
      rw [List.flatMap_cons, List.append_assoc, readText_escapeChar,
        ih (Nat.lt_of_succ_lt_succ hfuel)]
      simp

theorem toList_quote (s : String) :
    (quote s).toList = '"' :: (s.toList.flatMap (fun c => (escapeChar c).toList) ++ ['"']) := by
  simp [quote, List.flatMap_map]

theorem length_le_escaped (cs : List Char) :
    cs.length ≤ (cs.flatMap fun c => (escapeChar c).toList).length := by
  have hone : ∀ c, 1 ≤ (escapeChar c).toList.length := by
    intro c
    unfold escapeChar
    repeat' split
    all_goals simp
  induction cs with
  | nil => exact Nat.le_refl _
  | cons c cs ih =>
      rw [List.flatMap_cons, List.length_append, List.length_cons]
      have := hone c
      omega

/-- A text is read up to its closing quote, with the fuel that the characters behind its opening one
give. -/
theorem readText_quote (s : String) (rest : List Char) :
    let behind := s.toList.flatMap (fun c => (escapeChar c).toList) ++ '"' :: rest
    readText (behind.length + 1) [] behind = some (s.toList, rest) := by
  have hlength := length_le_escaped s.toList
  refine (readText_escaped s.toList ?_ [] rest).trans (by simp)
  rw [List.length_append, List.length_cons]
  omega

/-! ## Numbers -/

/-- What may follow a value: nothing that could belong to a number. -/
def Ends (rest : List Char) : Prop :=
  ∀ c ∈ rest.head?, c.isDigit = false ∧ c ≠ '.' ∧ c ≠ 'e' ∧ c ≠ 'E'

theorem Ends.takeWhile {rest : List Char} (h : Ends rest) : rest.takeWhile Char.isDigit = [] := by
  cases rest with
  | nil => rfl
  | cons c rest => simp [(h c rfl).1]

theorem numberOf_toDigits (n : Nat) : numberOf (Nat.toDigits 10 n) = n := by
  have hfold := Nat.ofDigitChars_ten_toDigits (n := n)
  rw [Nat.ofDigitChars_eq_foldl] at hfold
  calc numberOf (Nat.toDigits 10 n)
      = (Nat.toDigits 10 n).foldl (fun sofar c => 10 * sofar + (c.toNat - '0'.toNat)) 0 := by
        unfold numberOf
        congr 1
        funext sofar c
        rw [Nat.mul_comm]
        rfl
    _ = n := hfold

/-- Only the number zero is written with a zero at the front. -/
theorem toDigits_head {n : Nat} (hn : n ≠ 0) :
    (Nat.toDigits 10 n).head? ≠ some '0' := by
  induction n using Nat.strongRecOn with
  | ind n ih =>
      by_cases hsmall : n < 10
      · have hdigits : ∀ d < 10, d ≠ 0 → (Nat.toDigits 10 d).head? ≠ some '0' := by decide
        exact hdigits n hsmall hn
      · have hsplit := Nat.toDigits_append_toDigits (b := 10) (n := n / 10) (d := n % 10) (by omega)
          (by omega) (Nat.mod_lt n (by omega))
        rw [Nat.div_add_mod] at hsplit
        have hne := Nat.toDigits_ne_nil (b := 10) (n := n / 10)
        rw [← hsplit, List.head?_append_of_ne_nil _ hne]
        exact ih (n / 10) (by omega) (by omega)

theorem readWhole_toDigits (n : Nat) {rest : List Char} (hrest : Ends rest) :
    readWhole (Nat.toDigits 10 n ++ rest) = some (Nat.toDigits 10 n, rest) := by
  by_cases hn : n = 0
  · subst hn
    rfl
  · have hall : ∀ c ∈ Nat.toDigits 10 n, c.isDigit = true :=
      fun c hc => Nat.isDigit_of_mem_toDigits (by omega) (by omega) hc
    have htake : (Nat.toDigits 10 n ++ rest).takeWhile Char.isDigit = Nat.toDigits 10 n := by
      rw [List.takeWhile_append_of_pos hall, hrest.takeWhile, List.append_nil]
    have hne := Nat.toDigits_ne_nil (b := 10) (n := n)
    unfold readWhole
    split
    next more hmore =>
      -- the digits do not begin with a zero
      refine absurd ?_ (toDigits_head hn)
      have hhead : (Nat.toDigits 10 n ++ rest).head? = (Nat.toDigits 10 n).head? :=
        List.head?_append_of_ne_nil _ hne
      rw [← hhead, hmore]
      rfl
    next =>
      simp [htake, hne]

theorem isDigit_head_toDigits (n : Nat) :
    ∃ d digits, Nat.toDigits 10 n = d :: digits ∧ d.isDigit = true := by
  obtain ⟨d, digits, h⟩ := List.exists_cons_of_ne_nil (Nat.toDigits_ne_nil (b := 10) (n := n))
  exact ⟨d, digits, h, Nat.isDigit_of_mem_toDigits (by omega) (by omega) (h ▸ List.mem_cons_self)⟩

theorem toList_writeInt (n : Int) :
    (writeInt n).toList =
      if n < 0 then '-' :: Nat.toDigits 10 n.natAbs else Nat.toDigits 10 n.natAbs := by
  unfold writeInt
  split <;> simp

/-- A number ends where neither places nor an exponent follow. -/
theorem readNumber_digits (n : Nat) (negative : Bool) {rest : List Char} (hrest : Ends rest) :
    readNumber ((if negative then ['-'] else []) ++ (Nat.toDigits 10 n ++ rest)) =
      some (int (if negative then -(n : Int) else n), rest) := by
  have hwhole := readWhole_toDigits n hrest
  have hsign : (((if negative then ['-'] else []) ++ (Nat.toDigits 10 n ++ rest)).head? =
      some '-') ↔ negative = true := by
    obtain ⟨d, digits, hd, hdigit⟩ := isDigit_head_toDigits n
    have hne : d ≠ '-' := by
      rintro rfl
      exact absurd hdigit (by decide)
    cases negative <;> simp [hd, hne]
  have hbehind : (if negative then ((if negative then ['-'] else []) ++
      (Nat.toDigits 10 n ++ rest)).drop 1 else (if negative then ['-'] else []) ++
      (Nat.toDigits 10 n ++ rest)) = Nat.toDigits 10 n ++ rest := by
    cases negative <;> rfl
  unfold readNumber
  simp only [hsign, hbehind, hwhole]
  cases rest with
  | nil => simp [numberOf_toDigits]
  | cons c more =>
      obtain ⟨_, hpoint, he, hE⟩ := hrest c rfl
      simp [hpoint, he, hE, numberOf_toDigits]

theorem readNumber_writeInt (n : Int) {rest : List Char} (hrest : Ends rest) :
    readNumber ((writeInt n).toList ++ rest) = some (int n, rest) := by
  rw [toList_writeInt]
  split
  next h =>
    have hread := readNumber_digits n.natAbs true hrest
    rwa [if_pos rfl, show (-(n.natAbs : Int)) = n by omega] at hread
  next h =>
    have hread := readNumber_digits n.natAbs false hrest
    rwa [if_neg Bool.false_ne_true, if_neg Bool.false_ne_true,
      show (n.natAbs : Int) = n by omega] at hread

/-! ## What can be read back -/

mutual

/-- Whether a value has no floating-point numbers. -/
def isExact : Json → Bool
  | float _ => false
  | array items => areExact items
  | object fields => fieldsExact fields
  | _ => true

/-- Whether no item has floating-point numbers. -/
def areExact : List Json → Bool
  | [] => true
  | j :: rest => isExact j && areExact rest

/-- Whether no field has floating-point numbers. -/
def fieldsExact : List (String × Json) → Bool
  | [] => true
  | (_, j) :: rest => isExact j && fieldsExact rest

end

mutual

/-- No object in a value repeats a name. -/
def Distinct : Json → Prop
  | array items => DistinctItems items
  | object fields => (fields.map Prod.fst).Nodup ∧ DistinctFields fields
  | _ => True

/-- No object in the items repeats a name. -/
def DistinctItems : List Json → Prop
  | [] => True
  | j :: rest => Distinct j ∧ DistinctItems rest

/-- No object in the fields repeats a name. -/
def DistinctFields : List (String × Json) → Prop
  | [] => True
  | (_, j) :: rest => Distinct j ∧ DistinctFields rest

end

/-! ## Layout -/

/-- Characters that do not count between the parts of a value. -/
def AllBlank (cs : List Char) : Prop := ∀ c ∈ cs, c = ' ' ∨ c = '\n'

theorem AllBlank.skip {blanks : List Char} (h : AllBlank blanks) (rest : List Char) :
    skipBlanks (blanks ++ rest) = skipBlanks rest := by
  refine List.dropWhile_append_of_pos fun c hc => ?_
  rcases h c hc with rfl | rfl <;> rfl

theorem skipBlanks_cons {c : Char} (hc : c ∉ [' ', '\n', '\r', '\t']) (rest : List Char) :
    skipBlanks (c :: rest) = c :: rest := by
  simp only [List.mem_cons, List.not_mem_nil, or_false, not_or] at hc
  simp [skipBlanks, hc]

theorem allBlank_breakLine (i : Indent) (depth : Nat) : AllBlank (i.breakLine depth).toList := by
  intro c hc
  cases i with
  | oneLine => simp [Indent.breakLine] at hc
  | lines blanks =>
      simp only [Indent.breakLine, String.toList_append, String.toList_ofList,
        List.mem_append] at hc
      rcases hc with hc | hc
      · exact .inr (by simpa using hc)
      · exact .inl (List.eq_of_mem_replicate hc)

/-- Items are set apart by a comma, behind which blanks do not count. -/
theorem toList_separator (i : Indent) (depth : Nat) :
    ∃ blanks, (i.separator depth).toList = ',' :: blanks ∧ AllBlank blanks := by
  cases i with
  | oneLine => exact ⟨[' '], by simp [Indent.separator], by simp [AllBlank]⟩
  | lines n =>
      exact ⟨((Indent.lines n).breakLine depth).toList, by simp [Indent.separator],
        allBlank_breakLine _ _⟩

theorem AllBlank.ends {blanks : List Char} (h : AllBlank blanks) {c : Char}
    (hc : c = ',' ∨ c = ']' ∨ c = '\x7d' ∨ c = '\n') (rest : List Char) :
    Ends (blanks ++ c :: rest) := by
  cases blanks with
  | nil =>
      rintro d hd
      cases hd
      rcases hc with rfl | rfl | rfl | rfl <;> decide
  | cons b blanks =>
      rintro d hd
      cases hd
      rcases h b List.mem_cons_self with rfl | rfl <;> decide

theorem ends_comma (rest : List Char) : Ends (',' :: rest) :=
  AllBlank.ends (fun _ h => absurd h List.not_mem_nil) (.inl rfl) rest

theorem readValue_skip {blanks : List Char} (h : AllBlank blanks) (fuel : Nat)
    (rest : List Char) : readValue fuel (blanks ++ rest) = readValue fuel rest := by
  cases fuel with
  | zero => rfl
  | succ fuel => rw [readValue, h.skip, ← readValue]

theorem readItems_skip {blanks : List Char} (h : AllBlank blanks) (fuel : Nat)
    (rest : List Char) : readItems fuel (blanks ++ rest) = readItems fuel rest := by
  cases fuel with
  | zero => rfl
  | succ fuel => simp only [readItems, readValue_skip h]

theorem readFields_skip {blanks : List Char} (h : AllBlank blanks) (fuel : Nat)
    (rest : List Char) : readFields fuel (blanks ++ rest) = readFields fuel rest := by
  cases fuel with
  | zero => rfl
  | succ fuel => simp only [readFields, h.skip]

/-! ## Single steps -/

/-- A text that begins neither with a blank nor with the end of an array or an object. -/
def Starts (cs : List Char) : Prop :=
  ∃ c rest, cs = c :: rest ∧ c ∉ [' ', '\n', '\r', '\t', ']', '\x7d']

namespace Starts

theorem append {cs : List Char} (h : Starts cs) (rest : List Char) : Starts (cs ++ rest) := by
  obtain ⟨c, more, rfl, hc⟩ := h
  exact ⟨c, more ++ rest, rfl, hc⟩

theorem skip {cs : List Char} (h : Starts cs) : skipBlanks cs = cs := by
  obtain ⟨c, more, rfl, hc⟩ := h
  exact skipBlanks_cons (fun hmem => hc (by simp at hmem ⊢; tauto)) more

end Starts

theorem starts_render (i : Indent) (depth : Nat) {j : Json} (hj : j.isExact = true) :
    Starts (render i depth j).toList := by
  cases j with
  | float x => cases hj
  | null => exact ⟨'n', ['u', 'l', 'l'], by simp [render], by decide⟩
  | bool b => cases b with
    | true => exact ⟨'t', ['r', 'u', 'e'], by simp [render], by decide⟩
    | false => exact ⟨'f', ['a', 'l', 's', 'e'], by simp [render], by decide⟩
  | int n =>
      obtain ⟨d, digits, hd, hdigit⟩ := isDigit_head_toDigits n.natAbs
      rw [render, toList_writeInt, hd]
      split
      next => exact ⟨'-', _, rfl, by decide⟩
      next =>
        refine ⟨d, digits, rfl, fun hmem => ?_⟩
        have hnone : ∀ c ∈ [' ', '\n', '\r', '\t', ']', '\x7d'], c.isDigit = false := by simp
        exact absurd hdigit (by simp [hnone d hmem])
  | text s => exact ⟨'"', _, toList_quote s, by decide⟩
  | array items =>
      refine ⟨'[', (render i depth (array items)).toList.tail, ?_, by decide⟩
      rw [render, Indent.enclose]
      split <;> simp
  | object fields =>
      refine ⟨'\x7b', (render i depth (object fields)).toList.tail, ?_, by decide⟩
      rw [render, Indent.enclose]
      split <;> simp

theorem readValue_number {cs : List Char} {d : Char} (hd : d.isDigit = true) (fuel : Nat) :
    readValue (fuel + 1) (d :: cs) = readNumber (d :: cs) ∧
      readValue (fuel + 1) ('-' :: d :: cs) = readNumber ('-' :: d :: cs) := by
  have hne : ∀ c ∈ [' ', '\n', '\r', '\t', 'n', 't', 'f', 'N', 'I', '-', '"', '[', '\x7b'],
      d ≠ c := by
    have hnone : ∀ c ∈ [' ', '\n', '\r', '\t', 'n', 't', 'f', 'N', 'I', '-', '"', '[', '\x7b'],
        c.isDigit = false := by simp
    rintro c hc rfl
    exact absurd hd (by simp [hnone d hc])
  simp only [List.forall_mem_cons, List.not_mem_nil, false_implies, implies_true, and_true] at hne
  obtain ⟨h1, h2, h3, h4, h5, h6, h7, h8, h9, h10, h11, h12, h13⟩ := hne
  have hdigit : skipBlanks (d :: cs) = d :: cs := skipBlanks_cons (by simp [h1, h2, h3, h4]) cs
  have hminus : skipBlanks ('-' :: d :: cs) = '-' :: d :: cs := skipBlanks_cons (by decide) _
  constructor
  · rw [readValue, hdigit]
    simp [h5, h6, h7, h8, h9, h10, h11, h12, h13]
  · rw [readValue, hminus]
    simp [h9]

theorem readValue_writeInt (n : Int) (fuel : Nat) {rest : List Char} (hrest : Ends rest) :
    readValue (fuel + 1) ((writeInt n).toList ++ rest) = some (int n, rest) := by
  rw [← readNumber_writeInt n hrest, toList_writeInt]
  obtain ⟨d, digits, hd, hdigit⟩ := isDigit_head_toDigits n.natAbs
  rw [hd]
  split
  next => exact (readValue_number hdigit fuel).2
  next => exact (readValue_number hdigit fuel).1

theorem readValue_quote (s : String) (fuel : Nat) (rest : List Char) :
    readValue (fuel + 1) ((quote s).toList ++ rest) = some (text s, rest) := by
  rw [toList_quote, List.cons_append, List.append_assoc, readValue,
    skipBlanks_cons (by decide)]
  simp only [List.cons_append, List.nil_append, readText_quote, Option.map_some,
    String.ofList_toList]

theorem setField_of_not_mem {name : String} (value : Json) {fields : List (String × Json)}
    (h : name ∉ fields.map Prod.fst) : setField name value fields = fields ++ [(name, value)] := by
  induction fields with
  | nil => rfl
  | cons f rest ih =>
      rw [List.map_cons, List.mem_cons, not_or] at h
      simp [setField, Ne.symm h.1, ih h.2]

/-- Fields are taken as they are if none of them repeats a name. -/
theorem foldl_setField {fields : List (String × Json)} (h : (fields.map Prod.fst).Nodup) :
    fields.foldl (fun all f => setField f.1 f.2 all) [] = fields := by
  suffices hbehind : ∀ done : List (String × Json), ((done ++ fields).map Prod.fst).Nodup →
      fields.foldl (fun all f => setField f.1 f.2 all) done = done ++ fields from hbehind [] h
  clear h
  induction fields with
  | nil => simp
  | cons f rest ih =>
      intro done h
      have hnew : f.1 ∉ done.map Prod.fst := by
        rw [List.map_append, List.map_cons] at h
        intro hmem
        exact (List.nodup_append.mp h).2.2 f.1 hmem f.1 List.mem_cons_self rfl
      rw [List.foldl_cons, setField_of_not_mem f.2 hnew, ih _ (by simpa using h)]
      simp

/-! ## Values -/

section

variable {i : Indent} {depth fuel : Nat} {rest : List Char}

/-- The last item of an array is followed by the closing bracket. -/
theorem readItems_last {cs blanks : List Char} {j : Json} (hblanks : AllBlank blanks)
    (hread : readValue fuel (cs ++ (blanks ++ ']' :: rest)) = some (j, blanks ++ ']' :: rest)) :
    readItems (fuel + 1) (cs ++ (blanks ++ ']' :: rest)) = some ([j], rest) := by
  simp only [readItems, hread, hblanks.skip, skipBlanks_cons (c := ']') (by decide)]

/-- Other items are followed by a comma. -/
theorem readItems_more {cs blanks more : List Char} {j : Json} {js : List Json}
    (hblanks : AllBlank blanks)
    (hread : readValue fuel (cs ++ ',' :: (blanks ++ more)) = some (j, ',' :: (blanks ++ more)))
    (hmore : readItems fuel more = some (js, rest)) :
    readItems (fuel + 1) (cs ++ ',' :: (blanks ++ more)) = some (j :: js, rest) := by
  simp only [readItems, hread, skipBlanks_cons (c := ',') (by decide), readItems_skip hblanks,
    hmore, Option.map_some]

/-- The fields from one on, read from what is behind its value. -/
def readFurther (fuel : Nat) (field : String × Json) (behind : List Char) :
    Option (List (String × Json) × List Char) :=
  match skipBlanks behind with
  | '\x7d' :: rest => some ([field], rest)
  | ',' :: rest => (readFields fuel rest).map fun (fields, rest) => (field :: fields, rest)
  | _ => none

/-- A field is its name, a colon and its value; then the fields go on or end. -/
theorem readFields_field {cs behind : List Char} (name : String) {j : Json}
    (hread : readValue fuel (cs ++ behind) = some (j, behind)) :
    readFields (fuel + 1) ((quote name ++ ": ").toList ++ (cs ++ behind)) =
      readFurther fuel (name, j) behind := by
  have hblank : AllBlank [' '] := by simp [AllBlank]
  have hspace : readValue fuel (' ' :: (cs ++ behind)) = some (j, behind) :=
    (readValue_skip hblank fuel _).trans hread
  have hcolon : (": ").toList = [':', ' '] := by simp
  rw [String.toList_append, toList_quote, hcolon]
  simp only [List.cons_append, List.append_assoc, List.nil_append, readFields,
    skipBlanks_cons (c := '"') (by decide), readText_quote, skipBlanks_cons (c := ':') (by decide),
    hspace, String.ofList_toList]
  rfl

theorem readFields_last {cs blanks : List Char} (name : String) {j : Json}
    (hblanks : AllBlank blanks)
    (hread : readValue fuel (cs ++ (blanks ++ '\x7d' :: rest)) =
      some (j, blanks ++ '\x7d' :: rest)) :
    readFields (fuel + 1) ((quote name ++ ": ").toList ++ (cs ++ (blanks ++ '\x7d' :: rest))) =
      some ([(name, j)], rest) := by
  simp only [readFields_field name hread, readFurther, hblanks.skip,
    skipBlanks_cons (c := '\x7d') (by decide)]

theorem readFields_more {cs blanks more : List Char} (name : String) {j : Json}
    {fields : List (String × Json)} (hblanks : AllBlank blanks)
    (hread : readValue fuel (cs ++ ',' :: (blanks ++ more)) = some (j, ',' :: (blanks ++ more)))
    (hmore : readFields fuel more = some (fields, rest)) :
    readFields (fuel + 1) ((quote name ++ ": ").toList ++ (cs ++ ',' :: (blanks ++ more))) =
      some ((name, j) :: fields, rest) := by
  simp only [readFields_field name hread, readFurther, skipBlanks_cons (c := ',') (by decide),
    readFields_skip hblanks, hmore, Option.map_some]

end

/-- The text of items that are set apart. -/
def joined (i : Indent) (depth : Nat) (items : List String) : List Char :=
  ((i.separator depth).intercalate items).toList

theorem joined_cons (i : Indent) (depth : Nat) (item next : String) (items : List String) :
    ∃ blanks, AllBlank blanks ∧ joined i depth (item :: next :: items) =
      item.toList ++ ',' :: (blanks ++ joined i depth (next :: items)) := by
  obtain ⟨blanks, hblanks, hall⟩ := toList_separator i depth
  refine ⟨blanks, hall, ?_⟩
  simp [joined, String.intercalate_cons_cons, hblanks]

/-- Items stand between two brackets, and blanks beside them. -/
theorem toList_enclose (i : Indent) (depth : Nat) {opening closing : String} {o c : Char}
    (ho : opening.toList = [o]) (hc : closing.toList = [c]) (item : String) (items : List String) :
    ∃ before after, AllBlank before ∧ AllBlank after ∧
      (joined i (depth + 1) (item :: items)).length + 2 ≤
        (i.enclose depth opening closing (item :: items)).toList.length ∧
      ∀ rest, (i.enclose depth opening closing (item :: items)).toList ++ rest =
        o :: (before ++ (joined i (depth + 1) (item :: items) ++ (after ++ c :: rest))) := by
  have htext : (i.enclose depth opening closing (item :: items)).toList =
      o :: ((i.breakLine (depth + 1)).toList ++ (joined i (depth + 1) (item :: items) ++
        ((i.breakLine depth).toList ++ [c]))) := by
    simp [Indent.enclose, joined, ho, hc]
  refine ⟨_, _, allBlank_breakLine i (depth + 1), allBlank_breakLine i depth, ?_, fun rest => ?_⟩
  · rw [htext]
    simp only [List.length_cons, List.length_append, List.length_nil]
    omega
  · simp [htext]

theorem starts_joined (i : Indent) (depth : Nat) {item : String} (h : Starts item.toList)
    (items : List String) : Starts (joined i depth (item :: items)) := by
  cases items with
  | nil => simpa [joined] using h
  | cons next items =>
      obtain ⟨blanks, _, hjoined⟩ := joined_cons i depth item next items
      exact hjoined ▸ h.append _

theorem starts_field (i : Indent) (depth : Nat) (name : String) (j : Json) :
    Starts (quote name ++ ": " ++ render i depth j).toList := by
  rw [String.toList_append, String.toList_append, toList_quote]
  exact ⟨'"', _, rfl, by decide⟩

/-- An array with items is read by its items. -/
theorem readValue_array {fuel : Nat} {before cs rest : List Char} {js : List Json}
    (hbefore : AllBlank before) (hcs : Starts cs) (hread : readItems fuel cs = some (js, rest)) :
    readValue (fuel + 1) ('[' :: (before ++ cs)) = some (array js, rest) := by
  simp only [readValue, skipBlanks_cons (c := '[') (by decide), hbefore.skip, hcs.skip]
  obtain ⟨c, more, rfl, hc⟩ := hcs
  have hne : c ≠ ']' := by
    rintro rfl
    exact hc (by decide)
  simp [hne, hread]

/-- An object with fields is read by its fields. -/
theorem readValue_object {fuel : Nat} {before cs rest : List Char} {fields : List (String × Json)}
    (hbefore : AllBlank before) (hcs : Starts cs) (hnames : (fields.map Prod.fst).Nodup)
    (hread : readFields fuel cs = some (fields, rest)) :
    readValue (fuel + 1) ('\x7b' :: (before ++ cs)) = some (object fields, rest) := by
  simp only [readValue, skipBlanks_cons (c := '\x7b') (by decide), hbefore.skip, hcs.skip]
  obtain ⟨c, more, rfl, hc⟩ := hcs
  have hne : c ≠ '\x7d' := by
    rintro rfl
    exact hc (by decide)
  have hfields := foldl_setField hnames
  simp [hne, hread, hfields]

theorem toList_bracket : ("[").toList = ['['] ∧ ("]").toList = [']'] := by simp

theorem toList_brace : ("\x7b").toList = ['\x7b'] ∧ ("\x7d").toList = ['\x7d'] := by simp

mutual

/-- A value is read back from its text with fuel for each of its characters. -/
theorem readValue_render (i : Indent) (depth : Nat) : (j : Json) → j.isExact = true → j.Distinct →
    ∀ {fuel : Nat} {rest : List Char}, (render i depth j).toList.length ≤ fuel → Ends rest →
      readValue fuel ((render i depth j).toList ++ rest) = some (j, rest)
  | j, hexact, hdistinct, 0, rest, hfuel, _ => by
      obtain ⟨c, more, hmore, _⟩ := starts_render i depth hexact
      rw [hmore] at hfuel
      exact absurd hfuel (by simp)
  | .null, _, _, fuel + 1, rest, _, _ => by
      simp [render, readValue, skipBlanks]
  | .bool b, _, _, fuel + 1, rest, _, _ => by
      cases b <;> simp [render, readValue, skipBlanks]
  | .int n, _, _, fuel + 1, rest, _, hrest => readValue_writeInt n fuel hrest
  | .float _, hexact, _, _, _, _, _ => nomatch hexact
  | .text s, _, _, fuel + 1, rest, _, _ => readValue_quote s fuel rest
  | .array [], _, _, fuel + 1, rest, _, _ => by
      simp [render, renderItems, Indent.enclose, readValue, skipBlanks]
  | .object [], _, _, fuel + 1, rest, _, _ => by
      simp [render, renderFields, Indent.enclose, readValue, skipBlanks]
  | .array (j :: js), hexact, hdistinct, fuel + 1, rest, hfuel, hrest => by
      obtain ⟨before, after, hbefore, hafter, hlength, htext⟩ := toList_enclose i depth
        toList_bracket.1 toList_bracket.2 (render i (depth + 1) j) (renderItems i (depth + 1) js)
      have hstarts := starts_joined i (depth + 1)
        (starts_render i (depth + 1) (Bool.and_eq_true_iff.mp hexact).1)
        (renderItems i (depth + 1) js)
      rw [render, renderItems] at hfuel ⊢
      rw [htext]
      refine readValue_array hbefore (hstarts.append _) ?_
      exact readItems_render i (depth + 1) (j :: js) (List.cons_ne_nil j js) hexact hdistinct
        (by rw [renderItems]; omega) hafter
  | .object ((name, j) :: fields), hexact, hdistinct, fuel + 1, rest, hfuel, hrest => by
      obtain ⟨before, after, hbefore, hafter, hlength, htext⟩ := toList_enclose i depth
        toList_brace.1 toList_brace.2 (quote name ++ ": " ++ render i (depth + 1) j)
        (renderFields i (depth + 1) fields)
      have hstarts := starts_joined i (depth + 1) (starts_field i (depth + 1) name j)
        (renderFields i (depth + 1) fields)
      rw [render, renderFields] at hfuel ⊢
      rw [htext]
      refine readValue_object hbefore (hstarts.append _) hdistinct.1 ?_
      exact readFields_render i (depth + 1) ((name, j) :: fields) (List.cons_ne_nil _ fields) hexact
        hdistinct.2 (by rw [renderFields]; omega) hafter

/-- The items of an array are read back up to its end. -/
theorem readItems_render (i : Indent) (depth : Nat) : (js : List Json) → js ≠ [] →
    areExact js = true → DistinctItems js → ∀ {fuel : Nat} {blanks rest : List Char},
      (joined i depth (renderItems i depth js)).length < fuel → AllBlank blanks →
      readItems fuel (joined i depth (renderItems i depth js) ++ (blanks ++ ']' :: rest)) =
        some (js, rest)
  | [], hne, _, _, _, _, _, _, _ => absurd rfl hne
  | [j], _, hexact, hdistinct, fuel + 1, blanks, rest, hfuel, hblanks => by
      have hjoined : joined i depth (renderItems i depth [j]) = (render i depth j).toList := by
        simp [joined, renderItems]
      rw [hjoined] at hfuel ⊢
      refine readItems_last hblanks (readValue_render i depth j ?_ hdistinct.1 ?_ ?_)
      · exact (Bool.and_eq_true_iff.mp hexact).1
      · exact Nat.le_of_lt_succ hfuel
      · exact hblanks.ends (by decide) rest
  | j :: k :: js, _, hexact, hdistinct, fuel + 1, blanks, rest, hfuel, hblanks => by
      obtain ⟨between, hbetween, hjoined⟩ := joined_cons i depth (render i depth j)
        (render i depth k) (renderItems i depth js)
      rw [renderItems, renderItems, hjoined] at hfuel ⊢
      simp only [List.length_append, List.length_cons] at hfuel
      simp only [List.cons_append, List.append_assoc]
      have hexact := Bool.and_eq_true_iff.mp hexact
      refine readItems_more hbetween (readValue_render i depth j hexact.1 hdistinct.1 (by omega) ?_)
        (readItems_render i depth (k :: js) (List.cons_ne_nil k js) hexact.2 hdistinct.2 ?_ hblanks)
      · exact ends_comma _
      · rw [renderItems]
        omega

/-- The fields of an object are read back up to its end. -/
theorem readFields_render (i : Indent) (depth : Nat) : (fields : List (String × Json)) →
    fields ≠ [] → fieldsExact fields = true → DistinctFields fields →
    ∀ {fuel : Nat} {blanks rest : List Char},
      (joined i depth (renderFields i depth fields)).length < fuel → AllBlank blanks →
      readFields fuel (joined i depth (renderFields i depth fields) ++ (blanks ++ '\x7d' :: rest)) =
        some (fields, rest)
  | [], hne, _, _, _, _, _, _, _ => absurd rfl hne
  | [(name, j)], _, hexact, hdistinct, fuel + 1, blanks, rest, hfuel, hblanks => by
      have hjoined : joined i depth (renderFields i depth [(name, j)]) =
          (quote name ++ ": ").toList ++ (render i depth j).toList := by
        simp [joined, renderFields]
      rw [hjoined, List.length_append] at hfuel
      rw [hjoined, List.append_assoc]
      refine readFields_last name hblanks (readValue_render i depth j ?_ hdistinct.1 ?_ ?_)
      · exact (Bool.and_eq_true_iff.mp hexact).1
      · omega
      · exact hblanks.ends (by decide) rest
  | (name, j) :: (next, k) :: fields, _, hexact, hdistinct, fuel + 1, blanks, rest, hfuel,
      hblanks => by
      obtain ⟨between, hbetween, hjoined⟩ := joined_cons i depth
        (quote name ++ ": " ++ render i depth j) (quote next ++ ": " ++ render i depth k)
        (renderFields i depth fields)
      rw [renderFields, renderFields, hjoined] at hfuel ⊢
      rw [String.toList_append] at hfuel ⊢
      simp only [List.length_append, List.length_cons] at hfuel
      simp only [List.cons_append, List.append_assoc]
      have hexact := Bool.and_eq_true_iff.mp hexact
      refine readFields_more name hbetween
        (readValue_render i depth j hexact.1 hdistinct.1 (by omega) ?_)
        (readFields_render i depth ((next, k) :: fields) (List.cons_ne_nil _ fields) hexact.2
          hdistinct.2 ?_ hblanks)
      · exact ends_comma _
      · rw [renderFields]
        omega

end

/-- Reading undoes writing: a value is read back from its text, behind which a line ends. -/
theorem parse?_render (i : Indent) {j : Json} (hexact : j.isExact = true) (hdistinct : j.Distinct) :
    parse? (render i 0 j ++ "\n") = some j := by
  have hend : ("\n").toList = ['\n'] := by simp
  have hread : readValue (((render i 0 j).toList ++ ['\n']).length + 1)
      ((render i 0 j).toList ++ ['\n']) = some (j, ['\n']) := by
    refine readValue_render i 0 j hexact hdistinct ?_ ?_
    · rw [List.length_append]
      omega
    · rintro c ⟨⟩
      decide
  rw [parse?, String.toList_append, hend]
  simp only [hread]
  simp [skipBlanks]

end Assay.Json
