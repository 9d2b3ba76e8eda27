import Assay.File.Uri
import Assay.Proofs.WrittenFile
import Assay.Text.Hex

/-! # What a URI says

A reader of a URI takes each escape for a byte and any other character for itself, and decodes the
bytes. What was escaped is read back. A text that was not escaped is read as it stands unless it
happens to have an escape: each one leaves fewer characters than were written.
-/

namespace Assay

namespace Uri

open Text.Utf8 Text.Hex

/-- The bytes that a URI stands for. -/
def bytes : List Char → List UInt8
  | [] => []
  | '%' :: a :: b :: rest =>
      match digit? a, digit? b with
      | some high, some low => UInt8.ofNat (high * 16 + low) :: bytes rest
      -- not an escape, but one may begin right behind
      | _, _ => String.utf8EncodeChar '%' ++ bytes (a :: b :: rest)
  | c :: rest => String.utf8EncodeChar c ++ bytes rest

/-- The text that a URI stands for, if its bytes can be decoded. -/
def decode? (uri : String) : Option String :=
  (decode (bytes uri.toList)).toOption.map String.ofList

/-- Whether a text begins with an escape: a percent sign before two hexadecimal digits. -/
def BeginsEscape (cs : List Char) : Prop :=
  ∃ a b rest, cs = '%' :: a :: b :: rest ∧ (digit? a).isSome ∧ (digit? b).isSome

/-- Whether an escape is somewhere in a text. -/
def HasEscape (cs : List Char) : Prop := ∃ rest, rest <:+ cs ∧ BeginsEscape rest

theorem hasEscape_cons {c : Char} {cs : List Char} :
    HasEscape (c :: cs) ↔ BeginsEscape (c :: cs) ∨ HasEscape cs := by
  simp only [HasEscape, List.suffix_cons_iff, or_and_right, exists_or, exists_eq_left]

theorem not_hasEscape_nil : ¬ HasEscape [] := by
  rintro ⟨rest, hrest, a, b, more, hbegins, -⟩
  rw [List.suffix_nil.mp hrest] at hbegins
  cases hbegins

/-- A percent sign that is not followed by two digits begins no escape. -/
theorem not_beginsEscape {a b : Char} {rest : List Char}
    (h : ∀ high low, digit? a = some high → digit? b = some low → False) :
    ¬ BeginsEscape ('%' :: a :: b :: rest) := by
  rintro ⟨_, _, _, heq, ha, hb⟩
  cases heq
  obtain ⟨high, hhigh⟩ := Option.isSome_iff_exists.mp ha
  obtain ⟨low, hlow⟩ := Option.isSome_iff_exists.mp hb
  exact h high low hhigh hlow

/-! ## Texts without escapes -/

/-- Without escapes each character stands for itself. -/
theorem bytes_of_not_hasEscape {cs : List Char} (h : ¬ HasEscape cs) :
    bytes cs = cs.flatMap String.utf8EncodeChar := by
  fun_induction bytes cs with
  | case1 => rfl
  | case2 a b rest high low hlow hhigh =>
      have hbegins : BeginsEscape ('%' :: a :: b :: rest) :=
        ⟨a, b, rest, rfl, by simp [hhigh], by simp [hlow]⟩
      exact absurd (hasEscape_cons.mpr (.inl hbegins)) h
  | case3 a b rest _ ih | case4 c rest _ ih =>
      rw [List.flatMap_cons, ih fun hmore => h (hasEscape_cons.mpr (.inr hmore))]

theorem decode?_of_bytes {uri s : String} (h : bytes uri.toList = encode s) :
    decode? uri = some s := by
  rw [decode?, h, decode_encode]
  exact congrArg some String.ofList_toList

theorem decode?_of_not_hasEscape {s : String} (h : ¬ HasEscape s.toList) : decode? s = some s :=
  decode?_of_bytes (by rw [bytes_of_not_hasEscape h, encode_eq])

/-! ## Texts that were escaped -/

theorem bytes_cons {c : Char} {rest : List Char} (hc : c ≠ '%') :
    bytes (c :: rest) = String.utf8EncodeChar c ++ bytes rest := by
  rw [bytes]
  intro a b more h
  exact absurd h hc

/-- Characters in front that are no percent signs stand for themselves. -/
theorem bytes_append {front rest : List Char} (h : '%' ∉ front) :
    bytes (front ++ rest) = front.flatMap String.utf8EncodeChar ++ bytes rest := by
  induction front with
  | nil => rfl
  | cons c front ih =>
      rw [List.mem_cons, not_or] at h
      rw [List.cons_append, bytes_cons (Ne.symm h.1), ih h.2, List.flatMap_cons, List.append_assoc]

theorem digits_hexPadded : ∀ n < 256,
    (Text.hexPadded 2 n).toUpper.toList.map digit? = [some (n / 16), some (n % 16)] := by
  decide +kernel

/-- A byte that stands for itself is the only one of its character, which is no percent sign. -/
theorem char_of_isUriByte : ∀ n < 256, Path.isUriByte (UInt8.ofNat n) = true →
    Char.ofNat n ≠ '%' ∧ String.utf8EncodeChar (Char.ofNat n) = [UInt8.ofNat n] := by
  decide +kernel

/-- A byte is read back from the way it is written. -/
theorem bytes_uriByte (b : UInt8) (rest : List Char) :
    bytes ((Path.uriByte b).toList ++ rest) = b :: bytes rest := by
  have hb : b.toNat < 256 := b.toNat_lt
  unfold Path.uriByte
  split
  next hself =>
    have hchar := char_of_isUriByte b.toNat hb
    rw [UInt8.ofNat_toNat] at hchar
    obtain ⟨hne, hencode⟩ := hchar hself
    have hone : (Char.ofNat b.toNat).toString.toList = [Char.ofNat b.toNat] :=
      String.toList_singleton _
    rw [hone, List.singleton_append, bytes_cons hne, hencode, List.singleton_append]
  next =>
    obtain ⟨a, more, hdigits, hhigh, hmore⟩ := List.map_eq_cons_iff.mp (digits_hexPadded b.toNat hb)
    obtain ⟨c, _, rfl, hlow, hnil⟩ := List.map_eq_cons_iff.mp hmore
    obtain rfl := List.map_eq_nil_iff.mp hnil
    have hwhole : ("%" ++ (Text.hexPadded 2 b.toNat).toUpper).toList = ['%', a, c] := by
      rw [String.toList_append, hdigits]
      rfl
    have hvalue : UInt8.ofNat (b.toNat / 16 * 16 + b.toNat % 16) = b := by
      rw [Nat.div_add_mod', UInt8.ofNat_toNat]
    rw [hwhole]
    simp [bytes, hhigh, hlow, hvalue]

theorem bytes_uriBytes (bs : List UInt8) (rest : List Char) :
    bytes ((String.join (bs.map Path.uriByte)).toList ++ rest) = bs ++ bytes rest := by
  induction bs with
  | nil => simp
  | cons b bs ih =>
      rw [List.map_cons, String.join_cons, String.toList_append, List.append_assoc, bytes_uriByte,
        ih, List.cons_append]

/-- An escaped path is read back, with what is written behind it. -/
theorem decode?_toUri_append (p : Path) {s : String} (hs : ¬ HasEscape s.toList) :
    decode? (p.toUri ++ s) = some ("file://" ++ p.toString ++ s) := by
  have hfile : '%' ∉ "file://".toList := by decide
  have hbytes : bytes (p.toUri ++ s).toList = encode ("file://" ++ p.toString ++ s) := by
    rw [Path.toUri, String.toList_append, String.toList_append, List.append_assoc,
      bytes_append hfile, bytes_uriBytes, bytes_of_not_hasEscape hs]
    simp only [encode_eq, String.toList_append, List.flatMap_append, List.append_assoc]
  exact decode?_of_bytes hbytes

/-! ## Fewer characters -/

/-- How many characters begin among bytes. -/
def starts (bs : List UInt8) : Nat := bs.countP fun b => !isContinuation b

theorem starts_append (bs cs : List UInt8) : starts (bs ++ cs) = starts bs + starts cs :=
  List.countP_append

theorem isContinuation_eq_false {n : Nat} (h : n < 0x80 ∨ 0xc0 ≤ n) (hn : n < 256) :
    isContinuation (UInt8.ofNat n) = false := by
  have hvalue := toNat_byte hn
  simp only [isContinuation, UInt8.le_iff_toNat_le, UInt8.lt_iff_toNat_lt, hvalue]
  grind

/-- Only the first byte of a character does not continue one. -/
theorem starts_utf8EncodeChar (c : Char) : starts (String.utf8EncodeChar c) = 1 := by
  have hvalid : c.toNat < 0xd800 ∨ 0xdfff < c.toNat ∧ c.toNat < 0x110000 := c.valid
  have hvalue : c.val.toNat = c.toNat := rfl
  unfold String.utf8EncodeChar
  simp only [hvalue]
  generalize c.toNat = n at *
  -- whatever the length, the first byte is below or beyond the others
  split
  · simp (disch := omega) [starts, isContinuation_eq_false]
  split
  · simp (disch := omega) only [starts, List.countP_cons, List.countP_nil, isContinuation_eq_false,
      isContinuation_byte]
    rfl
  split
  · simp (disch := omega) only [starts, List.countP_cons, List.countP_nil, isContinuation_eq_false,
      isContinuation_byte]
    rfl
  · simp (disch := omega) only [starts, List.countP_cons, List.countP_nil, isContinuation_eq_false,
      isContinuation_byte]
    rfl

theorem starts_cons_le (b : UInt8) (bs : List UInt8) : starts (b :: bs) ≤ starts bs + 1 := by
  rw [starts, List.countP_cons]
  split <;> simp [starts]

theorem starts_bytes_le (cs : List Char) : starts (bytes cs) ≤ cs.length := by
  fun_induction bytes cs with
  | case1 => exact Nat.le_refl 0
  | case2 a b rest high low _ _ ih =>
      have hbyte := starts_cons_le (UInt8.ofNat (high * 16 + low)) (bytes rest)
      simp only [List.length_cons]
      omega
  | case3 a b rest _ ih =>
      rw [starts_append, starts_utf8EncodeChar, List.length_cons]
      omega
  | case4 c rest _ ih =>
      rw [starts_append, starts_utf8EncodeChar, List.length_cons]
      omega

/-- An escape stands for fewer characters than it has. -/
theorem starts_bytes_lt {cs : List Char} (h : HasEscape cs) : starts (bytes cs) < cs.length := by
  fun_induction bytes cs with
  | case1 => exact absurd h not_hasEscape_nil
  | case2 a b rest high low _ _ ih =>
      -- one byte for three characters; whether more escapes follow does not matter
      have hbyte := starts_cons_le (UInt8.ofNat (high * 16 + low)) (bytes rest)
      have hrest := starts_bytes_le rest
      simp only [List.length_cons]
      omega
  | case3 a b rest hdigits ih =>
      have hmore := ih ((hasEscape_cons.mp h).resolve_left (not_beginsEscape hdigits))
      rw [starts_append, starts_utf8EncodeChar, List.length_cons]
      omega
  | case4 c rest hfirst ih =>
      have hbegins : ¬ BeginsEscape (c :: rest) := by
        rintro ⟨a, b, more, heq, -⟩
        cases heq
        exact hfirst a b more rfl rfl
      have hmore := ih ((hasEscape_cons.mp h).resolve_left hbegins)
      rw [starts_append, starts_utf8EncodeChar, List.length_cons]
      omega

theorem not_isContinuation {b : UInt8} {size : Nat} (h : sequenceLength? b = some size) :
    isContinuation b = false := by
  simp only [sequenceLength?, isContinuation, UInt8.le_iff_toNat_le, UInt8.lt_iff_toNat_lt] at h ⊢
  grind

/-- Decoding goes on behind the characters that are done, with one for each start at most. -/
theorem of_decodeFrom {fuel position : Nat} {done cs : List Char} {bs : List UInt8}
    (h : decodeFrom fuel position done bs = .ok cs) :
    ∃ more, cs = done.reverse ++ more ∧ more.length ≤ starts bs := by
  fun_induction decodeFrom fuel position done bs with
  | case1 | case2 =>
      cases h
      exact ⟨[], by simp, Nat.zero_le _⟩
  | case3 | case5 | case6 => cases h
  | case4 _ _ done b rest size hsize wanted given _ _ ih =>
      obtain ⟨more, hcs, hmore⟩ := ih h
      refine ⟨Char.ofNat (combine b given) :: more, by simpa using hcs, ?_⟩
      -- the first byte is a start of its own; those behind it are taken away
      have hfirst : starts (b :: rest) = starts rest + 1 := by
        simp [starts, not_isContinuation hsize]
      have hrest : starts (rest.drop wanted) ≤ starts rest := (List.drop_sublist ..).countP_le
      rw [List.length_cons, hfirst]
      omega

theorem exists_of_decode? {uri s : String} (h : decode? uri = some s) :
    decode (bytes uri.toList) = .ok s.toList := by
  unfold decode? at h
  cases hdecode : decode (bytes uri.toList) with
  | error f =>
      rw [hdecode] at h
      cases h
  | ok cs =>
      rw [hdecode] at h
      cases h
      simp

/-- A text with an escape says a shorter one, if any. -/
theorem length_decode?_lt {uri s : String} (hescape : HasEscape uri.toList)
    (h : decode? uri = some s) : s.toList.length < uri.toList.length := by
  obtain ⟨more, hmore, hlength⟩ := of_decodeFrom (exists_of_decode? h)
  rw [hmore]
  exact Nat.lt_of_le_of_lt hlength (starts_bytes_lt hescape)

/-- A text says itself exactly if it has no escape. -/
theorem decode?_self_iff {s : String} : decode? s = some s ↔ ¬ HasEscape s.toList :=
  ⟨fun h hescape => Nat.lt_irrefl _ (length_decode?_lt hescape h), decode?_of_not_hasEscape⟩

/-- A URI that begins with a point says a text that begins with one. -/
theorem head?_decode? {uri s : String} (huri : uri.toList.head? = some '.')
    (h : decode? uri = some s) : s.toList.head? = some '.' := by
  obtain ⟨rest, hrest⟩ := List.head?_eq_some_iff.mp huri
  have hdecode := exists_of_decode? h
  rw [hrest, bytes_cons (by decide), decode, decodeFrom_char] at hdecode
  obtain ⟨more, hmore, -⟩ := of_decodeFrom hdecode
  rw [hmore]
  rfl

end Uri

end Assay
