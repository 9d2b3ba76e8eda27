import Assay.Proofs.LinkedTree

/-! # Files that are written

A text that was written to a file is read back from it. Decoding undoes encoding character by
character; writing puts an entry where the path leads, and the path leads there afterwards. A file
that is opened for a report is empty and stands in directories that are there.
-/

namespace Assay

namespace Text.Utf8

/-! ## Bytes of characters -/

theorem toList_loop (bytes : ByteArray) (i : Nat) (done : List UInt8) :
    ByteArray.toList.loop bytes i done = done.reverse ++ bytes.data.toList.drop i := by
  fun_induction ByteArray.toList.loop bytes i done with
  | case1 i done h ih =>
      have hlt : i < bytes.data.toList.length := by simpa using h
      have hget : bytes.get! i = bytes.data.toList[i] := by
        rw [Array.getElem_toList]
        exact getElem!_pos bytes.data i h
      rw [ih, List.drop_eq_getElem_cons hlt, hget]
      simp
  | case2 i done h =>
      rw [List.drop_eq_nil_of_le (by simpa using h)]
      simp

theorem encode_eq (s : String) : encode s = s.toList.flatMap String.utf8EncodeChar := by
  conv_lhs => rw [← String.ofList_toList (s := s)]
  rw [encode, String.toUTF8, String.toByteArray_ofList, List.utf8Encode, ByteArray.toList,
    toList_loop, List.toList_data_toByteArray]
  simp

theorem toNat_byte {n : Nat} (h : n < 256) : (UInt8.ofNat n).toNat = n := by
  simp [Nat.mod_eq_of_lt h]

theorem isContinuation_byte {n : Nat} (h : 0x80 ≤ n ∧ n < 0xc0) :
    isContinuation (UInt8.ofNat n) = true := by
  have hn : (UInt8.ofNat n).toNat = n := toNat_byte (by omega)
  simp [isContinuation, UInt8.le_iff_toNat_le, UInt8.lt_iff_toNat_lt, hn, h.1, h.2]

/-- How many bytes the first one announces. -/
theorem sequenceLength?_byte {n : Nat} (h : n < 256) :
    sequenceLength? (UInt8.ofNat n) =
      if n < 0x80 then some 1
      else if 0xc2 ≤ n ∧ n < 0xe0 then some 2
      else if 0xe0 ≤ n ∧ n < 0xf0 then some 3
      else if 0xf0 ≤ n ∧ n < 0xf5 then some 4
      else none := by
  have hn := toNat_byte h
  simp [sequenceLength?, UInt8.le_iff_toNat_le, UInt8.lt_iff_toNat_lt, hn]

/-- A second byte fits unless it makes an overlong form, a surrogate or a value beyond Unicode. -/
theorem isSecond_byte {m n : Nat} (hm : m < 256) (h : 0x80 ≤ n ∧ n < 0xc0)
    (hfits : (m = 0xe0 → 0xa0 ≤ n) ∧ (m = 0xed → n < 0xa0) ∧ (m = 0xf0 → 0x90 ≤ n) ∧
      (m = 0xf4 → n < 0x90)) :
    isSecond (UInt8.ofNat m) (UInt8.ofNat n) = true := by
  have hm := toNat_byte hm
  have hn : (UInt8.ofNat n).toNat = n := toNat_byte (by omega)
  simp only [isSecond, isContinuation_byte h, ← UInt8.toNat_inj, UInt8.le_iff_toNat_le,
    UInt8.lt_iff_toNat_lt, hm, hn, Bool.true_and]
  grind

/-- Bytes that fit together are decoded at once. -/
theorem decodeFrom_fitting {first : UInt8} {more : List UInt8}
    (hsize : sequenceLength? first = some (more.length + 1))
    (hfit : fitting first more = more.length) (fuel position : Nat) (done : List Char)
    (rest : List UInt8) :
    decodeFrom (fuel + 1) position done (first :: more ++ rest) =
      decodeFrom fuel (position + (first :: more).length)
        (Char.ofNat (combine first more) :: done) rest := by
  simp [decodeFrom, hsize, hfit]

/-- A character is decoded from its bytes. -/
theorem decodeFrom_char (c : Char) (fuel position : Nat) (done : List Char) (rest : List UInt8) :
    decodeFrom (fuel + 1) position done (String.utf8EncodeChar c ++ rest) =
      decodeFrom fuel (position + (String.utf8EncodeChar c).length) (c :: done) rest := by
  have hc : Char.ofNat c.toNat = c := Char.ofNat_toNat c
  have hvalid : c.toNat < 0xd800 ∨ 0xdfff < c.toNat ∧ c.toNat < 0x110000 := c.valid
  have hvalue : c.val.toNat = c.toNat := rfl
  unfold String.utf8EncodeChar
  simp only [hvalue]
  generalize c.toNat = n at *
  split
  next h1 =>
    rw [decodeFrom_fitting, combine]
    · simp only [List.length_nil, List.foldl_nil, toNat_byte (show n < 256 by omega), hc]
    · rw [sequenceLength?_byte (by omega), if_pos (by omega)]
      rfl
    · rfl
  next h1 =>
  split
  next h2 =>
    rw [decodeFrom_fitting, combine, ← hc]
    · simp only [List.length_cons, List.length_nil, List.foldl_cons, List.foldl_nil]
      rw [toNat_byte (by omega), toNat_byte (by omega)]
      congr 3
      omega
    · rw [sequenceLength?_byte (by omega), if_neg (by omega), if_pos (by omega)]
      rfl
    · rw [fitting, isSecond_byte (by omega) (by omega) (by omega)]
      rfl
  next h2 =>
  split
  next h3 =>
    rw [decodeFrom_fitting, combine, ← hc]
    · simp only [List.length_cons, List.length_nil, List.foldl_cons, List.foldl_nil]
      rw [toNat_byte (by omega), toNat_byte (by omega), toNat_byte (by omega)]
      congr 3
      omega
    · rw [sequenceLength?_byte (by omega), if_neg (by omega), if_neg (by omega), if_pos (by omega)]
      rfl
    · rw [fitting, isSecond_byte (by omega) (by omega) (by omega), List.takeWhile_cons,
        isContinuation_byte (by omega)]
      rfl
  next h3 =>
    rw [decodeFrom_fitting, combine, ← hc]
    · simp only [List.length_cons, List.length_nil, List.foldl_cons, List.foldl_nil]
      rw [toNat_byte (by omega), toNat_byte (by omega), toNat_byte (by omega),
        toNat_byte (by omega)]
      congr 3
      omega
    · rw [sequenceLength?_byte (by omega), if_neg (by omega), if_neg (by omega), if_neg (by omega),
        if_pos (by omega)]
      rfl
    · rw [fitting, isSecond_byte (by omega) (by omega) (by omega), List.takeWhile_cons,
        isContinuation_byte (by omega), List.takeWhile_cons, isContinuation_byte (by omega)]
      rfl

theorem decodeFrom_encoded (cs : List Char) (fuel position : Nat) (done : List Char)
    (hfuel : cs.length < fuel) :
    decodeFrom fuel position done (cs.flatMap String.utf8EncodeChar) =
      .ok (done.reverse ++ cs) := by
  induction cs generalizing fuel position done with
  | nil =>
      obtain ⟨fuel, rfl⟩ := Nat.exists_eq_add_of_lt hfuel
      simp [decodeFrom]
  | cons c cs ih =>
      obtain ⟨fuel, rfl⟩ := Nat.exists_eq_add_one_of_ne_zero (Nat.ne_zero_of_lt hfuel)
      rw [List.flatMap_cons, decodeFrom_char, ih]
      · simp
      · simpa using hfuel

/-- Decoding undoes encoding. -/
theorem decode_encode (s : String) : decode (encode s) = .ok s.toList := by
  have hlength : s.toList.length ≤ (s.toList.flatMap String.utf8EncodeChar).length := by
    induction s.toList with
    | nil => exact Nat.le_refl 0
    | cons c cs ih =>
        have hc := Char.utf8Size_pos c
        simp only [List.flatMap_cons, List.length_append, String.length_utf8EncodeChar,
          List.length_cons]
        omega
  rw [decode, encode_eq, decodeFrom_encoded _ _ _ _ (Nat.lt_succ_of_le hlength)]
  rfl

end Text.Utf8

namespace FileTree

variable {π : Type} {t u : FileTree π}

/-! ## Putting entries -/

theorem entry?_put {place : List String} (hplace : place ≠ []) (e : Entry π) (q : List String) :
    FileTree.entry? (t.put place e) q = if q = place then some e else t.entry? q := by
  by_cases hq : q = []
  · subst hq
    rw [if_neg (Ne.symm hplace)]
    rfl
  rw [entry?_of_ne_nil hq, entry?_of_ne_nil hq, put]
  split
  next hany =>
    -- replacing an entry leaves the places of all entries
    have hkeys : ((fun old : List String × Entry π => decide (old.1 = q)) ∘ fun old =>
        if old.1 = place then (place, e) else old) = fun old => decide (old.1 = q) := by
      funext old
      by_cases h : old.1 = place <;> simp [h]
    rw [List.find?_map, hkeys, Option.map_map]
    cases hfind : t.entries.find? fun old => decide (old.1 = q) with
    | none =>
        have hne : q ≠ place := by
          rintro rfl
          obtain ⟨old, hold, hkey⟩ := List.any_eq_true.mp hany
          exact List.find?_eq_none.mp hfind old hold hkey
        simp [hne]
    | some old =>
        have hkey : old.1 = q := by simpa using List.find?_some hfind
        by_cases h : q = place <;> simp [h, hkey]
  next hnone =>
    rw [List.find?_append]
    by_cases h : q = place
    · subst h
      have hfind : t.entries.find? (fun old => decide (old.1 = q)) = none :=
        List.find?_eq_none.mpr fun old hold hkey =>
          hnone (List.any_eq_true.mpr ⟨old, hold, hkey⟩)
      simp [hfind]
    · have hlast : List.find? (fun old => decide (old.1 = q)) [(place, e)] = none := by
        simp [Ne.symm h]
      simp [hlast, h]

theorem sameShape_put {place : List String} {bytes others : List UInt8} {program other : Option π}
    (hfile : t.entry? place = some (.file bytes program)) :
    SameShape t (t.put place (.file others other)) := by
  have hplace : place ≠ [] := by
    rintro rfl
    cases hfile
  refine ⟨?_, ?_, fun q => ?_⟩
  · unfold put
    split <;> rfl
  · unfold put
    split <;> rfl
  · rw [entry?_put hplace]
    split
    next h => rw [h, hfile]; rfl
    next => rfl

/-- A path to a file leads to the same place when something else is put into the file. -/
theorem locate_put_file {p : Path} {place : List String} {bytes : List UInt8} {program : Option π}
    (h : t.locate p = .ok (place, .file bytes program)) (others : List UInt8) :
    (t.put place (.file others none)).locate p = .ok (place, .file others none) := by
  have hfile := entry?_of_locate h
  have hplace : place ≠ [] := by
    rintro rfl
    cases hfile
  rw [(sameShape_put hfile).locate_eq, h]
  simp [bind, Except.bind, entry?_put hplace]

/-! ## Directories on the way -/

theorem isClosed_put (place q : List String) (e : Entry π) :
    (t.put place e).isClosed q = t.isClosed q := by
  unfold put
  split <;> rfl

/-- Names whose directories are all there, but that lead to nothing, lead to what is put there. -/
theorem follow_put_new {fuel links : Nat} {place rest : List String} (bytes : List UInt8)
    (hfuel : rest.length < fuel) (hups : ".." ∉ rest)
    (hdirectories : ∀ k < rest.length, t.entry? (place ++ rest.take k) = some .directory)
    (hmissing : (t.follow fuel links place rest >>= fun q => match t.entry? q with
      | some e => .ok (q, e)
      | none => .error .missing) = .error PathFault.missing) :
    (t.put (place ++ rest) (.file bytes none)).follow fuel links place rest =
      .ok (place ++ rest) := by
  induction rest generalizing fuel place with
  | nil =>
      obtain ⟨fuel, rfl⟩ : ∃ n, fuel = n + 1 := ⟨fuel - 1, by simp at hfuel; omega⟩
      simp [follow]
  | cons name rest ih =>
      obtain ⟨fuel, rfl⟩ : ∃ n, fuel = n + 1 := ⟨fuel - 1, by omega⟩
      rw [List.mem_cons, not_or] at hups
      have hrest : rest.length < fuel := by simpa using hfuel
      have hplace : t.entry? place = some .directory := by
        simpa using hdirectories 0 (by simp)
      have hput : ∀ q, FileTree.entry? (t.put (place ++ name :: rest) (.file bytes none)) q =
          if q = place ++ name :: rest then some (.file bytes none) else t.entry? q :=
        entry?_put (by simp) _
      have hstart : FileTree.entry? (t.put (place ++ name :: rest) (.file bytes none)) place =
          some .directory := by
        rw [hput, if_neg (by simp), hplace]
      simp only [follow, hplace, beq_eq_false_iff_ne.mpr (Ne.symm hups.1), Bool.false_eq_true,
        if_false] at hmissing
      simp only [follow, hstart, isClosed_put, beq_eq_false_iff_ne.mpr (Ne.symm hups.1),
        Bool.false_eq_true, if_false]
      -- neither is the directory closed nor the name too long, or else nothing would be missing
      have hclosed : ¬ t.isClosed place = true := fun h => by simp [h, bind, Except.bind] at hmissing
      rw [if_neg hclosed] at hmissing ⊢
      have hshort : ¬ longestName < name.utf8ByteSize :=
        fun h => by simp [h, bind, Except.bind] at hmissing
      rw [if_neg hshort] at hmissing ⊢
      cases rest with
      | nil =>
          obtain ⟨fuel, rfl⟩ : ∃ n, fuel = n + 1 := ⟨fuel - 1, by simp at hrest; omega⟩
          simp [hput, follow]
      | cons next rest =>
          have hnext : t.entry? (place ++ [name]) = some .directory := by
            simpa using hdirectories 1 (by simp)
          have hlast : place ++ name :: next :: rest = place ++ [name] ++ next :: rest := by
            simp
          simp only [hnext] at hmissing
          rw [hput, if_neg (by simp), hnext, hlast]
          refine ih hrest hups.2 (fun k hk => ?_) hmissing
          simpa using hdirectories (k + 1) (by simpa using hk)

/-- The next directory is made, or it is there already. -/
theorem of_makeDirectories_cons {made : Bool} {place rest : List String} {name : String}
    (hmake : t.makeDirectories made place (name :: rest) = (.ok (), u)) :
    ∃ (s : FileTree π) (made : Bool),
      s.makeDirectories made (place ++ [name]) rest = (.ok (), u) ∧
        s.entry? (place ++ [name]) = some .directory ∧
          ∀ q e, t.entry? q = some e → s.entry? q = some e := by
  simp only [makeDirectories] at hmake
  split at hmake
  next => cases hmake
  next =>
  split at hmake
  next => cases hmake
  next =>
  cases hnext : t.entry? (place ++ [name]) with
  | none =>
      simp only [hnext] at hmake
      split at hmake
      next => cases hmake
      next =>
        refine ⟨_, _, hmake, by rw [entry?_put (by simp), if_pos rfl], fun q e hq => ?_⟩
        rw [entry?_put (by simp), if_neg, hq]
        rintro rfl
        rw [hnext] at hq
        cases hq
  | some e =>
      simp only [hnext] at hmake
      cases e with
      | directory => exact ⟨t, made, hmake, hnext, fun _ _ hq => hq⟩
      | file | link =>
          simp only at hmake
          split at hmake <;> cases hmake

/-- Making directories keeps what is there. -/
theorem entry?_of_makeDirectories {made : Bool} {place rest q : List String} {e : Entry π}
    (hmake : t.makeDirectories made place rest = (.ok (), u)) (hq : t.entry? q = some e) :
    u.entry? q = some e := by
  induction rest generalizing t made place with
  | nil =>
      cases hmake
      exact hq
  | cons name rest ih =>
      obtain ⟨s, made, hs, -, hkept⟩ := of_makeDirectories_cons hmake
      exact ih hs (hkept q e hq)

/-- Afterwards all directories are there. -/
theorem makeDirectories_directories {made : Bool} {place rest : List String}
    (hplace : t.entry? place = some .directory)
    (hmake : t.makeDirectories made place rest = (.ok (), u)) :
    ∀ k ≤ rest.length, u.entry? (place ++ rest.take k) = some .directory := by
  induction rest generalizing t made place with
  | nil =>
      intro k _
      cases hmake
      simpa using hplace
  | cons name rest ih =>
      obtain ⟨s, made, hs, hnext, -⟩ := of_makeDirectories_cons hmake
      intro k hk
      cases k with
      | zero => simpa using entry?_of_makeDirectories hmake hplace
      | succ k => simpa using ih hnext hs k (by simpa using hk)

/-! ## Writing -/

/-- A path from the root, free of `..`, whose directories are all there. -/
structure HasDirectories (t : FileTree π) (p : Path) : Prop where
  root : p.root = .slash
  ups : ".." ∉ p.parts
  directories : ∀ k < p.parts.length, t.entry? (p.parts.take k) = some .directory

theorem absolute_of_slash {p : Path} (hp : p.root = .slash) : t.absolute p = p := by
  simp [absolute, Path.join, Path.isAbsolute, hp]

/-- A new file in a directory is where its path leads. -/
theorem locate_put_new {p : Path} (hp : t.HasDirectories p)
    (hmissing : t.locate p = .error .missing) (bytes : List UInt8) :
    (t.put p.parts (.file bytes none)).locate p = .ok (p.parts, .file bytes none) := by
  have hnul : hasNul p = false := by
    cases h : hasNul p with
    | false => rfl
    | true => rw [locate_of_hasNul h] at hmissing; cases hmissing
  have hlong : p.isTooLong = false := by
    cases h : p.isTooLong with
    | false => rfl
    | true => rw [locate_of_isTooLong hnul h] at hmissing; cases hmissing
  have hne : p.parts ≠ [] := by
    -- the root itself is not missing
    intro h
    obtain ⟨fuel, hfuel, hlocate⟩ := locate_of_not_hasNul (t := t) hnul hlong
    obtain ⟨fuel, rfl⟩ := Nat.exists_eq_add_one_of_ne_zero (Nat.ne_zero_of_lt hfuel)
    rw [hmissing, absolute_of_slash hp.root, h] at hlocate
    cases hlocate
  have hend : FileTree.entry? (t.put p.parts (.file bytes none)) p.parts =
      some (.file bytes none) := by
    rw [entry?_put hne, if_pos rfl]
  -- with enough fuel for both trees, the same way leads to nothing in the one and to the file in
  -- the other
  obtain ⟨fuel, ht, hu⟩ : ∃ fuel,
      (t.absolute p).parts.length + maxLinks * (t.longestLink + 2) < fuel ∧
        (FileTree.absolute (t.put p.parts (.file bytes none)) p).parts.length +
          maxLinks * ((t.put p.parts (.file bytes none)).longestLink + 2) < fuel :=
    ⟨_, Nat.lt_succ_of_le (Nat.le_add_right ..), Nat.lt_succ_of_le (Nat.le_add_left ..)⟩
  rw [locate_eq_follow hnul hlong ht] at hmissing
  rw [locate_eq_follow hnul hlong hu]
  rw [absolute_of_slash hp.root] at hmissing ht ⊢
  have hfollow : (t.put ([] ++ p.parts) (.file bytes none)).follow fuel maxLinks [] p.parts =
      .ok ([] ++ p.parts) :=
    follow_put_new bytes (show p.parts.length < fuel by omega) hp.ups
      (fun k hk => by simpa using hp.directories k hk) hmissing
  rw [List.nil_append] at hfollow
  simp [hfollow, hend, bind, Except.bind]

/-- Writing to a file leaves the text where the path leads. -/
theorem locate_of_writeText {p : Path} {place : List String} {bytes : List UInt8}
    {program : Option π} {s : String} (hp : t.locate p = .ok (place, .file bytes program))
    (hwrite : t.writeText p s = .ok u) :
    u.locate p = .ok (place, .file (Text.Utf8.encode s) none) := by
  simp only [writeText, hp] at hwrite
  split at hwrite
  next => cases hwrite
  next =>
    cases hwrite
    exact locate_put_file hp _

/-- A path leads to a file once a text was written there. -/
theorem locate_of_writeText_new {p : Path} {s : String} (hp : t.HasDirectories p)
    (hwrite : t.writeText p s = .ok u) :
    ∃ place, u.locate p = .ok (place, .file (Text.Utf8.encode s) none) := by
  cases hlocate : t.locate p with
  | ok found =>
      obtain ⟨place, e⟩ := found
      cases e with
      | file => exact ⟨place, locate_of_writeText hlocate hwrite⟩
      | link | directory =>
          simp only [writeText, hlocate] at hwrite
          cases hwrite
  | error f =>
      cases f with
      | missing =>
          simp only [writeText, hlocate] at hwrite
          split at hwrite
          next => cases hwrite
          next =>
            cases hwrite
            exact ⟨p.parts, locate_put_new hp hlocate _⟩
      | _ =>
          simp only [writeText, hlocate] at hwrite
          cases hwrite

/-! ## Reading -/

theorem unifyLineEnds_eq {cs : List Char} (h : '\r' ∉ cs) : unifyLineEnds cs = cs := by
  fun_induction unifyLineEnds cs with
  | case1 => rfl
  | case2 => simp at h
  | case3 => simp at h
  | case4 c cs _ _ ih =>
      rw [ih]
      exact fun hmem => h (List.mem_cons_of_mem c hmem)

/-- A text without carriage returns is read back from its bytes. -/
theorem readText_of_locate {p : Path} {place : List String} {program : Option π} {s : String}
    (hp : t.locate p = .ok (place, .file (Text.Utf8.encode s) program)) (hs : '\r' ∉ s.toList) :
    t.readText p = .ok s := by
  have hbytes : t.readBytes p = .ok (Text.Utf8.encode s) := by
    simp only [readBytes, hp]
  rw [readText, hbytes]
  simp only [bind, Except.bind, Text.Utf8.decode_encode, unifyLineEnds_eq hs, pure, Except.pure,
    String.ofList_toList]

end FileTree

end Assay
