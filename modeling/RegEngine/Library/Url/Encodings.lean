import RegEngine.Library.Url

/-
  The texts that percent escapes decode to a given text, when
  every run of them is UTF-8.

  Main declarations:
    * `Url.Encodes`
    * `Url.strict`
    * `Url.encodes_unquote`
-/

--------
-- Encodings
--------

namespace Url

/- `char.encode("utf-8")`. -/
def utf8Bytes (c : Char) : List UInt8 :=
  let n := c.toNat
  if n < 0x80 then [UInt8.ofNat n]
  else if n < 0x800 then
    [UInt8.ofNat (0xC0 + n / 64), UInt8.ofNat (0x80 + n % 64)]
  else if n < 0x10000 then
    [UInt8.ofNat (0xE0 + n / 4096),
      UInt8.ofNat (0x80 + n / 64 % 64),
      UInt8.ofNat (0x80 + n % 64)]
  else
    [UInt8.ofNat (0xF0 + n / 262144),
      UInt8.ofNat (0x80 + n / 4096 % 64),
      UInt8.ofNat (0x80 + n / 64 % 64),
      UInt8.ofNat (0x80 + n % 64)]

/- A text that is one escape for each byte. -/
inductive Escapes : List UInt8 → List Char → Prop
  | nil : Escapes [] []
  | cons {byte bytes high low raw} :
      escape '%' high low = some byte → Escapes bytes raw →
        Escapes (byte :: bytes) ('%' :: high :: low :: raw)

/-
  A text with some of its characters written as the escapes of
  their bytes.
-/
inductive Encodes : List Char → List Char → Prop
  | nil : Encodes [] []
  | literal {c text raw} :
      Encodes text raw → Encodes (c :: text) (c :: raw)
  | escaped {c text unit raw} :
      Escapes (utf8Bytes c) unit → Encodes text raw →
        Encodes (c :: text) (unit ++ raw)

/- Each run of ASCII characters has bytes that are UTF-8. -/
def strictRuns (run : List Char) : List Char → Bool
| [] => (Codec.utf8 false (unquoteToBytes run)).isSome
| c :: rest =>
    if c.toNat < 128 then strictRuns (run ++ [c]) rest
    else
      (Codec.utf8 false (unquoteToBytes run)).isSome &&
        strictRuns [] rest

/- No escape of a text is one of bytes that are no UTF-8. -/
def strict (text : List Char) : Bool :=
  !decide ('%' ∈ text) || strictRuns [] text

namespace Encodes

/- A text encodes itself. -/
theorem refl
    (text : List Char) :
    Encodes text text := by
  induction text with
  | nil => exact .nil
  | cons c rest ih => exact .literal ih

theorem append
    {text raw text' raw' : List Char}
    (hFirst : Encodes text raw)
    (hSecond : Encodes text' raw') :
    Encodes (text ++ text') (raw ++ raw') := by
  induction hFirst with
  | nil => exact hSecond
  | literal _ ih => exact .literal ih
  | escaped hUnit _ ih =>
    rw [List.append_assoc]
    exact .escaped hUnit ih

/- The encoding of a text in two parts. -/
theorem of_append
    {text text' raw : List Char}
    (hRaw : Encodes (text ++ text') raw) :
    ∃ first second, raw = first ++ second ∧
      Encodes text first ∧ Encodes text' second := by
  induction text generalizing raw with
  | nil => exact ⟨[], raw, rfl, .nil, hRaw⟩
  | cons c rest ih =>
    cases hRaw with
    | literal hRest =>
      rcases ih hRest with ⟨first, second, rfl, hFirst, hSecond⟩
      exact ⟨c :: first, second, rfl, .literal hFirst, hSecond⟩
    | @escaped _ _ unit _ hUnit hRest =>
      rcases ih hRest with ⟨first, second, rfl, hFirst, hSecond⟩
      exact ⟨unit ++ first, second,
        (List.append_assoc _ _ _).symm, .escaped hUnit hFirst,
        hSecond⟩

end Encodes

end Url

--------
-- Bytes
--------

namespace Url

/- The bytes of an ASCII text, each with its characters. -/
inductive Units : List UInt8 → List Char → Prop
  | nil : Units [] []
  | literal {c bytes raw} :
      c.toNat < 128 → Units bytes raw →
        Units (byteOf c :: bytes) (c :: raw)
  | escaped {byte bytes high low raw} :
      escape '%' high low = some byte → Units bytes raw →
        Units (byte :: bytes) ('%' :: high :: low :: raw)

/- The mark of an escape is a percent sign. -/
theorem eq_of_escape
    {mark high low : Char}
    {byte : UInt8}
    (hByte : escape mark high low = some byte) :
    mark = '%' := by
  by_contra hOther
  rw [escape, if_neg hOther] at hByte
  cases hByte

variable {raw : List Char}

/- The bytes of an ASCII text come from its characters. -/
theorem units_unquoteToBytes
    (hAscii : ∀ c ∈ raw, c.toNat < 128) :
    Units (unquoteToBytes raw) raw := by
  fun_induction unquoteToBytes raw with
  | case1 mark high low rest byte hByte ih =>
    cases eq_of_escape hByte
    exact .escaped hByte (ih fun c hMem =>
      hAscii c (by simp [hMem]))
  | case2 mark high low rest hByte ih =>
    exact .literal (hAscii mark List.mem_cons_self)
      (ih fun c hMem => hAscii c (List.mem_cons_of_mem _ hMem))
  | case3 short hShort =>
    clear hShort
    induction short with
    | nil => exact .nil
    | cons c rest ih =>
      exact .literal (hAscii c List.mem_cons_self)
        (ih fun d hMem => hAscii d (List.mem_cons_of_mem _ hMem))

/- A byte past ASCII is that of an escape. -/
theorem Units.of_high
    {byte : UInt8}
    {bytes : List UInt8}
    (hUnits : Units (byte :: bytes) raw)
    (hHigh : ¬ byte < 0x80) :
    ∃ high low rest, raw = '%' :: high :: low :: rest ∧
      escape '%' high low = some byte ∧ Units bytes rest := by
  cases hUnits with
  | @literal c _ _ hAscii hRest =>
    refine absurd ?_ hHigh
    rw [UInt8.lt_iff_toNat_lt, byteOf, UInt8.toNat_ofNat']
    exact lt_of_le_of_lt (Nat.mod_le _ _) hAscii
  | @escaped _ _ high low rest hByte hRest =>
    exact ⟨high, low, rest, rfl, hByte, hRest⟩

end Url

--------
-- UTF-8
--------

namespace Url

variable {n : Nat}

/- The number of a character made from a code point. -/
theorem toNat_ofNat
    (hValid : n.isValidChar) :
    (Char.ofNat n).toNat = n := by
  rw [Char.ofNat, dif_pos hValid]
  rfl

/- A code point below the surrogates, and one past them. -/
theorem toNat_ofNat_low
    (hLow : n < 55296) :
    (Char.ofNat n).toNat = n :=
  toNat_ofNat (Or.inl hLow)

theorem toNat_ofNat_high
    (hHigh : 57343 < n)
    (hLast : n < 1114112) :
    (Char.ofNat n).toNat = n :=
  toNat_ofNat (Or.inr ⟨hHigh, hLast⟩)

/- A byte from its number. -/
theorem ofNat_eq
    {byte : UInt8}
    (hNat : n = byte.toNat) :
    UInt8.ofNat n = byte := by
  rw [hNat, UInt8.ofNat_toNat]

theorem utf8Bytes_two
    {a b : UInt8}
    (hFirst : (0xC2 ≤ a && a ≤ 0xDF) = true)
    (hTail : Codec.isTail b = true) :
    utf8Bytes (Char.ofNat
      ((a.toNat - 0xC0) * 64 + Codec.tailBits b)) = [a, b] := by
  simp only [Codec.isTail, Bool.and_eq_true, decide_eq_true_eq,
    UInt8.le_iff_toNat_le, UInt8.reduceToNat] at hFirst hTail
  have hBits : Codec.tailBits b = b.toNat - 0x80 := rfl
  generalize hCode :
    (a.toNat - 0xC0) * 64 + Codec.tailBits b = n
  have hNat : (Char.ofNat n).toNat = n :=
    toNat_ofNat_low (by omega)
  unfold utf8Bytes
  simp only [hNat]
  rw [if_neg (by omega), if_pos (by omega)]
  have hA : UInt8.ofNat (0xC0 + n / 64) = a :=
    ofNat_eq (by omega)
  have hB : UInt8.ofNat (0x80 + n % 64) = b :=
    ofNat_eq (by omega)
  rw [hA, hB]

theorem utf8Bytes_one
    {a : UInt8}
    (hFirst : a < 0x80) :
    utf8Bytes (Char.ofNat a.toNat) = [a] := by
  simp only [UInt8.lt_iff_toNat_lt, UInt8.reduceToNat] at hFirst
  have hNat : (Char.ofNat a.toNat).toNat = a.toNat :=
    toNat_ofNat_low (by omega)
  unfold utf8Bytes
  simp only [hNat]
  rw [if_pos (by omega), UInt8.ofNat_toNat]

theorem utf8Bytes_three
    {a b c : UInt8}
    (hFirst : (0xE0 ≤ a && a ≤ 0xEF) = true)
    (hTails :
      (Codec.isTail b && Codec.isTail c &&
        Codec.secondOfThree false a b) = true) :
    utf8Bytes (Char.ofNat
      ((a.toNat - 0xE0) * 4096 + Codec.tailBits b * 64 +
        Codec.tailBits c)) = [a, b, c] := by
  simp only [Codec.isTail, Codec.secondOfThree,
    Bool.and_eq_true, Bool.or_eq_true, bne_iff_ne, ne_eq,
    Bool.or_false, decide_eq_true_eq, UInt8.le_iff_toNat_le,
    ← UInt8.toNat_inj, UInt8.reduceToNat] at hFirst hTails
  have hBitsB : Codec.tailBits b = b.toNat - 0x80 := rfl
  have hBitsC : Codec.tailBits c = c.toNat - 0x80 := rfl
  rcases hTails with ⟨⟨hB, hC⟩, hOverlong, hSurrogate⟩
  generalize hCode :
    (a.toNat - 0xE0) * 4096 + Codec.tailBits b * 64 +
      Codec.tailBits c = n
  have hNat : (Char.ofNat n).toNat = n := by
    by_cases hLow : n < 55296
    · exact toNat_ofNat_low hLow
    · exact toNat_ofNat_high (by omega) (by omega)
  unfold utf8Bytes
  simp only [hNat]
  rw [if_neg (by omega), if_neg (by omega), if_pos (by omega)]
  have hByteA : UInt8.ofNat (0xE0 + n / 4096) = a :=
    ofNat_eq (by omega)
  have hByteB : UInt8.ofNat (0x80 + n / 64 % 64) = b :=
    ofNat_eq (by omega)
  have hByteC : UInt8.ofNat (0x80 + n % 64) = c :=
    ofNat_eq (by omega)
  rw [hByteA, hByteB, hByteC]

theorem utf8Bytes_four
    {a b c d : UInt8}
    (hFirst : (0xF0 ≤ a && a ≤ 0xF4) = true)
    (hTails :
      (Codec.isTail b && Codec.isTail c && Codec.isTail d &&
        Codec.secondOfFour a b) = true) :
    utf8Bytes (Char.ofNat
      ((a.toNat - 0xF0) * 262144 + Codec.tailBits b * 4096 +
        Codec.tailBits c * 64 + Codec.tailBits d)) =
      [a, b, c, d] := by
  simp only [Codec.isTail, Codec.secondOfFour,
    Bool.and_eq_true, Bool.or_eq_true, bne_iff_ne, ne_eq,
    decide_eq_true_eq, UInt8.le_iff_toNat_le,
    ← UInt8.toNat_inj, UInt8.reduceToNat] at hFirst hTails
  have hBitsB : Codec.tailBits b = b.toNat - 0x80 := rfl
  have hBitsC : Codec.tailBits c = c.toNat - 0x80 := rfl
  have hBitsD : Codec.tailBits d = d.toNat - 0x80 := rfl
  rcases hTails with ⟨⟨⟨hB, hC⟩, hD⟩, hOverlong, hLast⟩
  generalize hCode :
    (a.toNat - 0xF0) * 262144 + Codec.tailBits b * 4096 +
      Codec.tailBits c * 64 + Codec.tailBits d = n
  have hNat : (Char.ofNat n).toNat = n :=
    toNat_ofNat_high (by omega) (by omega)
  unfold utf8Bytes
  simp only [hNat]
  rw [if_neg (by omega), if_neg (by omega), if_neg (by omega)]
  have hByteA : UInt8.ofNat (0xF0 + n / 262144) = a :=
    ofNat_eq (by omega)
  have hByteB : UInt8.ofNat (0x80 + n / 4096 % 64) = b :=
    ofNat_eq (by omega)
  have hByteC : UInt8.ofNat (0x80 + n / 64 % 64) = c :=
    ofNat_eq (by omega)
  have hByteD : UInt8.ofNat (0x80 + n % 64) = d :=
    ofNat_eq (by omega)
  rw [hByteA, hByteB, hByteC, hByteD]

/- A continuation byte is past ASCII. -/
theorem not_lt_of_isTail
    {b : UInt8}
    (hTail : Codec.isTail b = true) :
    ¬ b < 0x80 := by
  rw [Codec.isTail, Bool.and_eq_true, decide_eq_true_eq] at hTail
  exact UInt8.not_lt.mpr hTail.1

/-
  Bytes that are UTF-8 are decoded with no replacement, and
  their characters encode the text.
-/
theorem encodes_of_utf8
    {bytes : List UInt8}
    {codes : List Nat}
    {raw : List Char}
    (hUnits : Units bytes raw)
    (hCodes : Codec.utf8 false bytes = some codes) :
    utf8Replace bytes = codes.map Char.ofNat ∧
      Encodes (codes.map Char.ofNat) raw := by
  fun_induction Codec.utf8 false bytes
    generalizing raw codes with
  | case1 =>
    cases hUnits
    cases hCodes
    exact ⟨rfl, .nil⟩
  | case2 a rest hOne ih =>
    rcases Option.map_eq_some_iff.mp hCodes with
      ⟨more, hMore, rfl⟩
    have hBytes : utf8Replace (a :: rest) =
        Char.ofNat a.toNat :: utf8Replace rest := by
      rw [utf8Replace.eq_def]
      exact if_pos hOne
    cases hUnits with
    | @literal c _ _ hAscii hRest =>
      rcases ih hRest hMore with ⟨hText, hEncodes⟩
      have hChar : Char.ofNat (byteOf c).toNat = c := by
        rw [byteOf, UInt8.toNat_ofNat',
          Nat.mod_eq_of_lt (by omega), Char.ofNat_toNat]
      rw [hBytes, hText, List.map_cons, hChar]
      exact ⟨rfl, .literal hEncodes⟩
    | @escaped _ _ high low rest hByte hRest =>
      rcases ih hRest hMore with ⟨hText, hEncodes⟩
      rw [hBytes, hText, List.map_cons]
      have hUnit : Escapes (utf8Bytes (Char.ofNat a.toNat))
          ['%', high, low] := by
        rw [utf8Bytes_one hOne]
        exact .cons hByte .nil
      exact ⟨rfl, .escaped hUnit hEncodes⟩
  | case3 a hOne hTwo b rest hTail ih =>
    rcases Option.map_eq_some_iff.mp hCodes with
      ⟨more, hMore, rfl⟩
    rcases hUnits.of_high hOne with
      ⟨high, low, _, rfl, hByte, hUnits⟩
    rcases hUnits.of_high (not_lt_of_isTail hTail) with
      ⟨high', low', raw, rfl, hByte', hUnits⟩
    rcases ih hUnits hMore with ⟨hText, hEncodes⟩
    have hUnit : Escapes
        (utf8Bytes (Char.ofNat
          ((a.toNat - 0xC0) * 64 + Codec.tailBits b)))
        ['%', high, low, '%', high', low'] := by
      rw [utf8Bytes_two hTwo hTail]
      exact .cons hByte (.cons hByte' .nil)
    rw [utf8Replace.eq_def]
    simp only [if_neg hOne, if_pos hTwo, if_pos hTail, hText]
    exact ⟨rfl, .escaped hUnit hEncodes⟩
  | case6 a hOne hTwo hThree b c rest hTails ih =>
    rcases Option.map_eq_some_iff.mp hCodes with
      ⟨more, hMore, rfl⟩
    have hParts := hTails
    rw [Bool.and_eq_true, Bool.and_eq_true] at hParts
    rcases hParts with ⟨⟨hTailB, hTailC⟩, hSecond⟩
    rcases hUnits.of_high hOne with
      ⟨high, low, _, rfl, hByte, hUnits⟩
    rcases hUnits.of_high (not_lt_of_isTail hTailB) with
      ⟨high', low', _, rfl, hByte', hUnits⟩
    rcases hUnits.of_high (not_lt_of_isTail hTailC) with
      ⟨high₃, low₃, raw, rfl, hByte₃, hUnits⟩
    rcases ih hUnits hMore with ⟨hText, hEncodes⟩
    have hUnit : Escapes
        (utf8Bytes (Char.ofNat
          ((a.toNat - 0xE0) * 4096 + Codec.tailBits b * 64 +
            Codec.tailBits c)))
        ['%', high, low, '%', high', low', '%', high₃, low₃] := by
      rw [utf8Bytes_three hThree hTails]
      exact .cons hByte (.cons hByte' (.cons hByte₃ .nil))
    rw [utf8Replace.eq_def]
    simp only [if_neg hOne, if_neg hTwo, if_pos hThree, hTailB,
      hTailC, hSecond, Bool.and_self, if_true, hText]
    exact ⟨rfl, .escaped hUnit hEncodes⟩
  | case9 a hOne hTwo hThree hFour b c d rest hTails ih =>
    rcases Option.map_eq_some_iff.mp hCodes with
      ⟨more, hMore, rfl⟩
    have hParts := hTails
    rw [Bool.and_eq_true, Bool.and_eq_true,
      Bool.and_eq_true] at hParts
    rcases hParts with ⟨⟨⟨hTailB, hTailC⟩, hTailD⟩, hSecond⟩
    rcases hUnits.of_high hOne with
      ⟨high, low, _, rfl, hByte, hUnits⟩
    rcases hUnits.of_high (not_lt_of_isTail hTailB) with
      ⟨high', low', _, rfl, hByte', hUnits⟩
    rcases hUnits.of_high (not_lt_of_isTail hTailC) with
      ⟨high₃, low₃, _, rfl, hByte₃, hUnits⟩
    rcases hUnits.of_high (not_lt_of_isTail hTailD) with
      ⟨high₄, low₄, raw, rfl, hByte₄, hUnits⟩
    rcases ih hUnits hMore with ⟨hText, hEncodes⟩
    have hUnit : Escapes
        (utf8Bytes (Char.ofNat
          ((a.toNat - 0xF0) * 262144 + Codec.tailBits b * 4096 +
            Codec.tailBits c * 64 + Codec.tailBits d)))
        ['%', high, low, '%', high', low', '%', high₃, low₃,
          '%', high₄, low₄] := by
      rw [utf8Bytes_four hFour hTails]
      exact .cons hByte
        (.cons hByte' (.cons hByte₃ (.cons hByte₄ .nil)))
    rw [utf8Replace.eq_def]
    simp only [if_neg hOne, if_neg hTwo, if_neg hThree,
      if_pos hFour, hTailB, hTailC, hTailD, hSecond,
      Bool.and_self, if_true, hText]
    exact ⟨rfl, .escaped hUnit hEncodes⟩
  | _ => cases hCodes

/- A run that is UTF-8 is encoded by what it is read as. -/
theorem encodes_unquoteRun
    {run : List Char}
    (hAscii : ∀ c ∈ run, c.toNat < 128)
    (hStrict :
      (Codec.utf8 false (unquoteToBytes run)).isSome = true) :
    Encodes (unquoteRun run) run := by
  rcases Option.isSome_iff_exists.mp hStrict with
    ⟨codes, hCodes⟩
  rcases encodes_of_utf8 (units_unquoteToBytes hAscii) hCodes with
    ⟨hText, hEncodes⟩
  rw [unquoteRun, hText]
  exact hEncodes

theorem encodes_unquoteRuns
    {run text : List Char}
    (hAscii : ∀ c ∈ run, c.toNat < 128)
    (hStrict : strictRuns run text = true) :
    Encodes (unquoteRuns run text) (run ++ text) := by
  induction text generalizing run with
  | nil =>
    rw [unquoteRuns, List.append_nil]
    exact encodes_unquoteRun hAscii hStrict
  | cons c rest ih =>
    rw [unquoteRuns]
    rw [strictRuns] at hStrict
    by_cases hChar : c.toNat < 128
    · rw [if_pos hChar] at hStrict ⊢
      have hRun : ∀ d ∈ run ++ [c], d.toNat < 128 := by
        intro d hMem
        rcases List.mem_append.mp hMem with hMem | hMem
        · exact hAscii d hMem
        · rw [List.mem_singleton.mp hMem]
          exact hChar
      have hRest := ih hRun hStrict
      rwa [List.append_assoc] at hRest
    · rw [if_neg hChar, Bool.and_eq_true] at hStrict
      rw [if_neg hChar]
      have hRest : Encodes (unquoteRuns [] rest) ([] ++ rest) :=
        ih (fun _ hMem => absurd hMem List.not_mem_nil)
          hStrict.2
      exact (encodes_unquoteRun hAscii hStrict.1).append
        (.literal hRest)

/- A text that decodes strictly is encoded by what it means. -/
theorem encodes_unquote
    {text : List Char}
    (hStrict : strict text = true) :
    Encodes (unquote text) text := by
  rw [unquote]
  by_cases hMark : '%' ∈ text
  · rw [if_pos hMark]
    rw [strict, decide_eq_true hMark, Bool.not_true,
      Bool.false_or] at hStrict
    have hNil : ∀ c ∈ ([] : List Char), c.toNat < 128 :=
      fun _ hMem => absurd hMem List.not_mem_nil
    exact encodes_unquoteRuns hNil hStrict
  · rw [if_neg hMark]
    exact Encodes.refl text

end Url
