import RegEngine.Library.Url.Encodings

/-
  Percent escapes as `urllib.parse.quote` writes them. Reading
  a quoted text gives the text back.

  Main declarations:
    * `Url.quote`
    * `Url.utf8Replace_utf8Bytes`
    * `Url.unquote_quote`
-/

--------
-- Quoting
--------

namespace Url

/- The characters that `quote` never escapes. -/
def isUnreserved (c : Char) : Bool :=
  c.isAlphanum || c == '_' || c == '.' || c == '-' || c == '~'

/- A hexadecimal digit in upper case. -/
def hexDigit (n : Nat) : Char :=
  if n < 10 then Char.ofNat (48 + n) else Char.ofNat (55 + n)

def escapeByte (byte : UInt8) : List Char :=
  ['%', hexDigit (byte.toNat / 16), hexDigit (byte.toNat % 16)]

/- A character as `quote` writes it. -/
def quoteChar (c : Char) : List Char :=
  if isUnreserved c then [c]
  else (utf8Bytes c).flatMap escapeByte

/- `quote(text, safe="-._~")`. -/
def quote (text : List Char) : List Char :=
  text.flatMap quoteChar

end Url

--------
-- Characters From Their Bytes
--------

namespace Url

variable {n : Nat} {byte : UInt8}

theorem toNat_byte
    (hByte : n < 256) :
    (UInt8.ofNat n).toNat = n := by
  rw [UInt8.toNat_ofNat']
  exact Nat.mod_eq_of_lt hByte

theorem tailBits_byte
    (hByte : n < 64) :
    Codec.tailBits (UInt8.ofNat (0x80 + n)) = n := by
  have hNat := toNat_byte (show 0x80 + n < 256 by omega)
  unfold Codec.tailBits
  omega

/- A byte in a range. -/
theorem and_le_iff
    {low high byte : UInt8} :
    (low ≤ byte && byte ≤ high) = true ↔
      low.toNat ≤ byte.toNat ∧ byte.toNat ≤ high.toNat := by
  simp only [Bool.and_eq_true, decide_eq_true_eq,
    UInt8.le_iff_toNat_le]

/- A continuation byte by its number. -/
theorem isTail_of_range
    (hRange : 0x80 ≤ byte.toNat ∧ byte.toNat ≤ 0xBF) :
    Codec.isTail byte = true := by
  rw [Codec.isTail, and_le_iff]
  simpa only [UInt8.reduceToNat] using hRange

/- A byte past ASCII. -/
theorem not_lt_of_past
    (hHigh : 0x80 ≤ byte.toNat) :
    ¬ byte < 0x80 := by
  rw [UInt8.lt_iff_toNat_lt]
  exact Nat.not_lt.mpr hHigh

/- A character of two bytes is read. -/
theorem utf8Replace_two
    {a b : UInt8}
    (hFirst : 0xC2 ≤ a.toNat ∧ a.toNat ≤ 0xDF)
    (hTail : 0x80 ≤ b.toNat ∧ b.toNat ≤ 0xBF)
    (rest : List UInt8) :
    utf8Replace (a :: b :: rest) =
      Char.ofNat ((a.toNat - 0xC0) * 64 + Codec.tailBits b) ::
        utf8Replace rest := by
  have hPast : 0x80 ≤ a.toNat := by
    omega
  have hB : Codec.isTail b = true := isTail_of_range hTail
  have hRange : (0xC2 ≤ a && a ≤ 0xDF) = true := by
    rw [and_le_iff]
    simpa only [UInt8.reduceToNat] using hFirst
  rw [utf8Replace.eq_def]
  simp only [if_neg (not_lt_of_past hPast),
    if_pos hRange, hB, if_true]

/- A character of three bytes is read. -/
theorem utf8Replace_three
    {a b c : UInt8}
    (hFirst : 0xE0 ≤ a.toNat ∧ a.toNat ≤ 0xEF)
    (hSecond : 0x80 ≤ b.toNat ∧ b.toNat ≤ 0xBF)
    (hThird : 0x80 ≤ c.toNat ∧ c.toNat ≤ 0xBF)
    (hOverlong : a.toNat ≠ 0xE0 ∨ 0xA0 ≤ b.toNat)
    (hSurrogate : a.toNat ≠ 0xED ∨ b.toNat ≤ 0x9F)
    (rest : List UInt8) :
    utf8Replace (a :: b :: c :: rest) =
      Char.ofNat ((a.toNat - 0xE0) * 4096 +
        Codec.tailBits b * 64 + Codec.tailBits c) ::
          utf8Replace rest := by
  have hPast : 0x80 ≤ a.toNat := by
    omega
  have hTwo : ¬ (0xC2 ≤ a && a ≤ 0xDF) = true := by
    rw [and_le_iff]
    simp only [UInt8.reduceToNat]
    omega
  have hB : Codec.isTail b = true := isTail_of_range hSecond
  have hC : Codec.isTail c = true := isTail_of_range hThird
  have hForm : Codec.secondOfThree false a b = true := by
    simp only [Codec.secondOfThree, Bool.and_eq_true,
      Bool.or_eq_true, bne_iff_ne, ne_eq, decide_eq_true_eq,
      UInt8.le_iff_toNat_le, ← UInt8.toNat_inj,
      UInt8.reduceToNat, Bool.or_false]
    exact ⟨hOverlong, hSurrogate⟩
  have hRange : (0xE0 ≤ a && a ≤ 0xEF) = true := by
    rw [and_le_iff]
    simpa only [UInt8.reduceToNat] using hFirst
  rw [utf8Replace.eq_def]
  simp only [if_neg (not_lt_of_past hPast),
    if_neg hTwo, if_pos hRange, hB, hC, hForm,
    Bool.and_self, if_true]

/- A character of four bytes is read. -/
theorem utf8Replace_four
    {a b c d : UInt8}
    (hFirst : 0xF0 ≤ a.toNat ∧ a.toNat ≤ 0xF4)
    (hSecond : 0x80 ≤ b.toNat ∧ b.toNat ≤ 0xBF)
    (hThird : 0x80 ≤ c.toNat ∧ c.toNat ≤ 0xBF)
    (hFourth : 0x80 ≤ d.toNat ∧ d.toNat ≤ 0xBF)
    (hOverlong : a.toNat ≠ 0xF0 ∨ 0x90 ≤ b.toNat)
    (hLast : a.toNat ≠ 0xF4 ∨ b.toNat ≤ 0x8F)
    (rest : List UInt8) :
    utf8Replace (a :: b :: c :: d :: rest) =
      Char.ofNat ((a.toNat - 0xF0) * 262144 +
        Codec.tailBits b * 4096 + Codec.tailBits c * 64 +
          Codec.tailBits d) :: utf8Replace rest := by
  have hPast : 0x80 ≤ a.toNat := by
    omega
  have hTwo : ¬ (0xC2 ≤ a && a ≤ 0xDF) = true := by
    rw [and_le_iff]
    simp only [UInt8.reduceToNat]
    omega
  have hThree : ¬ (0xE0 ≤ a && a ≤ 0xEF) = true := by
    rw [and_le_iff]
    simp only [UInt8.reduceToNat]
    omega
  have hB : Codec.isTail b = true := isTail_of_range hSecond
  have hC : Codec.isTail c = true := isTail_of_range hThird
  have hD : Codec.isTail d = true := isTail_of_range hFourth
  have hForm : Codec.secondOfFour a b = true := by
    simp only [Codec.secondOfFour, Bool.and_eq_true,
      Bool.or_eq_true, bne_iff_ne, ne_eq, decide_eq_true_eq,
      UInt8.le_iff_toNat_le, ← UInt8.toNat_inj,
      UInt8.reduceToNat]
    exact ⟨hOverlong, hLast⟩
  have hRange : (0xF0 ≤ a && a ≤ 0xF4) = true := by
    rw [and_le_iff]
    simpa only [UInt8.reduceToNat] using hFirst
  rw [utf8Replace.eq_def]
  simp only [if_neg (not_lt_of_past hPast),
    if_neg hTwo, if_neg hThree, if_pos hRange,
    hB, hC, hD, hForm, Bool.and_self, if_true]

/- The bytes of a character are read as that character. -/
theorem utf8Replace_utf8Bytes
    (c : Char)
    (rest : List UInt8) :
    utf8Replace (utf8Bytes c ++ rest) =
      c :: utf8Replace rest := by
  have hPoint : c.toNat < 55296 ∨
      57343 < c.toNat ∧ c.toNat < 1114112 := c.valid
  have hSame : Char.ofNat c.toNat = c := Char.ofNat_toNat c
  generalize hCode : c.toNat = n at hPoint hSame
  unfold utf8Bytes
  simp only [hCode]
  split
  · rename_i hOne
    have hA := toNat_byte (show n < 256 by omega)
    rw [List.singleton_append, utf8Replace.eq_def]
    simp only [UInt8.lt_iff_toNat_lt, UInt8.reduceToNat, hA,
      if_pos hOne, hSame]
  split
  · rename_i hOne hTwo
    have hA := toNat_byte (show 0xC0 + n / 64 < 256 by omega)
    have hB := toNat_byte (show 0x80 + n % 64 < 256 by omega)
    have hBits := tailBits_byte (show n % 64 < 64 by omega)
    rw [List.cons_append, List.singleton_append,
      utf8Replace_two (by omega) (by omega), hA, hBits]
    rw [show (0xC0 + n / 64 - 0xC0) * 64 + n % 64 = n by omega,
      hSame]
  split
  · rename_i hOne hTwo hThree
    have hA := toNat_byte (show 0xE0 + n / 4096 < 256 by omega)
    have hB := toNat_byte
      (show 0x80 + n / 64 % 64 < 256 by omega)
    have hC := toNat_byte (show 0x80 + n % 64 < 256 by omega)
    have hBitsB :=
      tailBits_byte (show n / 64 % 64 < 64 by omega)
    have hBitsC := tailBits_byte (show n % 64 < 64 by omega)
    rw [List.cons_append, List.cons_append,
      List.singleton_append,
      utf8Replace_three (by omega) (by omega) (by omega)
        (by omega) (by omega), hA, hBitsB, hBitsC]
    rw [show (0xE0 + n / 4096 - 0xE0) * 4096 +
      n / 64 % 64 * 64 + n % 64 = n by omega, hSame]
  · rename_i hOne hTwo hThree
    have hA := toNat_byte
      (show 0xF0 + n / 262144 < 256 by omega)
    have hB := toNat_byte
      (show 0x80 + n / 4096 % 64 < 256 by omega)
    have hC := toNat_byte
      (show 0x80 + n / 64 % 64 < 256 by omega)
    have hD := toNat_byte (show 0x80 + n % 64 < 256 by omega)
    have hBitsB :=
      tailBits_byte (show n / 4096 % 64 < 64 by omega)
    have hBitsC :=
      tailBits_byte (show n / 64 % 64 < 64 by omega)
    have hBitsD := tailBits_byte (show n % 64 < 64 by omega)
    rw [List.cons_append, List.cons_append, List.cons_append,
      List.singleton_append,
      utf8Replace_four (by omega) (by omega) (by omega)
        (by omega) (by omega) (by omega), hA, hBitsB, hBitsC,
      hBitsD]
    rw [show (0xF0 + n / 262144 - 0xF0) * 262144 +
      n / 4096 % 64 * 4096 + n / 64 % 64 * 64 + n % 64 = n
        by omega, hSame]

end Url

--------
-- Quoted Texts
--------

namespace Url

/- An escape is read as its byte. -/
theorem escape_hexDigit
    (byte : UInt8) :
    escape '%' (hexDigit (byte.toNat / 16))
      (hexDigit (byte.toNat % 16)) = some byte := by
  have hDigit : ∀ n < 16, hexValue (hexDigit n) = some n := by
    decide
  have hByte := byte.toNat_lt
  rw [escape, if_pos rfl, hDigit _ (by omega),
    hDigit _ (by omega)]
  refine congrArg some (ofNat_eq ?_)
  omega

/- Escaped bytes are read back, whatever follows them. -/
theorem unquoteToBytes_escapes
    (bytes : List UInt8)
    (rest : List Char) :
    unquoteToBytes (bytes.flatMap escapeByte ++ rest) =
      bytes ++ unquoteToBytes rest := by
  induction bytes with
  | nil => rfl
  | cons byte bytes ih =>
    rw [List.flatMap_cons, List.append_assoc, escapeByte,
      List.cons_append, List.cons_append, List.cons_append,
      List.nil_append, unquoteToBytes, escape_hexDigit, ih]
    rfl

/- A character that is no percent sign is its own byte. -/
theorem unquoteToBytes_cons
    {c : Char}
    (hMark : c ≠ '%')
    (rest : List Char) :
    unquoteToBytes (c :: rest) =
      byteOf c :: unquoteToBytes rest := by
  match rest with
  | [] => rfl
  | [_] => rfl
  | high :: low :: later =>
    rw [unquoteToBytes, escape, if_neg hMark]

variable {c : Char}

/- Unreserved characters are graphic ASCII. -/
theorem range_of_isUnreserved
    (hPlain : isUnreserved c = true) :
    45 ≤ c.toNat ∧ c.toNat < 127 := by
  simp only [isUnreserved, Char.isAlphanum] at hPlain
  delta Char.isAlpha Char.isUpper Char.isLower at hPlain
  simp only [Char.isDigit, Bool.or_eq_true,
    Bool.and_eq_true, decide_eq_true_eq, beq_iff_eq,
    ge_iff_le, UInt32.le_iff_toNat_le] at hPlain
  change 45 ≤ c.val.toNat ∧ c.val.toNat < 127
  have hOwn : ∀ d : Char, 45 ≤ d.val.toNat →
      d.val.toNat < 127 → c = d →
        45 ≤ c.val.toNat ∧ c.val.toNat < 127 := by
    rintro d hLow hHigh rfl
    exact ⟨hLow, hHigh⟩
  rcases hPlain with ((((hAlnum | hC) | hC) | hC) | hC)
  · have hCodes : 'A'.val.toNat = 65 ∧ 'Z'.val.toNat = 90 ∧
        'a'.val.toNat = 97 ∧ 'z'.val.toNat = 122 ∧
        '0'.val.toNat = 48 ∧ '9'.val.toNat = 57 := by
      decide
    omega
  · exact hOwn _ (by decide) (by decide) hC
  · exact hOwn _ (by decide) (by decide) hC
  · exact hOwn _ (by decide) (by decide) hC
  · exact hOwn _ (by decide) (by decide) hC

/- An escape is its mark and two digits. -/
theorem isUnreserved_of_mem_escapeByte
    {byte : UInt8}
    (hMem : c ∈ escapeByte byte) :
    c = '%' ∨ isUnreserved c = true := by
  have hDigit : ∀ n < 16,
      isUnreserved (hexDigit n) = true := by
    decide
  have hByte := byte.toNat_lt
  simp only [escapeByte, List.mem_cons, List.not_mem_nil,
    or_false] at hMem
  rcases hMem with rfl | rfl | rfl
  · exact Or.inl rfl
  · exact Or.inr (hDigit _ (by omega))
  · exact Or.inr (hDigit _ (by omega))

/- The only sign in a quoted text is the mark of an escape. -/
theorem isUnreserved_of_mem_quote
    {text : List Char}
    (hMem : c ∈ quote text) :
    c = '%' ∨ isUnreserved c = true := by
  rcases List.mem_flatMap.mp hMem with ⟨d, -, hChar⟩
  unfold quoteChar at hChar
  split at hChar
  · rename_i hPlain
    rw [List.mem_singleton.mp hChar]
    exact Or.inr hPlain
  · rcases List.mem_flatMap.mp hChar with ⟨byte, -, hEscape⟩
    exact isUnreserved_of_mem_escapeByte hEscape

/- A quoted text is graphic ASCII. -/
theorem range_of_mem_quote
    {text : List Char}
    (hMem : c ∈ quote text) :
    32 < c.toNat ∧ c.toNat < 127 := by
  rcases isUnreserved_of_mem_quote hMem with rfl | hPlain
  · decide
  · have hRange := range_of_isUnreserved hPlain
    exact ⟨by omega, hRange.2⟩

/- Only the empty text is quoted as the empty one. -/
theorem quote_ne_nil
    {text : List Char}
    (hText : text ≠ []) :
    quote text ≠ [] := by
  intro hNil
  rw [quote, List.flatMap_eq_nil_iff] at hNil
  rcases List.exists_mem_of_ne_nil text hText with ⟨c, hMem⟩
  have hChar := hNil c hMem
  unfold quoteChar at hChar
  split at hChar
  · cases hChar
  · rw [List.flatMap_eq_nil_iff] at hChar
    have hBytes : ∃ byte, byte ∈ utf8Bytes c := by
      unfold utf8Bytes
      dsimp only
      split_ifs <;> exact ⟨_, List.mem_cons_self⟩
    rcases hBytes with ⟨byte, hByte⟩
    cases hChar byte hByte

/- The bytes of a quoted text are those of the text. -/
theorem unquoteToBytes_quote
    (text : List Char) :
    unquoteToBytes (quote text) = text.flatMap utf8Bytes := by
  induction text with
  | nil => rfl
  | cons c text ih =>
    rw [quote, List.flatMap_cons, quoteChar]
    change unquoteToBytes (_ ++ quote text) = _
    split
    · rename_i hPlain
      have hRange := range_of_isUnreserved hPlain
      have hMark : c ≠ '%' := by
        rintro rfl
        exact absurd hPlain (by decide)
      have hOne : utf8Bytes c = [byteOf c] := by
        unfold utf8Bytes byteOf
        rw [if_pos (by omega)]
      rw [List.singleton_append, unquoteToBytes_cons hMark,
        List.flatMap_cons, ih, hOne]
      rfl
    · rw [unquoteToBytes_escapes, List.flatMap_cons, ih]

/- A text is read from its bytes. -/
theorem utf8Replace_flatMap
    (text : List Char) :
    utf8Replace (text.flatMap utf8Bytes) = text := by
  induction text with
  | nil => rfl
  | cons c text ih =>
    rw [List.flatMap_cons, utf8Replace_utf8Bytes, ih]

/- A quoted text is read back. -/
theorem unquote_quote
    (text : List Char) :
    unquote (quote text) = text := by
  have hAscii : ∀ c ∈ quote text, c.toNat < 128 := by
    intro c hMem
    have hRange := range_of_mem_quote hMem
    omega
  have hBytes : utf8Replace (unquoteToBytes (quote text)) =
      text := by
    rw [unquoteToBytes_quote, utf8Replace_flatMap]
  unfold unquote
  split
  · rw [unquoteRuns_of_ascii hAscii, List.nil_append,
      unquoteRun, hBytes]
  · rename_i hMark
    have hEscape : hasEscape (quote text) = false := by
      rw [Bool.eq_false_iff]
      intro hHas
      exact hMark (mem_of_hasEscape hHas)
    rw [unquoteToBytes_eq_map hEscape,
      utf8Replace_map_byteOf hAscii] at hBytes
    exact hBytes

end Url
