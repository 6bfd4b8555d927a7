import Mathlib.Data.List.Basic

/-
  Texts read from bytes: the decoders of UTF-8, UTF-16 and
  UTF-32, and the two ways a JSON document is read, from a
  decoded text and from the bytes themselves. A text is the
  list of its code points, lone surrogates included.

  Main declarations:
    * `Codec.utf8`
    * `Codec.Encoding.decode`
    * `Codec.utf8_pass`
-/

--------
-- UTF-8
--------

namespace Codec

/- A continuation byte. -/
def isTail (b : UInt8) : Bool :=
  0x80 ≤ b && b ≤ 0xBF

/- The six bits of a continuation byte. -/
def tailBits (b : UInt8) : Nat :=
  b.toNat - 0x80

/-
  The second byte of a three-byte character: no overlong form,
  and a surrogate only when `pass` lets it through.
-/
def secondOfThree (pass : Bool) (a b : UInt8) : Bool :=
  (a != 0xE0 || 0xA0 ≤ b) && (a != 0xED || b ≤ 0x9F || pass)

/-
  The second byte of a four-byte character: no overlong form,
  and nothing past the last code point.
-/
def secondOfFour (a b : UInt8) : Bool :=
  (a != 0xF0 || 0x90 ≤ b) && (a != 0xF4 || b ≤ 0x8F)

/-
  `bytes.decode("utf-8")`, and with `pass` the error handler
  `"surrogatepass"`; `none` is a `UnicodeDecodeError`.
-/
def utf8 (pass : Bool) : List UInt8 → Option (List Nat)
| [] => some []
| a :: rest =>
    if a < 0x80 then
      (utf8 pass rest).map (fun text => a.toNat :: text)
    else if 0xC2 ≤ a && a ≤ 0xDF then
      match rest with
      | b :: rest =>
          if isTail b then
            (utf8 pass rest).map (fun text =>
              ((a.toNat - 0xC0) * 64 + tailBits b) :: text)
          else
            none
      | [] => none
    else if 0xE0 ≤ a && a ≤ 0xEF then
      match rest with
      | b :: c :: rest =>
          if isTail b && isTail c && secondOfThree pass a b then
            (utf8 pass rest).map (fun text =>
              ((a.toNat - 0xE0) * 4096 + tailBits b * 64 +
                tailBits c) :: text)
          else
            none
      | _ => none
    else if 0xF0 ≤ a && a ≤ 0xF4 then
      match rest with
      | b :: c :: d :: rest =>
          if isTail b && isTail c && isTail d &&
              secondOfFour a b then
            (utf8 pass rest).map (fun text =>
              ((a.toNat - 0xF0) * 262144 + tailBits b * 4096 +
                tailBits c * 64 + tailBits d) :: text)
          else
            none
      | _ => none
    else
      none

/- ASCII bytes are their own code points. -/
theorem utf8_of_ascii
    {pass : Bool}
    {bytes : List UInt8}
    (hAscii : ∀ b ∈ bytes, b < 0x80) :
    utf8 pass bytes = some (bytes.map UInt8.toNat) := by
  induction bytes with
  | nil => simp [utf8]
  | cons a rest ih =>
      rw [utf8.eq_def]
      simp only [if_pos (hAscii a List.mem_cons_self)]
      rw [ih (fun b hb => hAscii b (List.mem_cons_of_mem a hb))]
      rfl

/- Bytes that decode strictly decode the same when let pass. -/
theorem utf8_pass
    {bytes : List UInt8}
    {text : List Nat}
    (hText : utf8 false bytes = some text) :
    utf8 true bytes = some text := by
  fun_induction utf8 false bytes generalizing text with
  | case1 => exact hText
  | case2 a rest hOne ih =>
      rcases Option.map_eq_some_iff.mp hText with
        ⟨more, hMore, hEq⟩
      rw [utf8.eq_def]
      simp only [hOne, if_true, ih hMore, ← hEq,
        Option.map_some]
  | case3 a hOne hTwo b rest hTail ih =>
      rcases Option.map_eq_some_iff.mp hText with
        ⟨more, hMore, hEq⟩
      rw [utf8, if_neg hOne, if_pos hTwo]
      simp only [hTail, if_true, ih hMore, ← hEq,
        Option.map_some]
  | case6 a hOne hTwo hThree b c rest hTails ih =>
      rcases Option.map_eq_some_iff.mp hText with
        ⟨more, hMore, hEq⟩
      have hPass :
          (isTail b && isTail c &&
            secondOfThree true a b) = true := by
        simp only [secondOfThree, Bool.and_eq_true,
          Bool.or_false] at hTails
        simp [secondOfThree, hTails]
      rw [utf8, if_neg hOne, if_neg hTwo, if_pos hThree]
      simp only [hPass, if_true, ih hMore, ← hEq,
        Option.map_some]
  | case9 a hOne hTwo hThree hFour b c d rest hTails ih =>
      rcases Option.map_eq_some_iff.mp hText with
        ⟨more, hMore, hEq⟩
      rw [utf8, if_neg hOne, if_neg hTwo, if_neg hThree,
        if_pos hFour]
      simp only [hTails, if_true, ih hMore, ← hEq,
        Option.map_some]
  | _ => simp at hText

/-
  How a decoded text begins: no byte starts it that no
  character starts with, and a zero byte in one of the first
  two places is a character of its own.
-/
theorem utf8_cons
    {a : UInt8}
    {rest : List UInt8}
    {text : List Nat}
    (hText : utf8 false (a :: rest) = some text) :
    a ≤ 0xF4 ∧ (a = 0 → 0 ∈ text) ∧
      (rest.head? = some 0 → 0 ∈ text) := by
  rw [utf8.eq_def] at hText
  dsimp only at hText
  split at hText
  · rename_i hOne
    rcases Option.map_eq_some_iff.mp hText with
      ⟨more, hMore, rfl⟩
    refine ⟨?_, ?_, ?_⟩
    · rw [UInt8.lt_iff_toNat_lt] at hOne
      rw [UInt8.le_iff_toNat_le]
      exact Nat.le_of_lt (Nat.lt_trans hOne (by decide))
    · rintro rfl
      simp
    · intro hZero
      cases rest with
      | nil => simp at hZero
      | cons b rest =>
          have hb : b = 0 := by simpa using hZero
          subst hb
          rw [utf8.eq_def] at hMore
          simp only [UInt8.reduceLT, if_true] at hMore
          rcases Option.map_eq_some_iff.mp hMore with
            ⟨last, -, rfl⟩
          simp
  · rename_i hOne
    have hNonzero : a ≠ 0 := by
      rintro rfl
      exact hOne (by decide)
    have hTail : ∀ b, isTail b = true → b ≠ 0 := by
      rintro b hTail rfl
      exact absurd hTail (by decide)
    refine ⟨?_, fun h => absurd h hNonzero, ?_⟩
    · by_contra hHigh
      have hNot :
          ¬ (a ≤ 0xDF) ∧ ¬ (a ≤ 0xEF) ∧ ¬ (a ≤ 0xF4) := by
        simp only [UInt8.le_iff_toNat_le] at hHigh ⊢
        simp at hHigh ⊢
        omega
      simp [hNot.1, hNot.2.1, hNot.2.2] at hText
    · intro hZero
      cases rest with
      | nil => simp at hZero
      | cons b rest =>
          have hb : b = 0 := by simpa using hZero
          have hNot : isTail b = false := by
            subst hb
            decide
          simp only [hNot, Bool.false_eq_true,
            if_false] at hText
          grind

end Codec

--------
-- UTF-16 And UTF-32
--------

namespace Codec

/- The order of the bytes of a code unit. -/
inductive ByteOrder where
  | big
  | little
  deriving DecidableEq, Repr

/- The number a run of bytes writes. -/
def ByteOrder.number
    (order : ByteOrder)
    (bytes : List UInt8) : Nat :=
  match order with
  | .big => bytes.foldl (fun n b => n * 256 + b.toNat) 0
  | .little => bytes.foldr (fun b n => n * 256 + b.toNat) 0

/- The code units of UTF-16; a byte left over is an error. -/
def units16 (order : ByteOrder) :
    List UInt8 → Option (List Nat)
| [] => some []
| a :: b :: rest =>
    (units16 order rest).map (fun units =>
      order.number [a, b] :: units)
| _ => none

/-
  Surrogate pairs joined; a lone surrogate passes through, as
  under `"surrogatepass"`.
-/
def joinPairs : List Nat → List Nat
| [] => []
| [unit] => [unit]
| high :: low :: rest =>
    if 0xD800 ≤ high ∧ high ≤ 0xDBFF ∧
        0xDC00 ≤ low ∧ low ≤ 0xDFFF then
      (0x10000 + (high - 0xD800) * 1024 + (low - 0xDC00)) ::
        joinPairs rest
    else
      high :: joinPairs (low :: rest)

/- `bytes.decode("utf-16-be", "surrogatepass")`, or `-le`. -/
def utf16
    (order : ByteOrder)
    (bytes : List UInt8) : Option (List Nat) :=
  (units16 order bytes).map joinPairs

/- `bytes.decode("utf-32-be", "surrogatepass")`, or `-le`. -/
def utf32 (order : ByteOrder) :
    List UInt8 → Option (List Nat)
| [] => some []
| a :: b :: c :: d :: rest =>
    if order.number [a, b, c, d] ≤ 0x10FFFF then
      (utf32 order rest).map (fun text =>
        order.number [a, b, c, d] :: text)
    else
      none
| _ => none

end Codec

--------
-- JSON Documents
--------

namespace Codec

/- The encodings `json.detect_encoding` tells apart. -/
inductive Encoding where
  | utf8
  | utf8Sig
  | utf16
  | utf16Of (order : ByteOrder)
  | utf32
  | utf32Of (order : ByteOrder)
  deriving DecidableEq, Repr

/- `bytes.decode(encoding, "surrogatepass")`. -/
def Encoding.decode
    (encoding : Encoding)
    (bytes : List UInt8) : Option (List Nat) :=
  match encoding with
  | .utf8 => Codec.utf8 true bytes
  | .utf8Sig => Codec.utf8 true (bytes.drop 3)
  -- the byte order mark is read and dropped
  | .utf16 =>
      if bytes.take 2 = [0xFE, 0xFF] then
        Codec.utf16 .big (bytes.drop 2)
      else
        Codec.utf16 .little (bytes.drop 2)
  | .utf16Of order => Codec.utf16 order bytes
  | .utf32 =>
      if bytes.take 4 = [0, 0, 0xFE, 0xFF] then
        Codec.utf32 .big (bytes.drop 4)
      else
        Codec.utf32 .little (bytes.drop 4)
  | .utf32Of order => Codec.utf32 order bytes

/- `json.detect_encoding`, where no byte order mark stands. -/
def detectUnmarked : List UInt8 → Encoding
| [a, b] =>
    if a = 0 then .utf16Of .big
    else if b = 0 then .utf16Of .little
    else .utf8
| a :: b :: c :: d :: _ =>
    if a = 0 then
      if b ≠ 0 then .utf16Of .big else .utf32Of .big
    else if b = 0 then
      if c ≠ 0 ∨ d ≠ 0 then .utf16Of .little
      else .utf32Of .little
    else
      .utf8
| _ => .utf8

/- `json.detect_encoding`. -/
def detectEncoding (bytes : List UInt8) : Encoding :=
  if bytes.take 4 = [0, 0, 0xFE, 0xFF] ∨
      bytes.take 4 = [0xFF, 0xFE, 0, 0] then
    .utf32
  else if bytes.take 2 = [0xFE, 0xFF] ∨
      bytes.take 2 = [0xFF, 0xFE] then
    .utf16
  else if bytes.take 3 = [0xEF, 0xBB, 0xBF] then
    .utf8Sig
  else
    detectUnmarked bytes

/- How reading a JSON document ends without a value. -/
inductive ReadError where
  | unicodeDecodeError
  | jsonDecodeError
  | other
  deriving DecidableEq, Repr

variable {α : Type}

/-
  `json.loads` of a text. `decoder` is the scan of the text; a
  byte order mark in front of it is an error.
-/
def loadsText
    (decoder : List Nat → Except ReadError α)
    (text : List Nat) : Except ReadError α :=
  if text.head? = some 0xFEFF then
    .error .jsonDecodeError
  else
    decoder text

/- `json.loads` of bytes, in the encoding they show. -/
def loadsBytes
    (decoder : List Nat → Except ReadError α)
    (bytes : List UInt8) : Except ReadError α :=
  match (detectEncoding bytes).decode bytes with
  | none => .error .unicodeDecodeError
  | some text => decoder text

/- `json.loads(bytes.decode("utf-8"))`. -/
def loadsUtf8
    (decoder : List Nat → Except ReadError α)
    (bytes : List UInt8) : Except ReadError α :=
  match utf8 false bytes with
  | none => .error .unicodeDecodeError
  | some text => loadsText decoder text

/-
  Bytes of a text in strict UTF-8, with no byte order mark and
  no zero character. The bytes of an ASCII text in UTF-16 are
  strict UTF-8 too, with a zero in every other place.
-/
def isPlainUtf8 (bytes : List UInt8) : Bool :=
  match utf8 false bytes with
  | none => false
  | some text =>
      text.head? != some 0xFEFF && !text.contains 0

/- Plain bytes, by the text they hold. -/
theorem isPlainUtf8_iff
    {bytes : List UInt8} :
    isPlainUtf8 bytes = true ↔
      ∃ text, utf8 false bytes = some text ∧
        text.head? ≠ some 0xFEFF ∧ 0 ∉ text := by
  unfold isPlainUtf8
  cases utf8 false bytes with
  | none => simp
  | some text => simp

/- A scan that takes no text with a zero character in it. -/
def RejectsZero
    (decoder : List Nat → Except ReadError α) : Prop :=
  ∀ text value, decoder text = .ok value → 0 ∉ text

variable {bytes : List UInt8}

/- The mark of UTF-8 decodes to the code point of the mark. -/
theorem head_of_mark
    {text : List Nat}
    (hText : utf8 false bytes = some text)
    (hTake : bytes.take 3 = [0xEF, 0xBB, 0xBF]) :
    text.head? = some 0xFEFF := by
  have hBytes := List.take_append_drop 3 bytes
  rw [hTake] at hBytes
  rw [← hBytes] at hText
  simp only [List.cons_append, List.nil_append] at hText
  rw [utf8] at hText
  rcases Option.map_eq_some_iff.mp hText with
    ⟨more, -, rfl⟩
  rfl

/-
  A document in plain UTF-8 with no zero character is read as
  UTF-8: it shows no mark of another encoding.
-/
theorem detectEncoding_of_utf8
    {text : List Nat}
    (hText : utf8 false bytes = some text)
    (hMark : text.head? ≠ some 0xFEFF)
    (hZero : 0 ∉ text) :
    detectEncoding bytes = .utf8 := by
  cases bytes with
  | nil => rfl
  | cons a rest =>
      rcases utf8_cons hText with ⟨hHigh, hFirst, hSecond⟩
      have hFe : a ≠ 0xFE := by
        rintro rfl
        exact absurd hHigh (by decide)
      have hFf : a ≠ 0xFF := by
        rintro rfl
        exact absurd hHigh (by decide)
      have hA : a ≠ 0 := fun h => hZero (hFirst h)
      have hB : rest.head? ≠ some 0 :=
        fun h => hZero (hSecond h)
      have hSig :
          (a :: rest).take 3 ≠ [0xEF, 0xBB, 0xBF] := by
        intro hTake
        apply hMark
        exact head_of_mark hText hTake
      have hUnmarked : detectUnmarked (a :: rest) = .utf8 := by
        unfold detectUnmarked
        grind
      simp only [detectEncoding, hSig, if_false, hUnmarked]
      simp [hFe, hFf, hA]

variable {decoder : List Nat → Except ReadError α}

/- Plain bytes are read in the one encoding. -/
theorem loadsBytes_of_plain
    {text : List Nat}
    (hText : utf8 false bytes = some text)
    (hMark : text.head? ≠ some 0xFEFF)
    (hZero : 0 ∉ text) :
    loadsBytes decoder bytes = decoder text := by
  have hEncoding := detectEncoding_of_utf8 hText hMark hZero
  simp only [loadsBytes, hEncoding, Encoding.decode,
    utf8_pass hText]

/-
  A document is read from its decoded text exactly when its
  bytes are plain and it is read from these.
-/
theorem loadsUtf8_eq_ok_iff
    {value : α}
    (hZero : RejectsZero decoder) :
    loadsUtf8 decoder bytes = .ok value ↔
      isPlainUtf8 bytes = true ∧
        loadsBytes decoder bytes = .ok value := by
  rw [isPlainUtf8_iff]
  constructor
  · intro hRead
    unfold loadsUtf8 at hRead
    split at hRead
    · cases hRead
    · rename_i text hText
      unfold loadsText at hRead
      split at hRead
      · cases hRead
      · rename_i hMark
        have hNone := hZero text value hRead
        refine ⟨⟨text, hText, hMark, hNone⟩, ?_⟩
        rw [loadsBytes_of_plain hText hMark hNone, hRead]
  · rintro ⟨⟨text, hText, hMark, hNone⟩, hRead⟩
    rw [loadsBytes_of_plain hText hMark hNone] at hRead
    simp only [loadsUtf8, hText, loadsText, hMark, if_false,
      hRead]

end Codec
