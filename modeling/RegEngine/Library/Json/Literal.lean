import RegEngine.Library.Json

/-
  The texts that `json.dumps` gives with `ensure_ascii=False`:
  only quotes, backslashes and control characters are escaped.
  Escaping what is beyond ASCII, too, gives the text that
  `json.dumps` writes by default, so that the document can be
  told from either text.

  Main declarations:
    * `Json.dumpLiteral`
    * `Json.flatMap_toAscii_dumpLiteral`
    * `Json.dumpLiteral_inj`
-/

--------
-- Literal Texts
--------

namespace Json

/- The escape of one character without `ensure_ascii`. -/
def literalChar (c : Char) : List Char :=
  if c = '"' ∨ c = '\\' ∨ c.toNat < 32 then escapeChar c
  else [c]

/- A quoted text without `ensure_ascii`. -/
def quoteLiteral (text : String) : List Char :=
  '"' :: (text.toList.flatMap literalChar ++ ['"'])

mutual

/- The text of a document without `ensure_ascii`. -/
def dumpLiteral (seps : Separators) : Json → List Char
| .scalar value => value.text.toList
| .str value => quoteLiteral value
| .arr [] => ['[', ']']
| .arr (item :: rest) =>
    '[' :: (dumpLiteral seps item ++ dumpLiteralItems seps rest)
| .obj [] => ['{', '}']
| .obj ((key, value) :: rest) =>
    '{' :: (quoteLiteral key ++ seps.key ++
      dumpLiteral seps value ++ dumpLiteralEntries seps rest)

/- The items after the first, and the closing bracket. -/
def dumpLiteralItems (seps : Separators) :
    List Json → List Char
| [] => [']']
| item :: rest =>
    seps.item ++ dumpLiteral seps item ++
      dumpLiteralItems seps rest

/- The entries after the first, and the closing brace. -/
def dumpLiteralEntries (seps : Separators) :
    List (String × Json) → List Char
| [] => ['}']
| (key, value) :: rest =>
    seps.item ++ quoteLiteral key ++ seps.key ++
      dumpLiteral seps value ++ dumpLiteralEntries seps rest

end

/-
  `json.dumps(document, separators=(",", ":"),
  ensure_ascii=False)`.
-/
def dumpsLiteral (document : Json) : String :=
  String.ofList (dumpLiteral compact document)

end Json

--------
-- Printable Characters
--------

namespace Json

/- A printable character of ASCII. -/
def Printable (c : Char) : Prop :=
  32 ≤ c.toNat ∧ c.toNat ≤ 126

instance : DecidablePred Printable := by
  intro c
  unfold Printable
  infer_instance

/- What becomes of a character when it has to be ASCII. -/
def toAscii (c : Char) : List Char :=
  if Printable c then [c] else escapeChar c

/- Printable texts stay as they are. -/
theorem flatMap_toAscii_of_printable
    {cs : List Char}
    (hCs : ∀ c ∈ cs, Printable c) :
    cs.flatMap toAscii = cs := by
  induction cs with
  | nil => rfl
  | cons c cs ih =>
    rw [List.flatMap_cons, ih (fun d hd => hCs d (by simp [hd])),
      toAscii, if_pos (hCs c (by simp))]
    rfl

variable {c : Char} {n : Nat}

/- The digits of a code unit are printable. -/
theorem printable_hex4
    (hMem : c ∈ hex4 n) :
    Printable c := by
  have hDigit : ∀ m < 16, Printable m.digitChar := by
    decide
  simp only [hex4, List.mem_cons, List.not_mem_nil,
    or_false] at hMem
  rcases hMem with rfl | rfl | rfl | rfl
  · exact hDigit _ (Nat.mod_lt _ (by decide))
  · exact hDigit _ (Nat.mod_lt _ (by decide))
  · exact hDigit _ (Nat.mod_lt _ (by decide))
  · exact hDigit _ (Nat.mod_lt _ (by decide))

/- The escape of a code unit is printable. -/
theorem printable_unit
    (hMem : c ∈ '\\' :: 'u' :: hex4 n) :
    Printable c := by
  rcases List.mem_cons.mp hMem with rfl | hRest
  · decide
  · rcases List.mem_cons.mp hRest with rfl | hDigit
    · decide
    · exact printable_hex4 hDigit

theorem printable_escapeChar
    {c d : Char}
    (hMem : d ∈ escapeChar c) :
    Printable d := by
  have hShort :
      ∀ e ∈ ['"', '\\', 'n', 'r', 't', 'f', 'b'],
        ∀ e' ∈ ['\\', e], Printable e' := by
    have hBackslash : Printable '\\' := by decide
    have hLetters : ∀ e ∈ ['"', '\\', 'n', 'r', 't', 'f', 'b'],
        Printable e :=
      Text.forall_of_all (by decide)
    intro e hMem e' hPair
    rcases List.mem_pair.mp hPair with rfl | rfl
    · exact hBackslash
    · exact hLetters e' hMem
  unfold escapeChar at hMem
  split at hMem
  · exact hShort '"' (by decide) d hMem
  split at hMem
  · exact hShort '\\' (by decide) d hMem
  split at hMem
  · exact hShort 'n' (by decide) d hMem
  split at hMem
  · exact hShort 'r' (by decide) d hMem
  split at hMem
  · exact hShort 't' (by decide) d hMem
  split at hMem
  · exact hShort 'f' (by decide) d hMem
  split at hMem
  · exact hShort 'b' (by decide) d hMem
  split at hMem
  · rename_i hPrintable
    rw [List.mem_singleton] at hMem
    rw [hMem]
    exact hPrintable
  split at hMem
  · exact printable_unit hMem
  · rcases List.mem_append.mp hMem with hHigh | hLow
    · exact printable_unit hHigh
    · exact printable_unit hLow

/- A character that is printed as it is. -/
theorem escapeChar_of_printable
    (hPrintable : Printable c)
    (hQuote : c ≠ '"')
    (hSlash : c ≠ '\\') :
    escapeChar c = [c] := by
  have hLow := hPrintable.1
  unfold escapeChar
  rw [if_neg hQuote, if_neg hSlash, if_neg (by omega),
    if_neg (by omega), if_neg (by omega), if_neg (by omega),
    if_neg (by omega)]
  exact if_pos hPrintable

/- The escape of a character, through its literal text. -/
theorem flatMap_toAscii_literalChar
    (c : Char) :
    (literalChar c).flatMap toAscii = escapeChar c := by
  unfold literalChar
  split
  · exact flatMap_toAscii_of_printable
      (fun d hd => printable_escapeChar hd)
  · rename_i hPlain
    rw [List.flatMap_singleton, toAscii]
    split
    · rename_i hPrintable
      exact (escapeChar_of_printable hPrintable
        (fun hQuote => hPlain (Or.inl hQuote))
        (fun hSlash => hPlain (Or.inr (Or.inl hSlash)))).symm
    · rfl

end Json

--------
-- From Literal Texts To ASCII
--------

namespace Json

structure Separators.Printed (seps : Separators) : Prop where
  item : ∀ c ∈ seps.item, Printable c
  key : ∀ c ∈ seps.key, Printable c

theorem compact_printed : compact.Printed :=
  ⟨Text.forall_of_all (by decide),
    Text.forall_of_all (by decide)⟩

variable {c : Char} {x y : Json}

theorem printable_text
    {value : Scalar}
    (hMem : c ∈ value.text.toList) :
    Printable c := by
  have hChars : ∀ d ∈ Scalar.chars, Printable d :=
    Text.forall_of_all (by decide)
  exact hChars c (Scalar.mem_chars hMem)

theorem toAscii_punctuation
    (hMem : c ∈ ['"', '[', ']', '{', '}']) :
    toAscii c = [c] := by
  have hPrintable : ∀ d ∈ ['"', '[', ']', '{', '}'],
      Printable d :=
    Text.forall_of_all (by decide)
  exact if_pos (hPrintable c hMem)

/- A quoted text, through its literal. -/
theorem flatMap_toAscii_quoteLiteral
    (text : String) :
    (quoteLiteral text).flatMap toAscii = quote text := by
  have hBody : ∀ cs : List Char,
      (cs.flatMap literalChar).flatMap toAscii =
        cs.flatMap escapeChar := by
    intro cs
    rw [List.flatMap_assoc]
    simp only [flatMap_toAscii_literalChar]
  rw [quoteLiteral, quote, List.flatMap_cons,
    List.flatMap_append, List.flatMap_singleton, hBody,
    toAscii_punctuation (by simp)]
  rfl

mutual

variable {seps : Separators}

/- The text in ASCII, through the literal one. -/
theorem flatMap_toAscii_dumpLiteral
    (hSeps : seps.Printed) :
    ∀ x : Json,
      (dumpLiteral seps x).flatMap toAscii = dump seps x
| .scalar value => by
    rw [dumpLiteral, dump]
    exact flatMap_toAscii_of_printable
      (fun c hc => printable_text hc)
| .str value => by
    rw [dumpLiteral, dump, flatMap_toAscii_quoteLiteral]
| .arr [] => by
    rw [dumpLiteral, dump]
    rfl
| .arr (item :: rest) => by
    rw [dumpLiteral, dump, List.flatMap_cons,
      List.flatMap_append, toAscii_punctuation (by simp),
      flatMap_toAscii_dumpLiteral hSeps item,
      flatMap_toAscii_dumpLiteralItems hSeps rest]
    rfl
| .obj [] => by
    rw [dumpLiteral, dump]
    rfl
| .obj ((key, value) :: rest) => by
    rw [dumpLiteral, dump, List.flatMap_cons,
      List.flatMap_append, List.flatMap_append,
      List.flatMap_append, toAscii_punctuation (by simp),
      flatMap_toAscii_quoteLiteral,
      flatMap_toAscii_of_printable hSeps.key,
      flatMap_toAscii_dumpLiteral hSeps value,
      flatMap_toAscii_dumpLiteralEntries hSeps rest]
    rfl

theorem flatMap_toAscii_dumpLiteralItems
    (hSeps : seps.Printed) :
    ∀ items : List Json,
      (dumpLiteralItems seps items).flatMap toAscii =
        dumpItems seps items
| [] => by
    rw [dumpLiteralItems, dumpItems]
    rfl
| item :: rest => by
    rw [dumpLiteralItems, dumpItems, List.flatMap_append,
      List.flatMap_append,
      flatMap_toAscii_of_printable hSeps.item,
      flatMap_toAscii_dumpLiteral hSeps item,
      flatMap_toAscii_dumpLiteralItems hSeps rest]

theorem flatMap_toAscii_dumpLiteralEntries
    (hSeps : seps.Printed) :
    ∀ entries : List (String × Json),
      (dumpLiteralEntries seps entries).flatMap toAscii =
        dumpEntries seps entries
| [] => by
    rw [dumpLiteralEntries, dumpEntries]
    rfl
| (key, value) :: rest => by
    rw [dumpLiteralEntries, dumpEntries, List.flatMap_append,
      List.flatMap_append, List.flatMap_append,
      List.flatMap_append,
      flatMap_toAscii_of_printable hSeps.item,
      flatMap_toAscii_quoteLiteral,
      flatMap_toAscii_of_printable hSeps.key,
      flatMap_toAscii_dumpLiteral hSeps value,
      flatMap_toAscii_dumpLiteralEntries hSeps rest]

end

/- Documents with one literal text are equal. -/
theorem dumpLiteral_inj
    {seps : Separators}
    (hValid : seps.Valid)
    (hPrinted : seps.Printed)
    (hEq : dumpLiteral seps x = dumpLiteral seps y) :
    x = y := by
  apply dump_inj hValid
  rw [← flatMap_toAscii_dumpLiteral hPrinted x, hEq,
    flatMap_toAscii_dumpLiteral hPrinted y]

/- Documents with one compact literal text are equal. -/
theorem dumpsLiteral_inj
    (hEq : dumpsLiteral x = dumpsLiteral y) :
    x = y := by
  apply dumpLiteral_inj compact_valid compact_printed
  exact String.ofList_injective hEq

end Json
