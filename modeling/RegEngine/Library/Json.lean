import Mathlib.Data.List.Sort
import RegEngine.Library.Python

/-
  JSON documents and the texts `json.dumps` gives to them.
  With sorted keys the text of a document determines it up to
  the order of its keys.

  Main declarations:
    * `Json`
    * `Json.sortKeys`
    * `Json.dumps`
-/

--------
-- Documents
--------

/- The values that are neither text nor nested. -/
inductive Json.Scalar where
  | null
  | bool (value : Bool)
  | int (value : Int)
  | float (value : Python.Float)
  deriving DecidableEq

/- A JSON document, its objects in the order of insertion. -/
inductive Json where
  | scalar (value : Json.Scalar)
  | str (value : String)
  | arr (items : List Json)
  | obj (entries : List (String × Json))

namespace Json

/- The order of two keys: by code point, as `sorted` does. -/
def keyLe : List Char → List Char → Bool
| [], _ => true
| _ :: _, [] => false
| c :: rest, d :: rest' =>
    c.toNat < d.toNat || (c == d && keyLe rest rest')

/- Two entries stand in the order of their keys. -/
def EntryLe (x y : String × Json) : Prop :=
  keyLe x.1.toList y.1.toList = true

instance : DecidableRel EntryLe := by
  intro x y
  unfold EntryLe
  infer_instance

mutual

/- A document with the keys of every object in order. -/
def sortKeys : Json → Json
| .scalar value => .scalar value
| .str value => .str value
| .arr items => .arr (sortKeysItems items)
| .obj entries =>
    .obj ((sortKeysEntries entries).insertionSort EntryLe)

def sortKeysItems : List Json → List Json
| [] => []
| item :: rest => sortKeys item :: sortKeysItems rest

def sortKeysEntries :
    List (String × Json) → List (String × Json)
| [] => []
| (key, value) :: rest =>
    (key, sortKeys value) :: sortKeysEntries rest

end

end Json

--------
-- Scalars
--------

namespace Json

namespace Scalar

/- The JSON text of a floating-point number. -/
def floatText (x : Python.Float) : String :=
  if x.repr = "nan" then "NaN"
  else if x.repr = "inf" then "Infinity"
  else if x.repr = "-inf" then "-Infinity"
  else x.repr

/- The JSON text of a scalar. -/
def text : Scalar → String
| .null => "null"
| .bool true => "true"
| .bool false => "false"
| .int value => toString value
| .float value => floatText value

/- The characters of a scalar text. -/
def chars : List Char :=
  "0123456789+-.abcdefghijklmnopqrstuvwxyzNI".toList

/- The characters of the JSON text of a number. -/
def floatTextChars : List Char :=
  Python.floatChars ++ "NIty".toList

variable {c : Char} {x : Python.Float}

/- The text of a number holds number characters only. -/
theorem mem_floatTextChars
    (hMem : c ∈ (floatText x).toList) :
    c ∈ floatTextChars := by
  unfold floatText at hMem
  split at hMem
  · exact Text.forall_of_all (by decide) c hMem
  · split at hMem
    · exact Text.forall_of_all (by decide) c hMem
    · split at hMem
      · exact Text.forall_of_all (by decide) c hMem
      · exact List.mem_append_left _ (x.mem_floatChars hMem)

/- A scalar text holds scalar characters only. -/
theorem mem_chars
    {value : Scalar}
    (hMem : c ∈ value.text.toList) :
    c ∈ chars := by
  cases value with
  | null => exact Text.forall_of_all (by decide) c hMem
  | bool b =>
      cases b <;> exact Text.forall_of_all (by decide) c hMem
  | int n =>
      have hDigits : ∀ d ∈ Python.decimalDigits, d ∈ chars :=
        Text.forall_of_all (by decide)
      rcases Python.mem_toString_int hMem with hSign | hDigit
      · rw [hSign]
        decide
      · exact hDigits c hDigit
  | float x =>
      have hChars : ∀ d ∈ floatTextChars, d ∈ chars :=
        Text.forall_of_all (by decide)
      exact hChars c (mem_floatTextChars hMem)

/-
  The text of a number has a letter, a point or an exponent,
  and is none of the words for the other scalars.
-/
theorem exists_mark_floatText
    (x : Python.Float) :
    ∃ c ∈ (floatText x).toList,
      c ≠ '-' ∧ c ∉ Python.decimalDigits := by
  unfold floatText
  split
  · exact ⟨'N', by decide⟩
  · split
    · exact ⟨'I', by decide⟩
    · split
      · exact ⟨'I', by decide⟩
      · rcases x.exists_mark with ⟨c, hMem, hMark⟩
        refine ⟨c, hMem, ?_⟩
        rcases hMark with h | h | h <;> (rw [h]; decide)

/- A scalar text is not empty. -/
theorem text_ne_nil
    (value : Scalar) :
    value.text.toList ≠ [] := by
  cases value with
  | null => decide
  | bool b => cases b <;> decide
  | int n => exact Python.toList_toString_int_ne_nil n
  | float x =>
      intro hNil
      rcases exists_mark_floatText x with ⟨c, hMem, -⟩
      rw [show (floatText x).toList = [] from hNil] at hMem
      simp at hMem

/- The number text that a JSON text stands for. -/
def ofFloatText (text : String) : String :=
  if text = "NaN" then "nan"
  else if text = "Infinity" then "inf"
  else if text = "-Infinity" then "-inf"
  else text

/- The JSON text of a number gives its text back. -/
theorem ofFloatText_floatText
    (x : Python.Float) :
    ofFloatText (floatText x) = x.repr := by
  have hNoCapital :
      ∀ word : String,
        ('N' ∈ word.toList ∨ 'I' ∈ word.toList) →
          x.repr ≠ word := by
    intro word hCapital hRepr
    rw [← hRepr] at hCapital
    have hNone :
        'N' ∉ Python.floatChars ∧ 'I' ∉ Python.floatChars := by
      decide
    rcases hCapital with hN | hI
    · exact hNone.1 (x.mem_floatChars hN)
    · exact hNone.2 (x.mem_floatChars hI)
  unfold floatText
  split
  · simp [ofFloatText, *]
  · split
    · simp [ofFloatText, *]
    · split
      · simp [ofFloatText, *]
      · simp [ofFloatText,
          hNoCapital "NaN" (by decide),
          hNoCapital "Infinity" (by decide),
          hNoCapital "-Infinity" (by decide)]

/- Numbers with one text are equal. -/
theorem floatText_inj
    {x y : Python.Float}
    (hEq : floatText x = floatText y) :
    x = y := by
  have hRepr : x.repr = y.repr := by
    rw [← ofFloatText_floatText x, hEq,
      ofFloatText_floatText]
  cases x
  cases y
  simpa using hRepr

/- The text of a number is no word for another scalar. -/
theorem floatText_ne_of_mem
    {word : String}
    (hMem : c ∈ word.toList)
    (hChar : c ∉ floatTextChars) :
    floatText x ≠ word := by
  intro hEq
  rw [← hEq] at hMem
  exact hChar (mem_floatTextChars hMem)

/- The text of an integer is no word with a letter. -/
theorem toString_int_ne_of_mem
    {n : Int}
    {word : String}
    (hMem : c ∈ word.toList)
    (hChar : c ≠ '-' ∧ c ∉ Python.decimalDigits) :
    toString n ≠ word := by
  intro hEq
  rw [← hEq] at hMem
  rcases Python.mem_toString_int hMem with hSign | hDigit
  · exact hChar.1 hSign
  · exact hChar.2 hDigit

/- Scalars with one text are equal. -/
theorem text_inj
    {x y : Scalar}
    (hEq : x.text = y.text) :
    x = y := by
  have hIntFloat :
      ∀ (n : Int) (z : Python.Float),
        toString n ≠ floatText z := by
    intro n z
    rcases exists_mark_floatText z with ⟨c, hMem, hChar⟩
    exact toString_int_ne_of_mem hMem hChar
  have hIntNull : ∀ n : Int, toString n ≠ "null" := fun n =>
    toString_int_ne_of_mem (c := 'u') (by decide) (by decide)
  have hIntTrue : ∀ n : Int, toString n ≠ "true" := fun n =>
    toString_int_ne_of_mem (c := 'u') (by decide) (by decide)
  have hIntFalse : ∀ n : Int, toString n ≠ "false" := fun n =>
    toString_int_ne_of_mem (c := 's') (by decide) (by decide)
  have hFloatNull : ∀ z, floatText z ≠ "null" := fun z =>
    floatText_ne_of_mem (c := 'u') (by decide) (by decide)
  have hFloatTrue : ∀ z, floatText z ≠ "true" := fun z =>
    floatText_ne_of_mem (c := 'u') (by decide) (by decide)
  have hFloatFalse : ∀ z, floatText z ≠ "false" := fun z =>
    floatText_ne_of_mem (c := 's') (by decide) (by decide)
  cases x with
  | null =>
      cases y with
      | null => rfl
      | bool b => cases b <;> exact absurd hEq (by decide)
      | int n => exact absurd hEq.symm (hIntNull n)
      | float z => exact absurd hEq.symm (hFloatNull z)
  | bool b =>
      cases y with
      | null => cases b <;> exact absurd hEq (by decide)
      | bool b' =>
          cases b <;> cases b' <;>
            first | rfl | exact absurd hEq (by decide)
      | int n =>
          cases b
          · exact absurd hEq.symm (hIntFalse n)
          · exact absurd hEq.symm (hIntTrue n)
      | float z =>
          cases b
          · exact absurd hEq.symm (hFloatFalse z)
          · exact absurd hEq.symm (hFloatTrue z)
  | int m =>
      cases y with
      | null => exact absurd hEq (hIntNull m)
      | bool b =>
          cases b
          · exact absurd hEq (hIntFalse m)
          · exact absurd hEq (hIntTrue m)
      | int n => rw [Python.toString_int_inj hEq]
      | float z => exact absurd hEq (hIntFloat m z)
  | float x =>
      cases y with
      | null => exact absurd hEq (hFloatNull x)
      | bool b =>
          cases b
          · exact absurd hEq (hFloatFalse x)
          · exact absurd hEq (hFloatTrue x)
      | int n => exact absurd hEq.symm (hIntFloat n x)
      | float y => rw [floatText_inj hEq]

end Scalar

end Json

--------
-- Text Literals
--------

namespace Json

/- Four hexadecimal digits of a code unit. -/
def hex4 (n : Nat) : List Char :=
  [(n / 4096 % 16).digitChar, (n / 256 % 16).digitChar,
    (n / 16 % 16).digitChar, (n % 16).digitChar]

/-
  The escape of one character, as `json.dumps` writes it with
  `ensure_ascii`: printable ASCII as it is, characters beyond
  the basic plane as a pair of surrogates.
-/
def escapeChar (c : Char) : List Char :=
  if c = '"' then ['\\', '"']
  else if c = '\\' then ['\\', '\\']
  else if c.toNat = 10 then ['\\', 'n']
  else if c.toNat = 13 then ['\\', 'r']
  else if c.toNat = 9 then ['\\', 't']
  else if c.toNat = 12 then ['\\', 'f']
  else if c.toNat = 8 then ['\\', 'b']
  else if 32 ≤ c.toNat ∧ c.toNat ≤ 126 then [c]
  else if c.toNat < 65536 then
    '\\' :: 'u' :: hex4 c.toNat
  else
    '\\' :: 'u' :: hex4 (55296 + (c.toNat - 65536) / 1024) ++
      '\\' :: 'u' :: hex4 (56320 + (c.toNat - 65536) % 1024)

/- A quoted text. -/
def quote (text : String) : List Char :=
  '"' :: (text.toList.flatMap escapeChar ++ ['"'])

/- The value of a hexadecimal digit. -/
def hexValue (c : Char) : Nat :=
  if c.toNat < 97 then c.toNat - 48 else c.toNat - 87

/- The code unit that four hexadecimal digits stand for. -/
def readHex4 : List Char → Option (Nat × List Char)
| a :: b :: c :: d :: rest =>
    some (hexValue a * 4096 + hexValue b * 256 +
      hexValue c * 16 + hexValue d, rest)
| _ => none

/- Reads one escaped character back. -/
def readChar : List Char → Option (Char × List Char)
| '\\' :: 'u' :: rest =>
    match readHex4 rest with
    | none => none
    | some (unit, after) =>
        if unit < 55296 ∨ 57343 < unit then
          some (Char.ofNat unit, after)
        else
          match readHex4 (after.drop 2) with
          | none => none
          | some (low, last) =>
              some (Char.ofNat (65536 +
                (unit - 55296) * 1024 + (low - 56320)), last)
| '\\' :: c :: rest =>
    some (if c = 'n' then '\n' else if c = 'r' then '\r'
      else if c = 't' then '\t'
      else if c = 'f' then Char.ofNat 12
      else if c = 'b' then Char.ofNat 8 else c, rest)
| c :: rest => some (c, rest)
| [] => none

variable {n : Nat}

/- Digits of one hexadecimal place read back. -/
theorem hexValue_digitChar
    (hN : n < 16) :
    hexValue n.digitChar = n := by
  have hAll : ∀ m < 16, hexValue m.digitChar = m := by
    decide
  exact hAll n hN

/- Code units read back from their digits. -/
theorem readHex4_hex4
    (hN : n < 65536)
    (rest : List Char) :
    readHex4 (hex4 n ++ rest) = some (n, rest) := by
  simp only [hex4, List.cons_append, List.nil_append,
    readHex4]
  rw [hexValue_digitChar (by omega),
    hexValue_digitChar (by omega),
    hexValue_digitChar (by omega),
    hexValue_digitChar (by omega)]
  congr 2
  omega

/- Code points never lie among the surrogates. -/
theorem toNat_not_surrogate
    (c : Char) :
    c.toNat < 55296 ∨ (57343 < c.toNat ∧ c.toNat < 1114112) := by
  have hValid := c.valid
  rcases hValid with hLow | hHigh
  · exact Or.inl hLow
  · exact Or.inr hHigh

/- An escaped character reads back. -/
theorem readChar_escapeChar
    (c : Char)
    (rest : List Char) :
    readChar (escapeChar c ++ rest) = some (c, rest) := by
  have hOfNat : Char.ofNat c.toNat = c := Char.ofNat_toNat c
  have hPoint := toNat_not_surrogate c
  unfold escapeChar
  split
  · rename_i hQuote
    rw [hQuote]
    rfl
  split
  · rename_i hSlash
    rw [hSlash]
    rfl
  split
  · rename_i hNum
    rw [hNum] at hOfNat
    rw [← hOfNat]
    rfl
  split
  · rename_i hNum
    rw [hNum] at hOfNat
    rw [← hOfNat]
    rfl
  split
  · rename_i hNum
    rw [hNum] at hOfNat
    rw [← hOfNat]
    rfl
  split
  · rename_i hNum
    rw [hNum] at hOfNat
    rw [← hOfNat]
    rfl
  split
  · rename_i hNum
    rw [hNum] at hOfNat
    rw [← hOfNat]
    rfl
  split
  · rename_i hSlash _ _ _ _ _ _
    rw [List.cons_append, List.nil_append,
      readChar.eq_def]
    split <;> simp_all
  split
  · rename_i hBasic
    rw [List.cons_append, List.cons_append, readChar,
      readHex4_hex4 hBasic]
    simp only
    rw [if_pos (by omega), hOfNat]
  · rename_i hHigh
    rw [List.append_assoc, List.cons_append, List.cons_append,
      readChar, readHex4_hex4 (by omega)]
    simp only
    rw [if_neg (by omega), List.cons_append, List.cons_append,
      List.drop_succ_cons, List.drop_succ_cons, List.drop_zero,
      readHex4_hex4 (by omega)]
    simp only
    rw [show 65536 + (55296 + (c.toNat - 65536) / 1024 -
        55296) * 1024 + (56320 + (c.toNat - 65536) % 1024 -
        56320) = c.toNat by omega, hOfNat]

/- Escapes are cut off in one way. -/
theorem escapeChar_append_inj
    {c d : Char}
    {rest rest' : List Char}
    (hEq : escapeChar c ++ rest = escapeChar d ++ rest') :
    c = d ∧ rest = rest' := by
  have hRead := readChar_escapeChar c rest
  rw [hEq, readChar_escapeChar] at hRead
  simp only [Option.some.injEq, Prod.mk.injEq] at hRead
  exact ⟨hRead.1.symm, hRead.2.symm⟩

/- No escape starts with the closing quote. -/
theorem escapeChar_append_ne_quote
    (c : Char)
    (rest rest' : List Char) :
    escapeChar c ++ rest ≠ '"' :: rest' := by
  intro hEq
  have hRead := readChar_escapeChar c rest
  rw [hEq] at hRead
  have hQuote : readChar ('"' :: rest') = some ('"', rest') := by
    rfl
  rw [hQuote] at hRead
  simp only [Option.some.injEq, Prod.mk.injEq] at hRead
  rw [← hRead.1, ← hRead.2] at hEq
  have hLength := congrArg List.length hEq
  simp [escapeChar] at hLength

/- Quoted texts are cut off in one way. -/
theorem quote_append_inj
    {text text' : String}
    {rest rest' : List Char}
    (hEq : quote text ++ rest = quote text' ++ rest') :
    text = text' ∧ rest = rest' := by
  have hBody :
      ∀ (cs ds : List Char),
        cs.flatMap escapeChar ++ '"' :: rest =
            ds.flatMap escapeChar ++ '"' :: rest' →
          cs = ds ∧ rest = rest' := by
    intro cs
    induction cs with
    | nil =>
        intro ds hCut
        cases ds with
        | nil => simpa using hCut
        | cons d ds =>
            rw [List.flatMap_cons, List.append_assoc] at hCut
            exact absurd hCut.symm
              (escapeChar_append_ne_quote d _ _)
    | cons c cs ih =>
        intro ds hCut
        cases ds with
        | nil =>
            rw [List.flatMap_cons, List.append_assoc] at hCut
            exact absurd hCut (escapeChar_append_ne_quote c _ _)
        | cons d ds =>
            rw [List.flatMap_cons, List.flatMap_cons,
              List.append_assoc, List.append_assoc] at hCut
            rcases escapeChar_append_inj hCut with
              ⟨hChar, hRest⟩
            rcases ih ds hRest with ⟨hTail, hEnd⟩
            exact ⟨by rw [hChar, hTail], hEnd⟩
  simp only [quote, List.cons_append, List.append_assoc,
    List.nil_append, List.cons.injEq, true_and] at hEq
  rcases hBody _ _ hEq with ⟨hChars, hRest⟩
  exact ⟨String.toList_inj.mp hChars, hRest⟩

end Json

--------
-- Document Texts
--------

namespace Json

/- The texts between items and between a key and its value. -/
structure Separators where
  item : List Char
  key : List Char

/- `separators=(", ", ": ")`, the default of `json.dumps`. -/
def spaced : Separators :=
  ⟨[',', ' '], [':', ' ']⟩

/- `separators=(",", ":")`. -/
def compact : Separators :=
  ⟨[','], [':']⟩

mutual

/- The text of a document, its keys in the order given. -/
def dump (seps : Separators) : Json → List Char
| .scalar value => value.text.toList
| .str value => quote value
| .arr [] => ['[', ']']
| .arr (item :: rest) =>
    '[' :: (dump seps item ++ dumpItems seps rest)
| .obj [] => ['{', '}']
| .obj ((key, value) :: rest) =>
    '{' :: (quote key ++ seps.key ++ dump seps value ++
      dumpEntries seps rest)

/- The items after the first, and the closing bracket. -/
def dumpItems (seps : Separators) : List Json → List Char
| [] => [']']
| item :: rest =>
    seps.item ++ dump seps item ++ dumpItems seps rest

/- The entries after the first, and the closing brace. -/
def dumpEntries (seps : Separators) :
    List (String × Json) → List Char
| [] => ['}']
| (key, value) :: rest =>
    seps.item ++ quote key ++ seps.key ++ dump seps value ++
      dumpEntries seps rest

end

/- `json.dumps(document)`. -/
def dumpsUnsorted (document : Json) : String :=
  String.ofList (dump spaced document)

/- `json.dumps(document, sort_keys=True)`. -/
def dumps (document : Json) : String :=
  String.ofList (dump spaced document.sortKeys)

/-
  `json.dumps(document, sort_keys=True,
  separators=(",", ":"))`.
-/
def dumpsCompact (document : Json) : String :=
  String.ofList (dump compact document.sortKeys)

/- No scalar text goes on into the text that follows. -/
def Stops (rest : List Char) : Prop :=
  ∀ c ∈ rest.head?, c ∉ Scalar.chars

/- The separator of items opens with a comma. -/
structure Separators.Valid (seps : Separators) : Prop where
  item : seps.item.head? = some ','

theorem spaced_valid : spaced.Valid := ⟨rfl⟩

theorem compact_valid : compact.Valid := ⟨rfl⟩

/- A text that stops at a given character. -/
theorem stops_cons
    {c : Char}
    {rest : List Char}
    (hChar : c ∉ Scalar.chars) :
    Stops (c :: rest) := by
  intro d hd
  simp only [List.head?_cons, Option.mem_some_iff] at hd
  rwa [← hd]

variable {seps : Separators} {c : Char} {x y : Json}

/- What follows an item stops it. -/
theorem Separators.Valid.stops
    (hSeps : seps.Valid)
    (rest : List Char) :
    Stops (seps.item ++ rest) := by
  have hItem := hSeps.item
  cases hEq : seps.item with
  | nil => simp [hEq] at hItem
  | cons c tail =>
      rw [hEq, List.head?_cons, Option.some.injEq] at hItem
      rw [hItem]
      exact stops_cons (by decide)

/- Items are stopped by what follows them. -/
theorem stops_dumpItems
    (hSeps : seps.Valid)
    (items : List Json)
    (rest : List Char) :
    Stops (dumpItems seps items ++ rest) := by
  cases items with
  | nil =>
      rw [dumpItems, List.cons_append]
      exact stops_cons (by decide)
  | cons item tail =>
      rw [dumpItems, List.append_assoc, List.append_assoc]
      exact hSeps.stops _

/- Entries are stopped by what follows them. -/
theorem stops_dumpEntries
    (hSeps : seps.Valid)
    (entries : List (String × Json))
    (rest : List Char) :
    Stops (dumpEntries seps entries ++ rest) := by
  cases entries with
  | nil =>
      rw [dumpEntries, List.cons_append]
      exact stops_cons (by decide)
  | cons entry tail =>
      rcases entry with ⟨key, value⟩
      simp only [dumpEntries, List.append_assoc]
      exact hSeps.stops _

/- Scalar texts that stop are cut off in one way. -/
theorem text_append_inj
    {x y : Scalar}
    {rest rest' : List Char}
    (hRest : Stops rest)
    (hRest' : Stops rest')
    (hEq : x.text.toList ++ rest = y.text.toList ++ rest') :
    x = y ∧ rest = rest' := by
  have hCut :
      ∀ (cs ds : List Char),
        (∀ c ∈ cs, c ∈ Scalar.chars) →
          (∀ d ∈ ds, d ∈ Scalar.chars) →
            cs ++ rest = ds ++ rest' → cs = ds ∧ rest = rest' := by
    intro cs
    induction cs with
    | nil =>
        intro ds _ hDs hEq
        cases ds with
        | nil => simpa using hEq
        | cons d ds =>
            rw [List.nil_append, List.cons_append] at hEq
            rw [hEq] at hRest
            exact absurd (hDs d (by simp)) (hRest d (by simp))
    | cons c cs ih =>
        intro ds hCs hDs hEq
        cases ds with
        | nil =>
            rw [List.nil_append, List.cons_append] at hEq
            rw [← hEq] at hRest'
            exact absurd (hCs c (by simp)) (hRest' c (by simp))
        | cons d ds =>
            simp only [List.cons_append, List.cons.injEq] at hEq
            rcases ih ds (fun e he => hCs e (by simp [he]))
                (fun e he => hDs e (by simp [he])) hEq.2 with
              ⟨hTail, hEnd⟩
            exact ⟨by rw [hEq.1, hTail], hEnd⟩
  rcases hCut _ _ (fun c hc => Scalar.mem_chars hc)
      (fun d hd => Scalar.mem_chars hd) hEq with
    ⟨hText, hEnd⟩
  exact ⟨Scalar.text_inj (String.toList_inj.mp hText), hEnd⟩

/- The kinds of documents, told by the first character. -/
inductive Kind where
  | scalar
  | str
  | arr
  | obj

def kind : Json → Kind
| .scalar _ => .scalar
| .str _ => .str
| .arr _ => .arr
| .obj _ => .obj

/- The first characters of the texts of one kind. -/
def Kind.opens : Kind → Char → Prop
| .scalar, c => c ∈ Scalar.chars
| .str, c => c = '"'
| .arr, c => c = '['
| .obj, c => c = '{'

/- The first character tells the kind. -/
theorem Kind.opens_inj
    {k l : Kind}
    (hK : k.opens c)
    (hL : l.opens c) :
    k = l := by
  have hNot :
      '"' ∉ Scalar.chars ∧ '[' ∉ Scalar.chars ∧
        '{' ∉ Scalar.chars := by
    decide
  cases k <;> cases l <;> simp_all [opens]

/- A document's text opens as its kind says. -/
theorem head?_dump
    (seps : Separators)
    (x : Json) :
    ∃ c ∈ (dump seps x).head?, x.kind.opens c := by
  cases x with
  | scalar value =>
      cases hText : value.text.toList with
      | nil => exact absurd hText value.text_ne_nil
      | cons c rest =>
          refine ⟨c, by simp [dump, hText], ?_⟩
          exact Scalar.mem_chars (hText ▸ List.mem_cons_self)
  | str value => exact ⟨'"', by simp [dump, quote], rfl⟩
  | arr items => cases items <;> exact ⟨'[', by simp [dump], rfl⟩
  | obj entries =>
      cases entries <;> exact ⟨'{', by simp [dump], rfl⟩

/- Texts that go on alike are of one kind. -/
theorem kind_eq_of_dump_append
    {rest rest' : List Char}
    (hEq : dump seps x ++ rest = dump seps y ++ rest') :
    x.kind = y.kind := by
  rcases head?_dump seps x with ⟨c, hc, hOpens⟩
  rcases head?_dump seps y with ⟨d, hd, hOpens'⟩
  have hHead := congrArg List.head? hEq
  rw [List.head?_append, List.head?_append,
    Option.mem_def.mp hc, Option.mem_def.mp hd] at hHead
  simp only [Option.some_or, Option.some.injEq] at hHead
  exact Kind.opens_inj hOpens (hHead ▸ hOpens')

/- No document's text opens like the end of a list. -/
theorem dump_append_ne_close
    (x : Json)
    {rest rest' : List Char}
    (hClose : c = ']' ∨ c = '}') :
    dump seps x ++ rest ≠ c :: rest' := by
  intro hEq
  rcases head?_dump seps x with ⟨d, hd, hOpens⟩
  have hHead := congrArg List.head? hEq
  rw [List.head?_append, Option.mem_def.mp hd] at hHead
  simp only [Option.some_or, List.head?_cons,
    Option.some.injEq] at hHead
  rw [hHead] at hOpens
  have hNot : ']' ∉ Scalar.chars ∧ '}' ∉ Scalar.chars := by
    decide
  cases x <;> rcases hClose with hC | hC <;>
    simp_all [kind, Kind.opens]

/- A separator is no closing bracket or brace. -/
theorem Separators.Valid.append_ne_close
    (hSeps : seps.Valid)
    {rest rest' : List Char}
    (hClose : c = ']' ∨ c = '}') :
    seps.item ++ rest ≠ c :: rest' := by
  intro hEq
  have hHead := congrArg List.head? hEq
  rw [List.head?_append, hSeps.item] at hHead
  simp only [Option.some_or, List.head?_cons,
    Option.some.injEq] at hHead
  rcases hClose with hC | hC <;> rw [hC] at hHead <;>
    exact absurd hHead (by decide)

mutual

variable {seps : Separators}

/- Texts of documents that stop are cut off in one way. -/
theorem dump_append_inj
    (hSeps : seps.Valid) :
    ∀ (x y : Json) {rest rest' : List Char},
      Stops rest → Stops rest' →
        dump seps x ++ rest = dump seps y ++ rest' →
          x = y ∧ rest = rest'
| .scalar a, .scalar b => by
    intro hRest hRest' hEq
    rw [dump, dump] at hEq
    rcases text_append_inj hRest hRest' hEq with ⟨hA, hEnd⟩
    exact ⟨by rw [hA], hEnd⟩
| .str a, .str b => by
    intro hRest hRest' hEq
    rw [dump, dump] at hEq
    rcases quote_append_inj hEq with ⟨hA, hEnd⟩
    exact ⟨by rw [hA], hEnd⟩
| .arr [], .arr [] => by
    intro hRest hRest' hEq
    simpa [dump] using hEq
| .arr [], .arr (y :: ys) => by
    intro hRest hRest' hEq
    simp only [dump, List.cons_append, List.nil_append,
      List.append_assoc, List.cons.injEq, true_and] at hEq
    exact absurd hEq.symm (dump_append_ne_close y (Or.inl rfl))
| .arr (x :: xs), .arr [] => by
    intro hRest hRest' hEq
    simp only [dump, List.cons_append, List.nil_append,
      List.append_assoc, List.cons.injEq, true_and] at hEq
    exact absurd hEq (dump_append_ne_close x (Or.inl rfl))
| .arr (x :: xs), .arr (y :: ys) => by
    intro hRest hRest' hEq
    simp only [dump, List.cons_append, List.append_assoc,
      List.cons.injEq, true_and] at hEq
    rcases dump_append_inj hSeps x y
        (stops_dumpItems hSeps xs _)
        (stops_dumpItems hSeps ys _) hEq with
      ⟨hHead, hTail⟩
    rcases dumpItems_append_inj hSeps xs ys hRest hRest'
        hTail with
      ⟨hItems, hEnd⟩
    exact ⟨by rw [hHead, hItems], hEnd⟩
| .obj [], .obj [] => by
    intro hRest hRest' hEq
    simpa [dump] using hEq
| .obj [], .obj ((k, y) :: ys) => by
    intro hRest hRest' hEq
    simp [dump, quote] at hEq
| .obj ((k, x) :: xs), .obj [] => by
    intro hRest hRest' hEq
    simp [dump, quote] at hEq
| .obj ((k, x) :: xs), .obj ((l, y) :: ys) => by
    intro hRest hRest' hEq
    simp only [dump, List.cons_append, List.append_assoc,
      List.cons.injEq, true_and] at hEq
    rcases quote_append_inj hEq with ⟨hKey, hAfter⟩
    rw [List.append_cancel_left_eq] at hAfter
    rcases dump_append_inj hSeps x y
        (stops_dumpEntries hSeps xs _)
        (stops_dumpEntries hSeps ys _) hAfter with
      ⟨hHead, hTail⟩
    rcases dumpEntries_append_inj hSeps xs ys hRest hRest'
        hTail with
      ⟨hEntries, hEnd⟩
    exact ⟨by rw [hKey, hHead, hEntries], hEnd⟩
| .scalar _, .str _ => fun _ _ hEq =>
    absurd (kind_eq_of_dump_append hEq) nofun
| .scalar _, .arr _ => fun _ _ hEq =>
    absurd (kind_eq_of_dump_append hEq) nofun
| .scalar _, .obj _ => fun _ _ hEq =>
    absurd (kind_eq_of_dump_append hEq) nofun
| .str _, .scalar _ => fun _ _ hEq =>
    absurd (kind_eq_of_dump_append hEq) nofun
| .arr _, .scalar _ => fun _ _ hEq =>
    absurd (kind_eq_of_dump_append hEq) nofun
| .obj _, .scalar _ => fun _ _ hEq =>
    absurd (kind_eq_of_dump_append hEq) nofun
| .str _, .arr _ => fun _ _ hEq =>
    absurd (kind_eq_of_dump_append hEq) nofun
| .str _, .obj _ => fun _ _ hEq =>
    absurd (kind_eq_of_dump_append hEq) nofun
| .arr _, .str _ => fun _ _ hEq =>
    absurd (kind_eq_of_dump_append hEq) nofun
| .arr _, .obj _ => fun _ _ hEq =>
    absurd (kind_eq_of_dump_append hEq) nofun
| .obj _, .str _ => fun _ _ hEq =>
    absurd (kind_eq_of_dump_append hEq) nofun
| .obj _, .arr _ => fun _ _ hEq =>
    absurd (kind_eq_of_dump_append hEq) nofun

theorem dumpItems_append_inj
    (hSeps : seps.Valid) :
    ∀ (xs ys : List Json) {rest rest' : List Char},
      Stops rest → Stops rest' →
        dumpItems seps xs ++ rest = dumpItems seps ys ++ rest' →
          xs = ys ∧ rest = rest'
| [], [] => by
    intro hRest hRest' hEq
    simpa [dumpItems] using hEq
| [], y :: ys => by
    intro hRest hRest' hEq
    simp only [dumpItems, List.append_assoc, List.cons_append,
      List.nil_append] at hEq
    exact absurd hEq.symm
      (hSeps.append_ne_close (Or.inl rfl))
| x :: xs, [] => by
    intro hRest hRest' hEq
    simp only [dumpItems, List.append_assoc, List.cons_append,
      List.nil_append] at hEq
    exact absurd hEq (hSeps.append_ne_close (Or.inl rfl))
| x :: xs, y :: ys => by
    intro hRest hRest' hEq
    simp only [dumpItems, List.append_assoc,
      List.append_cancel_left_eq] at hEq
    rcases dump_append_inj hSeps x y
        (stops_dumpItems hSeps xs _)
        (stops_dumpItems hSeps ys _) hEq with
      ⟨hHead, hTail⟩
    rcases dumpItems_append_inj hSeps xs ys hRest hRest'
        hTail with
      ⟨hItems, hEnd⟩
    exact ⟨by rw [hHead, hItems], hEnd⟩

theorem dumpEntries_append_inj
    (hSeps : seps.Valid) :
    ∀ (xs ys : List (String × Json)) {rest rest' : List Char},
      Stops rest → Stops rest' →
        dumpEntries seps xs ++ rest =
            dumpEntries seps ys ++ rest' →
          xs = ys ∧ rest = rest'
| [], [] => by
    intro hRest hRest' hEq
    simpa [dumpEntries] using hEq
| [], (l, y) :: ys => by
    intro hRest hRest' hEq
    simp only [dumpEntries, List.append_assoc,
      List.cons_append, List.nil_append] at hEq
    exact absurd hEq.symm
      (hSeps.append_ne_close (Or.inr rfl))
| (k, x) :: xs, [] => by
    intro hRest hRest' hEq
    simp only [dumpEntries, List.append_assoc,
      List.cons_append, List.nil_append] at hEq
    exact absurd hEq (hSeps.append_ne_close (Or.inr rfl))
| (k, x) :: xs, (l, y) :: ys => by
    intro hRest hRest' hEq
    simp only [dumpEntries, List.append_assoc,
      List.append_cancel_left_eq] at hEq
    rcases quote_append_inj hEq with ⟨hKey, hAfter⟩
    rw [List.append_cancel_left_eq] at hAfter
    rcases dump_append_inj hSeps x y
        (stops_dumpEntries hSeps xs _)
        (stops_dumpEntries hSeps ys _) hAfter with
      ⟨hHead, hTail⟩
    rcases dumpEntries_append_inj hSeps xs ys hRest hRest'
        hTail with
      ⟨hEntries, hEnd⟩
    exact ⟨by rw [hKey, hHead, hEntries], hEnd⟩

end

/- Documents with one text are equal. -/
theorem dump_inj
    (hSeps : seps.Valid)
    (hEq : dump seps x = dump seps y) :
    x = y := by
  have hNil : Stops [] := by
    intro c hc
    simp at hc
  exact (dump_append_inj hSeps x y hNil hNil
    (by rw [hEq])).1

/- So do sorted texts without blanks. -/
theorem dumpsCompact_inj
    (hEq : x.dumpsCompact = y.dumpsCompact) :
    x.sortKeys = y.sortKeys := by
  apply dump_inj compact_valid
  simpa [dumpsCompact] using congrArg String.toList hEq

end Json
