import RegEngine.Library.Codec
import RegEngine.Library.Python

/-
  Percent escapes and the parts of a URL, as `urllib.parse`
  reads them.

  Main declarations:
    * `Url.unquote`
    * `Url.urlparse`
    * `Url.hasEscape`
-/

--------
-- Percent Escapes
--------

namespace Url

/- The value of a hexadecimal digit of either case. -/
def hexValue (c : Char) : Option Nat :=
  if '0' ≤ c ∧ c ≤ '9' then
    some (c.toNat - 48)
  else if 'a' ≤ c ∧ c ≤ 'f' then
    some (c.toNat - 87)
  else if 'A' ≤ c ∧ c ≤ 'F' then
    some (c.toNat - 55)
  else
    none

/- The byte of an escape, when the characters are one. -/
def escape (mark high low : Char) : Option UInt8 :=
  if mark = '%' then do
    let tens ← hexValue high
    let units ← hexValue low
    return UInt8.ofNat (tens * 16 + units)
  else
    none

/- A percent sign with two hexadecimal digits. -/
def hasEscape : List Char → Bool
| mark :: high :: low :: rest =>
    (escape mark high low).isSome || hasEscape (high :: low :: rest)
| _ => false

/- The byte of an ASCII character. -/
def byteOf (c : Char) : UInt8 :=
  UInt8.ofNat c.toNat

/-
  `unquote_to_bytes` of an ASCII text: `%` and two hexadecimal
  digits are a byte, every other character is its own.
-/
def unquoteToBytes : List Char → List UInt8
| mark :: high :: low :: rest =>
    match escape mark high low with
    | some byte => byte :: unquoteToBytes rest
    | none => byteOf mark :: unquoteToBytes (high :: low :: rest)
| short => short.map byteOf

end Url

--------
-- Texts Without Escapes
--------

namespace Url

theorem hasEscape_cons
    (mark high low : Char)
    (rest : List Char) :
    hasEscape (mark :: high :: low :: rest) =
      ((escape mark high low).isSome ||
        hasEscape (high :: low :: rest)) :=
  rfl

/- A text without escapes is its own bytes. -/
theorem unquoteToBytes_eq_map
    {text : List Char}
    (hEscape : hasEscape text = false) :
    unquoteToBytes text = text.map byteOf := by
  fun_induction unquoteToBytes text with
  | case1 mark high low rest byte hByte =>
      simp [hasEscape_cons, hByte] at hEscape
  | case2 mark high low rest hByte ih =>
      rw [hasEscape_cons, Bool.or_eq_false_iff] at hEscape
      rw [ih hEscape.2]
      rfl
  | case3 short hShort => rfl

/- Escapes only shorten a text. -/
theorem length_unquoteToBytes_le
    (text : List Char) :
    (unquoteToBytes text).length ≤ text.length := by
  fun_induction unquoteToBytes text with
  | case1 mark high low rest byte hByte ih =>
      simp only [List.length_cons]
      omega
  | case2 mark high low rest hByte ih =>
      simp only [List.length_cons] at ih ⊢
      omega
  | case3 short hShort => simp

theorem length_unquoteToBytes_lt
    {text : List Char}
    (hEscape : hasEscape text = true) :
    (unquoteToBytes text).length < text.length := by
  fun_induction unquoteToBytes text with
  | case1 mark high low rest byte hByte ih =>
      have hRest := length_unquoteToBytes_le rest
      simp only [List.length_cons]
      omega
  | case2 mark high low rest hByte ih =>
      have hLater : hasEscape (high :: low :: rest) = true := by
        simpa [hasEscape_cons, hByte] using hEscape
      have hLess := ih hLater
      simp only [List.length_cons] at hLess ⊢
      omega
  | case3 short hShort =>
      rcases short with _ | ⟨mark, _ | ⟨high, _ | ⟨low, rest⟩⟩⟩
      · exact absurd hEscape Bool.false_ne_true
      · exact absurd hEscape Bool.false_ne_true
      · exact absurd hEscape Bool.false_ne_true
      · exact absurd rfl (hShort mark high low rest)

/- A text with an escape has a percent sign. -/
theorem mem_of_hasEscape
    {text : List Char}
    (hEscape : hasEscape text = true) :
    '%' ∈ text := by
  fun_induction hasEscape text with
  | case1 mark high low rest ih =>
      rcases Bool.or_eq_true_iff.mp hEscape with hHere | hLater
      · have hMark : mark = '%' := by
          by_contra hOther
          simp [escape, hOther] at hHere
        simp [hMark]
      · exact List.mem_cons_of_mem mark (ih hLater)
  | case2 short hShort => exact absurd hEscape Bool.false_ne_true

end Url

--------
-- The Text Of The Bytes
--------

namespace Url

/- The mark put in the place of bytes that are no text. -/
def replacement : Char :=
  Char.ofNat 0xFFFD

/-
  `bytes.decode("utf-8", "replace")`: the longest start of a
  character that does not go on is one replacement mark.
-/
def utf8Replace : List UInt8 → List Char
| [] => []
| a :: rest =>
    if a < 0x80 then
      Char.ofNat a.toNat :: utf8Replace rest
    else if 0xC2 ≤ a && a ≤ 0xDF then
      match rest with
      | b :: later =>
          if Codec.isTail b then
            Char.ofNat ((a.toNat - 0xC0) * 64 + Codec.tailBits b)
              :: utf8Replace later
          else
            replacement :: utf8Replace (b :: later)
      | [] => [replacement]
    else if 0xE0 ≤ a && a ≤ 0xEF then
      match rest with
      | b :: later =>
          if Codec.isTail b && Codec.secondOfThree false a b then
            match later with
            | c :: last =>
                if Codec.isTail c then
                  Char.ofNat ((a.toNat - 0xE0) * 4096 +
                    Codec.tailBits b * 64 + Codec.tailBits c)
                    :: utf8Replace last
                else
                  replacement :: utf8Replace (c :: last)
            | [] => [replacement]
          else
            replacement :: utf8Replace (b :: later)
      | [] => [replacement]
    else if 0xF0 ≤ a && a ≤ 0xF4 then
      match rest with
      | b :: later =>
          if Codec.isTail b && Codec.secondOfFour a b then
            match later with
            | c :: last =>
                if Codec.isTail c then
                  match last with
                  | d :: final =>
                      if Codec.isTail d then
                        Char.ofNat ((a.toNat - 0xF0) * 262144 +
                          Codec.tailBits b * 4096 +
                          Codec.tailBits c * 64 +
                          Codec.tailBits d) :: utf8Replace final
                      else
                        replacement :: utf8Replace (d :: final)
                  | [] => [replacement]
                else
                  replacement :: utf8Replace (c :: last)
            | [] => [replacement]
          else
            replacement :: utf8Replace (b :: later)
      | [] => [replacement]
    else
      replacement :: utf8Replace rest

/- The text of a run of ASCII characters. -/
def unquoteRun (run : List Char) : List Char :=
  utf8Replace (unquoteToBytes run)

/-
  The runs of ASCII characters are read and the others kept;
  `run` is the run so far.
-/
def unquoteRuns (run : List Char) : List Char → List Char
| [] => unquoteRun run
| c :: rest =>
    if c.toNat < 128 then
      unquoteRuns (run ++ [c]) rest
    else
      unquoteRun run ++ c :: unquoteRuns [] rest

/- `unquote(text)`. -/
def unquote (text : List Char) : List Char :=
  if '%' ∈ text then unquoteRuns [] text else text

/- Every character takes a byte. -/
theorem length_utf8Replace_le
    (bytes : List UInt8) :
    (utf8Replace bytes).length ≤ bytes.length := by
  fun_induction utf8Replace bytes <;>
    simp only [List.length_cons, List.length_nil] at * <;>
    omega

/- ASCII bytes are their own characters. -/
theorem utf8Replace_map_byteOf
    {text : List Char}
    (hAscii : ∀ c ∈ text, c.toNat < 128) :
    utf8Replace (text.map byteOf) = text := by
  induction text with
  | nil => rfl
  | cons c rest ih =>
      have hChar : c.toNat < 128 := hAscii c (by simp)
      have hNat : (byteOf c).toNat = c.toNat := by
        rw [byteOf, UInt8.toNat_ofNat']
        exact Nat.mod_eq_of_lt (by omega)
      have hSmall : byteOf c < 0x80 := by
        rw [UInt8.lt_iff_toNat_lt, hNat]
        exact hChar
      rw [List.map_cons, utf8Replace.eq_def]
      simp only [if_pos hSmall, hNat, Char.ofNat_toNat]
      rw [ih (fun d hd => hAscii d (by simp [hd]))]

theorem unquoteRuns_nil
    (run : List Char) :
    unquoteRuns run [] = unquoteRun run :=
  rfl

theorem unquoteRuns_cons
    (run : List Char)
    (c : Char)
    (rest : List Char) :
    unquoteRuns run (c :: rest) =
      if c.toNat < 128 then
        unquoteRuns (run ++ [c]) rest
      else
        unquoteRun run ++ c :: unquoteRuns [] rest :=
  rfl

theorem unquoteRuns_of_ascii
    {run text : List Char}
    (hAscii : ∀ c ∈ text, c.toNat < 128) :
    unquoteRuns run text = unquoteRun (run ++ text) := by
  induction text generalizing run with
  | nil => rw [unquoteRuns_nil, List.append_nil]
  | cons c rest ih =>
      rw [unquoteRuns_cons, if_pos (hAscii c (by simp)),
        ih (fun d hd => hAscii d (by simp [hd])),
        List.append_assoc]
      rfl

/- An ASCII text without escapes is kept. -/
theorem unquote_eq_self
    {text : List Char}
    (hAscii : ∀ c ∈ text, c.toNat < 128)
    (hEscape : hasEscape text = false) :
    unquote text = text := by
  rw [unquote]
  split
  · rw [unquoteRuns_of_ascii hAscii, List.nil_append,
      unquoteRun, unquoteToBytes_eq_map hEscape,
      utf8Replace_map_byteOf hAscii]
  · rfl

/- An ASCII text with an escape gets shorter. -/
theorem length_unquote_lt
    {text : List Char}
    (hAscii : ∀ c ∈ text, c.toNat < 128)
    (hEscape : hasEscape text = true) :
    (unquote text).length < text.length := by
  rw [unquote, if_pos (mem_of_hasEscape hEscape),
    unquoteRuns_of_ascii hAscii, List.nil_append, unquoteRun]
  exact lt_of_le_of_lt (length_utf8Replace_le _)
    (length_unquoteToBytes_lt hEscape)

/- No text gets longer. -/
theorem length_unquoteRun_le
    (run : List Char) :
    (unquoteRun run).length ≤ run.length :=
  le_trans (length_utf8Replace_le _)
    (length_unquoteToBytes_le run)

theorem length_unquoteRuns_le
    (run text : List Char) :
    (unquoteRuns run text).length ≤
      run.length + text.length := by
  induction text generalizing run with
  | nil => exact length_unquoteRun_le run
  | cons c rest ih =>
      have hRun := length_unquoteRun_le run
      have hLater := ih (run ++ [c])
      have hRest := ih []
      rw [unquoteRuns_cons]
      split <;>
        simp only [List.length_append, List.length_cons,
          List.length_nil] at * <;>
        omega

theorem length_unquote_le
    (text : List Char) :
    (unquote text).length ≤ text.length := by
  rw [unquote]
  split
  · have hRuns := length_unquoteRuns_le [] text
    rwa [List.length_nil, Nat.zero_add] at hRuns
  · exact le_refl _

end Url

--------
-- The Parts Of A URL
--------

namespace Url

def isSchemeChar (c : Char) : Bool :=
  c.isAlphanum || c == '+' || c == '-' || c == '.'

/- The characters `urlsplit` drops at the front. -/
def isControlOrSpace (c : Char) : Bool :=
  c.toNat ≤ 32

/- A URL without the tabs and line ends that are dropped. -/
def sanitize (url : List Char) : List Char :=
  (url.dropWhile isControlOrSpace).filter (fun c =>
    c ≠ '\t' ∧ c ≠ '\r' ∧ c ≠ '\n')

/- The scheme in lower case, and the rest of the URL. -/
def splitScheme (url : List Char) : List Char × List Char :=
  let scheme := url.takeWhile (· ≠ ':')
  match url, url.drop scheme.length with
  | first :: _, ':' :: rest =>
      if first.isAlpha && scheme.all isSchemeChar then
        (scheme.map Char.toLower, rest)
      else
        ([], url)
  | _, _ => ([], url)

/- The host part, when two slashes open the rest. -/
def splitNetloc (url : List Char) : List Char × List Char :=
  match url with
  | '/' :: '/' :: rest =>
      let netloc := rest.takeWhile (fun c =>
        c ≠ '/' && c ≠ '?' && c ≠ '#')
      (netloc, rest.drop netloc.length)
  | _ => ([], url)

/- `_splitparams`: the path before the parameters. -/
def withoutParams (path : List Char) : List Char :=
  let last := (path.reverse.takeWhile (· ≠ '/')).reverse
  path.take (path.length - last.length) ++
    last.takeWhile (· ≠ ';')

/-
  The scheme and path of `urlparse(url)`, for schemes that
  have parameters; `none` is its `ValueError`. `refused` are
  the host parts whose address or characters it rejects.
-/
def urlparse
    (refused : List Char → Bool)
    (url : List Char) :
    Option (List Char × List Char) :=
  let (scheme, rest) := splitScheme (sanitize url)
  let (netloc, rest) := splitNetloc rest
  if ('[' ∈ netloc ∧ ']' ∉ netloc) ∨
      (']' ∈ netloc ∧ '[' ∉ netloc) ∨ refused netloc then
    none
  else
    some (scheme, withoutParams
      ((rest.takeWhile (· ≠ '#')).takeWhile (· ≠ '?')))

/- A scheme opens with a letter. -/
theorem splitScheme_of_not_isAlpha
    {c : Char}
    {rest : List Char}
    (hAlpha : c.isAlpha = false) :
    (splitScheme (c :: rest)).1 = [] := by
  simp only [splitScheme]
  split
  · rename_i first _ _ hHead _
    have hFirst : first = c := (List.cons.inj hHead).1.symm
    rw [if_neg (by simp [hFirst, hAlpha])]
  · rfl

/-
  A text that does not open with a letter, a space or a
  control character has no scheme.
-/
theorem urlparse_scheme
    {refused : List Char → Bool}
    {c : Char}
    {rest scheme path : List Char}
    (hAlpha : c.isAlpha = false)
    (hControl : isControlOrSpace c = false)
    (hParse : urlparse refused (c :: rest) = some (scheme, path)) :
    scheme = [] := by
  have hClean :
      ∃ later, sanitize (c :: rest) = c :: later := by
    refine ⟨rest.filter (fun c =>
      c ≠ '\t' ∧ c ≠ '\r' ∧ c ≠ '\n'), ?_⟩
    rw [sanitize, List.dropWhile_cons_of_neg (by simp [hControl]),
      List.filter_cons_of_pos]
    simp only [isControlOrSpace, decide_eq_false_iff_not] at hControl
    simp only [decide_eq_true_eq]
    refine ⟨?_, ?_, ?_⟩ <;>
      · intro hEq
        rw [hEq] at hControl
        exact hControl (by decide)
  rcases hClean with ⟨later, hClean⟩
  simp only [urlparse, hClean] at hParse
  split at hParse
  · exact absurd hParse (by simp)
  · have hParts := Option.some.inj hParse
    calc
      scheme = (splitScheme (c :: later)).1 :=
        (congrArg Prod.fst hParts).symm
      _ = [] := splitScheme_of_not_isAlpha hAlpha

end Url
