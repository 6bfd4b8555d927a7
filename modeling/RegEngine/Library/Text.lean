import Mathlib.Data.List.Basic
import Mathlib.Data.String.Basic

/-
  Texts read as lists of characters: cutting a text at a
  delimiter, and the digits of hexadecimal digests.

  Main declarations:
    * `Text.delimited`
    * `Text.IsHex`
    * `Text.delimited_inj`
-/

--------
-- Cutting At A Delimiter
--------

namespace Text

variable {α : Type} {d : α} {head head' tail tail' : List α}

/-
  A text is cut in one way at its first delimiter: two
  readings whose heads are free of it agree.
-/
theorem append_delim_inj
    (hHead : d ∉ head)
    (hHead' : d ∉ head')
    (hEq : head ++ d :: tail = head' ++ d :: tail') :
    head = head' ∧ tail = tail' := by
  induction head generalizing head' with
  | nil =>
      cases head' with
      | nil => simpa using hEq
      | cons c rest =>
          have hc : d = c := by
            simpa using congrArg List.head? hEq
          simp [hc] at hHead'
  | cons c rest ih =>
      cases head' with
      | nil =>
          have hc : c = d := by
            simpa using congrArg List.head? hEq
          simp [hc] at hHead
      | cons c' rest' =>
          simp only [List.mem_cons, not_or] at hHead hHead'
          simp only [List.cons_append, List.cons.injEq]
            at hEq
          rcases ih hHead.2 hHead'.2 hEq.2 with
            ⟨hRest, hTail⟩
          exact ⟨by rw [hEq.1, hRest], hTail⟩

/- Heads of one length are cut off in one way. -/
theorem append_delim_inj_of_length
    (hLength : head.length = head'.length)
    (hEq : head ++ d :: tail = head' ++ d :: tail') :
    head = head' ∧ tail = tail' := by
  rcases List.append_inj hEq hLength with ⟨hHead, hRest⟩
  exact ⟨hHead, (List.cons.inj hRest).2⟩

end Text

--------
-- Delimited Fields
--------

namespace Text

variable {α : Type} {d : α}

/- Fields, each followed by a delimiter, before a text. -/
def delimited (d : α) : List (List α) → List α → List α
| [], tail => tail
| field :: rest, tail => field ++ d :: delimited d rest tail

/- A text with a delimiter, cut at the first. -/
theorem exists_cut
    {text : List α}
    (hMem : d ∈ text) :
    ∃ head tail, text = head ++ d :: tail ∧ d ∉ head := by
  induction text with
  | nil => simp at hMem
  | cons c rest ih =>
      by_cases hChar : c = d
      · exact ⟨[], rest, by simp [hChar], by simp⟩
      · have hRest : d ∈ rest := by
          rcases List.mem_cons.mp hMem with hHere | hLater
          · exact absurd hHere.symm hChar
          · exact hLater
        rcases ih hRest with ⟨head, tail, hCut, hHead⟩
        refine ⟨c :: head, tail, by rw [hCut]; rfl, ?_⟩
        simpa [hHead] using fun h => hChar h.symm

/- A text after fields follows a delimiter. -/
theorem exists_delimited_eq
    {fields : List (List α)}
    (hSome : fields ≠ [])
    (tail : List α) :
    ∃ front, delimited d fields tail = front ++ d :: tail := by
  induction fields with
  | nil => exact absurd rfl hSome
  | cons field rest ih =>
      cases rest with
      | nil => exact ⟨field, rfl⟩
      | cons next more =>
          rcases ih (by simp) with ⟨front, hFront⟩
          exact ⟨field ++ d :: front, by
            rw [delimited, hFront, List.append_assoc,
              List.cons_append]⟩

variable {tail tail' : List α}

/-
  A text read once with fields that hold no delimiter and once
  with more fields: the second tail ends the first.
-/
theorem tail_of_delimited_lt
    {fields longer : List (List α)}
    (hFree : ∀ field ∈ fields, d ∉ field)
    (hLength : fields.length < longer.length)
    (hEq : delimited d fields tail = delimited d longer tail') :
    ∃ front, tail = front ++ d :: tail' := by
  induction fields generalizing longer with
  | nil =>
      rcases exists_delimited_eq
          (List.ne_nil_of_length_pos hLength) tail' with
        ⟨front, hFront⟩
      exact ⟨front, by rw [← hFront, ← hEq]; rfl⟩
  | cons field rest ih =>
      have hRest : ∀ other ∈ rest, d ∉ other :=
        fun other hOther => hFree other (by simp [hOther])
      cases longer with
      | nil => simp at hLength
      | cons first others =>
          rw [List.length_cons, List.length_cons] at hLength
          rw [delimited, delimited] at hEq
          by_cases hMem : d ∈ first
          · rcases exists_cut hMem with
              ⟨head, middle, hCut, hHead⟩
            rw [hCut, List.append_assoc, List.cons_append]
              at hEq
            have hInj :=
              append_delim_inj (hFree field (by simp)) hHead hEq
            exact ih hRest
              (show rest.length < (middle :: others).length by
                rw [List.length_cons]
                omega) hInj.2
          · have hInj :=
              append_delim_inj (hFree field (by simp)) hMem hEq
            exact ih hRest (by omega) hInj.2

/-
  Two readings of a text with as many fields, the first free
  of delimiters: they agree, or the second tail ends the first.
-/
theorem delimited_inj
    {fields fields' : List (List α)}
    (hFree : ∀ field ∈ fields, d ∉ field)
    (hLength : fields.length = fields'.length)
    (hEq : delimited d fields tail = delimited d fields' tail') :
    (fields = fields' ∧ tail = tail') ∨
      ∃ front, tail = front ++ d :: tail' := by
  induction fields generalizing fields' with
  | nil =>
      have hNil : fields' = [] :=
        List.length_eq_zero_iff.mp hLength.symm
      rw [hNil] at hEq ⊢
      exact Or.inl ⟨rfl, hEq⟩
  | cons field rest ih =>
      have hRest : ∀ other ∈ rest, d ∉ other :=
        fun other hOther => hFree other (by simp [hOther])
      cases fields' with
      | nil => simp at hLength
      | cons first others =>
          rw [List.length_cons, List.length_cons,
            Nat.add_right_cancel_iff] at hLength
          rw [delimited, delimited] at hEq
          by_cases hMem : d ∈ first
          · rcases exists_cut hMem with
              ⟨head, middle, hCut, hHead⟩
            rw [hCut, List.append_assoc, List.cons_append]
              at hEq
            have hInj :=
              append_delim_inj (hFree field (by simp)) hHead hEq
            right
            exact tail_of_delimited_lt hRest
              (show rest.length < (middle :: others).length by
                rw [List.length_cons]
                omega) hInj.2
          · have hInj :=
              append_delim_inj (hFree field (by simp)) hMem hEq
            rcases ih hRest hLength hInj.2 with
              ⟨hFields, hTail⟩ | hFront
            · exact Or.inl ⟨by rw [hInj.1, hFields], hTail⟩
            · exact Or.inr hFront

end Text

--------
-- Hexadecimal Digests
--------

namespace Text

variable {p : Char → Prop} {n : Nat}

/-
  A test of every character, which `decide` evaluates over the
  list and not over all characters there are.
-/
theorem forall_of_all
    [DecidablePred p]
    {cs : List Char}
    (hAll : cs.all (fun c => decide (p c)) = true) :
    ∀ c ∈ cs, p c := by
  simpa using hAll

/- The same for the character that may be there. -/
theorem forall_of_all_option
    [DecidablePred p]
    {found : Option Char}
    (hAll : found.all (fun c => decide (p c)) = true) :
    ∀ c ∈ found, p c := by
  simpa [Option.all_eq_true] using hAll

/- The digits of a lowercase hexadecimal digest. -/
def hexDigits : List Char :=
  ['0', '1', '2', '3', '4', '5', '6', '7', '8', '9',
    'a', 'b', 'c', 'd', 'e', 'f']

/- A text of `n` lowercase hexadecimal digits. -/
def IsHex
    (n : Nat)
    (text : String) : Prop :=
  text.length = n ∧ ∀ c ∈ text.toList, c ∈ hexDigits

instance
    (n : Nat)
    (text : String) :
    Decidable (IsHex n text) :=
  decidable_of_iff
    (text.length = n ∧
      text.toList.all (fun c => hexDigits.contains c) = true)
    (by simp [IsHex])

/- A literal is hexadecimal when its characters are. -/
theorem IsHex.ofList
    {cs : List Char}
    (hHex :
      (cs.length == n && cs.all hexDigits.contains) = true) :
    IsHex n (String.ofList cs) := by
  simpa [IsHex] using hHex

theorem IsHex.append
    {m : Nat}
    {text other : String}
    (hText : IsHex m text)
    (hOther : IsHex n other) :
    IsHex (m + n) (text ++ other) := by
  refine ⟨?_, ?_⟩
  · rw [String.length_append, hText.1, hOther.1]
  · intro c hMem
    rw [String.toList_append, List.mem_append] at hMem
    exact hMem.elim (hText.2 c) (hOther.2 c)

theorem IsHex.length_toList
    {text : String}
    (hHex : IsHex n text) :
    text.toList.length = n := by
  rw [String.length_toList, hHex.1]

/- A hexadecimal text holds no other character. -/
theorem IsHex.notMem
    {text : String}
    (hHex : IsHex n text)
    {c : Char}
    (hChar : c ∉ hexDigits) :
    c ∉ text.toList :=
  fun hMem => hChar (hHex.2 c hMem)

end Text

--------
-- Bytes
--------

namespace Text

/- The bytes of a text are those of its characters in turn. -/
theorem bytes_eq_flatMap
    (text : String) :
    text.toUTF8.data.toList =
      text.toList.flatMap String.utf8EncodeChar := by
  have hEncode : text.toList.utf8Encode = text.toUTF8 :=
    String.utf8Encode_toList
  rw [← hEncode, List.utf8Encode]
  simp

/- A text of ASCII characters, none of them zero. -/
def IsAscii
    (text : String) : Prop :=
  ∀ c ∈ text.toList, 0 < c.toNat ∧ c.toNat < 128

theorem IsAscii.ofList
    {cs : List Char}
    (hAll : cs.all (fun c =>
      decide (0 < c.toNat ∧ c.toNat < 128)) = true) :
    IsAscii (String.ofList cs) := by
  simpa [IsAscii] using hAll

theorem IsAscii.append
    {text other : String}
    (hText : IsAscii text)
    (hOther : IsAscii other) :
    IsAscii (text ++ other) := by
  intro c hMem
  rw [String.toList_append, List.mem_append] at hMem
  exact hMem.elim (hText c) (hOther c)

/- The code points of an ASCII text are its bytes. -/
theorem codes_eq_bytes
    {text : String}
    (hAscii : IsAscii text) :
    text.toList.map Char.toNat =
      text.toUTF8.data.toList.map UInt8.toNat := by
  rw [bytes_eq_flatMap]
  unfold IsAscii at hAscii
  generalize text.toList = chars at hAscii ⊢
  induction chars with
  | nil => rfl
  | cons c rest ih =>
      have hLess := (hAscii c List.mem_cons_self).2
      have hChar :
          String.utf8EncodeChar c = [UInt8.ofNat c.toNat] :=
        if_pos (Nat.le_of_lt_succ hLess)
      rw [List.flatMap_cons, hChar, List.map_cons,
        ih (fun d hd => hAscii d (List.mem_cons_of_mem c hd)),
        List.map_append, List.map_singleton,
        UInt8.toNat_ofNat', Nat.mod_eq_of_lt (by omega)]
      rfl

end Text
