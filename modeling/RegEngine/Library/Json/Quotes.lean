import RegEngine.Library.Json

/-
  Where the character `|` can stand in a JSON text: inside a
  quoted text only. So no JSON text ends in `|` and another
  JSON text.

  Main declarations:
    * `Json.walk`
    * `Json.dump_ne_append_bar`
-/

--------
-- Walking Over A Text
--------

namespace Json

/-
  A walk over a text that keeps whether it is inside quotes.
  It stops at a bar outside quotes, and at a bar or an end
  after a backslash.
-/
def walk : Bool → List Char → Option Bool
| quoted, [] => some quoted
| quoted, '\\' :: rest =>
    match rest with
    | [] => none
    | c :: rest => if c = '|' then none else walk quoted rest
| quoted, c :: rest =>
    if c = '"' then walk (!quoted) rest
    else if c = '|' ∧ quoted = false then none
    else walk quoted rest

/- A walk passes a character that is not special. -/
theorem walk_cons
    {c : Char}
    (quoted : Bool)
    (rest : List Char)
    (hQuote : c ≠ '"')
    (hBackslash : c ≠ '\\')
    (hBar : c = '|' → quoted = true) :
    walk quoted (c :: rest) = walk quoted rest := by
  rw [walk]
  · rw [if_neg hQuote, if_neg]
    rintro ⟨hChar, hOut⟩
    rw [hBar hChar] at hOut
    exact absurd hOut (by decide)
  · exact hBackslash

theorem walk_quote
    (quoted : Bool)
    (rest : List Char) :
    walk quoted ('"' :: rest) = walk (!quoted) rest := by
  rfl

/- A walk passes an escaped character. -/
theorem walk_escape
    {c : Char}
    (quoted : Bool)
    (rest : List Char)
    (hBar : c ≠ '|') :
    walk quoted ('\\' :: c :: rest) = walk quoted rest :=
  if_neg hBar

/- A walk stops at a bar outside quotes. -/
theorem walk_bar
    {quoted final : Bool}
    {rest : List Char}
    (hWalk : walk quoted ('|' :: rest) = some final) :
    quoted = true ∧ walk true rest = some final := by
  cases quoted with
  | false =>
      have hNone : walk false ('|' :: rest) = none := rfl
      simp [hNone] at hWalk
  | true =>
      rw [walk_cons true rest (by decide) (by decide)
        (fun _ => rfl)] at hWalk
      exact ⟨rfl, hWalk⟩

/- The ways a walk passes its first character. -/
theorem walk_cons_cases
    {quoted final : Bool}
    {c : Char}
    {rest : List Char}
    (hWalk : walk quoted (c :: rest) = some final) :
    (∃ d tail, c = '\\' ∧ rest = d :: tail ∧ d ≠ '|' ∧
        walk quoted tail = some final) ∨
      (c = '"' ∧ walk (!quoted) rest = some final) ∨
      (c ≠ '\\' ∧ c ≠ '"' ∧ (c = '|' → quoted = true) ∧
        walk quoted rest = some final) := by
  by_cases hBackslash : c = '\\'
  · rw [hBackslash] at hWalk
    cases rest with
    | nil =>
        have hNone : walk quoted ['\\'] = none := rfl
        simp [hNone] at hWalk
    | cons d tail =>
        by_cases hBar : d = '|'
        · have hNone : walk quoted ('\\' :: d :: tail) = none :=
            if_pos hBar
          simp [hNone] at hWalk
        · rw [walk_escape quoted tail hBar] at hWalk
          exact Or.inl ⟨d, tail, hBackslash, rfl, hBar, hWalk⟩
  · by_cases hQuote : c = '"'
    · rw [hQuote, walk_quote] at hWalk
      exact Or.inr (Or.inl ⟨hQuote, hWalk⟩)
    · right
      right
      by_cases hBar : c = '|'
      · rw [hBar] at hWalk
        have hPass := walk_bar hWalk
        refine ⟨hBackslash, hQuote, fun _ => hPass.1, ?_⟩
        rw [hPass.1]
        exact hPass.2
      · rw [walk_cons quoted rest hQuote hBackslash
          (fun h => absurd h hBar)] at hWalk
        exact ⟨hBackslash, hQuote, fun h => absurd h hBar,
          hWalk⟩

/- A walk that passes a bar goes on inside quotes. -/
theorem walk_append_bar :
    ∀ (front : List Char) {quoted final : Bool}
      {back : List Char},
      walk quoted (front ++ '|' :: back) = some final →
        walk true back = some final
| [] => by
    intro hWalk
    exact (walk_bar hWalk).2
| [c] => by
    intro hWalk
    rcases walk_cons_cases hWalk with
      ⟨d, tail, -, hRest, hBar, -⟩ | ⟨-, hRest⟩ |
        ⟨-, -, -, hRest⟩
    · exact absurd (List.cons.inj hRest).1.symm hBar
    · exact (walk_bar hRest).2
    · exact (walk_bar hRest).2
| c :: c' :: rest => by
    intro hWalk
    rcases walk_cons_cases hWalk with
      ⟨d, tail, -, hRest, -, hTail⟩ | ⟨-, hRest⟩ |
        ⟨-, -, -, hRest⟩
    · rw [← (List.cons.inj hRest).2] at hTail
      exact walk_append_bar rest hTail
    · exact walk_append_bar (c' :: rest) hRest
    · exact walk_append_bar (c' :: rest) hRest

/- Walks from inside and from outside quotes end apart. -/
theorem walk_not :
    ∀ (text : List Char) {quoted final final' : Bool},
      walk quoted text = some final →
        walk (!quoted) text = some final' → final' = !final
| [] => by
    intro hWalk hWalk'
    rw [← Option.some.inj hWalk, ← Option.some.inj hWalk']
| [c] => by
    intro hWalk hWalk'
    rcases walk_cons_cases hWalk with
      ⟨d, tail, -, hRest, -, -⟩ | ⟨hQuote, hRest⟩ |
        ⟨hBackslash, hQuote, -, hRest⟩
    · simp at hRest
    · rw [hQuote, walk_quote] at hWalk'
      exact walk_not [] hRest hWalk'
    · rcases walk_cons_cases hWalk' with
        ⟨d, tail, hChar, -⟩ | ⟨hChar, -⟩ | ⟨-, -, -, hRest'⟩
      · exact absurd hChar hBackslash
      · exact absurd hChar hQuote
      · exact walk_not [] hRest hRest'
| c :: c' :: rest => by
    intro hWalk hWalk'
    rcases walk_cons_cases hWalk with
      ⟨d, tail, hChar, hRest, hBar, hTail⟩ |
        ⟨hQuote, hRest⟩ | ⟨hBackslash, hQuote, -, hRest⟩
    · rw [hChar, hRest, walk_escape _ tail hBar] at hWalk'
      rw [← (List.cons.inj hRest).2] at hTail hWalk'
      exact walk_not rest hTail hWalk'
    · rw [hQuote, walk_quote] at hWalk'
      exact walk_not (c' :: rest) hRest hWalk'
    · rcases walk_cons_cases hWalk' with
        ⟨d, tail, hChar, -⟩ | ⟨hChar, -⟩ | ⟨-, -, -, hRest'⟩
      · exact absurd hChar hBackslash
      · exact absurd hChar hQuote
      · exact walk_not (c' :: rest) hRest hRest'

end Json

--------
-- Walking Over A Document
--------

namespace Json

/- A text over which a walk comes out as it went in. -/
def Closed (quoted : Bool) (text : List Char) : Prop :=
  ∀ rest, walk quoted (text ++ rest) = walk quoted rest

theorem Closed.append
    {quoted : Bool}
    {text text' : List Char}
    (hText : Closed quoted text)
    (hText' : Closed quoted text') :
    Closed quoted (text ++ text') := by
  intro rest
  rw [List.append_assoc, hText, hText']

/- A text without special characters is closed. -/
theorem closed_of_plain
    {quoted : Bool}
    {text : List Char}
    (hPlain : ∀ c ∈ text, c ≠ '"' ∧ c ≠ '\\' ∧ c ≠ '|') :
    Closed quoted text := by
  intro rest
  induction text with
  | nil => rfl
  | cons c tail ih =>
      rcases hPlain c (by simp) with ⟨hQuote, hBackslash, hBar⟩
      rw [List.cons_append, walk_cons quoted _ hQuote hBackslash
        (fun h => absurd h hBar)]
      exact ih (fun d hd => hPlain d (by simp [hd]))

variable {c : Char} {seps : Separators}

theorem closed_escape
    {quoted : Bool}
    {text : List Char}
    (hBar : c ≠ '|')
    (hText : Closed quoted text) :
    Closed quoted ('\\' :: c :: text) := by
  intro rest
  rw [List.cons_append, List.cons_append,
    walk_escape quoted _ hBar, hText]

/- Hexadecimal digits are not special. -/
theorem closed_hex4
    (quoted : Bool)
    (n : Nat) :
    Closed quoted (hex4 n) := by
  have hDigit :
      ∀ k < 16, Nat.digitChar k ≠ '"' ∧
        Nat.digitChar k ≠ '\\' ∧ Nat.digitChar k ≠ '|' := by
    decide
  apply closed_of_plain
  intro c hMem
  simp only [hex4, List.mem_cons, List.not_mem_nil,
    or_false] at hMem
  rcases hMem with hMem | hMem | hMem | hMem <;>
    (rw [hMem]; exact hDigit _ (Nat.mod_lt _ (by decide)))

/- The escape of a character is closed inside quotes. -/
theorem closed_escapeChar
    (c : Char) :
    Closed true (escapeChar c) := by
  have hNil : Closed true [] := fun _ => rfl
  have hPair :
      ∀ d, d ≠ '|' → Closed true ['\\', d] :=
    fun d hBar => closed_escape hBar hNil
  by_cases hQuote : c = '"'
  · rw [escapeChar, if_pos hQuote]
    exact hPair '"' (by decide)
  by_cases hBackslash : c = '\\'
  · rw [escapeChar, if_neg hQuote, if_pos hBackslash]
    exact hPair '\\' (by decide)
  rw [escapeChar, if_neg hQuote, if_neg hBackslash]
  split
  · exact hPair 'n' (by decide)
  split
  · exact hPair 'r' (by decide)
  split
  · exact hPair 't' (by decide)
  split
  · exact hPair 'f' (by decide)
  split
  · exact hPair 'b' (by decide)
  split
  · intro rest
    exact walk_cons true rest hQuote hBackslash (fun _ => rfl)
  split
  · exact closed_escape (by decide) (closed_hex4 true _)
  · exact Closed.append
      (closed_escape (by decide) (closed_hex4 true _))
      (closed_escape (by decide) (closed_hex4 true _))

/- A quoted text is closed. -/
theorem closed_quote
    (text : String) :
    Closed false (quote text) := by
  have hBody :
      ∀ cs : List Char,
        Closed true (cs.flatMap escapeChar) := by
    intro cs
    induction cs with
    | nil => exact fun _ => rfl
    | cons c rest ih =>
        rw [List.flatMap_cons]
        exact (closed_escapeChar c).append ih
  intro rest
  rw [quote, List.cons_append, walk_quote, List.append_assoc,
    Bool.not_false, hBody, List.singleton_append, walk_quote,
    Bool.not_true]

/- Scalar texts hold no special character. -/
theorem closed_text
    (value : Scalar) :
    Closed false value.text.toList := by
  apply closed_of_plain
  intro c hMem
  have hChars :
      ∀ d ∈ Scalar.chars, d ≠ '"' ∧ d ≠ '\\' ∧ d ≠ '|' :=
    Text.forall_of_all (by decide)
  exact hChars c (Scalar.mem_chars hMem)

/- Separators without special characters. -/
structure Separators.Plain (seps : Separators) : Prop where
  item : Closed false seps.item
  key : Closed false seps.key

theorem spaced_plain : spaced.Plain where
  item := closed_of_plain
    (Text.forall_of_all (by decide))
  key := closed_of_plain
    (Text.forall_of_all (by decide))

theorem closed_bracket
    (hPlain : c ≠ '"' ∧ c ≠ '\\' ∧ c ≠ '|') :
    Closed false [c] :=
  closed_of_plain (by
    intro d hMem
    rw [List.mem_singleton.mp hMem]
    exact hPlain)

mutual

variable {seps : Separators}

/- The text of a document is closed. -/
theorem closed_dump
    (hSeps : seps.Plain) :
    ∀ x : Json, Closed false (dump seps x)
| .scalar value => by
    rw [dump]
    exact closed_text value
| .str value => by
    rw [dump]
    exact closed_quote value
| .arr [] => by
    rw [dump]
    exact (closed_bracket (by decide)).append
      (closed_bracket (by decide))
| .arr (item :: rest) => by
    rw [dump]
    exact (closed_bracket (by decide)).append
      ((closed_dump hSeps item).append
        (closed_dumpItems hSeps rest))
| .obj [] => by
    rw [dump]
    exact (closed_bracket (by decide)).append
      (closed_bracket (by decide))
| .obj ((key, value) :: rest) => by
    rw [dump]
    exact (closed_bracket (by decide)).append
      ((((closed_quote key).append hSeps.key).append
        (closed_dump hSeps value)).append
          (closed_dumpEntries hSeps rest))

theorem closed_dumpItems
    (hSeps : seps.Plain) :
    ∀ items : List Json, Closed false (dumpItems seps items)
| [] => by
    rw [dumpItems]
    exact closed_bracket (by decide)
| item :: rest => by
    rw [dumpItems]
    exact (hSeps.item.append (closed_dump hSeps item)).append
      (closed_dumpItems hSeps rest)

theorem closed_dumpEntries
    (hSeps : seps.Plain) :
    ∀ entries : List (String × Json),
      Closed false (dumpEntries seps entries)
| [] => by
    rw [dumpEntries]
    exact closed_bracket (by decide)
| (key, value) :: rest => by
    rw [dumpEntries]
    exact (((hSeps.item.append (closed_quote key)).append
      hSeps.key).append (closed_dump hSeps value)).append
        (closed_dumpEntries hSeps rest)

end

/- A walk over a document ends outside quotes. -/
theorem walk_dump
    (hSeps : seps.Plain)
    (x : Json) :
    walk false (dump seps x) = some false := by
  have hClosed := closed_dump hSeps x []
  rw [List.append_nil] at hClosed
  exact hClosed

/- No document text ends in a bar and a document text. -/
theorem dump_ne_append_bar
    (hSeps : seps.Plain)
    (x y : Json)
    (front : List Char) :
    dump seps x ≠ front ++ '|' :: dump seps y := by
  intro hEq
  have hWalk := walk_dump hSeps x
  rw [hEq] at hWalk
  have hInside := walk_append_bar front hWalk
  have hApart :=
    walk_not (dump seps y) (walk_dump hSeps y) hInside
  exact absurd hApart (by decide)

end Json
