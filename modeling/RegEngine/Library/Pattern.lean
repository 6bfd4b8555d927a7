import Mathlib.Computability.RegularExpressions

/-
  Regular expressions put together from parts, and the search
  for one that has to reach the end of a text.

  Main declarations:
    * `Pattern.concat`
    * `Pattern.choice`
    * `Pattern.searchToEnd`
-/

--------
-- Patterns
--------

namespace Pattern

open RegularExpression

variable {α : Type}

def concat (parts : List (RegularExpression α)) :
    RegularExpression α :=
  parts.foldr (fun part rest => part * rest) 1

def choice (parts : List (RegularExpression α)) :
    RegularExpression α :=
  parts.foldr (fun part rest => part + rest) 0

def word (text : List α) : RegularExpression α :=
  concat (text.map char)

variable {parts : List (RegularExpression α)}
variable {texts : List (List α)} {part : RegularExpression α}

/- Texts of the parts, put together. -/
theorem mem_concat
    (hTexts : List.Forall₂ (fun part text =>
      text ∈ part.matches') parts texts) :
    texts.flatten ∈ (concat parts).matches' := by
  induction hTexts with
  | nil => exact Language.nil_mem_one
  | cons hText _ ih =>
    rw [List.flatten_cons]
    exact Language.append_mem_mul hText ih

/- A text of one of the parts. -/
theorem mem_choice
    {text : List α}
    (hPart : part ∈ parts)
    (hText : text ∈ part.matches') :
    text ∈ (choice parts).matches' := by
  induction parts with
  | nil => cases hPart
  | cons first rest ih =>
    rcases List.mem_cons.mp hPart with rfl | hPart
    · exact Or.inl hText
    · exact Or.inr (ih hPart)

/- The one text of a character. -/
theorem mem_char
    (a : α) :
    [a] ∈ (char a).matches' := by
  rw [matches'_char]
  exact Set.mem_singleton _

theorem mem_word
    (text : List α) :
    text ∈ (word text).matches' := by
  induction text with
  | nil => exact Language.nil_mem_one
  | cons a rest ih =>
    exact Language.append_mem_mul (mem_char a) ih

/- Texts of a pattern, any number of them. -/
theorem mem_star
    (hTexts : ∀ text ∈ texts, text ∈ part.matches') :
    texts.flatten ∈ part.star.matches' := by
  rw [matches'_star]
  exact Language.join_mem_kstar hTexts

variable [DecidableEq α]

/- Some end of a text is one of the pattern. -/
def searchToEnd
    (pattern : RegularExpression α)
    (text : List α) :
    Bool :=
  text.tails.any pattern.rmatch

/- A text that ends in one of the pattern is found. -/
theorem searchToEnd_append
    {pattern : RegularExpression α}
    {last : List α}
    (front : List α)
    (hLast : last ∈ pattern.matches') :
    searchToEnd pattern (front ++ last) = true := by
  refine List.any_eq_true.mpr ⟨last, ?_, ?_⟩
  · exact (List.mem_tails _ _).mpr (List.suffix_append _ _)
  · exact (rmatch_iff_matches' pattern last).mpr hLast

end Pattern
