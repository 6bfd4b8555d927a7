import Mathlib.Data.List.Dedup
import Mathlib.Data.Rat.Defs
import Mathlib.Order.Basic
import RegEngine.Library.Python

/-
  Two measures of how alike two texts are: the ratio of
  `difflib.SequenceMatcher`, from the blocks that both texts
  hold in one order, and `similarity` of `pg_trgm`, from the
  three-letter parts of their words.

  Main declarations:
    * `SequenceMatcher.ratio`
    * `Trigram.similarity`
-/

--------
-- Matching Blocks
--------

namespace RegEngine

namespace SequenceMatcher

/- The characters of a long text that are too frequent. -/
def popular (b : List Char) (c : Char) : Bool :=
  200 ≤ b.length && b.length / 100 + 1 < b.count c

/- A block: where it starts in each text, and its size. -/
structure Block where
  start : Nat
  start' : Nat
  size : Nat

/-
  The lengths of the common runs that end at a character and
  at each character of the second text, from the lengths one
  character before.
-/
def nextRuns
    (skip : Char → Bool)
    (c : Char)
    (b : List Char)
    (runs : List Nat) :
    List Nat :=
  List.zipWith
    (fun d run => if d = c && !skip c then run + 1 else 0)
    b (0 :: runs)

/- A longer run in the row takes the place of the best block. -/
def longer
    (i : Nat)
    (best : Block)
    (run : Nat × Nat) : Block :=
  if best.size < run.1 then
    ⟨i + 1 - run.1, run.2 + 1 - run.1, run.1⟩
  else
    best

/- The longest block before it is extended. -/
def longestRun
    (skip : Char → Bool)
    (a b : List Char) : Block :=
  (a.zipIdx.foldl
    (fun (state : List Nat × Block) next =>
      let runs := nextRuns skip next.1 b state.1
      (runs, runs.zipIdx.foldl (longer next.2) state.2))
    (List.replicate b.length 0, ⟨0, 0, 0⟩)).2

/- How far two texts agree from their start. -/
def agreeing : List Char → List Char → Nat
| c :: cs, d :: ds => if c = d then agreeing cs ds + 1 else 0
| _, _ => 0

/-
  `find_longest_match`: the longest block of characters that
  are not too frequent, extended by any that agree.
-/
def findLongestMatch
    (skip : Char → Bool)
    (a b : List Char) : Block :=
  let run := longestRun skip a b
  let back :=
    agreeing (a.take run.start).reverse
      (b.take run.start').reverse
  let forth :=
    agreeing (a.drop (run.start + run.size))
      (b.drop (run.start' + run.size))
  ⟨run.start - back, run.start' - back,
    run.size + back + forth⟩

/-
  The sizes of the matching blocks, summed up: the longest
  one, and those on either side of it. Each round takes a
  character off the first text at least.
-/
def matchedFrom (skip : Char → Bool) :
    Nat → List Char → List Char → Nat
| 0, _, _ => 0
| rounds + 1, a, b =>
    let block := findLongestMatch skip a b
    if block.size = 0 then
      0
    else
      block.size +
        matchedFrom skip rounds (a.take block.start)
          (b.take block.start') +
        matchedFrom skip rounds (a.drop (block.start + block.size))
          (b.drop (block.start' + block.size))

/- `SequenceMatcher(None, a, b).ratio()`. -/
def ratio (a b : String) : ℚ :=
  let left := a.toList
  let right := b.toList
  let length := left.length + right.length
  if length = 0 then
    1
  else
    2 * matchedFrom (popular right) left.length left right /
      length

end SequenceMatcher

end RegEngine

--------
-- Trigrams
--------

namespace RegEngine

namespace Trigram

/- What the database takes for a letter, and its `lower`. -/
structure Locale where
  lower : String → String
  isWord : Char → Bool

def words (locale : Locale) (text : String) :
    List (List Char) :=
  (text.toList.splitOnP (fun c => !locale.isWord c)).filter
    (fun word => !word.isEmpty)

/- The parts of three characters. -/
def windows : List Char → List (List Char)
| a :: b :: c :: rest => [a, b, c] :: windows (b :: c :: rest)
| _ => []

/-
  The trigrams of a text, each once: those of its words, with
  two blanks before a word and one after it.
-/
def trigrams (locale : Locale) (text : String) :
    List (List Char) :=
  ((words locale (locale.lower text)).flatMap (fun word =>
    windows (' ' :: ' ' :: (word ++ [' '])))).dedup

/- `similarity(first, second)`. -/
def similarity (locale : Locale) (first second : String) : ℚ :=
  let left := trigrams locale first
  let right := trigrams locale second
  let shared := (left.filter (fun t => right.contains t)).length
  if left.isEmpty || right.isEmpty then
    0
  else
    shared / (left.length + right.length - shared : ℕ)

end Trigram

end RegEngine
