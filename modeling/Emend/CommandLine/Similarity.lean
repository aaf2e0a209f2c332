/-
# Similar words

The Jaro similarity of two words is high when they share many characters in nearly the same places
and order.  It finds the word that was probably meant.
-/

namespace Emend.Similarity

/-- Pair the characters of a word, the next of which has an index, with equal ones of another word
that are not too far away and not taken yet.  The answer holds the characters that have found
a partner, in order, and the indices of all partners. -/
def pairFrom (reach : Nat) (other : List Char) (index : Nat) (taken : List Nat) :
    List Char → List Char × List Nat
  | [] => ([], taken)
  | c :: rest =>
    let partner? := (List.range other.length).find? fun i =>
      index ≤ i + reach && i ≤ index + reach && !taken.contains i && other[i]? = some c
    match partner? with
    | some partner =>
      let (paired, taken) := pairFrom reach other (index + 1) (partner :: taken) rest
      (c :: paired, taken)
    | none => pairFrom reach other (index + 1) taken rest

/-- The similarity of two words: one for equal words, zero for words with nothing in common. -/
def jaro (first second : List Char) : Float :=
  if first.isEmpty && second.isEmpty then 1
  else
    let reach := max first.length second.length / 2 - 1
    let (paired, taken) := pairFrom reach second 0 [] first
    let partners := (List.range second.length).filterMap fun i =>
      if taken.contains i then second[i]? else none
    let swaps := ((paired.zip partners).filter fun (c, d) => c ≠ d).length / 2
    if paired.isEmpty then 0
    else
      let count := paired.length.toFloat
      (count / first.length.toFloat + count / second.length.toFloat
        + (paired.length - swaps).toFloat / count) / 3

/-- The similarity above which a word counts as similar. -/
def threshold : Float := 0.7

/-- Put a scored item after all that do not score higher. -/
def insertByScore {α : Type} (score : Float) (item : α) : List (Float × α) → List (Float × α)
  | [] => [(score, item)]
  | (other, first) :: rest =>
    if other > score then (score, item) :: (other, first) :: rest
    else (other, first) :: insertByScore score item rest

/-- The items whose names are similar to a word, the most similar last. -/
def similar {α : Type} (word : String) (name : α → String) (items : List α) : List α :=
  (items.foldl (fun (found : List (Float × α)) item =>
    let score := jaro word.toList (name item).toList
    if score > threshold then insertByScore score item found else found) []).map Prod.snd

end Emend.Similarity
