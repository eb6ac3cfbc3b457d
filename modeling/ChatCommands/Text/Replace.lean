/-
# Replacing every occurrence

Replacing all occurrences of one text in another, from left to right and without
looking at what was put in. An empty pattern occurs before every character and
once more at the end.
-/

import ChatCommands.Text.Pieces

namespace ChatCommands.Text

/-- The text without the given beginning, if it begins so. -/
def after? : List Char → List Char → Option (List Char)
  | [], cs => some cs
  | _ :: _, [] => none
  | p :: pattern, c :: cs => if p = c then after? pattern cs else none

/-- A text begins with `pattern` and goes on with `rest` exactly if it is the two
put together. -/
theorem after?_eq_some_iff {pattern cs rest : List Char} :
    after? pattern cs = some rest ↔ cs = pattern ++ rest := by
  induction pattern generalizing cs with
  | nil => simp [after?, eq_comm]
  | cons p pattern ih =>
    cases cs with
    | nil => simp [after?]
    | cons c cs =>
      by_cases same : p = c
      · simp [after?, same, ih]
      · simp [after?, same, Ne.symm same]

/-- The finder of a pattern that is not empty. -/
def patternFinder (pattern : List Char) : Finder Unit := fun _ cs =>
  match after? pattern cs with
  | some _ => some ⟨(), pattern.length⟩
  | none => none

/-- Put a text before every character of another and at its end. -/
def interleave (replacement cs : List Char) : List Char :=
  cs.flatMap (fun c => replacement ++ [c]) ++ replacement

/-- Replace every occurrence of a pattern in a text. -/
def replaceAll (pattern replacement text : String) : String :=
  if pattern.isEmpty then String.ofList (interleave replacement.toList text.toList)
  else
    String.ofList
      (replaceFound (patternFinder pattern.toList) (fun _ => replacement.toList) text.toList)

end ChatCommands.Text
