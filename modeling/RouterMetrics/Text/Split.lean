/-! The parts of texts between separators, and texts without their last break. -/

namespace RouterMetrics.Text

/-- The parts of a text between separators; there is one more of them than separators. -/
def partsAt (separator : Char) : List Char → List (List Char)
  | [] => [[]]
  | c :: rest =>
      match partsAt separator rest with
      | [] => [[c]]
      | part :: parts => if c == separator then [] :: part :: parts else (c :: part) :: parts

/-- The parts of a text between runs of characters of a class, none of them empty. -/
def wordsAt (isGap : Char → Bool) (text : List Char) : List (List Char) :=
  let marked := text.map fun c => if isGap c then ' ' else c
  (partsAt ' ' marked).filter fun word => !word.isEmpty

/-- A text without the line break at its end, if more stands before it. -/
def withoutFinalBreak (text : List Char) : List Char :=
  match text.reverse with
  | '\n' :: c :: rest => (c :: rest).reverse
  | _ => text

end RouterMetrics.Text
