/-!
# Parts of a text

* `Text.split`: the parts of a text between separators.
-/

namespace RecordMapper.Text

/-- The parts of a text between separators. There is one more of them than there are separators. -/
def split (separator : Char) : List Char → List (List Char)
  | [] => [[]]
  | c :: rest =>
    if c = separator then [] :: split separator rest
    else
      match split separator rest with
      | [] => [[c]]
      | part :: more => (c :: part) :: more

theorem length_split (separator : Char) (text : List Char) :
    (split separator text).length = text.count separator + 1 := by
  induction text with
  | nil => rfl
  | cons c rest ih =>
    by_cases h : c = separator
    · simp [split, h, ih]
    · simp only [split, h, if_false]
      rw [List.count_cons_of_ne h]
      match hs : split separator rest with
      | [] => simp [hs] at ih
      | part :: more => simpa [hs] using ih

end RecordMapper.Text
