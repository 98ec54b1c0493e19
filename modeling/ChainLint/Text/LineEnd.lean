/-!
# Ends of lines

A line may end in a line feed, a carriage return or both.
-/

namespace ChainLint.Text

/-- Makes every end of a line a line feed. -/
def unifyLineEnds : List Char → List Char
  | '\r' :: '\n' :: r => '\n' :: unifyLineEnds r
  | '\r' :: r => '\n' :: unifyLineEnds r
  | c :: r => c :: unifyLineEnds r
  | [] => []

theorem unifyLineEnds_of_not_mem {cs : List Char} (h : '\r' ∉ cs) : unifyLineEnds cs = cs := by
  fun_induction unifyLineEnds cs with
  | case1 r ih => simp at h
  | case2 r _ ih => simp at h
  | case3 c r _ _ ih => rw [ih (by simp_all)]
  | case4 => rfl

end ChainLint.Text
