import ChainLint.Number.Numeral
import ChainLint.Proofs.Trimming
import Mathlib
/-!
# Numerals in decimal

A whole number is written with a sign and its digits (`sign_toString`). It is found
again in its numeral exactly if it is short (`read_toString`): a numeral of more
digits is refused. No two numbers have one numeral, short or not
(`toString_injective`).
-/

namespace ChainLint.Numeral

/-! ## Digits -/

section
variable {c : Char} {cs : List Char}

theorem toNat_of_isDigit (h : c.isDigit = true) : 48 ≤ c.toNat ∧ c.toNat ≤ 57 := by
  simpa [Char.isDigit, UInt32.le_iff_toNat_le] using h

theorem isGap_of_isDigit (h : c.isDigit = true) : isGap c = false := by
  obtain ⟨low, high⟩ := toNat_of_isDigit h
  rw [isGap, if_pos (by omega), Bool.eq_false_iff]
  intro gap
  simp only [Bool.or_eq_true, Bool.and_eq_true, decide_eq_true_eq] at gap
  omega

theorem digit?_of_isDigit (h : c.isDigit = true) : digit? c = some (c.toNat - 48) := by
  obtain ⟨low, high⟩ := toNat_of_isDigit h
  have value : Text.digitValue? c = some (c.toNat - 48) := by
    rw [Text.digitValue?, if_pos (by omega), if_pos]
    · rfl
    · exact ⟨low, high⟩
  rw [digit?, value]

theorem value_lt_ten (h : c.isDigit = true) : c.toNat - 48 < 10 := by
  obtain ⟨low, high⟩ := toNat_of_isDigit h
  omega

theorem moreDigits_of_digits (h : ∀ c ∈ cs, c.isDigit = true) (value : Nat) :
    moreDigits 10 value cs = some (Nat.ofDigitChars 10 cs value) := by
  induction cs generalizing value with
  | nil => rfl
  | cons c rest ih =>
    obtain ⟨hc, hrest⟩ := List.forall_mem_cons.1 h
    rw [moreDigits]
    · simp only [digit?_of_isDigit hc, if_pos (value_lt_ten hc), ih hrest, Nat.ofDigitChars_cons]
      rw [Nat.mul_comm]
      rfl
    · rintro d r rfl rfl
      revert hc
      decide

/-- What starts with a digit has no sign. -/
theorem sign_of_isDigit (h : c.isDigit = true) : sign (c :: cs) = (false, c :: cs) := by
  rw [sign]
  · rintro r ⟨⟩
    revert h
    decide
  · rintro r ⟨⟩
    revert h
    decide

/-- What starts and ends outside the gaps is trimmed already. -/
theorem trimmed_of_ends {s : String} (first : ∃ c, s.toList.head? = some c ∧ isGap c = false)
    (last : ∃ c, s.toList.getLast? = some c ∧ isGap c = false) : trimmed s = s.toList := by
  have bare : Text.trimList isGap ([] ++ s.toList ++ []) = s.toList :=
    Text.trimList_padded nofun nofun first last
  rwa [List.nil_append, List.append_nil] at bare

end

theorem dropMark_ten (cs : List Char) : dropMark 10 cs = cs := by
  simp only [dropMark]

theorem isDigit_of_mem_toDigits {n : Nat} {c : Char} (h : c ∈ Nat.toDigits 10 n) : c.isDigit = true :=
  Nat.isDigit_of_mem_toDigits (by decide) (by decide) h

theorem exists_cons_toDigits (n : Nat) : ∃ c rest, Nat.toDigits 10 n = c :: rest ∧ c.isDigit = true := by
  obtain ⟨c, rest, h⟩ := List.exists_cons_of_ne_nil (Nat.toDigits_ne_nil (n := n) (b := 10))
  have hc : c ∈ Nat.toDigits 10 n := by
    rw [h]
    exact List.mem_cons_self
  exact ⟨c, rest, h, isDigit_of_mem_toDigits hc⟩

theorem exists_getLast?_toDigits (n : Nat) : ∃ c, (Nat.toDigits 10 n).getLast? = some c ∧ isGap c = false := by
  have last := List.getLast?_eq_some_getLast (Nat.toDigits_ne_nil (n := n) (b := 10))
  exact ⟨_, last, isGap_of_isDigit (isDigit_of_mem_toDigits (List.mem_of_getLast? last))⟩

theorem digits_toDigits (n : Nat) : digits 10 (Nat.toDigits 10 n) = some n := by
  have value : Nat.ofDigitChars 10 (Nat.toDigits 10 n) 0 = n := Nat.ofDigitChars_toDigits (by decide) (by decide)
  obtain ⟨c, rest, first, hc⟩ := exists_cons_toDigits n
  have hrest : ∀ d ∈ rest, d.isDigit = true := fun d hd =>
    isDigit_of_mem_toDigits (by rw [first]; exact List.mem_cons_of_mem c hd)
  rw [first, Nat.ofDigitChars_cons, Nat.mul_zero, Nat.zero_add] at value
  simp only [first, digits, digit?_of_isDigit hc, if_pos (value_lt_ten hc), moreDigits_of_digits hrest]
  exact congrArg some value

theorem headDigits_toDigits (n : Nat) : headDigits 10 (Nat.toDigits 10 n) = Nat.toDigits 10 n := by
  refine List.takeWhile_eq_self_iff.2 fun c hc => ?_
  have digit := isDigit_of_mem_toDigits hc
  rw [digit?_of_isDigit digit, Option.any_some, decide_eq_true (value_lt_ten digit), Bool.or_true]

theorem countP_toDigits (n : Nat) : (Nat.toDigits 10 n).countP (· ≠ '_') = (Nat.toDigits 10 n).length := by
  refine List.countP_eq_length.2 fun c hc => decide_eq_true ?_
  rintro rfl
  exact Nat.underscore_not_in_toDigits hc

/-! ## Numerals that are short enough -/

/-- Numbers of at most `maxDigits` digits. -/
def Short (n : Int) : Prop := n.natAbs < 10 ^ maxDigits

theorem not_short_ten_pow {k : Nat} (h : maxDigits ≤ k) : ¬ Short (10 ^ k) := by
  rw [Short, Int.natAbs_pow]
  exact Nat.not_lt.2 (Nat.pow_le_pow_right (by decide) h)

theorem length_toDigits_le_iff {n : Int} : (Nat.toDigits 10 n.natAbs).length ≤ maxDigits ↔ Short n :=
  Nat.length_toDigits_le_iff (by decide) (by decide)

/-- A numeral has too many digits unless its number is short. -/
theorem surplus?_toDigits {n : Int} :
    (Short n → surplus? 10 (Nat.toDigits 10 n.natAbs) = none) ∧
    (¬ Short n → surplus? 10 (Nat.toDigits 10 n.natAbs) = some (Nat.toDigits 10 n.natAbs).length) := by
  rw [← length_toDigits_le_iff]
  simp only [surplus?, headDigits_toDigits, countP_toDigits, digits_toDigits]
  refine ⟨fun short => if_neg ?_, fun long => if_pos ?_⟩
  · simp [short]
  · simp [Nat.lt_of_not_le long, isUnlimited]

/-! ## Numerals as texts -/

/-- A numeral has the sign of its number, and then the digits. -/
theorem sign_toString (n : Int) : sign (trimmed (toString n)) = (decide (n < 0), Nat.toDigits 10 n.natAbs) := by
  -- a numeral has digits or a sign at its ends, so nothing is trimmed from it
  cases n with
  | ofNat m =>
    have chars : (toString (Int.ofNat m)).toList = Nat.toDigits 10 m := by
      rw [Int.toString_eq_repr, Int.repr, Nat.toList_repr]
    obtain ⟨c, rest, first, digit⟩ := exists_cons_toDigits m
    have bare : trimmed (toString (Int.ofNat m)) = Nat.toDigits 10 m := by
      rw [← chars]
      refine trimmed_of_ends ⟨c, ?_, isGap_of_isDigit digit⟩ ?_
      · rw [chars, first]
        rfl
      · rw [chars]
        exact exists_getLast?_toDigits m
    have unsigned : sign (Nat.toDigits 10 m) = (false, Nat.toDigits 10 m) := by
      rw [first]
      exact sign_of_isDigit digit
    have natural : ¬ Int.ofNat m < 0 := Int.not_lt.2 (Int.natCast_nonneg m)
    rw [bare, unsigned, decide_eq_false natural]
    rfl
  | negSucc m =>
    have chars : (toString (Int.negSucc m)).toList = '-' :: Nat.toDigits 10 (m + 1) := by
      rw [Int.toString_eq_repr, Int.repr, String.toList_append, Nat.toList_repr]
      rfl
    have bare : trimmed (toString (Int.negSucc m)) = '-' :: Nat.toDigits 10 (m + 1) := by
      rw [← chars]
      refine trimmed_of_ends ⟨'-', ?_, rfl⟩ ?_
      · rw [chars]
        rfl
      · rw [chars, List.getLast?_cons_of_ne_nil Nat.toDigits_ne_nil]
        exact exists_getLast?_toDigits (m + 1)
    rw [bare, decide_eq_true (Int.negSucc_lt_zero m)]
    rfl

/-- A number is found again in its numeral if that is short enough to be read. -/
theorem read_toString {n : Int} :
    (Short n → read 10 (toString n) = .ok n) ∧
    (¬ Short n → read 10 (toString n) = .error (.tooLong (Nat.toDigits 10 n.natAbs).length)) := by
  have value : (if decide (n < 0) = true then -(n.natAbs : Int) else n.natAbs) = n := by
    simp only [decide_eq_true_eq]
    split <;> omega
  simp only [read, sign_toString, dropMark_ten]
  refine ⟨fun short => ?_, fun long => ?_⟩
  · simp only [surplus?_toDigits.1 short, digits_toDigits, value]
  · simp only [surplus?_toDigits.2 long]

/-- No two numbers have one numeral. -/
theorem toString_injective : Function.Injective (toString : Int → String) := by
  intro m n h
  have parts := congrArg (fun s => sign (trimmed s)) h
  simp only [sign_toString, Prod.mk.injEq, decide_eq_decide] at parts
  obtain ⟨signs, digits⟩ := parts
  have size : m.natAbs = n.natAbs := by
    calc
      m.natAbs = Nat.ofDigitChars 10 (Nat.toDigits 10 m.natAbs) 0 := Nat.ofDigitChars_ten_toDigits.symm
      _ = Nat.ofDigitChars 10 (Nat.toDigits 10 n.natAbs) 0 := by rw [digits]
      _ = n.natAbs := Nat.ofDigitChars_ten_toDigits
  omega

end ChainLint.Numeral
