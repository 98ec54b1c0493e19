import ChainLint.Text.Blank
import Mathlib.Data.List.TakeWhile
/-!
# Dropping characters at both ends

What `trimList` leaves has a first and a last character outside the class, and
the characters dropped stand around it (`trimList_spec`). What has such ends is
found again between characters of the class (`trimList_padded`).
-/

namespace ChainLint.Text

variable {p : Char → Bool}

theorem dropWhile_of_head {cs : List Char} (h : ∃ c, cs.head? = some c ∧ p c = false) : cs.dropWhile p = cs := by
  obtain ⟨c, hc, hp⟩ := h
  cases cs with
  | nil => cases hc
  | cons d rest =>
    cases hc
    rw [List.dropWhile_cons, hp]
    rfl

/-- What is dropped is a class of characters at both ends, up to the first and the last one outside it. -/
theorem trimList_padded {before cs after : List Char} (hb : ∀ c ∈ before, p c = true) (ha : ∀ c ∈ after, p c = true)
    (first : ∃ c, cs.head? = some c ∧ p c = false) (last : ∃ c, cs.getLast? = some c ∧ p c = false) :
    trimList p (before ++ cs ++ after) = cs := by
  have front : ∃ c, (cs ++ after).head? = some c ∧ p c = false := by
    obtain ⟨c, hc, hp⟩ := first
    exact ⟨c, by rw [List.head?_append, hc]; rfl, hp⟩
  have back : ∃ c, cs.reverse.head? = some c ∧ p c = false := by
    rwa [List.head?_reverse]
  rw [trimList, List.append_assoc, List.dropWhile_append_of_pos hb, dropWhile_of_head front, List.reverse_append,
    List.dropWhile_append_of_pos fun c hc => ha c (List.mem_reverse.1 hc), dropWhile_of_head back,
    List.reverse_reverse]

theorem trimList_of_all {cs : List Char} (h : ∀ c ∈ cs, p c = true) : trimList p cs = [] := by
  rw [trimList, List.dropWhile_eq_nil_iff.2 h]
  rfl

theorem exists_head_dropWhile {cs : List Char} (h : ∃ c ∈ cs, p c = false) :
    ∃ c, (cs.dropWhile p).head? = some c ∧ p c = false := by
  obtain ⟨c, hc, hp⟩ := h
  have found := List.head?_dropWhile_not p cs
  cases hd : cs.dropWhile p with
  | nil =>
    have blank : p c = true := List.dropWhile_eq_nil_iff.1 hd c hc
    rw [hp] at blank
    cases blank
  | cons d rest =>
    rw [hd] at found
    exact ⟨d, rfl, found⟩

/-- What is left where some character is outside the class: the characters dropped stand around it. -/
theorem trimList_spec {cs : List Char} (h : ∃ c ∈ cs, p c = false) :
    ∃ before after, (∀ c ∈ before, p c = true) ∧ (∀ c ∈ after, p c = true) ∧ cs = before ++ trimList p cs ++ after ∧
      (∃ c, (trimList p cs).head? = some c ∧ p c = false) ∧ ∃ c, (trimList p cs).getLast? = some c ∧ p c = false := by
  obtain ⟨d, hd, outside⟩ := exists_head_dropWhile h
  have left : ∃ c ∈ (cs.dropWhile p).reverse, p c = false :=
    ⟨d, List.mem_reverse.2 (List.mem_of_head? hd), outside⟩
  have last : ∃ c, (trimList p cs).getLast? = some c ∧ p c = false := by
    rw [trimList, List.getLast?_reverse]
    exact exists_head_dropWhile left
  have ends : cs.dropWhile p = trimList p cs ++ ((cs.dropWhile p).reverse.takeWhile p).reverse := by
    rw [trimList, ← List.reverse_append, List.takeWhile_append_dropWhile, List.reverse_reverse]
  refine ⟨cs.takeWhile p, ((cs.dropWhile p).reverse.takeWhile p).reverse, fun c => List.mem_takeWhile_imp,
    fun c hc => List.mem_takeWhile_imp (List.mem_reverse.1 hc), ?_, ⟨d, ?_, outside⟩, last⟩
  · rw [List.append_assoc, ← ends, List.takeWhile_append_dropWhile]
  · obtain ⟨c, hc, -⟩ := last
    cases left : trimList p cs with
    | nil =>
      rw [left] at hc
      cases hc
    | cons e rest =>
      rw [ends, left] at hd
      exact hd

end ChainLint.Text
