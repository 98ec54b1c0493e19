import ChainLint.Datum.Key
/-!
# Mappings by their keys

What a mapping has under a text after an entry was put (`field?_putEntry_self`,
`field?_putEntry_ne`). Entries that have no key in common are kept in the order
in which they are put (`mapOf_of_apart`).
-/

namespace ChainLint.Datum

section
variable {k : String} {key v : Datum}

theorem field?_cons_self (k : String) (v : Datum) (rest : List (Datum × Datum)) :
    field? k ((.text k, v) :: rest) = some v := by
  rw [field?, if_pos rfl]

theorem field?_cons_of_ne (h : key ≠ .text k) (rest : List (Datum × Datum)) :
    field? k ((key, v) :: rest) = field? k rest := by
  cases key with
  | text s =>
    have other : s ≠ k := fun hs => h (congrArg text hs)
    rw [field?, if_neg other]
  | _ => rfl

theorem sameKey_text_iff {s : String} : sameKey key (.text s) = true ↔ key = .text s := by
  cases key with
  | text t => simp [sameKey]
  | float x => cases x <;> simp [sameKey, number?]
  | _ => simp [sameKey, number?]

theorem field?_putEntry_self (k : String) (v : Datum) (entries : List (Datum × Datum)) :
    field? k (putEntry (.text k) v entries) = some v := by
  induction entries with
  | nil => exact field?_cons_self k v []
  | cons e rest ih =>
    obtain ⟨key, w⟩ := e
    rw [putEntry]
    split
    · next same =>
      rw [sameKey_text_iff.1 same, field?_cons_self]
    · next other =>
      rw [field?_cons_of_ne fun h => other (sameKey_text_iff.2 h), ih]

theorem field?_putEntry_ne {field : String} (h : k ≠ field) (v : Datum) (entries : List (Datum × Datum)) :
    field? k (putEntry (.text field) v entries) = field? k entries := by
  have unlike : (text field : Datum) ≠ .text k := fun he => h (Datum.text.inj he).symm
  induction entries with
  | nil => exact field?_cons_of_ne unlike []
  | cons e rest ih =>
    obtain ⟨key, w⟩ := e
    rw [putEntry]
    split
    · next same =>
      rw [sameKey_text_iff.1 same, field?_cons_of_ne unlike, field?_cons_of_ne unlike]
    · by_cases hk : key = .text k
      · rw [hk, field?_cons_self, field?_cons_self]
      · rw [field?_cons_of_ne hk, field?_cons_of_ne hk, ih]

end

theorem putEntry_of_new {k v : Datum} {entries : List (Datum × Datum)} (h : ∀ e ∈ entries, sameKey e.1 k = false) :
    putEntry k v entries = entries ++ [(k, v)] := by
  induction entries with
  | nil => rfl
  | cons e rest ih =>
    obtain ⟨new, later⟩ := List.forall_mem_cons.1 h
    rw [putEntry, new, ih later]
    rfl

theorem foldl_putEntry_of_apart {entries : List (Datum × Datum)} (put : List (Datum × Datum))
    (h : (put ++ entries).Pairwise fun e e' => sameKey e.1 e'.1 = false) :
    entries.foldl (fun put e => putEntry e.1 e.2 put) put = put ++ entries := by
  induction entries generalizing put with
  | nil => rw [List.foldl_nil, List.append_nil]
  | cons e rest ih =>
    have new : ∀ e' ∈ put, sameKey e'.1 e.1 = false := fun e' he =>
      (List.pairwise_append.1 h).2.2 e' he e List.mem_cons_self
    rw [List.append_cons] at h ⊢
    rw [List.foldl_cons, putEntry_of_new new, ih _ h]

/-- A mapping holds its entries as they were put where no two of them have the same key. -/
theorem mapOf_of_apart {entries : List (Datum × Datum)}
    (h : entries.Pairwise fun e e' => sameKey e.1 e'.1 = false) : mapOf entries = .map entries := by
  rw [mapOf, foldl_putEntry_of_apart [] h, List.nil_append]

end ChainLint.Datum
