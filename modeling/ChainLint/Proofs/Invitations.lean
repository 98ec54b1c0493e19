import ChainLint.Datum.Basic
import Mathlib.Data.List.Basic
/-!
# Values that invite a misuse

A loader asks some values for a whole number and some for their items, without
a look at their kind. A value invites a misuse if it holds something else in
such a place. Inside a value that spares the loader (`Spares`) no value does,
so all its fields, items and keys can be used (`Spares.finite_field`,
`Spares.has_items`).
-/

namespace ChainLint.Datum

/-! ## Values inside a value -/

mutual

/-- A value and all values inside it, keys included. -/
def subs : Datum → List Datum
  | .list items => .list items :: subsAll items
  | .tuple items => .tuple items :: subsAll items
  | .set items => .set items :: subsAll items
  | .map entries => .map entries :: subsEntries entries
  | .again up c => .again up c :: c.subs
  | d => [d]

/-- The values of a list and all values inside them. -/
def subsAll : List Datum → List Datum
  | [] => []
  | d :: r => d.subs ++ subsAll r

/-- The keys and values of entries and all values inside them. -/
def subsEntries : List (Datum × Datum) → List Datum
  | [] => []
  | (k, v) :: r => k.subs ++ v.subs ++ subsEntries r

end

theorem mem_subs_self (d : Datum) : d ∈ d.subs := by
  cases d <;> simp [subs]

theorem subs_subset_subsAll {d : Datum} {ds : List Datum} (h : d ∈ ds) : d.subs ⊆ subsAll ds := by
  induction ds with
  | nil => cases h
  | cons c rest ih =>
    rcases List.mem_cons.1 h with rfl | h
    · exact List.subset_append_left _ _
    · exact List.Subset.trans (ih h) (List.subset_append_right _ _)

theorem subs_subset_subsEntries {e : Datum × Datum} {es : List (Datum × Datum)} (h : e ∈ es) :
    e.1.subs ⊆ subsEntries es ∧ e.2.subs ⊆ subsEntries es := by
  induction es with
  | nil => cases h
  | cons c rest ih =>
    simp only [subsEntries]
    rcases List.mem_cons.1 h with rfl | h
    · exact ⟨fun v hv => by simp [hv], fun v hv => by simp [hv]⟩
    · exact ⟨fun v hv => by simp [(ih h).1 hv], fun v hv => by simp [(ih h).2 hv]⟩

theorem subs_core_subset (d : Datum) : d.core.subs ⊆ d.subs := by
  cases d with
  | again up c => exact List.subset_cons_self _ _
  | _ => exact List.Subset.refl _

theorem mem_of_field? {k : String} {entries : List (Datum × Datum)} {v : Datum}
    (h : field? k entries = some v) : (.text k, v) ∈ entries := by
  fun_induction field? k entries with
  | case1 => cases h
  | case2 =>
    cases h
    exact List.mem_cons_self
  | case3 s w r hs ih => exact List.mem_cons_of_mem _ (ih h)
  | case4 e r _ ih => exact List.mem_cons_of_mem _ (ih h)

/-! ## Invitations -/

/-- The fields of a dump that list something and whose kind is not checked. -/
def listFields : List String := ["args", "children", "type_args", "generic_args"]

/-- Whether a value counts as true and has no items. -/
def isItemless (d : Datum) : Bool := d.isTruthy && d.items?.isNone

/-- The fields of a dump that hold a whole number. -/
def wholeFields : List String :=
  ["id", "ty", "def", "self_ty", "inner", "target", "line_start", "col_start", "line_end", "col_end"]

/-- Whether a value is an infinite number. -/
def isInfinite : Datum → Bool
  | .float (.infinity _) => true
  | _ => false

/-- Whether a mapping has an infinite number under some key. -/
def mapsToInfinity (d : Datum) : Bool :=
  match d.core with
  | .map entries => entries.any fun e => e.2.isInfinite
  | _ => false

/-- Whether a value invites a misuse. It has an infinite number where whole numbers may belong: as an
item or a key, in a field of whole numbers, or among implementations. Or it has a field without
items where items belong. -/
def invites : Misuse → Datum → Bool
  | .infinite, .map entries =>
    (entries.any fun e => e.1.isInfinite) || (wholeFields.any fun key => (field? key entries).any isInfinite) ||
      (field? "impls" entries).any mapsToInfinity
  | .infinite, d => (d.items?.getD []).any isInfinite
  | .noItems, .map entries => listFields.any fun key => (field? key entries).any isItemless
  | .noItems, _ => false

/-- No value inside a value invites the misuse. -/
def Spares (m : Misuse) (d : Datum) : Prop := ∀ v ∈ d.subs, v.invites m = false

section
variable {m : Misuse} {d : Datum} {entries : List (Datum × Datum)}

theorem Spares.self (h : d.Spares m) : d.invites m = false := h d (mem_subs_self d)

theorem Spares.core (h : d.Spares m) : d.core.Spares m := fun v hv => h v (subs_core_subset d hv)

theorem Spares.all {ds : List Datum} (h : ∀ v ∈ subsAll ds, v.invites m = false) : ∀ c ∈ ds, c.Spares m :=
  fun _ hc v hv => h v (subs_subset_subsAll hc hv)

theorem Spares.entry (h : (Datum.map entries).Spares m) {e : Datum × Datum} (he : e ∈ entries) :
    e.1.Spares m ∧ e.2.Spares m :=
  ⟨fun v hv => h v (List.mem_cons_of_mem _ ((subs_subset_subsEntries he).1 hv)),
    fun v hv => h v (List.mem_cons_of_mem _ ((subs_subset_subsEntries he).2 hv))⟩

theorem Spares.field (h : (Datum.map entries).Spares m) {k : String} {v : Datum}
    (hv : field? k entries = some v) : v.Spares m :=
  (h.entry (mem_of_field? hv)).2

theorem field?_of_present? {k : String} {v : Datum} (hv : present? k entries = some v) :
    field? k entries = some v := by
  unfold present? at hv
  split at hv
  · cases hv
  · exact hv

theorem Spares.present (h : (Datum.map entries).Spares m) {k : String} {v : Datum}
    (hv : present? k entries = some v) : v.Spares m :=
  h.field (field?_of_present? hv)

/-- An infinite number is no key, in no field of whole numbers and not among implementations. -/
theorem Spares.finite (h : (Datum.map entries).Spares .infinite) :
    (∀ e ∈ entries, e.1.isInfinite = false) ∧
    (∀ k ∈ wholeFields, ∀ v, field? k entries = some v → v.isInfinite = false) ∧
    ∀ v, field? "impls" entries = some v → v.mapsToInfinity = false := by
  have hs := h.self
  simp only [invites, Bool.or_eq_false_iff, List.any_eq_false, Bool.not_eq_true] at hs
  obtain ⟨⟨keys, fields⟩, impls⟩ := hs
  refine ⟨keys, fun k hk v hv => ?_, fun v hv => ?_⟩
  · simpa [hv] using fields k hk
  · simpa [hv] using impls

/-- A value that is no infinite number, where that would be the misuse. -/
def Finite (m : Misuse) (d : Datum) : Prop := m = .infinite → d.isInfinite = false

theorem Spares.finite_key (h : (Datum.map entries).Spares m) {e : Datum × Datum} (he : e ∈ entries) :
    e.1.Finite m := by
  rintro rfl
  exact h.finite.1 e he

theorem Spares.finite_field (h : (Datum.map entries).Spares m) {k : String} (hk : k ∈ wholeFields) {v : Datum}
    (hv : field? k entries = some v) : v.Finite m := by
  rintro rfl
  exact h.finite.2.1 k hk v hv

theorem Spares.finite_impl (h : (Datum.map entries).Spares m) {v : Datum} (hv : field? "impls" entries = some v)
    {es : List (Datum × Datum)} (hc : v.core = .map es) : ∀ e ∈ es, e.2.Finite m := by
  rintro e he rfl
  have hi := h.finite.2.2 v hv
  rw [mapsToInfinity, hc, List.any_eq_false] at hi
  exact Bool.eq_false_iff.2 (hi e he)

theorem Spares.finite_item (h : d.Spares m) {items : List Datum} (hi : d.items? = some items) :
    ∀ c ∈ items, c.Finite m := by
  rintro c hc rfl
  cases d with
  | map entries =>
    cases hi
    obtain ⟨e, he, rfl⟩ := List.mem_map.1 hc
    exact h.finite.1 e he
  | _ =>
    have hs := h.self
    rw [invites, hi, Option.getD_some, List.any_eq_false] at hs
    · exact Bool.eq_false_iff.2 (hs c hc)
    · nofun

/-- Something without items is in no field that lists something. -/
theorem Spares.has_items (h : (Datum.map entries).Spares .noItems) {k : String} (hk : k ∈ listFields)
    {v : Datum} (hv : field? k entries = some v) : v.isItemless = false := by
  have hs := List.any_eq_false.1 h.self k hk
  rw [hv] at hs
  simpa using hs

theorem spares_leaf (hs : d.subs = [d]) (hi : d.invites m = false) : d.Spares m := by
  intro v hv
  rw [hs] at hv
  rwa [List.mem_singleton.1 hv]

theorem spares_int (n : Int) : (Datum.int n).Spares m := spares_leaf rfl (by cases m <;> rfl)

theorem spares_text (s : String) : (Datum.text s).Spares m :=
  spares_leaf rfl (by cases m <;> simp [invites, items?, isInfinite])

theorem spares_emptyMap : (Datum.map []).Spares m := spares_leaf rfl (by cases m <;> rfl)

/-- The items of a value inside which nothing invites the misuse are of the same sort. -/
theorem Spares.items (h : d.Spares m) {items : List Datum} (hi : d.items? = some items) :
    ∀ c ∈ items, c.Spares m := by
  induction d using items?.induct generalizing items with
  | case1 ds =>
    cases hi
    exact Spares.all fun v hv => h v (List.mem_cons_of_mem _ hv)
  | case2 ds =>
    cases hi
    exact Spares.all fun v hv => h v (List.mem_cons_of_mem _ hv)
  | case3 ds =>
    cases hi
    exact Spares.all fun v hv => h v (List.mem_cons_of_mem _ hv)
  | case4 es =>
    cases hi
    intro c hc
    obtain ⟨e, he, rfl⟩ := List.mem_map.1 hc
    exact (h.entry he).1
  | case5 s =>
    cases hi
    intro c hc
    obtain ⟨x, -, rfl⟩ := List.mem_map.1 hc
    exact spares_text _
  | case6 b =>
    cases hi
    intro c hc
    obtain ⟨x, -, rfl⟩ := List.mem_map.1 hc
    exact spares_int _
  | case7 up c ih => exact ih (fun v hv => h v (List.mem_cons_of_mem _ hv)) hi
  | case8 d => cases d <;> simp_all [items?]

end

end ChainLint.Datum
