import ChainLint.Proofs.Renaming
import ChainLint.Proofs.SingleUnit
import Mathlib.Data.List.Nodup
/-!
# Tables in another order

A table that lists no key twice has the same under every key whatever the
order of its entries (`Table.get?_perm`). The tables of a crate that was loaded
list no key twice (`Dump.distinctKeys_of_load`), and a crate with reordered
tables is a twin under the same numbers (`Crate.Reordered.twin`).
-/

namespace ChainLint

/-! ## Tables that list no key twice -/

namespace Table

variable {κ α : Type} [DecidableEq κ]

/-- The table lists no key twice. -/
def DistinctKeys {κ α : Type} (t : Table κ α) : Prop := (t.entries.map (·.1)).Nodup

instance (t : Table κ α) : Decidable t.DistinctKeys :=
  inferInstanceAs (Decidable (t.entries.map (·.1)).Nodup)

theorem find?_eq_some_iff {l : List (κ × α)} (hn : (l.map (·.1)).Nodup) {k : κ} {v : α} :
    find? k l = some v ↔ (k, v) ∈ l := by
  induction l with
  | nil => simp
  | cons e r ih =>
    obtain ⟨a, b⟩ := e
    obtain ⟨ha, hr⟩ := List.nodup_cons.1 hn
    unfold find?
    by_cases h : a = k
    · -- the key is listed here, so it is not listed later
      subst h
      have hv : (a, v) ∉ r := fun hm => ha (List.mem_map.2 ⟨_, hm, rfl⟩)
      simp [hv, eq_comm]
    · simp [h, ih hr, Ne.symm h]

theorem find?_perm {l l' : List (κ × α)} (h : l.Perm l') (hn : (l.map (·.1)).Nodup) (k : κ) :
    find? k l = find? k l' := by
  refine Option.ext fun v => ?_
  rw [find?_eq_some_iff hn, find?_eq_some_iff ((h.map _).nodup_iff.1 hn), h.mem_iff]

theorem get?_perm {t t' : Table κ α} (h : t.entries.Perm t'.entries) (hn : t.DistinctKeys) (k : κ) :
    t.get? k = t'.get? k :=
  find?_perm h hn k

/-- The keys once a value was put under a key. -/
theorem keys_put (k : κ) (v : α) (l : List (κ × α)) :
    (put k v l).map (·.1) = if k ∈ l.map (·.1) then l.map (·.1) else l.map (·.1) ++ [k] := by
  induction l with
  | nil => rfl
  | cons e r ih =>
    obtain ⟨a, b⟩ := e
    unfold put
    by_cases h : a = k
    · simp [h]
    · have hk : k ≠ a := Ne.symm h
      rw [if_neg h, List.map_cons, ih]
      simp only [List.map_cons, List.mem_cons, hk, false_or]
      split <;> rfl

theorem DistinctKeys.insert {t : Table κ α} (h : t.DistinctKeys) (k : κ) (v : α) :
    (t.insert k v).DistinctKeys := by
  unfold DistinctKeys Table.insert
  rw [keys_put]
  split
  · exact h
  · next hk => exact List.Nodup.append h (List.nodup_singleton k) (by simpa using hk)

theorem distinctKeys_ofList (pairs : List (κ × α)) : (ofList pairs).DistinctKeys := by
  have key : ∀ (pairs : List (κ × α)) (t : Table κ α), t.DistinctKeys →
      (pairs.foldl (fun t e => t.insert e.1 e.2) t).DistinctKeys := by
    intro pairs
    induction pairs with
    | nil => exact fun t h => h
    | cons e rest ih => exact fun t h => ih _ (h.insert e.1 e.2)
  exact key pairs empty List.nodup_nil

theorem mem_put {k : κ} {v : α} {l : List (κ × α)} {e : κ × α} (h : e ∈ put k v l) : e ∈ l ∨ e = (k, v) := by
  induction l with
  | nil => exact .inr (List.mem_singleton.1 h)
  | cons a r ih =>
    obtain ⟨a, b⟩ := a
    unfold put at h
    split at h
    · next ha =>
      rcases List.mem_cons.1 h with rfl | h
      · exact .inr (by rw [ha])
      · exact .inl (List.mem_cons_of_mem _ h)
    · rcases List.mem_cons.1 h with rfl | h
      · exact .inl List.mem_cons_self
      · exact (ih h).imp_left (List.mem_cons_of_mem _)

/-- A table of pairs holds nothing else. -/
theorem mem_ofList {pairs : List (κ × α)} {e : κ × α} (h : e ∈ (ofList pairs).entries) : e ∈ pairs := by
  have key : ∀ (pairs : List (κ × α)) (t : Table κ α),
      e ∈ (pairs.foldl (fun t e => t.insert e.1 e.2) t).entries → e ∈ t.entries ∨ e ∈ pairs := by
    intro pairs
    induction pairs with
    | nil => exact fun t h => .inl h
    | cons p rest ih =>
      intro t h
      rcases ih _ h with h | h
      · exact (mem_put h).imp_right fun h => by
          rw [h]
          exact List.mem_cons_self
      · exact .inr (List.mem_cons_of_mem _ h)
  exact (key pairs empty h).resolve_left nofun

end Table

/-! ## Crates with reordered tables -/

/-- The tables of types, of declarations and of implementations list no key twice. -/
structure Crate.DistinctKeys (c : Crate) : Prop where
  types : c.types.types.DistinctKeys
  declarations : c.declarations.DistinctKeys
  impls : ∀ e ∈ c.declarations.entries, e.2.impls.DistinctKeys

/-- The same entry of a table of declarations, its implementations in another order. -/
def SameEntry (e e' : Int × Declaration) : Prop :=
  ∃ impls, e.2.impls.entries.Perm impls ∧ e' = (e.1, { e.2 with impls := ⟨impls⟩ })

/-- The second crate is the first one with the entries of the tables of types, of declarations and of
implementations in another order. -/
structure Crate.Reordered (c c' : Crate) : Prop where
  name : c'.name = c.name
  units : c'.units = c.units
  types : c.types.types.entries.Perm c'.types.types.entries
  nodeTypes : c'.types.nodeTypes = c.types.nodeTypes
  denotations : c'.denotations = c.denotations
  declarations : ∃ entries, List.Forall₂ SameEntry c.declarations.entries entries ∧
    entries.Perm c'.declarations.entries

/-- Entries that are the same but for the order of implementations are twins under the same numbers. -/
theorem SameEntry.twin {e e' : Int × Declaration} (h : SameEntry e e') (hn : e.2.impls.DistinctKeys) :
    e'.1 = e.1 ∧ e.2.Twin .same e'.2 := by
  obtain ⟨impls, perm, rfl⟩ := h
  refine ⟨rfl, rfl, rfl, rfl, ?_, rfl, fun ty => ?_⟩
  · exact Option.map_id'.symm
  · refine Eq.trans ?_ Option.map_id'.symm
    exact (Table.find?_perm perm hn ty).symm

/-- Tables of declarations that are the same entry by entry have twins under the same numbers. -/
theorem rel_of_sameEntries {l l' : List (Int × Declaration)} (h : List.Forall₂ SameEntry l l')
    (hn : ∀ e ∈ l, e.2.impls.DistinctKeys) (k : Int) :
    Option.Rel (Declaration.Twin .same) (Table.find? k l) (Table.find? k l') := by
  induction h with
  | nil => exact .none
  | @cons e e' rest rest' he _ ih =>
    obtain ⟨hne, hnrest⟩ := List.forall_mem_cons.1 hn
    obtain ⟨hkey, twin⟩ := he.twin hne
    obtain ⟨a, d⟩ := e
    obtain ⟨a', d'⟩ := e'
    obtain rfl : a' = a := hkey
    unfold Table.find?
    split
    · exact .some twin
    · exact ih hnrest

theorem keys_of_sameEntries {l l' : List (Int × Declaration)} (h : List.Forall₂ SameEntry l l') :
    l'.map (·.1) = l.map (·.1) := by
  induction h with
  | nil => rfl
  | cons he _ ih =>
    obtain ⟨impls, -, rfl⟩ := he
    rw [List.map_cons, List.map_cons, ih]

theorem Renaming.same_use (d : Denotation) : Renaming.same.use d = d := by
  obtain ⟨decl, isLocal, selfType, genericArgs⟩ := d
  simp [Renaming.use, Renaming.same]

/-- Reordered tables make a twin under the same numbers. -/
theorem Crate.Reordered.twin {c c' : Crate} (h : c.Reordered c') (hn : c.DistinctKeys) : c.Twin .same c' where
  kinds ty := by
    rw [Table.get?_perm h.types hn.types ty]
    rfl
  nodeTypes node := by
    rw [h.nodeTypes]
    exact Option.map_id'.symm
  declarations decl := by
    obtain ⟨entries, same, perm⟩ := h.declarations
    have keys : (entries.map (·.1)).Nodup := by
      rw [keys_of_sameEntries same]
      exact hn.declarations
    have found : c'.declarations.get? (Renaming.same.decl decl) = Table.find? decl entries :=
      (Table.find?_perm perm keys decl).symm
    rw [found]
    exact rel_of_sameEntries same hn.impls decl
  denotations node := by
    rw [h.denotations]
    have use : Renaming.same.use = id := funext Renaming.same_use
    rw [use, Option.map_id_fun]
    rfl

/-! ## Crates that were loaded -/

namespace Dump

theorem exists_of_mapM {ε α β : Type} {f : α → Except ε β} {l : List α} {bs : List β}
    (h : l.mapM f = .ok bs) : ∀ b ∈ bs, ∃ a ∈ l, f a = .ok b := by
  induction l generalizing bs with
  | nil =>
    cases h
    nofun
  | cons a rest ih =>
    rw [List.mapM_cons] at h
    obtain ⟨b, hb, h⟩ := exists_of_bind_eq_ok h
    obtain ⟨later, hl, h⟩ := exists_of_bind_eq_ok h
    cases h
    refine List.forall_mem_cons.2 ⟨⟨a, List.mem_cons_self, hb⟩, fun b' hb' => ?_⟩
    obtain ⟨a', ha', hf⟩ := ih hl b' hb'
    exact ⟨a', List.mem_cons_of_mem _ ha', hf⟩

/-- A table that was read lists no key twice, and each value was read under its key. -/
theorem numbered_spec {α : Type} {what : String} {read : Int → Datum → Except LoadFault α}
    {entries : List (Datum × Datum)} {t : Table Int α} (h : numbered what read entries = .ok t) :
    t.DistinctKeys ∧ ∀ e ∈ t.entries, ∃ raw, read e.1 raw = .ok e.2 := by
  obtain ⟨pairs, hp, h⟩ := exists_of_bind_eq_ok h
  cases h
  refine ⟨Table.distinctKeys_ofList pairs, fun e he => ?_⟩
  obtain ⟨raw, -, hr⟩ := exists_of_mapM hp e (Table.mem_ofList he)
  obtain ⟨id, -, hr⟩ := exists_of_bind_eq_ok hr
  obtain ⟨a, ha, hr⟩ := exists_of_bind_eq_ok hr
  cases hr
  exact ⟨raw.2, ha⟩

theorem distinctKeys_of_declEntry {origin : String} {id : Int} {raw : Datum} {d : Declaration}
    (h : declEntry origin id raw = .ok d) : d.impls.DistinctKeys := by
  obtain ⟨entries, -, h⟩ := exists_of_bind_eq_ok h
  split at h
  · cases h
  · obtain ⟨rawImpls, -, h⟩ := exists_of_bind_eq_ok h
    obtain ⟨impls, -, h⟩ := exists_of_bind_eq_ok h
    obtain ⟨path, -, h⟩ := exists_of_bind_eq_ok h
    obtain ⟨target, -, h⟩ := exists_of_bind_eq_ok h
    cases h
    exact Table.distinctKeys_ofList impls

/-- The tables of a crate that was loaded list no key twice. -/
theorem distinctKeys_of_load {origin : String} {doc : Datum} {c : Crate} (h : crate origin doc = .ok c) :
    c.DistinctKeys := by
  cases hd : doc.core with
  | map entries =>
    obtain ⟨⟨-, types, declarations⟩, -⟩ := (crate_eq_ok_iff hd).1 h
    obtain ⟨rawTypes, -, types⟩ := exists_of_bind_eq_ok types
    obtain ⟨rawDecls, -, declarations⟩ := exists_of_bind_eq_ok declarations
    obtain ⟨distinct, read⟩ := numbered_spec declarations
    refine ⟨(numbered_spec types).1, distinct, fun e he => ?_⟩
    obtain ⟨raw, hr⟩ := read e he
    exact distinctKeys_of_declEntry hr
  | _ =>
    simp only [crate, hd] at h
    cases h

end Dump

end ChainLint
