import ChainLint.Dump.Crate
import ChainLint.Proofs.Walk
import Mathlib.Data.List.Forall2
/-!
# What reading a tree files

`Reads` sums up a reading step: what it files does not depend on what was
filed before, and from every state in which its numbers are unclaimed it gives
the same. `node_reads`: a tree claims the numbers of its nodes, each once, and
files nothing under other numbers.
-/

namespace ChainLint

/-! ## Entries put into a table -/

namespace Table

variable {κ α : Type} [DecidableEq κ]

/-- The table with pairs put in order. -/
def insertAll (t : Table κ α) (pairs : List (κ × α)) : Table κ α :=
  pairs.foldl (fun t e => t.insert e.1 e.2) t

theorem insertAll_append (t : Table κ α) (l l' : List (κ × α)) :
    t.insertAll (l ++ l') = (t.insertAll l).insertAll l' :=
  List.foldl_append

theorem get?_insertAll_of_ne {t : Table κ α} {l : List (κ × α)} {k : κ} (h : ∀ e ∈ l, e.1 ≠ k) :
    (t.insertAll l).get? k = t.get? k := by
  induction l generalizing t with
  | nil => rfl
  | cons e rest ih =>
    obtain ⟨he, hrest⟩ := List.forall_mem_cons.1 h
    exact (ih hrest).trans (by rw [get?_insert, if_neg he])

/-- What was under a key before matters only through the look-up of this key. -/
theorem get?_insertAll_congr {t t' : Table κ α} {k : κ} (h : t.get? k = t'.get? k)
    (l : List (κ × α)) : (t.insertAll l).get? k = (t'.insertAll l).get? k := by
  induction l generalizing t t' with
  | nil => exact h
  | cons e rest ih => exact ih (by rw [get?_insert, get?_insert, h])

end Table

namespace Dump

/-! ## Filings -/

/-- What a stretch of reading files: the numbers it claims, and entries in the order in which they
are put. -/
structure Filing where
  ids : List Int := []
  types : List (Int × Int) := []
  uses : List (Int × Denotation) := []

/-- One filing after the other. -/
instance : Append Filing := ⟨fun f g => ⟨f.ids ++ g.ids, f.types ++ g.types, f.uses ++ g.uses⟩⟩

namespace Filing

@[simp] theorem ids_append (f g : Filing) : (f ++ g).ids = f.ids ++ g.ids := rfl
@[simp] theorem types_append (f g : Filing) : (f ++ g).types = f.types ++ g.types := rfl
@[simp] theorem uses_append (f g : Filing) : (f ++ g).uses = f.uses ++ g.uses := rfl

@[simp] theorem append_empty (f : Filing) : f ++ ({} : Filing) = f := by
  obtain ⟨ids, types, uses⟩ := f
  show Filing.mk (ids ++ []) (types ++ []) (uses ++ []) = _
  simp only [List.append_nil]

@[simp] theorem empty_append (f : Filing) : ({} : Filing) ++ f = f := rfl

/-- The numbers of a filing are distinct and none of them is claimed. -/
structure Fresh (f : Filing) (s : Filed) : Prop where
  nodup : f.ids.Nodup
  unclaimed : ∀ id ∈ f.ids, id ∉ s.claimed

/-- A filing claims these numbers in this order and files nothing under others. -/
structure Owns (f : Filing) (ids : List Int) : Prop where
  ids_eq : f.ids = ids
  types : ∀ e ∈ f.types, e.1 ∈ ids
  uses : ∀ e ∈ f.uses, e.1 ∈ ids

/-- Filings one after the other. -/
def all (fs : List Filing) : Filing :=
  ⟨fs.flatMap (·.ids), fs.flatMap (·.types), fs.flatMap (·.uses)⟩

theorem all_cons (f : Filing) (fs : List Filing) : all (f :: fs) = f ++ all fs := rfl

theorem Owns.append {f g : Filing} {is js : List Int} (hf : f.Owns is) (hg : g.Owns js) :
    (f ++ g).Owns (is ++ js) where
  ids_eq := by rw [ids_append, hf.ids_eq, hg.ids_eq]
  types e he := by
    rcases List.mem_append.1 he with he | he
    · exact List.mem_append_left _ (hf.types e he)
    · exact List.mem_append_right _ (hg.types e he)
  uses e he := by
    rcases List.mem_append.1 he with he | he
    · exact List.mem_append_left _ (hf.uses e he)
    · exact List.mem_append_right _ (hg.uses e he)

theorem owns_empty : Filing.Owns {} [] := ⟨rfl, nofun, nofun⟩

end Filing

/-- What was filed, and then a filing. -/
def Filed.add (s : Filed) (f : Filing) : Filed :=
  ⟨f.ids.reverse ++ s.claimed, s.nodeTypes.insertAll f.types, s.denotations.insertAll f.uses⟩

theorem Filed.add_append (s : Filed) (f g : Filing) : s.add (f ++ g) = (s.add f).add g := by
  simp only [Filed.add, Filing.ids_append, Filing.types_append, Filing.uses_append, List.reverse_append,
    List.append_assoc, Table.insertAll_append]

theorem Filing.fresh_append {f g : Filing} {s : Filed} :
    (f ++ g).Fresh s ↔ f.Fresh s ∧ g.Fresh (s.add f) := by
  constructor
  · rintro ⟨hn, hu⟩
    obtain ⟨hf, hg, hd⟩ := List.nodup_append.1 hn
    refine ⟨⟨hf, fun id hid => hu id (List.mem_append_left _ hid)⟩, hg, fun id hid hm => ?_⟩
    rcases List.mem_append.1 hm with hm | hm
    · exact hd id (List.mem_reverse.1 hm) id hid rfl
    · exact hu id (List.mem_append_right _ hid) hm
  · rintro ⟨⟨hf, hfu⟩, hg, hgu⟩
    refine ⟨List.nodup_append.2 ⟨hf, hg, ?_⟩, fun id hid => ?_⟩
    · rintro id hid _ hid' rfl
      exact hgu id hid' (List.mem_append_left _ (List.mem_reverse.2 hid))
    · rcases List.mem_append.1 hid with hid | hid
      · exact hfu id hid
      · exact fun hm => hgu id hid (List.mem_append_right _ hm)

/-! ## Reading steps -/

/-- What a step gives and files satisfies `Q`, and from every state in which the numbers that it
claims are fresh it gives and files the same. -/
def Reads {α : Type} (r : Reading α) (Q : α → Filing → Prop) : Prop :=
  ∀ s a s', r.run s = .ok (a, s') →
    ∃ f, Q a f ∧ f.Fresh s ∧ ∀ t, f.Fresh t → r.run t = .ok (a, t.add f)

section
variable {α β : Type} {r : Reading α} {P Q : α → Filing → Prop}

/-- From every state in which the numbers are fresh, the step runs in the same way. -/
theorem Reads.with_run (h : Reads r Q) :
    Reads r fun a f => Q a f ∧ f.ids.Nodup ∧ ∀ t, f.Fresh t → r.run t = .ok (a, t.add f) := by
  intro s a s' hr
  obtain ⟨f, hQ, hf, ht⟩ := h s a s' hr
  exact ⟨f, ⟨hQ, hf.nodup, ht⟩, hf, ht⟩

theorem reads_pure {a : α} (h : Q a {}) : Reads (pure a) Q := by
  intro s b s' hr
  cases hr
  exact ⟨{}, h, ⟨List.nodup_nil, nofun⟩, fun t _ => rfl⟩

theorem reads_throw (fault : LoadFault) : Reads (throw fault) Q := by
  intro s a s' hr
  cases hr

theorem reads_lift (x : Except LoadFault α) : Reads (liftM x) fun a f => x = .ok a ∧ f = {} := by
  intro s a s' hr
  cases x with
  | error fault => cases hr
  | ok b =>
    cases hr
    exact ⟨{}, ⟨rfl, rfl⟩, ⟨List.nodup_nil, nofun⟩, fun t _ => rfl⟩

theorem Reads.bind {g : α → Reading β} {Q : β → Filing → Prop} (h : Reads r P)
    (hg : ∀ a f, P a f → Reads (g a) fun b f' => Q b (f ++ f')) : Reads (r >>= g) Q := by
  intro s b s'' hr
  rw [StateT.run_bind] at hr
  cases hx : r.run s with
  | error fault =>
    rw [hx] at hr
    cases hr
  | ok p =>
    obtain ⟨a, s'⟩ := p
    rw [hx] at hr
    obtain ⟨f, hP, hf, hrun⟩ := h s a s' hx
    obtain rfl : s' = s.add f := by
      cases hx.symm.trans (hrun s hf)
      rfl
    -- the second step starts where the filing of the first one was added
    obtain ⟨f', hQ, hf', hrun'⟩ := hg a f hP _ b s'' hr
    refine ⟨f ++ f', hQ, Filing.fresh_append.2 ⟨hf, hf'⟩, fun t ht => ?_⟩
    obtain ⟨htf, htf'⟩ := Filing.fresh_append.1 ht
    rw [StateT.run_bind, hrun t htf, Filed.add_append]
    exact hrun' _ htf'

end

/-! ## Filing a node -/

theorem claim_run (id : Int) (s : Filed) : (claim id).run s =
    if id ∈ s.claimed then .error (.malformed (.duplicateNode id))
    else .ok ((), { s with claimed := id :: s.claimed }) := by
  have hr : (claim id).run s =
      (if s.claimed.contains id then refuse (.duplicateNode id)
        else modify fun f => { f with claimed := id :: f.claimed } : Reading Unit).run s := rfl
  rw [hr]
  by_cases h : id ∈ s.claimed
  · rw [if_pos h, if_pos (List.contains_iff_mem.2 h)]
    rfl
  · rw [if_neg h, if_neg (mt List.contains_iff_mem.1 h)]
    rfl

theorem claim_reads (id : Int) : Reads (claim id) fun _ f => f = { ids := [id] } := by
  intro s a s' hr
  rw [claim_run] at hr
  split at hr
  · cases hr
  · next hc =>
    refine ⟨_, rfl, ⟨List.pairwise_singleton _ id, ?_⟩, fun t ht => ?_⟩
    · intro id' hid
      rwa [List.mem_singleton.1 hid]
    · rw [claim_run, if_neg (ht.unclaimed id (List.mem_singleton_self id))]
      rfl

theorem fileType_reads (id : Int) (entries : List (Datum × Datum)) :
    Reads (fileType id entries) fun _ f => ∃ types, f = { types } ∧ ∀ e ∈ types, e.1 = id := by
  unfold fileType
  split
  · exact reads_pure ⟨[], rfl, nofun⟩
  · refine (reads_lift _).bind ?_
    rintro ty _ ⟨-, rfl⟩ s a s' hr
    cases hr
    exact ⟨{ types := [(id, ty)] }, ⟨[(id, ty)], rfl, by simp⟩, ⟨List.nodup_nil, nofun⟩, fun t _ => rfl⟩

theorem fileDenotation_reads (id : Int) (entries : List (Datum × Datum)) :
    Reads ( fileDenotation id entries) fun _ f => ∃ uses, f = { uses } ∧ ∀ e ∈ uses, e.1 = id := by
  unfold fileDenotation
  split
  · exact reads_pure ⟨[], rfl, nofun⟩
  · refine (reads_lift _).bind ?_
    rintro use _ ⟨-, rfl⟩ s a s' hr
    cases hr
    exact ⟨{ uses := [(id, use)] }, ⟨[(id, use)], rfl, by simp⟩, ⟨List.nodup_nil, nofun⟩, fun t _ => rfl⟩

/-! ## Trees -/

theorem sizeOf_entries_lt {d : Datum} {entries : List (Datum × Datum)} (h : d.core = .map entries) :
    sizeOf entries < sizeOf d := by
  have hd := Datum.sizeOf_core d
  rw [h, Datum.map.sizeOf_spec] at hd
  omega

mutual

theorem node_reads (file : String) (d : Datum) : Reads (node file d) fun e f => f.Owns e.ids := by
  unfold node
  split
  · next entries h =>
    have hlt := sizeOf_entries_lt h
    split
    · next rawId kind _ _ =>
      refine (reads_lift _).bind ?_
      rintro id _ ⟨-, rfl⟩
      refine (claim_reads id).bind ?_
      rintro _ _ rfl
      refine (fileType_reads id entries).bind ?_
      rintro _ _ ⟨types, rfl, htypes⟩
      refine (fileDenotation_reads id entries).bind ?_
      rintro _ _ ⟨uses, rfl, huses⟩
      refine (reads_lift _).bind ?_
      rintro place _ ⟨-, rfl⟩
      refine (calleeOf_reads file entries).bind ?_
      intro callee fc hc
      refine (listOf_reads file "args" entries).bind ?_
      intro args fa ha
      refine (listOf_reads file "children" entries).bind ?_
      intro children fs hs
      refine (reads_lift _).bind ?_
      rintro typeArgs _ ⟨-, rfl⟩
      refine reads_pure ?_
      -- the node files under its own number, and each part of it under the numbers of that part
      have opening : Filing.Owns { ids := [id], types, uses } [id] :=
        ⟨rfl, fun e he => by simp [htypes e he], fun e he => by simp [huses e he]⟩
      have own := opening.append (hc.append (ha.append hs))
      simp only [Filing.empty_append, Filing.append_empty]
      rw [Expr.ids_eq]
      simp only [Expr.parts, List.flatMap_append, List.append_assoc]
      exact own
    · exact reads_throw _
  · exact reads_throw _
termination_by sizeOf d

theorem calleeOf_reads (file : String) (entries : List (Datum × Datum)) :
    Reads (calleeOf file entries) fun callee f => f.Owns (callee.toList.flatMap Expr.ids) := by
  unfold calleeOf
  split
  · exact reads_pure Filing.owns_empty
  · next raw h =>
    have hlt := Datum.sizeOf_present? h
    rw [← bind_pure_comp]
    refine (node_reads file raw).bind fun e f he => reads_pure ?_
    rw [Filing.append_empty]
    simpa using he
termination_by sizeOf entries

theorem listOf_reads (file key : String) (entries : List (Datum × Datum)) :
    Reads (listOf file key entries) fun es f => f.Owns (es.flatMap Expr.ids) := by
  unfold listOf
  split
  · exact reads_pure Filing.owns_empty
  · next raw h =>
    have hlt := Datum.sizeOf_field? h
    exact nodesOf_reads file raw
termination_by sizeOf entries

theorem nodesOf_reads (file : String) (d : Datum) :
    Reads (nodesOf file d) fun es f => f.Owns (es.flatMap Expr.ids) := by
  unfold nodesOf
  split
  · split
    · next ds _ => exact nodes_reads file ds
    · next ds _ => exact nodes_reads file ds
    · next up c _ => exact nodesOf_reads file c
    · split
      · exact reads_throw _
      · exact reads_pure Filing.owns_empty
      · exact reads_throw _
  · exact reads_pure Filing.owns_empty
termination_by sizeOf d

theorem nodes_reads (file : String) (ds : List Datum) :
    Reads (nodes file ds) fun es f => f.Owns (es.flatMap Expr.ids) := by
  match ds with
  | [] =>
    rw [nodes]
    exact reads_pure Filing.owns_empty
  | d :: r =>
    rw [nodes]
    refine (node_reads file d).bind fun e f he => ?_
    refine (nodes_reads file r).bind fun es f' hes => reads_pure ?_
    rw [Filing.append_empty, List.flatMap_cons]
    exact he.append hes
termination_by sizeOf ds

end

/-! ## Units -/

/-- A unit that brings its name, so that none is made from its place. -/
def Named (raw : Datum) : Prop :=
  ∃ entries name, raw.core = .map entries ∧ Datum.field? "name" entries = some name ∧ name.isTruthy = true

/-- The number of a unit with a name shows in its faults only. -/
theorem codeUnit_of_named {origin : String} {raw : Datum} (h : Named raw) {n : Nat} {s : Filed}
    {r : CodeUnit × Filed} (hr : (codeUnit origin n raw).run s = .ok r) (m : Nat) :
    (codeUnit origin m raw).run s = .ok r := by
  obtain ⟨entries, name, hraw, hname, ht⟩ := h
  have hn : ∀ default, textOr entries "name" default = name.display := fun default => by
    simp only [textOr, hname, ht, if_true]
  simp only [codeUnit, hraw] at hr ⊢
  cases hb : Datum.field? "body" entries with
  | none =>
    rw [hb] at hr
    cases hr
  | some body =>
    rw [hb] at hr
    simpa only [hn] using hr

theorem codeUnit_reads (origin : String) (number : Nat) (raw : Datum) :
    Reads (codeUnit origin number raw) fun u f => f.Owns u.body.ids := by
  unfold codeUnit
  split
  · split
    · refine (node_reads _ _).bind fun body f hf => reads_pure ?_
      rwa [Filing.append_empty]
    · exact reads_throw _
  · exact reads_throw _

/-- A unit and what is filed for it, as they also come about where it is the only unit. -/
structure ReadAlone (origin : String) (raw : Datum) (p : CodeUnit × Filing) : Prop where
  run : (codeUnits origin 0 [raw]).run Filed.empty = .ok ([p.1], Filed.empty.add p.2)
  owns : p.2.Owns p.1.body.ids

/-- Units with names are read as each would be read alone. -/
theorem codeUnits_reads (origin : String) (done : Nat) (raws : List Datum) (h : ∀ raw ∈ raws, Named raw) :
    Reads (codeUnits origin done raws) fun us f => ∃ parts : List (CodeUnit × Filing),
      us = parts.map (·.1) ∧ f = .all (parts.map (·.2)) ∧ List.Forall₂ (ReadAlone origin) raws parts := by
  induction raws generalizing done with
  | nil => exact reads_pure ⟨[], rfl, rfl, .nil⟩
  | cons raw rest ih =>
    obtain ⟨hraw, hrest⟩ := List.forall_mem_cons.1 h
    refine (codeUnit_reads origin (done + 1) raw).with_run.bind ?_
    rintro u f ⟨own, hn, run⟩
    refine (ih (done + 1) hrest).bind ?_
    rintro us _ ⟨parts, rfl, rfl, alone⟩
    refine reads_pure ⟨(u, f) :: parts, rfl, ?_, .cons ⟨?_, own⟩ alone⟩
    · rw [Filing.append_empty, List.map_cons, Filing.all_cons]
    · -- alone, the unit is the first one and starts from nothing filed
      have hr := codeUnit_of_named hraw (run Filed.empty ⟨hn, nofun⟩) 1
      simp only [codeUnits, StateT.run_bind, hr]
      rfl

end Dump

end ChainLint
