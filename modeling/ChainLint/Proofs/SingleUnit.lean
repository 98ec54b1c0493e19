import ChainLint.Proofs.Loading
import ChainLint.Proofs.Locality
import ChainLint.Proofs.Pool
/-!
# Units do not disturb each other

`analysis_unit_by_unit`: a document whose units have names gives the diagnoses
of the documents that keep one of its units each. Every unit is read as it
would be read alone, and what the others file stands under other numbers than
those of its nodes, so its rules never look it up.
-/

namespace ChainLint

/-! ## Tables put together from parts -/

/-- Under a key of one part, a table holds what this part puts there. -/
theorem Table.get?_insertAll_flatMap {κ α γ : Type} [DecidableEq κ] {keys : γ → List κ}
    {pairs : γ → List (κ × α)} {parts : List γ} (hk : ∀ p ∈ parts, ∀ e ∈ pairs p, e.1 ∈ keys p)
    (hn : (parts.flatMap keys).Nodup) {p : γ} (hp : p ∈ parts) {k : κ} (hkey : k ∈ keys p)
    {t t' : Table κ α} (h : t.get? k = t'.get? k) :
    (t.insertAll (parts.flatMap pairs)).get? k = (t'.insertAll (pairs p)).get? k := by
  induction parts generalizing t with
  | nil => cases hp
  | cons q rest ih =>
    obtain ⟨hq, hrest⟩ := List.forall_mem_cons.1 hk
    obtain ⟨-, hnr, hd⟩ := List.nodup_append.1 (List.flatMap_cons ▸ hn)
    rw [List.flatMap_cons, insertAll_append]
    rcases List.mem_cons.1 hp with rfl | hp
    · -- the later parts put nothing under the key
      rw [get?_insertAll_of_ne, get?_insertAll_congr h]
      intro e he heq
      obtain ⟨r, hr, he⟩ := List.mem_flatMap.1 he
      exact hd k hkey e.1 (List.mem_flatMap.2 ⟨r, hr, hrest r hr e he⟩) heq.symm
    · -- and so do the earlier ones
      refine ih hrest hnr hp (Eq.trans ?_ h)
      refine get?_insertAll_of_ne fun e he heq => ?_
      exact hd e.1 (hq e he) k (List.mem_flatMap.2 ⟨p, hp, hkey⟩) heq

namespace Dump

/-! ## Documents -/

/-- The name and the tables of a crate that its document gives apart from the units. -/
structure HeadOf (origin : String) (entries : List (Datum × Datum)) (c : Crate) : Prop where
  name : c.name = textOr entries "crate" (stem (baseName origin))
  types : (mapping "types" (Datum.field? "types" entries) >>= numbered "type id" (typeEntry origin)) =
    .ok c.types.types
  declarations : (mapping "defs" (Datum.field? "defs" entries) >>= numbered "def id" (declEntry origin)) =
    .ok c.declarations

/-- What it takes for a document to give a crate. -/
theorem crate_eq_ok_iff {origin : String} {doc : Datum} {entries : List (Datum × Datum)}
    (hd : doc.core = .map entries) {c : Crate} :
    crate origin doc = .ok c ↔ HeadOf origin entries c ∧
      ∃ raws filed, rawUnits origin (Datum.field? "units" entries) = .ok raws ∧
        (codeUnits origin 0 raws).run Filed.empty = .ok (c.units, filed) ∧
        c.types.nodeTypes = filed.nodeTypes ∧ c.denotations = filed.denotations := by
  constructor
  · intro h
    simp only [crate, hd] at h
    obtain ⟨rawTypes, hrt, h⟩ := exists_of_bind_eq_ok h
    obtain ⟨types, ht, h⟩ := exists_of_bind_eq_ok h
    obtain ⟨rawDecls, hrd, h⟩ := exists_of_bind_eq_ok h
    obtain ⟨declarations, hdecl, h⟩ := exists_of_bind_eq_ok h
    obtain ⟨raws, hraws, h⟩ := exists_of_bind_eq_ok h
    obtain ⟨⟨units, filed⟩, hu, h⟩ := exists_of_bind_eq_ok h
    cases h
    exact ⟨⟨rfl, by rw [hrt]; exact ht, by rw [hrd]; exact hdecl⟩, raws, filed, hraws, hu, rfl, rfl⟩
  · rintro ⟨⟨hname, ht, hdecl⟩, raws, filed, hraws, hu, hn, hden⟩
    obtain ⟨name, units, ⟨types, nodeTypes⟩, declarations, denotations⟩ := c
    subst hname hn hden
    obtain ⟨rawTypes, hrt, ht⟩ := exists_of_bind_eq_ok ht
    obtain ⟨rawDecls, hrd, hdecl⟩ := exists_of_bind_eq_ok hdecl
    simp only [crate, hd, hrt, ht, hrd, hdecl, hraws, hu, bind, Except.bind]
    rfl

/-- A document with the name, the types and the declarations of another one, and only this unit. -/
def OnlyUnit (doc raw single : Datum) : Prop :=
  ∃ entries entries', doc.core = .map entries ∧ single.core = .map entries' ∧
    (∀ key ∈ ["crate", "types", "defs"], Datum.field? key entries' = Datum.field? key entries) ∧
    Datum.field? "units" entries' = some (.list [raw])

/-- The units that a document lists. -/
def Lists (origin : String) (doc : Datum) (raws : List Datum) : Prop :=
  ∃ entries, doc.core = .map entries ∧ rawUnits origin (Datum.field? "units" entries) = .ok raws

theorem HeadOf.congr {origin : String} {entries entries' : List (Datum × Datum)} {c : Crate}
    (same : ∀ key ∈ ["crate", "types", "defs"], Datum.field? key entries' = Datum.field? key entries)
    (h : HeadOf origin entries c) : HeadOf origin entries' c := by
  have hn : textOr entries' "crate" = textOr entries "crate" := by
    funext default
    rw [textOr, textOr, same "crate" (by decide)]
  refine ⟨by rw [hn, h.name], ?_, ?_⟩
  · rw [same "types" (by decide), h.types]
  · rw [same "defs" (by decide), h.declarations]

/-! ## A crate and the crates of its units -/

/-- The crate of one unit, with the types and declarations of another crate. -/
def partCrate (c : Crate) (p : CodeUnit × Filing) : Crate :=
  let filed := Filed.empty.add p.2
  ⟨c.name, [p.1], ⟨c.types.types, filed.nodeTypes⟩, c.declarations, filed.denotations⟩

theorem crate_partCrate {origin : String} {doc raw single : Datum} {c : Crate} {p : CodeUnit × Filing}
    {entries : List (Datum × Datum)} (hd : doc.core = .map entries) (head : HeadOf origin entries c)
    (only : OnlyUnit doc raw single) (alone : ReadAlone origin raw p) :
    crate origin single = .ok (partCrate c p) := by
  obtain ⟨_, entries', hd', hs, same, units⟩ := only
  cases hd.symm.trans hd'
  obtain ⟨name, types, declarations⟩ := head.congr same
  refine (crate_eq_ok_iff hs).2 ⟨⟨name, types, declarations⟩, [raw], _, ?_, alone.run, rfl, rfl⟩
  rw [units]
  rfl

theorem crates_of_alone {origin : String} {doc : Datum} {c : Crate} {entries : List (Datum × Datum)}
    (hd : doc.core = .map entries) (head : HeadOf origin entries c) {raws docs : List Datum}
    {parts : List (CodeUnit × Filing)} (singles : List.Forall₂ (OnlyUnit doc) raws docs)
    (alone : List.Forall₂ (ReadAlone origin) raws parts) :
    List.Forall₂ (fun single part => crate origin single = .ok part) docs (parts.map (partCrate c)) := by
  induction singles generalizing parts with
  | nil =>
    cases alone
    exact .nil
  | cons only _ ih =>
    obtain _ | ⟨first, later⟩ := alone
    exact .cons (crate_partCrate hd head only first) (ih later)

theorem owns_of_alone {origin : String} {raws : List Datum} {parts : List (CodeUnit × Filing)}
    (alone : List.Forall₂ (ReadAlone origin) raws parts) : ∀ p ∈ parts, p.2.Owns p.1.body.ids := by
  induction alone with
  | nil => nofun
  | cons first _ ih => exact List.forall_mem_cons.2 ⟨first.owns, ih⟩

/-- The crate files for the nodes of a unit what the crate of this unit files. -/
theorem agreeOn_partCrate {c : Crate} {parts : List (CodeUnit × Filing)} {filed : Filed}
    (own : ∀ p ∈ parts, p.2.Owns p.1.body.ids) (hf : filed = Filed.empty.add (.all (parts.map (·.2))))
    (fresh : (Filing.all (parts.map (·.2))).ids.Nodup) (hn : c.types.nodeTypes = filed.nodeTypes)
    (hden : c.denotations = filed.denotations) {p : CodeUnit × Filing} (hp : p ∈ parts) :
    c.AgreeOn (partCrate c p) p.1.body.ids := by
  -- no number is claimed twice, so no two units have a number in common
  have hids : (parts.flatMap fun p => p.1.body.ids).Nodup := by
    rw [← List.flatMap_congr fun p hp => (own p hp).ids_eq, ← List.flatMap_map]
    exact fresh
  refine ⟨rfl, rfl, fun id hid => ?_, fun id hid => ?_⟩
  · rw [hn, hf]
    simp only [Filed.add, Filing.all, List.flatMap_map, partCrate]
    exact Table.get?_insertAll_flatMap (fun p hp => (own p hp).types) hids hp hid rfl
  · rw [hden, hf]
    simp only [Filed.add, Filing.all, List.flatMap_map, partCrate]
    exact Table.get?_insertAll_flatMap (fun p hp => (own p hp).uses) hids hp hid rfl

/-! ## Unit by unit -/

/-- Units with names may be loaded and analysed each in a document of its own. Such a document loads,
and the diagnoses of the whole are those of the parts one after the other, with any rules that are
always there or described by documents, and any numbers of workers. The analysis of the whole gives
diagnoses if and only if that of each part does. -/
theorem analysis_unit_by_unit {origin : String} {doc : Datum} {c : Crate}
    (load : crate origin doc = .ok c) {raws : List Datum} (lists : Lists origin doc raws)
    (named : ∀ raw ∈ raws, Named raw) {docs : List Datum}
    (singles : List.Forall₂ (OnlyUnit doc) raws docs) :
    ∃ crates, List.Forall₂ (fun single part => crate origin single = .ok part) docs crates ∧
      ∀ (registry : Registry) (paths : PathTable), registry.Reachable →
        (∀ rule ∈ registry.rules, rule.Declared) → ∀ (memory memory' : Memory) (jobs jobs' : Int) ds,
          CrateAnalysis registry paths c memory jobs (.ok ds) ↔
            ∃ dss, List.Forall₂ (fun part ds =>
                CrateAnalysis registry paths part memory' jobs' (.ok ds)) crates dss ∧
              ds = dss.flatten := by
  obtain ⟨entries, hd, hraws⟩ := lists
  obtain ⟨head, raws', filed, hraws', hu, hn, hden⟩ := (crate_eq_ok_iff hd).1 load
  cases hraws.symm.trans hraws'
  obtain ⟨_, ⟨parts, hunits, rfl, alone⟩, fresh, run⟩ := codeUnits_reads origin 0 raws named _ _ _ hu
  have hf : filed = Filed.empty.add (.all (parts.map (·.2))) := by
    cases hu.symm.trans (run _ fresh)
    rfl
  have own := owns_of_alone alone
  refine ⟨parts.map (partCrate c), crates_of_alone hd head singles alone,
    fun registry paths hr declared memory memory' jobs jobs' ds => ?_⟩
  -- each unit gives the same in the crate of all and in its own
  have hparts : parts.map (fun p => unitResult registry paths c p.1) =
      parts.map (fun p => unitResult registry paths (partCrate c p) p.1) :=
    List.map_congr_left fun p hp => unitResult_congr hr (fun rule hm => (declared rule hm).plain)
      (agreeOn_partCrate own hf fresh.nodup hn hden hp)
  have hpart : ∀ p ds, CrateAnalysis registry paths (partCrate c p) memory' jobs' (.ok ds) ↔
      unitResult registry paths (partCrate c p) p.1 = .ok ds := fun p ds => by
    rw [crateAnalysis_iff, partCrate, List.map_singleton, gather_singleton, eq_comm]
  rw [crateAnalysis_iff, hunits, List.map_map, eq_comm]
  refine Iff.trans (Eq.to_iff (congrArg (gather · = .ok ds) hparts)) ?_
  simp only [gather_eq_ok_iff, List.forall₂_map_left_iff, hpart]

/-! ## A document with a broken unit and a sound one -/

/-- A call and the type that inference recorded for it. Its callee denotes the declaration 7. -/
def rawCall (id ty : Int) : Datum :=
  .map [(.text "id", .int id), (.text "kind", .text "Call"), (.text "ty", .int ty),
    (.text "callee", .map [(.text "id", .int (id + 1)), (.text "kind", .text "Path"), (.text "res", .int 7)])]

/-- A unit of one call. -/
def rawUnit (name : String) (id ty : Int) : Datum :=
  .map [(.text "name", .text name), (.text "body", rawCall id ty)]

/-- A unit with a type that is nowhere, and one with a reference. -/
def duoUnits : List Datum := [rawUnit "broken" 1 2, rawUnit "sound" 3 1]

/-- A document of units. -/
def docOf (units : List Datum) : Datum :=
  .map [(.text "crate", .text "duo"), (.text "types", .map [(.int 1, .map [(.text "kind", .text "ref")])]),
    (.text "defs", .map [(.int 7, .map [(.text "path", .list [.text "core", .text "mem", .text "zeroed"])])]),
    (.text "units", .list units)]

/-- The crate of both units. -/
def duoCrate : Crate where
  name := "duo"
  units :=
    [⟨"broken", "m", { id := 1, kind := "Call", callee := some { id := 2, kind := "Path" } }⟩,
     ⟨"sound", "m", { id := 3, kind := "Call", callee := some { id := 4, kind := "Path" } }⟩]
  types := ⟨⟨[(1, ⟨1, "ref", none, none, false⟩)]⟩, ⟨[(1, 2), (3, 1)]⟩⟩
  declarations := ⟨[(7, { id := 7, path := ["core", "mem", "zeroed"] })]⟩
  denotations := ⟨[(2, { decl := some 7 }), (4, { decl := some 7 })]⟩

theorem duo_units : (codeUnits "m" 0 duoUnits).run Filed.empty =
    .ok (duoCrate.units, ⟨[4, 3, 2, 1], duoCrate.types.nodeTypes, duoCrate.denotations⟩) := by
  simp [duoUnits, codeUnits, codeUnit, rawUnit, rawCall, node, calleeOf, listOf, Datum.core, Datum.field?,
    Datum.present?, whole, Datum.toWhole, fileType, fileDenotation, spanOf, items, Datum.fieldItems, claim_run,
    StateT.run_bind, denotation, textOr, textField?, Except.mapError]
  rfl

theorem duo_load : crate "m" (docOf duoUnits) = .ok duoCrate := by
  refine (crate_eq_ok_iff rfl).2 ⟨⟨rfl, rfl, ?_⟩, _, _, rfl, duo_units, rfl, rfl⟩
  rfl

theorem onlyUnit_docOf (units : List Datum) (raw : Datum) : OnlyUnit (docOf units) raw (docOf [raw]) := by
  refine ⟨_, _, rfl, rfl, fun key hk => ?_, rfl⟩
  rcases List.mem_cons.1 hk with rfl | hk
  · rfl
  · rcases List.mem_cons.1 hk with rfl | hk
    · rfl
    · cases List.mem_singleton.1 hk
      rfl

theorem duo_unit_by_unit :
    crate "m" (docOf duoUnits) = .ok duoCrate ∧ Lists "m" (docOf duoUnits) duoUnits ∧
    (∀ raw ∈ duoUnits, Named raw) ∧
    List.Forall₂ (OnlyUnit (docOf duoUnits)) duoUnits (duoUnits.map fun raw => docOf [raw]) ∧
    ∃ crates, List.Forall₂ (fun single part => crate "m" single = .ok part)
        (duoUnits.map fun raw => docOf [raw]) crates ∧
      ∀ ds, CrateAnalysis Registry.standard .standard duoCrate .empty 4 (.ok ds) ↔
        ∃ dss, List.Forall₂ (fun part ds =>
            CrateAnalysis Registry.standard .standard part .empty 1 (.ok ds)) crates dss ∧
          ds = dss.flatten := by
  have lists : Lists "m" (docOf duoUnits) duoUnits := ⟨_, rfl, rfl⟩
  have named : ∀ raw ∈ duoUnits, Named raw :=
    List.forall_mem_cons.2 ⟨⟨_, _, rfl, rfl, rfl⟩, List.forall_mem_singleton.2 ⟨_, _, rfl, rfl, rfl⟩⟩
  have singles : List.Forall₂ (OnlyUnit (docOf duoUnits)) duoUnits (duoUnits.map fun raw => docOf [raw]) := by
    rw [List.forall₂_map_right_iff, List.forall₂_same]
    exact fun raw _ => onlyUnit_docOf duoUnits raw
  obtain ⟨crates, loads, analysis⟩ := analysis_unit_by_unit duo_load lists named singles
  exact ⟨duo_load, lists, named, singles, crates, loads, fun ds =>
    analysis _ _ Registry.reachable_standard (fun rule hm => .inl (List.mem_singleton.1 hm)) _ _ _ _ ds⟩

end Dump

end ChainLint
