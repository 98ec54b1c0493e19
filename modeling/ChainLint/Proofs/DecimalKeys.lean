import ChainLint.Analysis
import ChainLint.Dump.Crate
import ChainLint.Proofs.Mappings
import ChainLint.Proofs.Numerals
/-!
# Numbers as keys of a dump

The tables of a dump have numbers as keys. Where keys have to be texts, a number
is spelled in decimal there (`decimalDocument`). Where the numbers have few enough
digits (`ShortDocument`) the dump is read as before, whatever is wrong with it
(`decimal_keys_load`), since such a number is found again in its numeral
(`Numeral.read_toString`). A longer numeral is refused where the number is not
(`longKey_refused`). No two numbers have one numeral, so keys stay apart
(`mapOf_decimalEntries`).
-/

namespace ChainLint.Dump

/-! ## Keys as numerals -/

/-- A number as the numeral that spells it; other keys stay as they are. -/
def decimalKey : Datum → Datum
  | .int n => .text (toString n)
  | key => key

/-- An entry whose key is a numeral, where `change` is applied to the value. -/
def decimalEntry (change : Datum → Datum) (e : Datum × Datum) : Datum × Datum := (decimalKey e.1, change e.2)

/-- Changes the entries of a mapping; what is no mapping stays as it is. -/
def changeEntries (change : List (Datum × Datum) → List (Datum × Datum)) (d : Datum) : Datum :=
  match d.core with
  | .map entries => .map (change entries)
  | _ => d

/-- Changes the value under a text key. -/
def changeField (key : String) (change : Datum → Datum) : List (Datum × Datum) → List (Datum × Datum)
  | [] => []
  | (.text s, v) :: rest =>
    if s = key then (.text s, change v) :: rest else (.text s, v) :: changeField key change rest
  | e :: rest => e :: changeField key change rest

/-- A mapping with its keys as numerals. -/
def decimalKeys (change : Datum → Datum) : Datum → Datum := changeEntries (List.map (decimalEntry change))

/-- A declaration whose implementations have numerals as keys. -/
def decimalDeclaration : Datum → Datum := changeEntries (changeField "impls" (decimalKeys id))

/-- A document in which types, declarations and implementations are found under numerals, as where every key
is a text. -/
def decimalDocument : Datum → Datum :=
  changeEntries fun entries =>
    changeField "defs" (decimalKeys decimalDeclaration) (changeField "types" (decimalKeys id) entries)

/-! ## Keys of few digits -/

/-- The entries of a field that is a mapping. -/
def entriesOf : Option Datum → List (Datum × Datum)
  | some d =>
    match d.core with
    | .map entries => entries
    | _ => []
  | none => []

/-- The entries of the mapping under a key of a mapping. -/
def table (key : String) (d : Datum) : List (Datum × Datum) := entriesOf (Datum.field? key (entriesOf (some d)))

/-- The numbers among the keys are short. -/
def ShortKeys (entries : List (Datum × Datum)) : Prop := ∀ e ∈ entries, ∀ n, e.1 = .int n → Numeral.Short n

/-- A document in which types, declarations and implementations are found under short numbers, if under numbers
at all. -/
structure ShortDocument (doc : Datum) : Prop where
  types : ShortKeys (table "types" doc)
  declarations : ShortKeys (table "defs" doc)
  implementations : ∀ e ∈ table "defs" doc, ShortKeys (table "impls" e.2)

/-! ## What a reader finds -/

section
variable {key k : String} {change : Datum → Datum}

theorem field?_changeField_self (entries : List (Datum × Datum)) :
    Datum.field? key (changeField key change entries) = (Datum.field? key entries).map change := by
  fun_induction changeField key change entries with
  | case1 => rfl
  | case2 v rest =>
    rw [Datum.field?_cons_self, Datum.field?_cons_self]
    rfl
  | case3 s v rest other ih =>
    have skip : Datum.text s ≠ .text key := fun h => other (Datum.text.inj h)
    rw [Datum.field?_cons_of_ne skip, Datum.field?_cons_of_ne skip, ih]
  | case4 e rest notText ih =>
    have skip : e.1 ≠ .text key := fun h => notText key e.2 (Prod.ext h rfl)
    rw [Datum.field?_cons_of_ne skip, Datum.field?_cons_of_ne skip, ih]

theorem field?_changeField_ne (h : k ≠ key) (entries : List (Datum × Datum)) :
    Datum.field? k (changeField key change entries) = Datum.field? k entries := by
  fun_induction changeField key change entries with
  | case1 => rfl
  | case2 v rest =>
    have skip : Datum.text key ≠ .text k := fun he => h (Datum.text.inj he).symm
    rw [Datum.field?_cons_of_ne skip, Datum.field?_cons_of_ne skip]
  | case3 s v rest other ih => rw [Datum.field?, Datum.field?, ih]
  | case4 e rest notText ih =>
    have skip : e.1 ≠ .text k := fun he => notText k e.2 (Prod.ext he rfl)
    rw [Datum.field?_cons_of_ne skip, Datum.field?_cons_of_ne skip, ih]

/-- The number that a key stands for is found again in its numeral if it is short, and a key that stands for
none is refused as before. -/
theorem whole_decimalKey (what : String) {key : Datum} (short : ∀ n, key = .int n → Numeral.Short n) :
    whole what (decimalKey key) = whole what key := by
  cases key with
  | int n =>
    have value : (Datum.text (toString n)).toWhole = .ok n := by
      rw [Datum.toWhole, Datum.numeralValue, Numeral.read_toString.1 (short n rfl)]
    simp only [decimalKey, whole, value]
    rfl
  | _ => rfl

/-- The numeral of a longer number is refused. -/
theorem whole_numeral_of_long (what : String) {n : Int} (long : ¬ Numeral.Short n) :
    whole what (.text (toString n)) = .error (.malformed (.notWhole what (.text (toString n)))) := by
  have value : (Datum.text (toString n)).toWhole = .error (.tooLong (Nat.toDigits 10 n.natAbs).length) := by
    rw [Datum.toWhole, Datum.numeralValue, Numeral.read_toString.2 long]
  simp only [whole, value]

/-- Only short numbers are found again. -/
theorem whole_decimalKey_iff (what : String) {n : Int} :
    whole what (decimalKey (.int n)) = whole what (.int n) ↔ Numeral.Short n := by
  constructor
  · intro found
    by_contra long
    rw [decimalKey, whole_numeral_of_long what long] at found
    cases found
  · intro short
    refine whole_decimalKey what fun m hm => ?_
    cases hm
    exact short

/-- What is a mapping has its entries changed, and the rest is refused, or read as empty, as before. -/
theorem mapping_changeEntries {change : List (Datum × Datum) → List (Datum × Datum)} (empty : change [] = [])
    (what : String) (field : Option Datum) :
    mapping what (field.map (changeEntries change)) = change <$> mapping what field := by
  have nothing : (.ok [] : Except LoadFault (List (Datum × Datum))) = .ok (change []) := by rw [empty]
  cases field with
  | none => exact nothing
  | some d =>
    cases d with
    | null => exact nothing
    | again up container => cases container <;> rfl
    | _ => rfl

end

theorem entries_of_mapping {what : String} {field : Option Datum} {entries : List (Datum × Datum)}
    (h : mapping what field = .ok entries) : entriesOf field = entries := by
  cases field with
  | none => exact Except.ok.inj h
  | some d =>
    cases d with
    | map own => exact Except.ok.inj h
    | null => exact Except.ok.inj h
    | again up container =>
      cases container with
      | map own => exact Except.ok.inj h
      | _ => cases h
    | _ => cases h

/-- A mapping with changed entries is read as before if its entries are read alike, or refused as before. -/
theorem mapping_bind_congr {α : Type} {change : List (Datum × Datum) → List (Datum × Datum)}
    {next next' : List (Datum × Datum) → Except LoadFault α} (empty : change [] = []) (what : String)
    (field : Option Datum) (same : next (change (entriesOf field)) = next' (entriesOf field)) :
    (mapping what (field.map (changeEntries change)) >>= next) = mapping what field >>= next' := by
  rw [mapping_changeEntries empty, bind_map_left]
  cases h : mapping what field with
  | error fault => rfl
  | ok entries =>
    rw [entries_of_mapping h] at same
    exact same

theorem mapM_congr {α β : Type} {read read' : α → Except LoadFault β} {l : List α} (h : ∀ a ∈ l, read a = read' a) :
    l.mapM read = l.mapM read' := by
  induction l with
  | nil => rfl
  | cons a rest ih =>
    obtain ⟨first, later⟩ := List.forall_mem_cons.1 h
    rw [List.mapM_cons, List.mapM_cons, first, ih later]

/-- A table is read by the numbers that its keys stand for, however they are spelled. -/
theorem numbered_decimalKeys {α : Type} {change : Datum → Datum} {read : Int → Datum → Except LoadFault α}
    {field : Option Datum} (short : ShortKeys (entriesOf field))
    (same : ∀ e ∈ entriesOf field, ∀ n, read n (change e.2) = read n e.2) (what what' : String) :
    (mapping what (field.map (decimalKeys change)) >>= numbered what' read) =
      mapping what field >>= numbered what' read := by
  refine mapping_bind_congr rfl what field ?_
  rw [numbered, numbered, List.mapM_map]
  refine congrArg (· >>= _) (mapM_congr fun e he => ?_)
  simp only [Function.comp_def, decimalEntry, whole_decimalKey what' (short e he), same e he]

/-- The implementations of a declaration are read by the numbers that their keys stand for. -/
theorem implEntries_decimalKeys {field : Option Datum} (short : ShortKeys (entriesOf field)) (what : String) :
    (mapping what (field.map (decimalKeys id)) >>= List.mapM implEntry) =
      mapping what field >>= List.mapM implEntry := by
  refine mapping_bind_congr rfl what field ?_
  rw [List.mapM_map]
  refine mapM_congr fun e he => ?_
  rw [Function.comp_apply, implEntry, implEntry, decimalEntry, whole_decimalKey _ (short e he)]
  rfl

/-- A declaration is read as before. -/
theorem declEntry_decimalDeclaration (origin : String) (n : Int) {d : Datum} (short : ShortKeys (table "impls" d)) :
    declEntry origin n (decimalDeclaration d) = declEntry origin n d := by
  rw [declEntry, declEntry]
  refine mapping_bind_congr rfl _ (some d) ?_
  have kept : ∀ k, k ≠ "impls" → Datum.field? k (changeField "impls" (decimalKeys id) (entriesOf (some d))) =
      Datum.field? k (entriesOf (some d)) :=
    fun k hk => field?_changeField_ne hk _
  rw [kept "path" (by decide)]
  cases Datum.field? "path" (entriesOf (some d)) with
  | none => rfl
  | some rawPath =>
    simp only [wholeField?, Datum.present?, flag, kept "target" (by decide), kept "kind" (by decide),
      kept "has_default" (by decide), field?_changeField_self, ← bind_assoc, implEntries_decimalKeys short]

/-- The crate is read as before, or refused for the same reason. -/
theorem crate_decimalDocument (origin : String) {doc : Datum} (short : ShortDocument doc) :
    crate origin (decimalDocument doc) = crate origin doc := by
  cases h : doc.core with
  | map entries =>
    have own : entriesOf (some doc) = entries := by
      rw [entriesOf, h]
    have changed : (decimalDocument doc).core = .map
        (changeField "defs" (decimalKeys decimalDeclaration) (changeField "types" (decimalKeys id) entries)) := by
      rw [decimalDocument, changeEntries, h]
      rfl
    have kept : ∀ k, k ≠ "defs" → k ≠ "types" → Datum.field? k
        (changeField "defs" (decimalKeys decimalDeclaration) (changeField "types" (decimalKeys id) entries)) =
          Datum.field? k entries := fun k hd ht => by
      rw [field?_changeField_ne hd, field?_changeField_ne ht]
    obtain ⟨shortTypes, shortDeclarations, shortImplementations⟩ := short
    rw [table, own] at shortTypes shortDeclarations shortImplementations
    -- the two tables are the only fields that changed, and each is read by the numbers of its keys
    have types : (mapping "types" ((Datum.field? "types" entries).map (decimalKeys id)) >>=
        numbered "type id" (typeEntry origin)) =
          mapping "types" (Datum.field? "types" entries) >>= numbered "type id" (typeEntry origin) :=
      numbered_decimalKeys shortTypes (fun _ _ _ => rfl) _ _
    have declarations : (mapping "defs" ((Datum.field? "defs" entries).map (decimalKeys decimalDeclaration)) >>=
        numbered "def id" (declEntry origin)) =
          mapping "defs" (Datum.field? "defs" entries) >>= numbered "def id" (declEntry origin) :=
      numbered_decimalKeys shortDeclarations
        (fun e he n => declEntry_decimalDeclaration origin n (shortImplementations e he)) _ _
    simp only [crate, changed, h, textOr, kept "crate" (by decide) (by decide), kept "units" (by decide) (by decide),
      field?_changeField_self, field?_changeField_ne (by decide : "types" ≠ "defs"),
      field?_changeField_ne (by decide : "defs" ≠ "types"), ← bind_assoc, types, declarations]
  | _ =>
    have same : decimalDocument doc = doc := by rw [decimalDocument, changeEntries, h]
    rw [same]

/-- Entries under distinct numbers are distinct entries under the numerals too. -/
theorem mapOf_decimalEntries (change : Datum → Datum) {entries : List (Datum × Datum)} {ns : List Int}
    (keys : entries.map (·.1) = ns.map .int) (distinct : ns.Nodup) :
    Datum.mapOf (entries.map (decimalEntry change)) = .map (entries.map (decimalEntry change)) := by
  have spelled : (entries.map (decimalEntry change)).map (·.1) = ns.map fun n => .text (toString n) := by
    have every := congrArg (List.map decimalKey) keys
    rw [List.map_map, List.map_map] at every
    rw [List.map_map]
    exact every
  have apart : (ns.map fun n => Datum.text (toString n)).Pairwise fun k k' => Datum.sameKey k k' = false := by
    refine List.pairwise_map.2 (distinct.imp fun {m n} unlike => ?_)
    exact decide_eq_false fun h => unlike (Numeral.toString_injective h)
  rw [← spelled] at apart
  exact Datum.mapOf_of_apart (List.pairwise_map.1 apart)

/-- A dump whose types, declarations and implementations have numerals of short numbers as keys gives the crate
that it gives with the numbers, or is refused for the same reason, and the analysis finds the same in it. Where
the keys of a table are distinct numbers, their numerals are distinct keys, so none of its entries is lost. As a
key the numeral of a number stands for it only if the number is short. -/
theorem decimal_keys_load (origin : String) {doc : Datum} (short : ShortDocument doc) :
    crate origin (decimalDocument doc) = crate origin doc ∧
    (∀ registry paths memory, analyzeCrate registry paths memory <$> crate origin (decimalDocument doc) =
      analyzeCrate registry paths memory <$> crate origin doc) ∧
    (∀ (change : Datum → Datum) (entries : List (Datum × Datum)) (ns : List Int),
      entries.map (·.1) = ns.map .int → ns.Nodup →
        Datum.mapOf (entries.map (decimalEntry change)) = .map (entries.map (decimalEntry change))) ∧
    ∀ (what : String) (n : Int), whole what (decimalKey (.int n)) = whole what (.int n) ↔ Numeral.Short n := by
  have same := crate_decimalDocument origin short
  refine ⟨same, fun registry paths memory => ?_, fun change entries ns keys distinct => ?_, fun what n => ?_⟩
  · rw [same]
  · exact mapOf_decimalEntries change keys distinct
  · exact whole_decimalKey_iff what

/-! ## Dumps in both spellings -/

/-- A type of a kind. -/
def kinded (kind : String) : Datum := .map [(.text "kind", .text kind)]

/-- A declaration that a type implements. -/
def implemented (implementer : Datum) : Datum :=
  .map [(.text "path", .text "m::f"), (.text "impls", .map [(implementer, .int 8)])]

/-- A dump of some types and a declaration that a type implements. -/
def spelledDump (types : List (Datum × Datum)) (declaration implementer : Datum) : Datum :=
  .map [(.text "types", .map types), (.text "defs", .map [(declaration, implemented implementer)])]

/-- The types under their numbers, one of which is negative. -/
def numberedTypes : List (Datum × Datum) := [(.int 1, kinded "int"), (.int (-2), kinded "bool")]

/-- The types under their numerals. -/
def spelledTypes : List (Datum × Datum) := [(.text "1", kinded "int"), (.text "-2", kinded "bool")]

/-- The crate that the dump gives in both spellings, for the number of the implementing type. -/
def spelledCrate (implementer : Int) : Crate where
  name := "m"
  units := []
  types := ⟨⟨[(1, ⟨1, "int", none, none, false⟩), (-2, ⟨-2, "bool", none, none, false⟩)]⟩, Table.empty⟩
  declarations := ⟨[(7, ⟨7, ["m", "f"], "fn", none, false, ⟨[(implementer, 8)]⟩⟩)]⟩
  denotations := Table.empty

/-- Keys of one digit are short. -/
theorem shortKeys_of_small {entries : List (Datum × Datum)} (ns : List Int) (keys : entries.map (·.1) = ns.map .int)
    (small : ∀ n ∈ ns, n.natAbs < 10) : ShortKeys entries := by
  intro e he n hn
  have listed : Datum.int n ∈ ns.map .int := by
    rw [← keys, ← hn]
    exact List.mem_map_of_mem he
  obtain ⟨m, hm, same⟩ := List.mem_map.1 listed
  cases same
  exact Nat.lt_of_lt_of_le (small n hm) (Nat.le_self_pow (by decide) 10)

/-- Both types are kept under their numerals, and the dump gives the crate that it gives with the numbers. -/
theorem signed_keys_load :
    ShortDocument (spelledDump numberedTypes (.int 7) (.int (-2))) ∧
    decimalDocument (spelledDump numberedTypes (.int 7) (.int (-2))) =
      spelledDump spelledTypes (.text "7") (.text "-2") ∧
    Datum.mapOf spelledTypes = .map spelledTypes ∧
    crate "m" (spelledDump numberedTypes (.int 7) (.int (-2))) = .ok (spelledCrate (-2)) ∧
    crate "m" (spelledDump spelledTypes (.text "7") (.text "-2")) = .ok (spelledCrate (-2)) := by
  have short : ShortDocument (spelledDump numberedTypes (.int 7) (.int (-2))) := by
    refine ⟨shortKeys_of_small [1, -2] rfl (by decide), shortKeys_of_small [7] rfl (by decide), fun e he => ?_⟩
    cases List.mem_singleton.1 he
    exact shortKeys_of_small [-2] rfl (by decide)
  obtain ⟨same, -, apart, -⟩ := decimal_keys_load "m" short
  have spelled : decimalDocument (spelledDump numberedTypes (.int 7) (.int (-2))) =
      spelledDump spelledTypes (.text "7") (.text "-2") := rfl
  have loaded : crate "m" (spelledDump numberedTypes (.int 7) (.int (-2))) = .ok (spelledCrate (-2)) := rfl
  rw [spelled, loaded] at same
  exact ⟨short, spelled, apart id numberedTypes [1, -2] rfl (by decide), loaded, same⟩

/-- A key that is no implementing type is refused. -/
theorem crate_refusedKey {key : Datum} {fault : LoadFault} (refused : whole "impl self type" key = .error fault) :
    crate "m" (spelledDump spelledTypes (.text "7") key) = .error fault := by
  have impls : List.mapM implEntry [(key, .int 8)] = .error fault := by
    rw [List.mapM_cons, implEntry, refused]
    rfl
  have declaration : declEntry "m" 7 (implemented key) = .error fault := by
    simp [declEntry, implemented, mapping, Datum.core, Datum.field?, bind, Except.bind, impls]
  have number : whole "def id" (.text "7") = .ok 7 := rfl
  have declarations : numbered "def id" (declEntry "m") [(.text "7", implemented key)] = .error fault := by
    simp only [numbered, List.mapM_cons, number, declaration, bind, Except.bind]
  have types : numbered "type id" (typeEntry "m") spelledTypes = .ok (spelledCrate 0).types.types := rfl
  simp [crate, spelledDump, mapping, Datum.core, Datum.field?, bind, Except.bind, types, declarations]

/-- The first number that is too long is read as a key, but its numeral is not. -/
theorem longKey_refused :
    crate "m" (spelledDump numberedTypes (.int 7) (.int (10 ^ 4300))) = .ok (spelledCrate (10 ^ 4300)) ∧
    crate "m" (decimalDocument (spelledDump numberedTypes (.int 7) (.int (10 ^ 4300)))) =
      .error (.malformed (.notWhole "impl self type" (.text (toString (10 ^ 4300 : Int))))) := by
  have loaded : ∀ n, crate "m" (spelledDump numberedTypes (.int 7) (.int n)) = .ok (spelledCrate n) := fun _ => rfl
  have spelled : ∀ n, decimalDocument (spelledDump numberedTypes (.int 7) (.int n)) =
      spelledDump spelledTypes (.text "7") (.text (toString n)) := fun _ => rfl
  refine ⟨loaded _, ?_⟩
  rw [spelled]
  exact crate_refusedKey (whole_numeral_of_long _ (Numeral.not_short_ten_pow (Nat.le_refl _)))

end ChainLint.Dump
