import ChainLint.Proofs.DumpByDump
import ChainLint.Proofs.Invitations
import ChainLint.Proofs.SingleUnit
import ChainLint.Session
import Mathlib
/-!
# Which documents a loader misuses

Loading answers with a crate or says what is wrong with the format, unless the
document has a whole number that is infinite, or something without items where
items belong. `crate_misused`: a misuse comes from some value inside the
document that invites it. A document without such values costs a session no
more than a warning (`loading_answers`).
-/

namespace ChainLint

namespace Dump

/-! ## Steps that end without a misuse -/

/-- Something ends well or with a statement about the format, or with the other misuse. -/
def Avoids {α : Type} (m : Datum.Misuse) (x : Except LoadFault α) : Prop := x ≠ .error (.misused m)

/-- A reading step does so from every state. -/
def Reading.Avoids {α : Type} (m : Datum.Misuse) (r : Reading α) : Prop := ∀ s, Dump.Avoids m (r.run s)

section
variable {α β : Type} {m : Datum.Misuse}

theorem Avoids.bind {x : Except LoadFault α} {g : α → Except LoadFault β} (hx : Avoids m x)
    (hg : ∀ a, x = .ok a → Avoids m (g a)) : Avoids m (x >>= g) := by
  cases x with
  | ok a => exact hg a rfl
  | error fault =>
    intro h
    cases h
    exact hx rfl

theorem Avoids.mapM {f : α → Except LoadFault β} {l : List α} (h : ∀ a ∈ l, Avoids m (f a)) :
    Avoids m (l.mapM f) := by
  induction l with
  | nil => nofun
  | cons a rest ih =>
    obtain ⟨ha, hrest⟩ := List.forall_mem_cons.1 h
    rw [List.mapM_cons]
    exact ha.bind fun b _ => (ih hrest).bind fun bs _ => nofun

theorem avoids_pure (a : α) : Reading.Avoids m (pure a) := fun _ => nofun

theorem avoids_refuse (fault : DumpFault) : Reading.Avoids m (refuse fault : Reading α) := fun _ => nofun

theorem avoids_lift {x : Except LoadFault α} (h : Avoids m x) : Reading.Avoids m (liftM x) := by
  intro s
  cases x with
  | ok a => nofun
  | error fault =>
    intro he
    cases he
    exact h rfl

theorem Reading.Avoids.bind {r : Reading α} {g : α → Reading β} (hr : r.Avoids m)
    (hg : ∀ a, (g a).Avoids m) : Reading.Avoids m (r >>= g) := by
  intro s
  rw [StateT.run_bind]
  exact (hr s).bind fun p _ => hg p.1 p.2

end

/-! ## Fields -/

theorem numeralValue_ne_infinite (s literal : String) : Datum.numeralValue s literal ≠ .error .infinite := by
  unfold Datum.numeralValue
  split <;> nofun

theorem toWhole_infinite_iff {d : Datum} :
    d.toWhole = .error .infinite ↔ ∃ negative, d = .float (.infinity negative) := by
  cases d with
  | float x => cases x <;> simp [Datum.toWhole]
  | text s => simp [Datum.toWhole, numeralValue_ne_infinite]
  | bytes b => simp [Datum.toWhole, numeralValue_ne_infinite]
  | _ => simp [Datum.toWhole]

/-- Of all values only infinity is misused as a whole number. -/
theorem whole_misused_iff {what : String} {d : Datum} {m : Datum.Misuse} :
    whole what d = .error (.misused m) ↔ m = .infinite ∧ ∃ negative, d = .float (.infinity negative) := by
  rw [← toWhole_infinite_iff]
  unfold whole
  split
  · simp [Datum.toWhole]
  · cases h : d.toWhole with
    | ok n => simp
    | error fault => cases fault <;> simp [eq_comm]

/-- Items are misused where something counts as true and has none. -/
theorem items_misused_iff {d : Datum} {m : Datum.Misuse} :
    items (some d) = .error (.misused m) ↔ m = .noItems ∧ d.isItemless = true := by
  cases ht : d.isTruthy <;> cases hi : d.items? <;>
    simp [items, Datum.fieldItems, Except.mapError, Datum.isItemless, ht, hi, @eq_comm _ m]

section
variable {m : Datum.Misuse} {d : Datum} {entries : List (Datum × Datum)}

theorem whole_avoids (what : String) (h : d.Finite m) : Avoids m (whole what d) := by
  intro hw
  obtain ⟨rfl, negative, rfl⟩ := whole_misused_iff.1 hw
  cases h rfl

theorem items_avoids (h : (Datum.map entries).Spares m) {k : String} (hk : k ∈ Datum.listFields) :
    Avoids m (items (Datum.field? k entries)) := by
  intro hi
  cases hf : Datum.field? k entries with
  | none =>
    rw [hf] at hi
    cases hi
  | some v =>
    rw [hf] at hi
    obtain ⟨rfl, hv⟩ := items_misused_iff.1 hi
    cases hv.symm.trans (h.has_items hk hf)

theorem items_finite (h : (Datum.map entries).Spares m) {k : String} {ds : List Datum}
    (hi : items (Datum.field? k entries) = .ok ds) : ∀ v ∈ ds, v.Finite m := by
  cases hf : Datum.field? k entries with
  | none =>
    rw [hf] at hi
    cases hi
    nofun
  | some d =>
    simp only [items, Datum.fieldItems, hf] at hi
    split at hi
    · split at hi
      · next is his =>
        cases hi
        exact (h.field hf).finite_item his
      · cases hi
    · cases hi
      nofun

theorem wholeField_avoids (h : (Datum.map entries).Spares m) (what : String) {k : String}
    (hk : k ∈ Datum.wholeFields) : Avoids m (wholeField? what k entries) := by
  unfold wholeField?
  split
  · nofun
  · next v hv =>
    rw [← bind_pure_comp]
    exact (whole_avoids what (h.finite_field hk (Datum.field?_of_present? hv))).bind fun n _ => nofun

theorem mapping_avoids (what : String) (field : Option Datum) : Avoids m (mapping what field) := by
  unfold mapping
  split
  · nofun
  · nofun
  · split <;> nofun

/-- The entries of a field are no worse than the field. -/
theorem mapping_spare {what : String} {field : Option Datum} (h : ∀ v, field = some v → v.Spares m)
    {es : List (Datum × Datum)} (hm : mapping what field = .ok es) : (Datum.map es).Spares m := by
  unfold mapping at hm
  split at hm
  · cases hm
    exact Datum.spares_emptyMap
  · cases hm
    exact Datum.spares_emptyMap
  · next d _ =>
    split at hm
    · next hd =>
      cases hm
      exact hd ▸ (h d rfl).core
    · cases hm

theorem denotation_avoids (h : d.Spares m) : Avoids m ( denotation d) := by
  unfold denotation
  split
  · nofun
  · nofun
  · next entries hd =>
    have he : (Datum.map entries).Spares m := hd ▸ h.core
    refine (wholeField_avoids he _ (by simp [Datum.wholeFields])).bind fun decl _ => ?_
    refine (wholeField_avoids he _ (by simp [Datum.wholeFields])).bind fun selfType _ => ?_
    refine (items_avoids he (by simp [Datum.listFields])).bind fun args ha => ?_
    refine (Avoids.mapM fun v hv => whole_avoids _ (items_finite he ha v hv)).bind fun genericArgs _ => nofun
  · split <;> nofun
  · nofun

theorem fourNumbers_avoid {α : Type} {a b c e : Datum} (wa wb wc we : String) (f : Int → Int → Int → Int → α)
    (ha : a.Finite m) (hb : b.Finite m) (hc : c.Finite m) (he : e.Finite m) : Avoids m (do
      let ls ← whole wa a
      let cs ← whole wb b
      let le ← whole wc c
      let ce ← whole we e
      pure (f ls cs le ce)) := by
  refine (whole_avoids wa ha).bind fun ls _ => ?_
  refine (whole_avoids wb hb).bind fun cs _ => ?_
  refine (whole_avoids wc hc).bind fun le _ => ?_
  exact (whole_avoids we he).bind fun ce _ => nofun

theorem span_avoids (file : String) (h : d.Spares m) : Avoids m (span file d) := by
  unfold span
  split
  · nofun
  · next ds hd =>
    have hs : ∀ c ∈ ds, c.Finite m := (hd ▸ h.core).finite_item rfl
    split
    · exact fourNumbers_avoid _ _ _ _ _ (hs _ (by simp)) (hs _ (by simp)) (hs _ (by simp)) (hs _ (by simp))
    · nofun
  · next ds hd =>
    have hs : ∀ c ∈ ds, c.Finite m := (hd ▸ h.core).finite_item rfl
    split
    · exact fourNumbers_avoid _ _ _ _ _ (hs _ (by simp)) (hs _ (by simp)) (hs _ (by simp)) (hs _ (by simp))
    · nofun
  · next entries hd =>
    have he : (Datum.map entries).Spares m := hd ▸ h.core
    have number : ∀ k ∈ Datum.wholeFields, ∀ default : Datum, default.Finite m →
        ((Datum.field? k entries).getD default).Finite m := by
      intro k hk default hd
      cases hf : Datum.field? k entries with
      | none => exact hd
      | some v => exact he.finite_field hk hf
    have zero : (Datum.int 0).Finite m := fun _ => rfl
    have ls := number "line_start" (by simp [Datum.wholeFields]) _ zero
    have cs := number "col_start" (by simp [Datum.wholeFields]) _ zero
    exact fourNumbers_avoid _ _ _ _ _ ls cs (number _ (by simp [Datum.wholeFields]) _ ls)
      (number _ (by simp [Datum.wholeFields]) _ cs)
  · nofun

/-! ## Trees -/

theorem claim_avoids (id : Int) : Reading.Avoids m (claim id) := by
  intro s
  rw [claim_run]
  split <;> nofun

theorem fileType_avoids (h : (Datum.map entries).Spares m) (id : Int) :
    Reading.Avoids m (fileType id entries) := by
  unfold fileType
  split
  · exact avoids_pure ()
  · next raw hr =>
    have hf := h.finite_field (by simp [Datum.wholeFields]) (Datum.field?_of_present? hr)
    exact (avoids_lift (whole_avoids _ hf)).bind fun ty _ => nofun

theorem fileDenotation_avoids (h : (Datum.map entries).Spares m) (id : Int) :
    Reading.Avoids m ( fileDenotation id entries) := by
  unfold fileDenotation
  split
  · exact avoids_pure ()
  · next raw hr => exact (avoids_lift (denotation_avoids (h.field hr))).bind fun use _ => nofun

theorem spanOf_avoids (file : String) (h : (Datum.map entries).Spares m) : Avoids m (spanOf file entries) := by
  unfold spanOf
  split
  · nofun
  · next raw hr => exact span_avoids file (h.field hr)

end

section
variable {m : Datum.Misuse}

mutual

theorem node_avoids (file : String) (d : Datum) (h : d.Spares m) : Reading.Avoids m (node file d) := by
  unfold node
  split
  · next entries hd =>
    have hlt := sizeOf_entries_lt hd
    have he : (Datum.map entries).Spares m := hd ▸ h.core
    split
    · next rawId kind hid _ =>
      have finite := he.finite_field (by simp [Datum.wholeFields]) hid
      refine (avoids_lift (whole_avoids _ finite)).bind fun id => ?_
      refine (claim_avoids id).bind fun _ => ?_
      refine (fileType_avoids he id).bind fun _ => ?_
      refine (fileDenotation_avoids he id).bind fun _ => ?_
      refine (avoids_lift (spanOf_avoids file he)).bind fun place => ?_
      refine (calleeOf_avoids file entries he).bind fun callee => ?_
      refine (listOf_avoids file "args" (by simp [Datum.listFields]) entries he).bind fun args => ?_
      refine (listOf_avoids file "children" (by simp [Datum.listFields]) entries he).bind fun children => ?_
      refine (avoids_lift (items_avoids he (by simp [Datum.listFields]))).bind fun typeArgs => ?_
      exact avoids_pure _
    · exact avoids_refuse _
  · exact avoids_refuse _
termination_by sizeOf d

theorem calleeOf_avoids (file : String) (entries : List (Datum × Datum)) (h : (Datum.map entries).Spares m) :
    Reading.Avoids m (calleeOf file entries) := by
  unfold calleeOf
  split
  · exact avoids_pure _
  · next raw hr =>
    have hlt := Datum.sizeOf_present? hr
    rw [← bind_pure_comp]
    exact (node_avoids file raw (h.present hr)).bind fun e => avoids_pure _
termination_by sizeOf entries

theorem listOf_avoids (file key : String) (hk : key ∈ Datum.listFields) (entries : List (Datum × Datum))
    (h : (Datum.map entries).Spares m) : Reading.Avoids m (listOf file key entries) := by
  unfold listOf
  split
  · exact avoids_pure _
  · next raw hr =>
    have hlt := Datum.sizeOf_field? hr
    refine nodesOf_avoids file raw (h.field hr) ?_
    rintro rfl
    exact h.has_items hk hr
termination_by sizeOf entries

theorem nodesOf_avoids (file : String) (d : Datum) (h : d.Spares m)
    (hi : m = .noItems → d.isItemless = false) : Reading.Avoids m (nodesOf file d) := by
  unfold nodesOf
  split
  · next ht =>
    split
    · next ds => exact nodes_avoids file ds (h.items rfl)
    · next ds => exact nodes_avoids file ds (h.items rfl)
    · next up c => exact nodesOf_avoids file c h.core hi
    · split
      · exact avoids_refuse _
      · exact avoids_pure _
      · next hn =>
        -- what counts as true and has no items was ruled out
        intro s hs
        cases hs
        simp [Datum.isItemless, ht, hn] at hi
  · exact avoids_pure _
termination_by sizeOf d

theorem nodes_avoids (file : String) (ds : List Datum) (h : ∀ d ∈ ds, d.Spares m) :
    Reading.Avoids m (nodes file ds) := by
  match ds with
  | [] =>
    rw [nodes]
    exact avoids_pure _
  | d :: r =>
    obtain ⟨hd, hr⟩ := List.forall_mem_cons.1 h
    rw [nodes]
    refine (node_avoids file d hd).bind fun e => ?_
    exact (nodes_avoids file r hr).bind fun es => avoids_pure _
termination_by sizeOf ds

end

/-! ## Crates -/

theorem codeUnits_avoids (origin : String) (done : Nat) (ds : List Datum) (h : ∀ d ∈ ds, d.Spares m) :
    Reading.Avoids m (codeUnits origin done ds) := by
  induction ds generalizing done with
  | nil => exact avoids_pure _
  | cons d rest ih =>
    obtain ⟨hd, hrest⟩ := List.forall_mem_cons.1 h
    have unit : Reading.Avoids m (codeUnit origin (done + 1) d) := by
      unfold codeUnit
      split
      · next entries hc =>
        have he : (Datum.map entries).Spares m := hc ▸ hd.core
        split
        · next body hb => exact (node_avoids _ body (he.field hb)).bind fun e => avoids_pure _
        · exact avoids_refuse _
      · exact avoids_refuse _
    rw [codeUnits]
    exact unit.bind fun u => (ih (done + 1) hrest).bind fun us => avoids_pure _

theorem numbered_avoids {α : Type} {what : String} {read : Int → Datum → Except LoadFault α}
    {entries : List (Datum × Datum)} (h : (Datum.map entries).Spares m)
    (hread : ∀ id d, d.Spares m → Avoids m (read id d)) : Avoids m (numbered what read entries) := by
  refine (Avoids.mapM fun e he => ?_).bind fun pairs _ => nofun
  refine (whole_avoids what (h.finite_key he)).bind fun id _ => ?_
  exact (hread id e.2 (h.entry he).2).bind fun a _ => nofun

theorem typeEntry_avoids (origin : String) (id : Int) (d : Datum) (h : d.Spares m) :
    Avoids m (typeEntry origin id d) := by
  refine (mapping_avoids _ _).bind fun entries hm => ?_
  have he : (Datum.map entries).Spares m := mapping_spare (fun v hv => Option.some.inj hv ▸ h) hm
  split
  · nofun
  · exact (wholeField_avoids he _ (by simp [Datum.wholeFields])).bind fun inner _ => nofun

theorem impls_finite {entries : List (Datum × Datum)} (h : (Datum.map entries).Spares m) {what : String}
    {es : List (Datum × Datum)} (hm : mapping what (Datum.field? "impls" entries) = .ok es) :
    ∀ e ∈ es, e.2.Finite m := by
  unfold mapping at hm
  split at hm
  · cases hm
    nofun
  · cases hm
    nofun
  · next d _ hf =>
    split at hm
    · next hd =>
      cases hm
      exact h.finite_impl hf hd
    · cases hm

theorem implEntry_avoids {e : Datum × Datum} (hk : e.1.Finite m) (hv : e.2.Finite m) :
    Avoids m (implEntry e) := by
  refine (whole_avoids _ hk).bind fun ty _ => ?_
  exact (whole_avoids _ hv).bind fun target _ => nofun

theorem liftFault_avoids {α : Type} (x : Except DumpFault α) : Avoids m (liftFault x) := by
  cases x <;> nofun

theorem declEntry_avoids (origin : String) (id : Int) (d : Datum) (h : d.Spares m) :
    Avoids m (declEntry origin id d) := by
  refine (mapping_avoids _ _).bind fun entries hm => ?_
  have he : (Datum.map entries).Spares m := mapping_spare (fun v hv => Option.some.inj hv ▸ h) hm
  split
  · nofun
  · refine (mapping_avoids _ _).bind fun rawImpls hi => ?_
    have hs : (Datum.map rawImpls).Spares m := mapping_spare (fun v => he.field) hi
    refine (Avoids.mapM fun e hm => implEntry_avoids (hs.finite_key hm) (impls_finite he hi e hm)).bind
      fun impls _ => ?_
    refine (liftFault_avoids _).bind fun path _ => ?_
    exact (wholeField_avoids he _ (by simp [Datum.wholeFields])).bind fun target _ => nofun

theorem rawUnits_avoids (origin : String) (field : Option Datum) : Avoids m (rawUnits origin field) := by
  unfold rawUnits
  split
  · nofun
  · split
    · split <;> nofun
    · nofun

theorem rawUnits_spare {origin : String} {field : Option Datum} (h : ∀ v, field = some v → v.Spares m)
    {ds : List Datum} (hu : rawUnits origin field = .ok ds) : ∀ d ∈ ds, d.Spares m := by
  unfold rawUnits at hu
  split at hu
  · cases hu
    nofun
  · next d =>
    split at hu
    · split at hu
      · next hd =>
        cases hu
        exact (hd ▸ (h d rfl).core).items rfl
      · cases hu
    · cases hu
      nofun

theorem crate_avoids (origin : String) {doc : Datum} (h : doc.Spares m) :
    Avoids m (crate origin doc) := by
  unfold crate
  split
  · next entries hd =>
    have he : (Datum.map entries).Spares m := hd ▸ h.core
    refine (mapping_avoids _ _).bind fun rawTypes ht => ?_
    refine (numbered_avoids (mapping_spare (fun v => he.field) ht) (typeEntry_avoids origin)).bind fun types _ => ?_
    refine (mapping_avoids _ _).bind fun rawDecls hr => ?_
    refine (numbered_avoids (mapping_spare (fun v => he.field) hr) (declEntry_avoids origin)).bind fun decls _ => ?_
    refine (rawUnits_avoids _ _).bind fun raws hu => ?_
    have hs : ∀ d ∈ raws, d.Spares m := rawUnits_spare (fun v => he.field) hu
    exact (codeUnits_avoids origin 0 raws hs Filed.empty).bind fun p _ => nofun
  · nofun

end

/-- A misuse comes from some value inside the document that invites it. -/
theorem crate_misused {origin : String} {doc : Datum} {m : Datum.Misuse}
    (h : crate origin doc = .error (.misused m)) : ∃ v ∈ doc.subs, v.invites m = true := by
  by_contra hn
  refine crate_avoids origin (fun v hv => ?_) h
  rw [Bool.eq_false_iff]
  exact fun hi => hn ⟨v, hv, hi⟩

end Dump

/-! ## Sessions -/

section
variable {path : String} {content : Content} {doc : Datum}

/-- A malformed dump costs a warning. -/
theorem Session.check_skipped (session : Session) (jobs : Option Int) (memory : Memory)
    (rest : List (String × Content)) (hd : Document.single content = .ok doc) {fault : DumpFault}
    (hc : Dump.crate path doc = .error (.malformed fault)) :
    session.check jobs memory ((path, content) :: rest) = (do
      Told.warn (.skippedDump path fault.message)
      session.check jobs memory rest) := by
  simp only [Session.check, Dump.ofFile, hd, hc, LoadFault.stop, Stop.dumpCause?]

/-- A misused document ends the run. -/
theorem Session.check_misused (session : Session) (jobs : Option Int) (memory : Memory)
    (rest : List (String × Content)) (hd : Document.single content = .ok doc) {m : Datum.Misuse}
    (hc : Dump.crate path doc = .error (.misused m)) :
    session.check jobs memory ((path, content) :: rest) = Told.stop (.misuse m) := by
  simp only [Session.check, Dump.ofFile, hd, hc, LoadFault.stop, Stop.dumpCause?]

end

/-- A value is misused as a whole number if and only if it is infinite, and as the items of a field if
and only if it counts as true and has none. As a document it is misused only if some value inside it
has such a number where whole numbers may belong, or such a field. Otherwise it gives a crate, or a
fault of format for which a check skips the dump with a warning and goes on with the rest. -/
theorem loading_answers (d : Datum) :
    (∀ (what : String) (m : Datum.Misuse), Dump.whole what d = .error (.misused m) ↔
      m = .infinite ∧ ∃ negative, d = .float (.infinity negative)) ∧
    (∀ m : Datum.Misuse, Dump.items (some d) = .error (.misused m) ↔ m = .noItems ∧ d.isItemless = true) ∧
    ∀ path : String,
      (∀ m : Datum.Misuse, Dump.crate path d = .error (.misused m) → ∃ v ∈ d.subs, v.invites m = true) ∧
      ((∀ m, d.Spares m) →
        (∃ crate, Dump.crate path d = .ok crate) ∨
        ∃ fault, Dump.crate path d = .error (.malformed fault) ∧
          ∀ content : Content, Document.single content = .ok d →
            ∀ (session : Session) (jobs : Option Int) (memory : Memory) (rest : List (String × Content)),
              session.check jobs memory ((path, content) :: rest) = (do
                Told.warn (.skippedDump path fault.message)
                session.check jobs memory rest)) := by
  refine ⟨fun what m => Dump.whole_misused_iff, fun m => Dump.items_misused_iff,
    fun path => ⟨fun m => Dump.crate_misused, fun hs => ?_⟩⟩
  cases hc : Dump.crate path d with
  | ok crate => exact .inl ⟨crate, rfl⟩
  | error fault =>
    cases fault with
    | malformed fault =>
      exact .inr ⟨fault, rfl, fun content hd session jobs memory rest =>
        session.check_skipped jobs memory rest hd hc⟩
    | misused m => exact absurd hc (Dump.crate_avoids path (hs m))

/-- The units of a document: one, whose body has these fields after a kind. -/
def bodyUnits (fields : List (Datum × Datum)) : List Datum :=
  [.map [(.text "name", .text "main"), (.text "body", .map ((.text "kind", .text "Block") :: fields))]]

/-- A document of these units. -/
def bodyDoc (fields : List (Datum × Datum)) : Datum := .map [(.text "units", .list (bodyUnits fields))]

/-- The text of a dump in which the number of an argument is a word. -/
def wordedText : String :=
  "'units':\n- 'name': 'main'\n  'body':\n   'kind': 'Block'\n   'id': '1'\n   'args':\n   - 'id': 'x'\n     'kind': 'Lit'\n"

/-- The document of this text. -/
def wordedDump : Datum :=
  bodyDoc [(.text "id", .text "1"), (.text "args", .list [.map [(.text "id", .text "x"), (.text "kind", .text "Lit")]])]

set_option maxRecDepth 2000 in
theorem single_wordedText : Document.single (.ok wordedText.toUTF8) = .ok wordedDump := by
  have chars : wordedText.toList = _ := String.toList_ofList
  have value : Yaml.load wordedText = .ok wordedDump := by
    rw [Yaml.load, Yaml.TokenStream.ofText, chars]
    cbv
  refine Document.single_toUTF8 ?_ value
  rw [chars]
  decide

/-- A dump with a word for a number is skipped, and a null reference is found in the dump after it. -/
theorem wordedDump_skipped :
    Document.single (.ok wordedText.toUTF8) = .ok wordedDump ∧ (∀ m, wordedDump.Spares m) ∧
    (Session.mk Registry.standard .standard).check (some 1) .empty
        [("a", .ok wordedText.toUTF8), ("b", .ok Cli.zeroedText.toUTF8)] =
      ⟨[.skippedDump "a" "id must be an integer, got 'x'"], .ok [Cli.nullReference "b"]⟩ := by
  have spares : ∀ m, wordedDump.Spares m := by
    intro m v hv
    have all : wordedDump.subs.all (fun v => !v.invites m) = true := by
      cases m <;> cbv
    simpa using List.all_eq_true.1 all v hv
  have refused : Dump.crate "a" wordedDump = .error (.malformed (.notWhole "id" (.text "x"))) := by cbv
  obtain ⟨crate, loaded⟩ | ⟨fault, malformed, check⟩ := ((loading_answers wordedDump).2.2 "a").2 spares
  · rw [refused] at loaded
    cases loaded
  · rw [refused] at malformed
    cases malformed
    refine ⟨single_wordedText, spares, ?_⟩
    rw [check _ single_wordedText, Cli.check_zeroedText (.inr rfl)]
    rfl

theorem bodyDoc_crate {path : String} {fields : List (Datum × Datum)} {fault : LoadFault}
    (h : (Dump.codeUnits path 0 (bodyUnits fields)).run Dump.Filed.empty = .error fault) :
    Dump.crate path (bodyDoc fields) = .error fault := by
  have hc : Dump.crate path (bodyDoc fields) =
      (do
        let p ← (Dump.codeUnits path 0 (bodyUnits fields)).run Dump.Filed.empty
        pure ⟨Dump.stem (Dump.baseName path), p.1, ⟨.empty, p.2.nodeTypes⟩, .empty, p.2.denotations⟩) := rfl
  rw [hc, h]
  rfl

theorem argsNumber_misused (path : String) :
    (Dump.codeUnits path 0 (bodyUnits [(.text "id", .int 1), (.text "args", .int 5)])).run Dump.Filed.empty =
      .error (.misused .noItems) := by
  simp [bodyUnits, Dump.codeUnits, Dump.codeUnit, Dump.node, Dump.calleeOf, Dump.listOf, Dump.nodesOf,
    Datum.core, Datum.field?, Datum.present?, Datum.isTruthy, Datum.items?, Dump.whole, Datum.toWhole,
    Dump.fileType, Dump.fileDenotation, Dump.spanOf, Dump.claim_run, StateT.run_bind]
  rfl

theorem infiniteId_misused (path : String) :
    (Dump.codeUnits path 0 (bodyUnits [(.text "id", .float (.infinity false))])).run Dump.Filed.empty =
      .error (.misused .infinite) := by
  simp [bodyUnits, Dump.codeUnits, Dump.codeUnit, Dump.node, Datum.core, Datum.field?, Dump.whole,
    Datum.toWhole, StateT.run_bind]
  rfl

/-- Fields of the wrong kind that end a run: a number in place of a list, and an infinite number. -/
theorem bodyDoc_misused :
    (∀ path, Dump.crate path (bodyDoc [(.text "id", .int 1), (.text "args", .int 5)]) =
      .error (.misused .noItems)) ∧
    (∀ path, Dump.crate path (bodyDoc [(.text "id", .float (.infinity false))]) =
      .error (.misused .infinite)) ∧
    ∀ (session : Session) (jobs : Option Int) (memory : Memory) (path : String) (content : Content)
      (rest : List (String × Content)),
      Document.single content = .ok (bodyDoc [(.text "id", .float (.infinity false))]) →
      session.check jobs memory ((path, content) :: rest) = Told.stop (.misuse .infinite) :=
  ⟨fun path => bodyDoc_crate (argsNumber_misused path), fun path => bodyDoc_crate (infiniteId_misused path),
    fun session jobs memory path _ rest hd =>
      session.check_misused jobs memory rest hd (bodyDoc_crate (infiniteId_misused path))⟩

end ChainLint
