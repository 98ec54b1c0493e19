import ChainLint.Proofs.DocumentNodes
/-!
# Which numbers the nodes of a document may have

`loaded_numbers`: a document that loads gives its nodes distinct numbers, and a
document that would load with other numbers fails if and only if two of its
nodes have the same, at the first number in document order that repeats an
earlier one. Reading claims the numbers one by one (`Settles`), and what else it
checks does not depend on them (`Renumbered.sound`).
-/

namespace ChainLint.Dump

/-! ## The first repetition -/

/-- The first number that was seen before, among these or earlier in the list. -/
def firstRepeat (seen : List Int) : List Int → Option Int
  | [] => none
  | id :: rest => if id ∈ seen then some id else firstRepeat (id :: seen) rest

theorem firstRepeat_append (seen ids ids' : List Int) :
    firstRepeat seen (ids ++ ids') = (firstRepeat seen ids).or (firstRepeat (ids.reverse ++ seen) ids') := by
  induction ids generalizing seen with
  | nil => rfl
  | cons id rest ih =>
    rw [List.cons_append, firstRepeat, firstRepeat]
    split
    · rfl
    · rw [ih, List.reverse_cons, List.append_assoc]
      rfl

theorem firstRepeat_eq_none_iff {seen ids : List Int} :
    firstRepeat seen ids = none ↔ ids.Nodup ∧ ∀ id ∈ ids, id ∉ seen := by
  induction ids generalizing seen with
  | nil => simp [firstRepeat]
  | cons id rest ih =>
    rw [firstRepeat]
    split
    · next again => simp [again]
    · next new =>
      rw [ih, List.nodup_cons, List.forall_mem_cons]
      constructor
      · rintro ⟨distinct, others⟩
        refine ⟨⟨fun hm => others id hm List.mem_cons_self, distinct⟩, new, fun k hk => ?_⟩
        exact fun hs => others k hk (List.mem_cons_of_mem _ hs)
      · rintro ⟨⟨first, distinct⟩, -, others⟩
        refine ⟨distinct, fun k hk hs => ?_⟩
        rcases List.mem_cons.1 hs with rfl | hs
        · exact first hk
        · exact others k hk hs

/-- Everything before the first repetition is distinct, and the number is among it or was seen. -/
theorem split_of_firstRepeat {seen ids : List Int} {id : Int} (h : firstRepeat seen ids = some id) :
    ∃ before after, ids = before ++ id :: after ∧ before.Nodup ∧ (∀ k ∈ before, k ∉ seen) ∧
      (id ∈ before ∨ id ∈ seen) := by
  induction ids generalizing seen with
  | nil => cases h
  | cons first rest ih =>
    rw [firstRepeat] at h
    split at h
    · next again =>
      cases h
      exact ⟨[], rest, rfl, List.nodup_nil, nofun, .inr again⟩
    · next new =>
      obtain ⟨before, after, rfl, distinct, others, old⟩ := ih h
      have unseen : ∀ k ∈ before, k ∉ seen := fun k hk hs => others k hk (List.mem_cons_of_mem _ hs)
      have unlike : first ∉ before := fun hm => others first hm List.mem_cons_self
      refine ⟨first :: before, after, rfl, List.nodup_cons.2 ⟨unlike, distinct⟩,
        List.forall_mem_cons.2 ⟨new, unseen⟩, ?_⟩
      rcases old with old | old
      · exact .inl (List.mem_cons_of_mem _ old)
      · rcases List.mem_cons.1 old with rfl | old
        · exact .inl List.mem_cons_self
        · exact .inr old

/-! ## Steps that only a repeated number can stop -/

/-- From every state the step gives this and files this, unless it comes to a number that is claimed. -/
def Settles {α : Type} (r : Reading α) (a : α) (f : Filing) : Prop :=
  ∀ s, r.run s = match firstRepeat s.claimed f.ids with
    | some id => .error (.malformed (.duplicateNode id))
    | none => .ok (a, s.add f)

section
variable {α β : Type} {a : α} {b : β} {f f' : Filing} {r : Reading α}

theorem settles_pure (a : α) : Settles (pure a) a {} := fun _ => rfl

theorem Settles.bind {g : α → Reading β} (hr : Settles r a f) (hg : Settles (g a) b f') :
    Settles (r >>= g) b (f ++ f') := by
  intro s
  rw [StateT.run_bind, hr s, Filing.ids_append, firstRepeat_append, Filed.add_append]
  cases firstRepeat s.claimed f.ids with
  | some id => rfl
  | none => exact hg (s.add f)

theorem settles_lift {x : Except LoadFault α} (h : x = .ok a) : Settles (liftM x) a {} := by
  subst h
  exact fun _ => rfl

theorem settles_claim (id : Int) : Settles (claim id) () { ids := [id] } := by
  intro s
  rw [claim_run]
  by_cases h : id ∈ s.claimed
  · simp only [firstRepeat, if_pos h]
  · simp only [firstRepeat, if_neg h]
    rfl

theorem settles_fileType {id : Int} {entries : List (Datum × Datum)} {ty : Option Int}
    (h : wholeField? s!"ty of node {id}" "ty" entries = .ok ty) :
    Settles (fileType id entries) () { types := ty.toList.map fun ty => (id, ty) } := by
  rw [wholeField?_eq, mapM_eq_ok_iff] at h
  rw [fileType]
  rcases h with ⟨absent, rfl⟩ | ⟨raw, n, given, read, rfl⟩
  · rw [absent]
    exact settles_pure ()
  · simp only [given, read]
    exact fun _ => rfl

theorem settles_fileUse {id : Int} {entries : List (Datum × Datum)} {use : Option Denotation}
    (h : (Datum.field? "res" entries).mapM denotation = .ok use) :
    Settles ( fileDenotation id entries) () { uses := use.toList.map fun use => (id, use) } := by
  rw [mapM_eq_ok_iff] at h
  unfold fileDenotation
  rcases h with ⟨absent, rfl⟩ | ⟨raw, u, given, read, rfl⟩
  · rw [absent]
    exact settles_pure ()
  · simp only [given, read]
    exact fun _ => rfl

end

/-! ## Sound trees -/

theorem exists_append_of_forall₂ {α β : Type} {R : α → β → Prop} {l l' : List α} {m : List β}
    (h : List.Forall₂ R (l ++ l') m) : ∃ m₁ m₂, m = m₁ ++ m₂ ∧ List.Forall₂ R l m₁ ∧ List.Forall₂ R l' m₂ := by
  induction l generalizing m with
  | nil => exact ⟨[], m, rfl, .nil, h⟩
  | cons a rest ih =>
    obtain _ | ⟨first, later⟩ := h
    obtain ⟨m₁, m₂, rfl, h₁, h₂⟩ := ih later
    exact ⟨_ :: m₁, m₂, rfl, .cons first h₁, h₂⟩

/-- Whatever numbers the nodes have, the step claims them in order and only a repeated one can stop it. -/
def SettlesAt {α : Type} (r : Reading α) (nodes : List (List (Datum × Datum))) : Prop :=
  ∀ ids, List.Forall₂ HasNumber nodes ids → ∃ a f, f.ids = ids ∧ Settles r a f

section
variable {α β : Type} {r : Reading α} {g : α → Reading β} {nodes nodes' : List (List (Datum × Datum))}

theorem settlesAt_pure (a : α) : SettlesAt (pure a) [] := by
  rintro ids ⟨⟩
  exact ⟨a, {}, rfl, settles_pure a⟩

theorem SettlesAt.bind (hr : SettlesAt r nodes) (hg : ∀ a, SettlesAt (g a) nodes') :
    SettlesAt (r >>= g) (nodes ++ nodes') := by
  intro ids numbers
  obtain ⟨ids₁, ids₂, rfl, first, later⟩ := exists_append_of_forall₂ numbers
  obtain ⟨a, f, rfl, settles⟩ := hr ids₁ first
  obtain ⟨b, f', rfl, settles'⟩ := hg a ids₂ later
  exact ⟨b, f ++ f', rfl, settles.bind settles'⟩

theorem SettlesAt.lift_bind {x : Except LoadFault α} {a : α} (h : x = .ok a) (hg : SettlesAt (g a) nodes) :
    SettlesAt (liftM x >>= g) nodes := by
  subst h
  exact hg

theorem SettlesAt.map (hr : SettlesAt r nodes) (g : α → β) : SettlesAt (g <$> r) nodes := by
  have h := hr.bind fun a => settlesAt_pure (g a)
  rwa [List.append_nil, bind_pure_comp] at h

end

section
variable {file : String} {entries : List (Datum × Datum)}

theorem nodes_settle {ds : List Datum} (h : ∀ d ∈ ds, SettlesAt (node file d) (nodesIn d)) :
    SettlesAt (nodes file ds) (ds.flatMap nodesIn) := by
  induction ds with
  | nil =>
    rw [nodes]
    exact settlesAt_pure []
  | cons d rest ih =>
    obtain ⟨hd, hrest⟩ := List.forall_mem_cons.1 h
    rw [nodes, List.flatMap_cons]
    exact hd.bind fun e => (ih hrest).map (e :: ·)

theorem listOf_settles {key : String} (listing : ∃ ds, listed? key entries = some ds)
    (h : ∀ d ∈ listed key entries, SettlesAt (node file d) (nodesIn d)) :
    SettlesAt (listOf file key entries) ((listed key entries).flatMap nodesIn) := by
  obtain ⟨ds, hds⟩ := listing
  rw [listed, hds] at h ⊢
  rw [listed?] at hds
  unfold listOf
  split
  · next hf =>
    rw [hf] at hds
    cases hds
    exact settlesAt_pure []
  · next raw hf =>
    rw [hf] at hds
    rw [nodesOf_of_listing file hds]
    exact nodes_settle h

theorem calleeOf_settles
    (h : ∀ d ∈ (Datum.present? "callee" entries).toList, SettlesAt (node file d) (nodesIn d)) :
    SettlesAt (calleeOf file entries) ((Datum.present? "callee" entries).toList.flatMap nodesIn) := by
  unfold calleeOf
  split
  · next hp =>
    rw [hp]
    exact settlesAt_pure none
  · next raw hp =>
    rw [hp] at h ⊢
    have one := (h raw List.mem_cons_self).map some
    rwa [← List.append_nil (nodesIn raw)] at one

/-- What reading does at the node itself. -/
theorem opening_settles {rawId : Datum} (given : Datum.field? "id" entries = some rawId)
    (own : Proper file entries) {β : Type} {g : Int → Reading β} {nodes : List (List (Datum × Datum))}
    (hg : ∀ id, SettlesAt (g id) nodes) :
    SettlesAt (do
      let id ← whole "id" rawId
      claim id
      fileType id entries
      fileDenotation id entries
      g id) (entries :: nodes) := by
  intro ids numbers
  cases numbers with
  | @cons _ id _ ids first below =>
  obtain ⟨_, given', number⟩ := first
  cases given.symm.trans given'
  obtain ⟨ty, type⟩ := own.type
  obtain ⟨use, denotes⟩ := own.use
  obtain ⟨b, f, rfl, settles⟩ := hg id ids below
  refine ⟨b, {} ++ ({ ids := [id] } ++ ({ types := ty.toList.map fun ty => (id, ty) } ++
    ({ uses := use.toList.map fun use => (id, use) } ++ f))), rfl, ?_⟩
  refine (settles_lift number).bind ((settles_claim id).bind ?_)
  exact (settles_fileType (type _)).bind ((settles_fileUse denotes).bind settles)

/-- Reading a sound tree can fail at a repeated number only. -/
theorem node_settles {d : Datum} (h : Sound file d) : SettlesAt (node file d) (nodesIn d) := by
  induction h with
  | @node d entries mapping own _ ih =>
    have callee : SettlesAt (calleeOf file entries) _ := calleeOf_settles fun p hp =>
      ih p (List.mem_append_left _ (List.mem_append_left _ hp))
    have args : SettlesAt (listOf file "args" entries) _ := listOf_settles own.args fun p hp =>
      ih p (List.mem_append_left _ (List.mem_append_right _ hp))
    have children : SettlesAt (listOf file "children" entries) _ := listOf_settles own.children fun p hp =>
      ih p (List.mem_append_right _ hp)
    obtain ⟨rawId, given⟩ := own.number
    obtain ⟨kind, hkind⟩ := own.kind
    obtain ⟨place, hplace⟩ := own.place
    obtain ⟨typeArgs, hitems⟩ := own.typeArgs
    rw [nodesIn_of_map mapping, partsOf, List.flatMap_append, List.flatMap_append, List.append_assoc]
    unfold node
    split
    · next entries' mapping' =>
      cases mapping.symm.trans mapping'
      simp only [given, hkind]
      refine opening_settles given own fun id => SettlesAt.lift_bind hplace ?_
      refine callee.bind fun callee => args.bind fun args => ?_
      rw [← List.append_nil (List.flatMap nodesIn (listed "children" entries))]
      exact children.bind fun children => SettlesAt.lift_bind hitems (settlesAt_pure _)
    · next other => exact absurd mapping (other _)

end

/-! ## Units and documents -/

theorem codeUnit_settles {origin : String} {raw : Datum} (h : SoundUnit origin raw) :
    ∃ body, bodyOf? raw = some body ∧ ∀ number, SettlesAt (codeUnit origin number raw) (nodesIn body) := by
  obtain ⟨entries, body, mapping, given, sound⟩ := h
  refine ⟨body, (bodyOf?_of_map mapping).trans given, fun number => ?_⟩
  have settles := (node_settles sound).bind fun body =>
    settlesAt_pure (CodeUnit.mk (textOr entries "name" s!"unit{number}") (textOr entries "file" origin) body)
  rw [List.append_nil] at settles
  simp only [codeUnit, mapping, given]
  exact settles

theorem codeUnits_settle {origin : String} {raws : List Datum} (h : ∀ raw ∈ raws, SoundUnit origin raw)
    (done : Nat) : SettlesAt (codeUnits origin done raws) (nodesOfUnits raws) := by
  induction raws generalizing done with
  | nil => exact settlesAt_pure []
  | cons raw rest ih =>
    obtain ⟨hraw, hrest⟩ := List.forall_mem_cons.1 h
    obtain ⟨body, given, settles⟩ := codeUnit_settles hraw
    rw [codeUnits, nodesOfUnits_cons given]
    exact (settles (done + 1)).bind fun u => (ih hrest (done + 1)).map (u :: ·)

section
variable {origin : String} {doc : Datum} {entries : List (Datum × Datum)} {c : Crate} {raws : List Datum}
  {us : List CodeUnit} {f : Filing}

/-- A repeated number ends the reading of a document whose head can be read. -/
theorem crate_of_repeat (mapping : doc.core = .map entries) (head : HeadOf origin entries c)
    (listed : rawUnits origin (Datum.field? "units" entries) = .ok raws)
    (settles : Settles (codeUnits origin 0 raws) us f) {id : Int} (again : firstRepeat [] f.ids = some id) :
    crate origin doc = .error (.malformed (.duplicateNode id)) := by
  have run : (codeUnits origin 0 raws).run Filed.empty = .error (.malformed (.duplicateNode id)) := by
    rw [settles Filed.empty, Filed.empty, again]
  obtain ⟨rawTypes, hrt, ht⟩ := exists_of_bind_eq_ok head.types
  obtain ⟨rawDecls, hrd, hdecl⟩ := exists_of_bind_eq_ok head.declarations
  simp only [crate, mapping, hrt, ht, hrd, hdecl, listed, run, bind, Except.bind]

theorem exists_crate_of_distinct (mapping : doc.core = .map entries) (head : HeadOf origin entries c)
    (listed : rawUnits origin (Datum.field? "units" entries) = .ok raws)
    (settles : Settles (codeUnits origin 0 raws) us f) (distinct : firstRepeat [] f.ids = none) :
    ∃ c', crate origin doc = .ok c' := by
  have run : (codeUnits origin 0 raws).run Filed.empty = .ok (us, Filed.empty.add f) := by
    rw [settles Filed.empty, Filed.empty, distinct]
  let filed := Filed.empty.add f
  let c' : Crate := ⟨c.name, us, ⟨c.types.types, filed.nodeTypes⟩, c.declarations, filed.denotations⟩
  have head' : HeadOf origin entries c' := ⟨head.name, head.types, head.declarations⟩
  exact ⟨c', (crate_eq_ok_iff mapping).2 ⟨head', raws, filed, listed, run, rfl, rfl⟩⟩

end

/-! ## Other numbers -/

/-- Entries with the same under all keys but these. -/
def SameBut (keys : List String) (entries entries' : List (Datum × Datum)) : Prop :=
  ∀ key ∉ keys, Datum.field? key entries = Datum.field? key entries'

/-- Trees that differ in the numbers of their nodes only. -/
inductive Renumbered : Datum → Datum → Prop
  | same (d : Datum) : Renumbered d d
  | node {d d' : Datum} {entries entries' : List (Datum × Datum)} {args args' children children' : List Datum}
      (mapping : d.core = .map entries) (mapping' : d'.core = .map entries')
      (numbered : Datum.hasField "id" entries = Datum.hasField "id" entries')
      (fields : SameBut ["id", "callee", "args", "children"] entries entries')
      (callee : List.Forall₂ Renumbered (Datum.present? "callee" entries).toList
        (Datum.present? "callee" entries').toList)
      (listsArgs : listed? "args" entries = some args) (listsArgs' : listed? "args" entries' = some args')
      (args : List.Forall₂ Renumbered args args')
      (listsChildren : listed? "children" entries = some children)
      (listsChildren' : listed? "children" entries' = some children')
      (children : List.Forall₂ Renumbered children children') : Renumbered d d'

/-- Units that differ in the numbers of their nodes only. -/
inductive RenumberedUnit : Datum → Datum → Prop
  | unit {raw raw' body body' : Datum} {entries entries' : List (Datum × Datum)}
      (mapping : raw.core = .map entries) (mapping' : raw'.core = .map entries')
      (fields : SameBut ["body"] entries entries') (given : Datum.field? "body" entries = some body)
      (given' : Datum.field? "body" entries' = some body') (body : Renumbered body body') : RenumberedUnit raw raw'

/-- Documents that differ in the numbers of their nodes only. -/
inductive RenumberedDocument (origin : String) : Datum → Datum → Prop
  | document {doc doc' : Datum} {entries entries' : List (Datum × Datum)} {raws raws' : List Datum}
      (mapping : doc.core = .map entries) (mapping' : doc'.core = .map entries')
      (fields : SameBut ["units"] entries entries')
      (listed : rawUnits origin (Datum.field? "units" entries) = .ok raws)
      (listed' : rawUnits origin (Datum.field? "units" entries') = .ok raws')
      (units : List.Forall₂ RenumberedUnit raws raws') : RenumberedDocument origin doc doc'

/-- What holds of everything in the second of two related lists, and goes back along the relation. -/
theorem forall_mem_of_forall₂ {α β : Type} {R : α → β → Prop} {P : α → Prop} {Q : β → Prop} {l : List α}
    {l' : List β} (h : List.Forall₂ R l l') (hQ : ∀ b ∈ l', Q b) (back : ∀ a ∈ l, ∀ b, R a b → Q b → P a) :
    ∀ a ∈ l, P a := by
  induction h with
  | nil => nofun
  | cons first _ ih =>
    obtain ⟨hb, hrest⟩ := List.forall_mem_cons.1 hQ
    refine List.forall_mem_cons.2 ⟨back _ List.mem_cons_self _ first hb, ih hrest fun a ha => ?_⟩
    exact back a (List.mem_cons_of_mem _ ha)

theorem Proper.of_fields {file : String} {entries entries' : List (Datum × Datum)} (own : Proper file entries')
    (number : ∃ raw, Datum.field? "id" entries = some raw)
    (fields : SameBut ["id", "callee", "args", "children"] entries entries')
    (args : ∃ ds, listed? "args" entries = some ds) (children : ∃ ds, listed? "children" entries = some ds) :
    Proper file entries where
  number := number
  kind := by
    rw [fields "kind" (by decide)]
    exact own.kind
  type := by
    simp only [wholeField?, Datum.present?, fields "ty" (by decide)]
    exact own.type
  use := by
    rw [fields "res" (by decide)]
    exact own.use
  place := by
    rw [spanOf, fields "span" (by decide)]
    exact own.place
  args := args
  children := children
  typeArgs := by
    rw [fields "type_args" (by decide)]
    exact own.typeArgs

/-- A tree is sound if it would be with other numbers. -/
theorem Renumbered.sound {file : String} {d d' : Datum} (h : Renumbered d d') (sound : Sound file d') :
    Sound file d := by
  cases h with
  | same => exact sound
  | @node _ _ entries entries' _ _ _ _ mapping mapping' numbered fields callee listsArgs listsArgs' args
      listsChildren listsChildren' children =>
    obtain ⟨mapping'', own, below⟩ := sound
    cases mapping'.symm.trans mapping''
    have parts : List.Forall₂ Renumbered (partsOf entries) (partsOf entries') := by
      rw [partsOf, partsOf, listed, listed, listed, listed, listsArgs, listsArgs', listsChildren, listsChildren']
      exact List.rel_append (List.rel_append callee args) children
    refine .node mapping (own.of_fields ?_ fields ⟨_, listsArgs⟩ ⟨_, listsChildren⟩) ?_
    · obtain ⟨raw, given⟩ := own.number
      rw [Datum.hasField, Datum.hasField, given] at numbered
      exact Option.isSome_iff_exists.1 numbered
    · refine forall_mem_of_forall₂ parts below fun p hp p' related hsound => ?_
      have hlt := lt_trans (sizeOf_partOf hp) (sizeOf_entries_lt mapping)
      exact related.sound hsound
termination_by sizeOf d

theorem RenumberedUnit.sound {origin : String} {raw raw' : Datum} (h : RenumberedUnit raw raw')
    (sound : SoundUnit origin raw') : SoundUnit origin raw := by
  obtain ⟨mapping, mapping', fields, given, given', body⟩ := h
  obtain ⟨_, _, mapping'', given'', sound⟩ := sound
  cases mapping'.symm.trans mapping''
  cases given'.symm.trans given''
  refine ⟨_, _, mapping, given, ?_⟩
  rw [textOr, fields "file" (by decide)]
  exact body.sound sound

/-! ## All documents -/

/-- A document that loads gives its nodes distinct numbers: they are what the fields of the nodes convert to,
in document order, and the tables have under them what these nodes say and nothing else. A document
that loads with other numbers in place of its own, which all convert, fails if and only if two of its
own are the same, and then at the first that repeats an earlier one. -/
theorem loaded_numbers (origin : String) (doc : Datum) :
    (∀ c, crate origin doc = .ok c → (nodeNumbers c).Nodup ∧
      List.Forall₂ (Recorded c) (documentNodes doc) (nodeNumbers c) ∧
      ∀ id ∉ nodeNumbers c, c.types.nodeTypes.get? id = none ∧ c.denotations.get? id = none) ∧
    ∀ doc' c' ids, RenumberedDocument origin doc doc' → crate origin doc' = .ok c' →
      List.Forall₂ HasNumber (documentNodes doc) ids →
      ((∃ fault, crate origin doc = .error fault) ↔ ¬ids.Nodup) ∧
      ∀ fault, crate origin doc = .error fault → ∃ before id after,
        fault = .malformed (.duplicateNode id) ∧ ids = before ++ id :: after ∧ before.Nodup ∧ id ∈ before := by
  refine ⟨fun c => recorded_of_crate, fun doc' c' ids related load numbers => ?_⟩
  obtain ⟨mapping, mapping', fields, listed, listed', units⟩ := related
  next entries entries' raws raws' =>
  obtain ⟨head', raws'', filed, hraws, hu, -, -⟩ := (crate_eq_ok_iff mapping').1 load
  cases listed'.symm.trans hraws
  -- the fields that numbers do not matter to are those of the document that loads
  have apart : ∀ key ∈ ["crate", "types", "defs"], key ∉ ["units"] := by decide
  have head : HeadOf origin entries c' := head'.congr fun key hk => fields key (apart key hk)
  have sound : ∀ raw ∈ raws, SoundUnit origin raw := by
    obtain ⟨_, ⟨sound', -⟩, -, -⟩ := codeUnits_records origin 0 raws' _ _ _ hu
    exact forall_mem_of_forall₂ units sound' fun raw _ raw' related => related.sound
  have nodes : documentNodes doc = nodesOfUnits raws := by
    simp only [documentNodes, mapping, listed_of_rawUnits listed]
  rw [nodes] at numbers
  obtain ⟨us, f, rfl, settles⟩ := codeUnits_settle sound 0 ids numbers
  cases hr : firstRepeat [] f.ids with
  | none =>
    obtain ⟨c, loads⟩ := exists_crate_of_distinct mapping head listed settles hr
    have distinct := (firstRepeat_eq_none_iff.1 hr).1
    refine ⟨⟨?_, fun again => absurd distinct again⟩, ?_⟩
    · rintro ⟨fault, fails⟩
      cases loads.symm.trans fails
    · intro fault fails
      cases loads.symm.trans fails
  | some id =>
    have fails := crate_of_repeat mapping head listed settles hr
    have again : ¬f.ids.Nodup := by
      intro distinct
      cases hr.symm.trans (firstRepeat_eq_none_iff.2 ⟨distinct, fun _ _ => List.not_mem_nil⟩)
    refine ⟨⟨fun _ => again, fun _ => ⟨_, fails⟩⟩, fun fault fails' => ?_⟩
    cases fails.symm.trans fails'
    obtain ⟨before, after, split, distinct, -, old⟩ := split_of_firstRepeat hr
    exact ⟨before, id, after, rfl, split, distinct, old.resolve_right List.not_mem_nil⟩

/-! ## Two spellings of one number -/

/-- A path with this number. -/
def spelledPath (id : Datum) : List (Datum × Datum) :=
  [(.text "id", id), (.text "kind", .text "Path"), (.text "res", .int 7)]

/-- A call of a path with these numbers, however they are spelled. -/
def spelledCall (id calleeId : Datum) (ty : Int) : List (Datum × Datum) :=
  [(.text "id", id), (.text "kind", .text "Call"), (.text "ty", .int ty),
    (.text "callee", .map (spelledPath calleeId))]

/-- A unit of one call. -/
def spelledUnit (name : String) (id calleeId : Datum) (ty : Int) : Datum :=
  .map [(.text "name", .text name), (.text "body", .map (spelledCall id calleeId ty))]

/-- Two units of one call each, in which 1.9 and the text of 1 give the same number. -/
def spelledUnits : List Datum :=
  [spelledUnit "broken" (.float (.finite false 8556839292003942 (-52))) (.int 2) 2,
    spelledUnit "sound" (.text "3") (.text "1") 1]

theorem SameBut.skip {keys : List String} {k : String} (hk : k ∈ keys) {v v' : Datum}
    {entries entries' : List (Datum × Datum)} (h : SameBut keys entries entries') :
    SameBut keys ((.text k, v) :: entries) ((.text k, v') :: entries') := by
  intro key hkey
  have other : k ≠ key := by
    rintro rfl
    exact hkey hk
  rw [Datum.field?, Datum.field?, if_neg other, if_neg other]
  exact h key hkey

theorem SameBut.keep {keys : List String} {k : String} {v : Datum} {entries entries' : List (Datum × Datum)}
    (h : SameBut keys entries entries') : SameBut keys ((.text k, v) :: entries) ((.text k, v) :: entries') := by
  intro key hkey
  rw [Datum.field?, Datum.field?, h key hkey]

theorem spelledUnit_renumbered (name : String) (id calleeId : Datum) (n ty : Int) :
    RenumberedUnit (spelledUnit name id calleeId ty) (rawUnit name n ty) := by
  have callee : Renumbered (.map (spelledPath calleeId)) (.map (spelledPath (.int (n + 1)))) :=
    .node rfl rfl rfl (.skip (by decide) fun _ _ => rfl) .nil rfl rfl .nil rfl rfl .nil
  have fields : SameBut ["id", "callee", "args", "children"] (spelledCall id calleeId ty)
      (spelledCall (.int n) (.int (n + 1)) ty) :=
    .skip (by decide) (.keep (.keep (.skip (by decide) fun _ _ => rfl)))
  have body : Renumbered (.map (spelledCall id calleeId ty)) (rawCall n ty) :=
    .node rfl rfl rfl fields (.cons callee .nil) rfl rfl .nil rfl rfl .nil
  exact .unit rfl rfl (.keep (.skip (by decide) fun _ _ => rfl)) rfl rfl body

theorem spelledUnits_renumbered : RenumberedDocument "m" (docOf spelledUnits) (docOf duoUnits) := by
  refine .document rfl rfl (.keep (.keep (.keep (.skip (by decide) fun _ _ => rfl)))) rfl rfl ?_
  exact .cons (spelledUnit_renumbered _ _ _ _ _) (.cons (spelledUnit_renumbered _ _ _ _ _) .nil)

theorem nodesIn_spelledCall (id calleeId : Datum) (ty : Int) :
    nodesIn (.map (spelledCall id calleeId ty)) = [spelledCall id calleeId ty, spelledPath calleeId] := by
  have parts : partsOf (spelledCall id calleeId ty) = [.map (spelledPath calleeId)] := rfl
  have leaf : partsOf (spelledPath calleeId) = [] := rfl
  rw [nodesIn_of_map rfl, parts, List.flatMap_singleton, nodesIn_of_map rfl, leaf]
  rfl

theorem spelledUnits_numbers : List.Forall₂ HasNumber (documentNodes (docOf spelledUnits)) [1, 2, 3, 1] := by
  have nodes : documentNodes (docOf spelledUnits) =
      [.map (spelledCall (.float (.finite false 8556839292003942 (-52))) (.int 2) 2),
        .map (spelledCall (.text "3") (.text "1") 1)].flatMap nodesIn := rfl
  rw [nodes, List.flatMap_cons, List.flatMap_singleton, nodesIn_spelledCall, nodesIn_spelledCall]
  exact .cons ⟨_, rfl, rfl⟩ (.cons ⟨_, rfl, rfl⟩ (.cons ⟨_, rfl, rfl⟩ (.cons ⟨_, rfl, rfl⟩ .nil)))

/-- With other numbers the document loads. With its own it fails, for the callee in the second unit has the
number of the call in the first one. -/
theorem spelled_twice :
    crate "m" (docOf duoUnits) = .ok duoCrate ∧ (nodeNumbers duoCrate).Nodup ∧
    RenumberedDocument "m" (docOf spelledUnits) (docOf duoUnits) ∧
    List.Forall₂ HasNumber (documentNodes (docOf spelledUnits)) [1, 2, 3, 1] ∧
    crate "m" (docOf spelledUnits) = .error (.malformed (.duplicateNode 1)) := by
  obtain ⟨distinct, -, -⟩ := (loaded_numbers "m" (docOf duoUnits)).1 duoCrate duo_load
  obtain ⟨fails, first⟩ := (loaded_numbers "m" (docOf spelledUnits)).2 _ _ _ spelledUnits_renumbered duo_load
    spelledUnits_numbers
  obtain ⟨fault, failed⟩ := fails.2 (by decide)
  obtain ⟨before, id, after, rfl, split, new, old⟩ := first fault failed
  have repeated : id = 1 := by
    rcases before with _ | ⟨a, _ | ⟨b, _ | ⟨c, _ | ⟨d, rest⟩⟩⟩⟩
    all_goals simp at split old <;> omega
  exact ⟨duo_load, distinct, spelledUnits_renumbered, spelledUnits_numbers, repeated ▸ failed⟩

end ChainLint.Dump
