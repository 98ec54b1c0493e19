import ChainLint.PathTables
import ChainLint.Proofs.Histories
import ChainLint.Proofs.Reordering
import ChainLint.Proofs.RoundTrip
/-!
# Path tables follow the requests made of them

`tables_follow_requests`: what a table in use has is what was registered on it,
and on the tables it was copied from before it was copied. No two tables share
a dictionary (`PathTables.Sound`), so what is put into one shows nowhere else
(`PathTables.Sound.get?_put`). A request does one of six things
(`PathTables.serves_answer`), each of which keeps a history true
(`PathTables.Faithful.step`); a whole history is true by induction.
-/

namespace ChainLint

theorem Table.get?_eq_none_iff {κ α : Type} [DecidableEq κ] {t : Table κ α} {k : κ} :
    t.get? k = none ↔ k ∉ t.entries.map (·.1) := by
  rw [Table.get?]
  induction t.entries with
  | nil => simp
  | cons e rest ih =>
    obtain ⟨k', v⟩ := e
    by_cases h : k' = k
    · simp [Table.find?, h]
    · simp [Table.find?, h, ih, Ne.symm h]

/-! ## One registration -/

namespace PathTable

variable {t t' : PathTable} {path : SymbolPath} {tag : String}

/-- A table takes a path that is not empty and that it does not have, unless it is frozen. The new
entry comes last. -/
theorem register_eq_ok_iff :
    t.register path tag = .ok t' ↔ t.isFrozen = false ∧ path.segments ≠ [] ∧
      path ∉ t.entries.entries.map (·.1) ∧ t' = ⟨⟨t.entries.entries ++ [(path, tag)]⟩, t.isFrozen⟩ := by
  rw [← Table.get?_eq_none_iff, register, lookup]
  by_cases frozen : t.isFrozen
  · simp [frozen]
  · by_cases none : path.segments = []
    · simp [frozen, none]
    · cases known : t.entries.get? path with
      | some old => simp [frozen, none]
      | none =>
        have last : t.entries.insert path tag = ⟨t.entries.entries ++ [(path, tag)]⟩ :=
          congrArg Table.mk (Table.put_of_not_mem (Table.get?_eq_none_iff.1 known) tag)
        simp only [frozen, none, last, List.isEmpty_iff, if_false, Except.ok.injEq, ne_eq, not_false_iff, true_and,
          Bool.false_eq_true]
        exact eq_comm

theorem register_refused_iff :
    (∃ fault, t.register path tag = .error fault) ↔
      t.isFrozen = true ∨ path.segments = [] ∨ path ∈ t.entries.entries.map (·.1) := by
  have cases : (∃ fault, t.register path tag = .error fault) ↔ ¬∃ t', t.register path tag = .ok t' := by
    cases t.register path tag <;> simp
  rw [cases]
  simp only [register_eq_ok_iff, exists_and_left, exists_eq, and_true]
  rw [not_and_or, not_and_or, Bool.not_eq_false, not_not, not_not]

end PathTable

/-! ## Dictionaries -/

namespace PathTables

/-- Every table has a dictionary, and no two tables have the same. -/
structure Sound (s : PathTables) : Prop where
  inRange : ∀ handle ∈ s.handles, handle.dictionary < s.dictionaries.length
  apart : (s.handles.map (·.dictionary)).Nodup

variable {s s' : PathTables} {place : Nat} {t t' : PathTable}

theorem sound_empty : empty.Sound := ⟨nofun, List.nodup_nil⟩

theorem get?_eq_some_iff : s.get? place = some t ↔ ∃ handle, s.handles[place]? = some handle ∧
    ∃ entries, s.dictionaries[handle.dictionary]? = some entries ∧ t = ⟨entries, handle.isFrozen⟩ := by
  simp only [get?, Option.bind_eq_bind, Option.bind_eq_some_iff, Option.pure_def, Option.some.injEq, @eq_comm _ t]

theorem Sound.exists_get?_iff (h : s.Sound) : (∃ t, s.get? place = some t) ↔ place < s.handles.length := by
  constructor
  · rintro ⟨t, ht⟩
    obtain ⟨handle, hh, -⟩ := get?_eq_some_iff.1 ht
    exact (List.getElem?_eq_some_iff.1 hh).1
  · intro hp
    have inRange := h.inRange _ (List.getElem_mem hp)
    exact ⟨_, get?_eq_some_iff.2 ⟨_, List.getElem?_eq_getElem hp, _, List.getElem?_eq_getElem inRange, rfl⟩⟩

theorem Sound.get?_eq_none_iff (h : s.Sound) : s.get? place = none ↔ s.handles.length ≤ place := by
  have known : (∃ t, s.get? place = some t) ↔ place < s.handles.length := h.exists_get?_iff
  rw [← Option.isSome_iff_exists] at known
  rw [← Option.not_isSome_iff_eq_none, known, Nat.not_lt]

theorem Sound.add (h : s.Sound) (t : PathTable) : (s.add t).Sound where
  inRange := by
    simp only [PathTables.add, List.mem_append, List.mem_singleton, List.length_append, List.length_singleton]
    rintro handle (hm | rfl)
    · exact Nat.lt_succ_of_lt (h.inRange handle hm)
    · exact Nat.lt_succ_self _
  apart := by
    simp only [PathTables.add, List.map_append, List.map_singleton]
    refine List.Nodup.append h.apart (List.nodup_singleton _) ?_
    simp only [List.disjoint_singleton, List.mem_map, not_exists, not_and]
    intro handle hm
    exact Nat.ne_of_lt (h.inRange handle hm)

theorem Sound.get?_add (h : s.Sound) (t : PathTable) (place : Nat) :
    (s.add t).get? place = if place = s.handles.length then some t else s.get? place := by
  rcases Nat.lt_trichotomy place s.handles.length with lt | rfl | gt
  · have inRange := h.inRange _ (List.getElem_mem lt)
    rw [if_neg (Nat.ne_of_lt lt)]
    simp only [get?, PathTables.add, List.getElem?_append_left lt, List.getElem?_eq_getElem lt,
      Option.bind_eq_bind, Option.bind_some, List.getElem?_append_left inRange]
  · simp [get?, PathTables.add]
  · have unknown : s.get? place = none := h.get?_eq_none_iff.2 (Nat.le_of_lt gt)
    rw [if_neg (Nat.ne_of_gt gt), unknown, (h.add t).get?_eq_none_iff]
    rw [PathTables.add, List.length_append]
    exact gt

/-- A new table takes no place that is in use. -/
theorem Sound.get?_add_of_known (h : s.Sound) (known : s.get? place = some t) (t' : PathTable) :
    (s.add t').get? place = some t := by
  rw [h.get?_add, if_neg (Nat.ne_of_lt (h.exists_get?_iff.1 ⟨t, known⟩)), known]

theorem Sound.put (h : s.Sound) (place : Nat) (t : PathTable) : (s.put place t).Sound := by
  unfold PathTables.put
  split
  · exact h
  · next handle hh =>
    have same : (s.handles.set place { handle with isFrozen := t.isFrozen }).map (·.dictionary) =
        s.handles.map (·.dictionary) := by
      have kept : (s.handles.map (·.dictionary))[place]? = some handle.dictionary := by simp [hh]
      obtain ⟨hp, kept⟩ := List.getElem?_eq_some_iff.1 kept
      rw [List.map_set, ← kept, List.set_getElem_self]
    constructor
    · intro handle' hm
      have hd : handle'.dictionary ∈ s.handles.map (·.dictionary) := same ▸ List.mem_map_of_mem hm
      obtain ⟨old, hold, eq⟩ := List.mem_map.1 hd
      rw [List.length_set, ← eq]
      exact h.inRange old hold
    · rw [same]
      exact h.apart

/-- What is put into one table shows in no other one, as no other one has the same dictionary. -/
theorem Sound.get?_put (h : s.Sound) (known : s.get? place = some t) (t' : PathTable) (p : Nat) :
    (s.put place t').get? p = if p = place then some t' else s.get? p := by
  obtain ⟨handle, hh, entries, he, -⟩ := get?_eq_some_iff.1 known
  obtain ⟨hp, -⟩ := List.getElem?_eq_some_iff.1 hh
  obtain ⟨hd, -⟩ := List.getElem?_eq_some_iff.1 he
  by_cases same : p = place
  · subst same
    simp only [get?, PathTables.put, hh, List.getElem?_set_self hp, Option.bind_eq_bind, Option.bind_some,
      List.getElem?_set_self hd]
    rfl
  · rw [if_neg same]
    simp only [get?, PathTables.put, hh, List.getElem?_set_ne (Ne.symm same)]
    cases other : s.handles[p]? with
    | none => rfl
    | some handle' =>
      have apart : handle.dictionary ≠ handle'.dictionary := by
        intro eq
        have hp' : p < (s.handles.map (·.dictionary)).length := by
          rw [List.length_map]
          exact (List.getElem?_eq_some_iff.1 other).1
        exact same ((List.getElem?_inj hp' h.apart).1 (by simp [hh, other, eq]))
      simp [List.getElem?_set_ne apart]

/-! ## What a request does -/

/-- The six things that a request can come to. -/
inductive Serves (s : PathTables) : Request → Except UpdateFault Reply → PathTables → Prop
  | absent {r : Request} (unknown : s.get? r.place = none) : Serves s r (.error .absent) s
  | refused {place : Nat} {t : PathTable} {path : SymbolPath} {tag : String} {fault : RegistryFault}
    (known : s.get? place = some t) (refused : t.register path tag = .error fault) :
    Serves s (.register place path tag) (.error (.refused fault)) s
  | registered {place : Nat} {t t' : PathTable} {path : SymbolPath} {tag : String}
    (known : s.get? place = some t) (registered : t.register path tag = .ok t') :
    Serves s (.register place path tag) (.ok (.registered path)) (s.put place t')
  | frozen {place : Nat} {t : PathTable} (known : s.get? place = some t) :
    Serves s (.freeze place) (.ok .frozen) (s.put place t.freeze)
  | copied {place : Nat} {t : PathTable} (known : s.get? place = some t) :
    Serves s (.copy place) (.ok (.copied s.handles.length)) (s.add t.copy)
  | found {place : Nat} {t : PathTable} {path : Option SymbolPath} (known : s.get? place = some t) :
    Serves s (.lookup place path) (.ok (.found (path.bind t.lookup))) s

theorem table_on (known : s.get? place = some t) : (table place).on s = (.ok t, s) := Update.found_on known

theorem make_on (t : PathTable) (s : PathTables) : (make t).on s = (.ok s.handles.length, s.add t) := rfl

theorem register_on (known : s.get? place = some t) (path : SymbolPath) (tag : String) :
    (register place path tag).on s = match t.register path tag with
      | .ok t' => (.ok path, s.put place t')
      | .error fault => (.error (.refused fault), s) := by
  rw [register, Update.on_bind, table_on known]
  dsimp only
  cases t.register path tag <;> rfl

theorem freeze_on (known : s.get? place = some t) : (freeze place).on s = (.ok (), s.put place t.freeze) := by
  rw [freeze, Update.on_bind, table_on known]
  rfl

theorem copy_on (known : s.get? place = some t) :
    (copy place).on s = (.ok s.handles.length, s.add t.copy) := by
  rw [copy, Update.on_bind, table_on known]
  exact make_on t.copy s

theorem lookup_on (known : s.get? place = some t) (path : Option SymbolPath) :
    (lookup place path).on s = (.ok (path.bind t.lookup), s) := by
  rw [lookup, Update.on_bind, table_on known]
  rfl

theorem answer_absent {r : Request} (unknown : s.get? r.place = none) :
    (answer r).on s = (.error .absent, s) := by
  have absent : (table r.place).on s = (.error .absent, s) := Update.found_on_none unknown
  cases r <;> simp only [answer, register, freeze, copy, lookup, Update.on_bind, Request.place] at absent ⊢ <;>
    simp only [absent]

theorem serves_answer (s : PathTables) (r : Request) :
    Serves s r ((answer r).on s).1 ((answer r).on s).2 := by
  cases known : s.get? r.place with
  | none =>
    rw [answer_absent known]
    exact .absent known
  | some t =>
    cases r with
    | register place path tag =>
      dsimp only [Request.place] at known
      rw [answer, Update.on_bind, register_on known]
      cases done : t.register path tag with
      | ok t' => exact .registered known done
      | error fault => exact .refused known done
    | freeze place =>
      dsimp only [Request.place] at known
      rw [answer, Update.on_bind, freeze_on known]
      exact .frozen known
    | copy place =>
      dsimp only [Request.place] at known
      rw [answer, Update.on_bind, copy_on known]
      exact .copied known
    | lookup place path =>
      dsimp only [Request.place] at known
      rw [answer, Update.on_bind, lookup_on known]
      exact .found known

theorem Serves.unchanged {r : Request} {reply : Except UpdateFault Reply} (step : Serves s r reply s')
    (refused : reply.isOk = false) : s' = s := by
  cases step with
  | absent | refused | found => rfl
  | registered | frozen | copied => cases refused

theorem Serves.sound {r : Request} {reply : Except UpdateFault Reply} (step : Serves s r reply s')
    (h : s.Sound) : s'.Sound := by
  cases step with
  | absent | refused | found => exact h
  | registered | frozen => exact h.put _ _
  | copied => exact h.add _

/-- A table changes only by a registration on it or by freezing it, and once frozen not even then. -/
theorem Serves.keeps {r : Request} {reply : Except UpdateFault Reply} (step : Serves s r reply s') (h : s.Sound)
    (known : s.get? place = some t) (untouched : t.isFrozen = true ∨ r.changes place = false) :
    s'.get? place = some t := by
  cases step with
  | absent | refused | found => exact known
  | copied => exact h.get?_add_of_known known _
  | @registered target u u' path tag known' registered =>
    rw [h.get?_put known']
    split
    · next same =>
      subst same
      rw [known] at known'
      cases known'
      rcases untouched with frozen | other
      · rw [(PathTable.register_eq_ok_iff.1 registered).1] at frozen
        cases frozen
      · simp [Request.changes] at other
    · exact known
  | @frozen target u known' =>
    rw [h.get?_put known']
    split
    · next same =>
      subst same
      rw [known] at known'
      cases known'
      rcases untouched with frozen | other
      · rw [PathTable.freeze, ← frozen]
      · simp [Request.changes] at other
    · exact known

/-! ## Histories -/

/-- A request with its reply. -/
abbrev Event := Request × Except UpdateFault Reply

/-- The registrations that count for the table at a place, oldest first: those that succeeded on it
and, if it is a copy, those that counted for the other table when it was copied. The log has the latest
event first. -/
def registrations : List Event → Nat → List (SymbolPath × String)
  | [], _ => []
  | event :: earlier, place =>
    match event with
    | (.register target path tag, .ok _) =>
      if target = place then registrations earlier place ++ [(path, tag)] else registrations earlier place
    | (.copy source, .ok (.copied copy)) => registrations earlier (if copy = place then source else place)
    | _ => registrations earlier place

/-- What the log of a history says of the table at a place. -/
structure Describes (log : List Event) (place : Nat) (t : PathTable) : Prop where
  entries : t.entries.entries = registrations log place
  frozen : t.isFrozen = true ↔ (.freeze place, .ok .frozen) ∈ log
  nonempty : ∀ e ∈ t.entries.entries, e.1.segments ≠ []
  distinct : t.entries.DistinctKeys

/-- A history whose log describes the tables in use. There are those that requests made, and the first
one. -/
structure Faithful (h : History PathTables Request Reply) : Prop where
  sound : h.state.Sound
  describes : ∀ place t, h.state.get? place = some t → Describes h.log place t
  made : ∀ place, (∃ t, h.state.get? place = some t) ↔
    place = 0 ∨ ∃ source, (.copy source, .ok (.copied place)) ∈ h.log
  inUse : ∀ e ∈ h.log, e.2.isOk = true → ∃ t, h.state.get? e.1.place = some t

/-- One new table in use. -/
def fresh : History PathTables Request Reply := .start (empty.add .empty)

theorem Sound.exists_get?_put (h : s.Sound) (known : s.get? place = some t) (t' : PathTable) (p : Nat) :
    (∃ t, (s.put place t').get? p = some t) ↔ ∃ t, s.get? p = some t := by
  rw [h.get?_put known]
  by_cases same : p = place
  · simp [same, known]
  · simp [same]

/-- An event does not show in what the log says of a table. -/
structure Event.Spares (event : Event) (place : Nat) : Prop where
  registrations : ∀ log, registrations (event :: log) place = PathTables.registrations log place
  freezes : event ≠ (.freeze place, .ok .frozen)

theorem Describes.later {log : List Event} {event : Event} (h : Describes log place t)
    (spared : event.Spares place) : Describes (event :: log) place t where
  entries := by rw [spared.registrations, h.entries]
  frozen := by
    rw [h.frozen, List.mem_cons]
    exact ⟨.inr, fun hm => hm.resolve_left (Ne.symm spared.freezes)⟩
  nonempty := h.nonempty
  distinct := h.distinct

theorem faithful_fresh : Faithful fresh := by
  have one : ∀ place, (empty.add .empty).get? place = if place = 0 then some PathTable.empty else none := by
    intro place
    rw [sound_empty.get?_add]
    rfl
  refine ⟨sound_empty.add _, fun place t known => ?_, fun place => ?_, nofun⟩
  · rw [fresh, History.start, one] at known
    split at known
    · cases known
      exact ⟨rfl, by simp [fresh, History.start, PathTable.empty], nofun, List.nodup_nil⟩
    · cases known
  · rw [fresh, History.start, one]
    by_cases first : place = 0 <;> simp [first]

section
variable {log : List Event} {r : Request}

/-- The log goes on to describe the tables if an event leaves them as they are. -/
theorem Faithful.told {reply : Except UpdateFault Reply} (h : Faithful ⟨s, log⟩)
    (spared : ∀ p, Event.Spares (r, reply) p) (copies : ∀ p, reply ≠ .ok (.copied p))
    (served : reply.isOk = true → ∃ t, s.get? r.place = some t) : Faithful ⟨s, (r, reply) :: log⟩ where
  sound := h.sound
  describes p t hp := (h.describes p t hp).later (spared p)
  made p := by simpa [Ne.symm (copies p)] using h.made p
  inUse := List.forall_mem_cons.2 ⟨served, h.inUse⟩

/-- The log goes on to describe the tables if it describes the one that an event changes. -/
theorem Faithful.put {reply : Reply} (h : Faithful ⟨s, log⟩) (known : s.get? r.place = some t)
    (described : Describes ((r, .ok reply) :: log) r.place t')
    (spared : ∀ p ≠ r.place, Event.Spares (r, .ok reply) p) (copies : ∀ p, reply ≠ .copied p) :
    Faithful ⟨s.put r.place t', (r, .ok reply) :: log⟩ where
  sound := h.sound.put _ _
  describes := by
    intro p u hp
    dsimp only at hp
    rw [h.sound.get?_put known] at hp
    by_cases same : p = r.place
    · rw [if_pos same] at hp
      cases hp
      rwa [same]
    · rw [if_neg same] at hp
      exact (h.describes p u hp).later (spared p same)
  made p := by simpa [h.sound.exists_get?_put known, Ne.symm (copies p)] using h.made p
  inUse := by
    have here : ∃ t, s.get? r.place = some t := ⟨t, known⟩
    intro e hm accepted
    dsimp only
    rw [h.sound.exists_get?_put known]
    rcases List.mem_cons.1 hm with rfl | hm
    · exact here
    · exact h.inUse e hm accepted

/-- The log goes on to describe the tables if one is copied. -/
theorem Faithful.copied {place : Nat} (h : Faithful ⟨s, log⟩) (known : s.get? place = some t) :
    Faithful ⟨s.add t.copy, (.copy place, .ok (.copied s.handles.length)) :: log⟩ where
  sound := h.sound.add _
  describes := by
    intro p u hp
    dsimp only at hp
    rw [h.sound.get?_add] at hp
    by_cases same : p = s.handles.length
    · rw [if_pos same] at hp
      cases hp
      subst same
      obtain ⟨entries, -, nonempties, distinct⟩ := h.describes place t known
      refine ⟨by simp [registrations, entries, PathTable.copy], ?_, nonempties, distinct⟩
      -- nothing was asked of this place before, so it was not frozen
      have new : (Request.freeze s.handles.length, Except.ok Reply.frozen) ∉ log := by
        intro hm
        obtain ⟨u, hu⟩ := h.inUse _ hm rfl
        have unknown := h.sound.get?_eq_none_iff.2 (Nat.le_refl s.handles.length)
        dsimp only [Request.place] at hu
        rw [unknown] at hu
        cases hu
      simp [PathTable.copy, new]
    · rw [if_neg same] at hp
      exact (h.describes p u hp).later ⟨fun _ => by simp [registrations, Ne.symm same], nofun⟩
  made p := by
    dsimp only
    rw [h.sound.get?_add]
    by_cases same : p = s.handles.length
    · simp [same]
    · simpa [same] using h.made p
  inUse := by
    have kept : ∀ p, (∃ u, s.get? p = some u) → ∃ u, (s.add t.copy).get? p = some u :=
      fun p ⟨u, hu⟩ => ⟨u, h.sound.get?_add_of_known hu _⟩
    intro e hm accepted
    rcases List.mem_cons.1 hm with rfl | hm
    · exact kept place ⟨t, known⟩
    · exact kept _ (h.inUse e hm accepted)

/-- Whatever a request comes to, the log goes on to describe the tables in use. -/
theorem Faithful.step {reply : Except UpdateFault Reply} (h : Faithful ⟨s, log⟩) (step : Serves s r reply s') :
    Faithful ⟨s', (r, reply) :: log⟩ := by
  cases step with
  | absent unknown =>
    refine h.told (fun p => ⟨fun _ => ?_, nofun⟩) nofun nofun
    cases r <;> rfl
  | refused known refused => exact h.told (fun p => ⟨fun _ => rfl, nofun⟩) nofun nofun
  | found known => exact h.told (fun p => ⟨fun _ => rfl, nofun⟩) nofun fun _ => ⟨_, known⟩
  | @registered place t t' path tag known registered =>
    obtain ⟨unfrozen, nonempty, new, rfl⟩ := PathTable.register_eq_ok_iff.1 registered
    obtain ⟨entries, frozen, nonempties, distinct⟩ := h.describes place t known
    refine h.put (r := .register place path tag) known ⟨?_, ?_, ?_, ?_⟩ (fun p other => ⟨fun _ => ?_, nofun⟩) nofun
    · simp [registrations, Request.place, entries]
    · simpa [Request.place] using frozen
    · simpa [or_imp, forall_and, nonempty] using nonempties
    · have keys := distinct.append (List.nodup_singleton path) (by simpa using new)
      simpa [Table.DistinctKeys] using keys
    · exact if_neg (Ne.symm other)
  | @frozen place t known =>
    obtain ⟨entries, -, nonempties, distinct⟩ := h.describes place t known
    refine h.put (r := .freeze place) known ⟨entries, ?_, nonempties, distinct⟩
      (fun p other => ⟨fun _ => rfl, ?_⟩) nofun
    · simp [PathTable.freeze, Request.place]
    · intro same
      cases same
      exact other rfl
  | copied known => exact h.copied known

end

theorem Faithful.serve {h : History PathTables Request Reply} (faithful : Faithful h) (r : Request) :
    Faithful (h.serve answer r) :=
  faithful.step (serves_answer h.state r)

/-- What requests do not touch stays as it is. -/
theorem get?_serveAll {h : History PathTables Request Reply} (sound : h.state.Sound)
    (known : h.state.get? place = some t) {rs : List Request}
    (untouched : t.isFrozen = true ∨ ∀ r ∈ rs, r.changes place = false) :
    (h.serveAll answer rs).state.get? place = some t := by
  induction rs generalizing h with
  | nil => exact known
  | cons r rest ih =>
    have step := serves_answer h.state r
    refine ih (step.sound sound) (step.keeps sound known ?_) ?_
    · exact untouched.imp_right fun u => u r List.mem_cons_self
    · exact untouched.imp_right fun u r' hr => u r' (List.mem_cons_of_mem _ hr)

/-- After any requests there are the first table and the copies that were made, and each has what was
registered on it, or on another one before it was copied from there, in that order. Look-ups give the tags
of these registrations and nothing else. A registration is refused if the table is frozen or the path
is empty or known. A copy is a new table with the same entries, which is not frozen. Requests that are
not about a table leave it as it is, and once it is frozen all requests do. The refused requests may
be left out of the history. -/
theorem tables_follow_requests (requests : List Request) :
    let h := fresh.serveAll answer requests
    let reply (r : Request) := ((answer r).on h.state).1
    (∀ place, (∃ t, h.state.get? place = some t) ↔
      place = 0 ∨ ∃ source, (.copy source, .ok (.copied place)) ∈ h.log) ∧
    (∀ place t, h.state.get? place = some t →
      Describes h.log place t ∧
      (∀ path tag, reply (.lookup place (some path)) = .ok (.found (some tag)) ↔
        (path, tag) ∈ registrations h.log place) ∧
      (∀ path, reply (.lookup place (some path)) = .ok (.found none) ↔
        ∀ tag, (path, tag) ∉ registrations h.log place) ∧
      reply (.lookup place none) = .ok (.found none) ∧
      (∀ path tag, (∃ fault, reply (.register place path tag) = .error fault) ↔
        t.isFrozen = true ∨ path.segments = [] ∨ path ∈ (registrations h.log place).map (·.1)) ∧
      (∃ copy, reply (.copy place) = .ok (.copied copy) ∧ h.state.get? copy = none ∧
        (h.serve answer (.copy place)).state.get? copy = some ⟨t.entries, false⟩) ∧
      ∀ later, (t.isFrozen = true ∨ ∀ r ∈ later, r.changes place = false) →
        (h.serveAll answer later).state.get? place = some t) ∧
    fresh.serveAll answer (History.accepted h.log) = ⟨h.state, h.log.filter fun e => e.2.isOk⟩ := by
  intro h reply
  obtain ⟨sound, describes, made, -⟩ : Faithful h :=
    History.serveAll_keeps (fun h r faithful => faithful.serve r) faithful_fresh requests
  refine ⟨made, fun place t known => ?_, History.serveAll_accepted (fun s r => (serves_answer s r).unchanged) _ _⟩
  have described := describes place t known
  have found : ∀ path, reply (.lookup place path) = .ok (.found (path.bind t.lookup)) := fun path => by
    show ((answer _).on h.state).1 = _
    rw [answer, Update.on_bind, lookup_on known]
    rfl
  have lookup : ∀ path tag, t.lookup path = some tag ↔ (path, tag) ∈ registrations h.log place := by
    intro path tag
    rw [← described.entries]
    exact Table.find?_eq_some_iff described.distinct
  refine ⟨described, fun path tag => ?_, fun path => ?_, found none, fun path tag => ?_, ?_,
    fun later untouched => ?_⟩
  · simp [found, lookup]
  · simp [found, ← lookup, Option.eq_none_iff_forall_ne_some]
  · rw [← described.entries, ← PathTable.register_refused_iff]
    show (∃ fault, ((answer _).on h.state).1 = .error fault) ↔ _
    rw [answer, Update.on_bind, register_on known]
    cases t.register path tag <;> simp
  · refine ⟨h.state.handles.length, ?_, sound.get?_eq_none_iff.2 (Nat.le_refl _), ?_⟩
    · show ((answer _).on h.state).1 = _
      rw [answer, Update.on_bind, copy_on known]
      rfl
    · show ((answer _).on h.state).2.get? _ = _
      rw [answer, Update.on_bind, copy_on known]
      exact (sound.get?_add _ _).trans (if_pos rfl)
  · exact get?_serveAll sound known untouched

/-- A copy of a table and the table itself go apart. -/
example :
    let a : SymbolPath := ⟨["a"]⟩
    let b : SymbolPath := ⟨["b"]⟩
    (fresh.serveAll answer [.register 0 a "x", .copy 0, .freeze 0, .register 1 b "y", .register 0 b "y",
      .lookup 0 (some b), .lookup 1 (some a)]).log.reverse.map (·.2) =
      [.ok (.registered a), .ok (.copied 1), .ok .frozen, .ok (.registered b), .error (.refused .frozen),
        .ok (.found none), .ok (.found (some "x"))] := rfl

end PathTables

end ChainLint
