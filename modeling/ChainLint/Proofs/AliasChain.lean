import ChainLint.Tree.Resolve
/-!
# Chains of aliases

`Leads` says where targets lead, without any search. `chase_eq_iff`: the search
ends where the chain does, after passing aliases of distinct numbers, with the
fault or the declaration found there. So it fails exactly on chains that come to
a missing number, to an alias without target, or back to an alias they passed
(`declarationOf_error_iff`), and finds the declaration at the end of all others
(`declarationOf_ok_iff`).
-/

namespace ChainLint

/-- From the first number, following targets passes some aliases and comes to the second number. -/
inductive Leads (t : Table Int Declaration) : Int → List Declaration → Int → Prop
  | here (id : Int) : Leads t id [] id
  | via {id next last : Int} {a : Declaration} {passed : List Declaration}
      (entry : t.get? id = some a) (isAlias : a.isAlias = true) (target : a.target = some next)
      (rest : Leads t next passed last) : Leads t id (a :: passed) last

/-- The chain from a number ends at a declaration that is no alias. -/
def EndsAt (t : Table Int Declaration) (id : Int) (d : Declaration) : Prop :=
  ∃ passed last, Leads t id passed last ∧ t.get? last = some d ∧ d.isAlias = false

/-- The chain from a number comes to a number that the table lacks. -/
def MeetsMissing (t : Table Int Declaration) (id : Int) : Prop :=
  ∃ passed last, Leads t id passed last ∧ t.get? last = none

/-- The chain from a number comes to an alias without a target. -/
def MeetsOpenAlias (t : Table Int Declaration) (id : Int) : Prop :=
  ∃ passed last a, Leads t id passed last ∧ t.get? last = some a ∧ a.isAlias = true ∧ a.target = none

/-- The chain from a number comes to an alias that it passed before, as its number tells. -/
def MeetsCycle (t : Table Int Declaration) (id : Int) : Prop :=
  ∃ passed last a, Leads t id passed last ∧ t.get? last = some a ∧ a.isAlias = true ∧
    a.id ∈ passed.map (·.id)

/-- The chain from a number goes wrong in one of the three ways. -/
def Broken (t : Table Int Declaration) (id : Int) : Prop :=
  MeetsMissing t id ∨ MeetsOpenAlias t id ∨ MeetsCycle t id

variable {t : Table Int Declaration}

/-! ## Two stretches of one chain -/

theorem Leads.trans {id mid last : Int} {p q : List Declaration} (h : Leads t id p mid)
    (h' : Leads t mid q last) : Leads t id (p ++ q) last := by
  induction h with
  | here id => exact h'
  | via entry isAlias target _ ih => exact .via entry isAlias target (ih h')

theorem Leads.split {id last : Int} {p q : List Declaration} (h : Leads t id (p ++ q) last) :
    ∃ mid, Leads t id p mid ∧ Leads t mid q last := by
  induction p generalizing id with
  | nil => exact ⟨id, .here id, h⟩
  | cons a p ih =>
    cases h with
    | via entry isAlias target rest =>
      obtain ⟨mid, h₁, h₂⟩ := ih rest
      exact ⟨mid, .via entry isAlias target h₁, h₂⟩

/-- Of two stretches from one number, one goes on from where the other ends. -/
theorem Leads.total {id l l' : Int} {p p' : List Declaration} (h : Leads t id p l)
    (h' : Leads t id p' l') :
    (∃ q, p' = p ++ q ∧ Leads t l q l') ∨ (∃ q, p = p' ++ q ∧ Leads t l' q l) := by
  induction h generalizing p' with
  | here id => exact .inl ⟨p', rfl, h'⟩
  | via entry isAlias target rest ih =>
    cases h' with
    | here id => exact .inr ⟨_, rfl, .via entry isAlias target rest⟩
    | via entry' isAlias' target' rest' =>
      -- both stretches take the one step there is
      rw [entry] at entry'
      cases entry'
      rw [target] at target'
      cases target'
      rcases ih rest' with ⟨q, rfl, hq⟩ | ⟨q, rfl, hq⟩
      · exact .inl ⟨q, rfl, hq⟩
      · exact .inr ⟨q, rfl, hq⟩

/-- Where a stretch goes on there is an alias. -/
theorem Leads.alias_of_ne_nil {id last : Int} {p : List Declaration} (h : Leads t id p last)
    (hp : p ≠ []) : ∃ a rest, p = a :: rest ∧ t.get? id = some a ∧ a.isAlias = true ∧ a.target.isSome := by
  cases h with
  | here id => exact absurd rfl hp
  | via entry isAlias target _ => exact ⟨_, _, rfl, entry, isAlias, by simp [target]⟩

/-! ## How the search ends -/

/-- What the search answers at a number, given the numbers of the aliases passed. -/
inductive ChainEnd (t : Table Int Declaration) (seen : List Int) (last : Int) :
    Except Malformed Declaration → Prop
  | missing (entry : t.get? last = none) : ChainEnd t seen last (.error (.missingDeclaration last))
  | cycle {a : Declaration} (entry : t.get? last = some a) (isAlias : a.isAlias = true)
      (again : a.id ∈ seen) : ChainEnd t seen last (.error (.aliasCycle a.path))
  | openAlias {a : Declaration} (entry : t.get? last = some a) (isAlias : a.isAlias = true)
      (new : a.id ∉ seen) (target : a.target = none) :
      ChainEnd t seen last (.error (.aliasWithoutTarget a.kind a.path))
  | found {d : Declaration} (entry : t.get? last = some d) (noAlias : d.isAlias = false) :
      ChainEnd t seen last (.ok d)

/-- Aliases of distinct numbers, none of which was seen. -/
def Fresh (seen : List Int) (passed : List Declaration) : Prop :=
  (passed.map (·.id)).Nodup ∧ ∀ a ∈ passed, a.id ∉ seen

theorem fresh_cons {seen : List Int} {a : Declaration} {passed : List Declaration} :
    Fresh seen (a :: passed) ↔ a.id ∉ seen ∧ Fresh (a.id :: seen) passed := by
  simp only [Fresh, List.map_cons, List.nodup_cons, List.mem_map, List.mem_cons, forall_eq_or_imp]
  grind

theorem chainEnd_congr {seen seen' : List Int} {last : Int} {r : Except Malformed Declaration}
    (h : ∀ i, i ∈ seen ↔ i ∈ seen') (he : ChainEnd t seen last r) : ChainEnd t seen' last r := by
  cases he with
  | missing entry => exact .missing entry
  | cycle entry isAlias again => exact .cycle entry isAlias ((h _).1 again)
  | openAlias entry isAlias new target => exact .openAlias entry isAlias (mt (h _).2 new) target
  | found entry noAlias => exact .found entry noAlias

theorem chase_of_chainEnd {seen : List Int} {last : Int} {r : Except Malformed Declaration}
    (h : ChainEnd t seen last r) : chase t seen last = r := by
  cases h with
  | missing entry => rw [chase]; split <;> simp_all
  | cycle entry isAlias again => rw [chase]; split <;> simp_all
  | openAlias entry isAlias new target => rw [chase]; split <;> simp_all
  | found entry noAlias => rw [chase]; split <;> simp_all

theorem chase_via {seen : List Int} {id next : Int} {a : Declaration} (entry : t.get? id = some a)
    (isAlias : a.isAlias = true) (new : a.id ∉ seen) (target : a.target = some next) :
    chase t seen id = chase t (a.id :: seen) next := by
  rw [chase]
  split <;> simp_all

theorem mem_seen_cons {seen : List Int} {a : Declaration} {passed : List Declaration} (i : Int) :
    i ∈ passed.map (·.id) ++ a.id :: seen ↔ i ∈ (a :: passed).map (·.id) ++ seen := by
  simp only [List.mem_append, List.mem_cons, List.map_cons]
  rw [or_left_comm, or_assoc]

/-- The search ends where the chain does. The induction is on the search: what it saw before it
came to a number is what the caller saw, and the aliases passed since. -/
theorem exists_chainEnd (seen : List Int) (id : Int) : ∃ passed last, Leads t id passed last ∧
    Fresh seen passed ∧ ChainEnd t (passed.map (·.id) ++ seen) last (chase t seen id) := by
  have stop : ∀ {seen id r}, ChainEnd t seen id r → ∃ passed last, Leads t id passed last ∧
      Fresh seen passed ∧ ChainEnd t (passed.map (·.id) ++ seen) last r :=
    fun h => ⟨[], _, .here _, by simp [Fresh], h⟩
  fun_induction chase t seen id with
  | case1 seen id entry => exact stop (.missing entry)
  | case2 seen id a entry isAlias again => exact stop (.cycle entry isAlias (by simpa using again))
  | case3 seen id a entry isAlias new target =>
    exact stop (.openAlias entry isAlias (by simpa using new) target)
  | case4 seen id a entry isAlias new next target ih =>
    obtain ⟨passed, last, leads, fresh, ends⟩ := ih
    exact ⟨a :: passed, last, .via entry isAlias target leads,
      fresh_cons.2 ⟨by simpa using new, fresh⟩, chainEnd_congr mem_seen_cons ends⟩
  | case5 seen id d entry noAlias => exact stop (.found entry (by simpa using noAlias))

theorem chase_eq_iff {seen : List Int} {id : Int} {r : Except Malformed Declaration} :
    chase t seen id = r ↔ ∃ passed last, Leads t id passed last ∧ Fresh seen passed ∧
      ChainEnd t (passed.map (·.id) ++ seen) last r := by
  constructor
  · rintro rfl
    exact exists_chainEnd seen id
  · rintro ⟨passed, last, leads, fresh, ends⟩
    induction leads generalizing seen with
    | here id => exact chase_of_chainEnd (by simpa using ends)
    | via entry isAlias target _ ih =>
      obtain ⟨new, fresh⟩ := fresh_cons.1 fresh
      rw [chase_via entry isAlias new target]
      exact ih fresh (chainEnd_congr (fun i => (mem_seen_cons i).symm) ends)

/-! ## What is found, and when nothing is -/

variable {c : Crate}

theorem declarationOf_eq_iff {id : Int} {r : Except Malformed Declaration} :
    c.declarationOf id = r ↔ ∃ passed last, Leads c.declarations id passed last ∧
      (passed.map (·.id)).Nodup ∧ ChainEnd c.declarations (passed.map (·.id)) last r := by
  simp [Crate.declarationOf, chase_eq_iff, Fresh]

/-- No chain that ends at a declaration comes to anything else but the aliases before it. -/
theorem Leads.before_end {id last k : Int} {p q : List Declaration} {d : Declaration}
    (h : Leads t id p last) (entry : t.get? last = some d) (noAlias : d.isAlias = false)
    (h' : Leads t id q k) :
    (q = p ∧ k = last) ∨ ∃ a rest, p = q ++ a :: rest ∧ t.get? k = some a ∧ a.isAlias = true ∧
      a.target.isSome := by
  rcases h.total h' with ⟨rest, rfl, hr⟩ | ⟨rest, rfl, hr⟩
  · cases hr with
    | here => exact .inl ⟨List.append_nil p, rfl⟩
    | via entry' isAlias _ _ =>
      rw [entry] at entry'
      cases entry'
      rw [noAlias] at isAlias
      cases isAlias
  · by_cases hn : rest = []
    · subst hn
      cases hr
      exact .inl ⟨(List.append_nil q).symm, rfl⟩
    · obtain ⟨a, rest', rfl, entry', isAlias, target⟩ := hr.alias_of_ne_nil hn
      exact .inr ⟨a, rest', rfl, entry', isAlias, target⟩

/-- A chain that passes aliases of distinct numbers to its end goes wrong in no way. -/
theorem not_broken_of_end {id last : Int} {passed : List Declaration} {d : Declaration}
    (h : Leads t id passed last) (hn : (passed.map (·.id)).Nodup) (entry : t.get? last = some d)
    (noAlias : d.isAlias = false) : ¬Broken t id := by
  rintro (⟨q, k, hq, hk⟩ | ⟨q, k, a, hq, hk, ha, ht⟩ | ⟨q, k, a, hq, hk, ha, hm⟩)
  · rcases h.before_end entry noAlias hq with ⟨-, rfl⟩ | ⟨b, rest, -, hb, -⟩ <;> simp_all
  · rcases h.before_end entry noAlias hq with ⟨-, rfl⟩ | ⟨b, rest, -, hb, -, htb⟩ <;> simp_all
  · rcases h.before_end entry noAlias hq with ⟨-, rfl⟩ | ⟨b, rest, hp, hb, -⟩
    · simp_all
    · -- the alias met again is one of those before the end, which are distinct
      rw [hk] at hb
      cases hb
      rw [hp, List.map_append, List.map_cons, List.nodup_append] at hn
      exact hn.2.2 _ hm _ List.mem_cons_self rfl

theorem declarationOf_error_iff {id : Int} :
    (∃ fault, c.declarationOf id = .error fault) ↔ Broken c.declarations id := by
  obtain ⟨passed, last, leads, nodup, ends⟩ := declarationOf_eq_iff.1 (rfl : c.declarationOf id = _)
  generalize c.declarationOf id = r at ends
  cases ends with
  | missing entry => exact ⟨fun _ => .inl ⟨passed, last, leads, entry⟩, fun _ => ⟨_, rfl⟩⟩
  | cycle entry isAlias again =>
    exact ⟨fun _ => .inr (.inr ⟨passed, last, _, leads, entry, isAlias, again⟩), fun _ => ⟨_, rfl⟩⟩
  | openAlias entry isAlias new target =>
    exact ⟨fun _ => .inr (.inl ⟨passed, last, _, leads, entry, isAlias, target⟩), fun _ => ⟨_, rfl⟩⟩
  | found entry noAlias =>
    exact ⟨by simp, fun hb => absurd hb (not_broken_of_end leads nodup entry noAlias)⟩

theorem declarationOf_ok_iff {id : Int} {d : Declaration} :
    c.declarationOf id = .ok d ↔ ¬Broken c.declarations id ∧ EndsAt c.declarations id d := by
  constructor
  · intro h
    obtain ⟨passed, last, leads, nodup, ends⟩ := declarationOf_eq_iff.1 h
    cases ends with
    | found entry noAlias =>
      exact ⟨not_broken_of_end leads nodup entry noAlias, passed, last, leads, entry, noAlias⟩
  · rintro ⟨hb, passed, last, leads, entry, noAlias⟩
    cases h : c.declarationOf id with
    | error fault => exact absurd (declarationOf_error_iff.1 ⟨fault, h⟩) hb
    | ok d' =>
      obtain ⟨passed', last', leads', -, ends'⟩ := declarationOf_eq_iff.1 h
      cases ends' with
      | found entry' noAlias' =>
        rcases leads.before_end entry noAlias leads' with ⟨-, rfl⟩ | ⟨a, rest, -, ha, isAlias, -⟩ <;>
          simp_all

/-! ## Cycles -/

/-- Where declarations are listed under their own numbers, a chain meets a cycle if and only if it
comes to a number from which it leads back to that number. -/
theorem meetsCycle_iff (ht : ∀ k d, t.get? k = some d → d.id = k) (id : Int) :
    MeetsCycle t id ↔
      ∃ passed k loop, Leads t id passed k ∧ loop ≠ [] ∧ Leads t k loop k := by
  constructor
  · rintro ⟨passed, k, a, leads, entry, -, again⟩
    obtain ⟨b, hb, hid⟩ := List.mem_map.1 again
    obtain ⟨before, after, rfl⟩ := List.append_of_mem hb
    -- the loop is the stretch from where the alias was passed to where it is met again
    obtain ⟨mid, h₁, h₂⟩ := leads.split
    refine ⟨before, mid, b :: after, h₁, by simp, ?_⟩
    cases h₂ with
    | via entry' isAlias target rest =>
      have hk : k = mid := by rw [← ht _ _ entry, ← ht _ _ entry', hid]
      subst hk
      exact .via entry' isAlias target rest
  · rintro ⟨passed, k, loop, leads, hne, back⟩
    obtain ⟨a, rest, rfl, entry, isAlias, -⟩ := back.alias_of_ne_nil hne
    exact ⟨passed ++ a :: rest, k, a, leads.trans back, entry, isAlias, by simp⟩

end ChainLint
