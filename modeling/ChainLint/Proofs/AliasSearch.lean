import ChainLint.Proofs.AliasChain
import Mathlib.Data.List.Nodup
import Mathlib.Data.List.Perm.Subperm
/-!
# How the search along aliases ends

`chase_follows_chain`: where declarations are listed under their own numbers,
the search answers after passing no more aliases than the table has, and the
answer tells how the chain of targets turns out: it ends at a declaration, comes
to a number that the table lacks or to an alias without a target, or goes on for
ever. The last is told as a cycle through the first declaration on the chain
that occurs twice. That is the one at which the search stops: whatever occurs
twice lies on the cycle (`Recurs.leads_back`, `Leads.subset_loop`), and the
search passes nothing on the cycle before it enters there.
-/

namespace ChainLint

/-! ## The search pass by pass -/

/-- A moment of the search: the numbers of the aliases passed, and the number to look up. -/
structure Pursuit where
  seen : List Int
  next : Int

namespace Pursuit

/-- The search answers, or it passes an alias and goes on to its target. -/
def turn (t : Table Int Declaration) (p : Pursuit) : Except Malformed Declaration ⊕ Pursuit :=
  match t.get? p.next with
  | none => .inl (.error (.missingDeclaration p.next))
  | some d =>
    if d.isAlias then
      if p.seen.contains d.id then .inl (.error (.aliasCycle d.path))
      else
        match d.target with
        | none => .inl (.error (.aliasWithoutTarget d.kind d.path))
        | some target => .inr ⟨d.id :: p.seen, target⟩
    else .inl (.ok d)

/-- The answer of the search, if it passes no more than so many aliases. -/
def within (t : Table Int Declaration) : Nat → Pursuit → Option (Except Malformed Declaration)
  | passes, p =>
    match p.turn t with
    | .inl answer => some answer
    | .inr q =>
      match passes with
      | 0 => none
      | passes + 1 => within t passes q

end Pursuit

/-- How many entries of a table are aliases. -/
def aliasCount (t : Table Int Declaration) : Nat := t.entries.countP fun e => e.2.isAlias

/-! ## How chains turn out -/

/-- The chain from a number comes back to it. -/
def Recurs (t : Table Int Declaration) (id : Int) : Prop := ∃ loop, loop ≠ [] ∧ Leads t id loop id

/-- The chain from a number goes on for ever: it passes as many aliases as one likes. -/
def Endless (t : Table Int Declaration) (id : Int) : Prop :=
  ∀ n, ∃ passed last, Leads t id passed last ∧ passed.length = n

/-- The four ways in which a chain can turn out. -/
inductive Fate
  | declared
  | missing
  | openAlias
  | endless
deriving DecidableEq

/-- What the chain from a number comes to, and what is to be answered then. -/
inductive ComesTo (t : Table Int Declaration) (id : Int) : Fate → Except String Declaration → Prop
  | declaration {d : Declaration} (ends : EndsAt t id d) : ComesTo t id .declared (.ok d)
  | missing {passed : List Declaration} {last : Int} (leads : Leads t id passed last)
      (lacks : t.get? last = none) : ComesTo t id .missing (.error s!"def id {last} is not in the def table")
  | openAlias {passed : List Declaration} {last : Int} {a : Declaration} (leads : Leads t id passed last)
      (entry : t.get? last = some a) (isAlias : a.isAlias = true) (target : a.target = none) :
      ComesTo t id .openAlias (.error (a.kind ++ " '" ++ joinPath a.path ++ "' has no target"))
  /-- A cycle, told by the first declaration on the chain that occurs twice. -/
  | cycle {before : List Declaration} {first : Int} {a : Declaration} (leads : Leads t id before first)
      (entry : t.get? first = some a) (twice : Recurs t first) (once : ∀ b ∈ before, ¬Recurs t b.id) :
      ComesTo t id .endless (.error ("alias cycle through '" ++ joinPath a.path ++ "'"))

namespace Fate

/-- The chain from a number turns out this way. -/
def Of (t : Table Int Declaration) (id : Int) : Fate → Prop
  | declared => ∃ d, EndsAt t id d
  | missing => MeetsMissing t id
  | openAlias => MeetsOpenAlias t id
  | endless => Endless t id

/-- The answer reads as for chains that turn out this way, whatever chain it is for. -/
def Reads (answer : Except String Declaration) : Fate → Prop
  | declared => ∃ d, answer = .ok d
  | missing => ∃ id : Int, answer = .error s!"def id {id} is not in the def table"
  | openAlias => ∃ kind path, answer = .error (kind ++ " '" ++ path ++ "' has no target")
  | endless => ∃ path, answer = .error ("alias cycle through '" ++ path ++ "'")

end Fate

variable {t : Table Int Declaration}

/-! ## How often the search goes on -/

/-- The search is made of turns. -/
theorem chase_eq_turn (p : Pursuit) : chase t p.seen p.next =
    match p.turn t with
    | .inl answer => answer
    | .inr q => chase t q.seen q.next := by
  rw [chase, Pursuit.turn]
  cases entry : t.get? p.next with
  | none => simp
  | some d =>
    by_cases isAlias : d.isAlias = true
    · by_cases again : d.id ∈ p.seen
      · simp [isAlias, again]
      · cases target : d.target <;> simp [isAlias, again, target]
    · simp [isAlias]

theorem turn_of_chainEnd {seen : List Int} {last : Int} {r : Except Malformed Declaration}
    (h : ChainEnd t seen last r) : Pursuit.turn t ⟨seen, last⟩ = .inl r := by
  unfold Pursuit.turn
  cases h with
  | missing entry => simp only [entry]
  | cycle entry isAlias again => simp only [entry, isAlias, if_true, List.contains_iff_mem, again]
  | openAlias entry isAlias new target =>
    simp only [entry, isAlias, if_true, List.contains_iff_mem, new, if_false, target]
  | found entry noAlias => simp only [entry, noAlias, Bool.false_eq_true, if_false]

theorem turn_via {seen : List Int} {id next : Int} {a : Declaration} (entry : t.get? id = some a)
    (isAlias : a.isAlias = true) (new : a.id ∉ seen) (target : a.target = some next) :
    Pursuit.turn t ⟨seen, id⟩ = .inr ⟨a.id :: seen, next⟩ := by
  simp only [Pursuit.turn, entry, isAlias, if_true, List.contains_iff_mem, new, if_false, target]

/-- Each alias on the chain takes one pass. -/
theorem within_of_leads {seen : List Int} {id last : Int} {passed : List Declaration}
    {r : Except Malformed Declaration} {n : Nat} (leads : Leads t id passed last) (fresh : Fresh seen passed)
    (ends : ChainEnd t (passed.map (·.id) ++ seen) last r) (room : passed.length ≤ n) :
    Pursuit.within t n ⟨seen, id⟩ = some r := by
  induction leads generalizing seen n with
  | here id =>
    rw [Pursuit.within, turn_of_chainEnd (by simpa using ends)]
  | @via id next last a passed entry isAlias target _ ih =>
    obtain ⟨new, fresh⟩ := fresh_cons.1 fresh
    cases n with
    | zero => exact absurd room (Nat.not_succ_le_zero passed.length)
    | succ n =>
      rw [Pursuit.within, turn_via entry isAlias new target]
      exact ih fresh (chainEnd_congr (fun i => (mem_seen_cons i).symm) ends) (Nat.le_of_succ_le_succ room)

theorem Leads.subset_aliases {id last : Int} {passed : List Declaration} (h : Leads t id passed last) :
    passed ⊆ (t.entries.filter fun e => e.2.isAlias).map (·.2) := by
  induction h with
  | here id => exact List.nil_subset _
  | via entry isAlias _ _ ih =>
    obtain ⟨e, he, rfl⟩ := Table.mem_of_get? entry
    exact List.cons_subset.2 ⟨List.mem_map.2 ⟨e, List.mem_filter.2 ⟨he, isAlias⟩, rfl⟩, ih⟩

/-- Aliases of distinct numbers on a chain are distinct entries of the table. -/
theorem Leads.length_le_aliasCount {id last : Int} {passed : List Declaration} (h : Leads t id passed last)
    (distinct : (passed.map (·.id)).Nodup) : passed.length ≤ aliasCount t := by
  have le := (List.subperm_of_subset (List.Nodup.of_map _ distinct) h.subset_aliases).length_le
  rwa [List.length_map, ← List.countP_eq_length_filter] at le

theorem within_aliasCount (c : Crate) (id : Int) :
    Pursuit.within c.declarations (aliasCount c.declarations) ⟨[], id⟩ = some (c.declarationOf id) := by
  obtain ⟨passed, last, leads, distinct, ends⟩ := declarationOf_eq_iff.1 (rfl : c.declarationOf id = _)
  exact within_of_leads leads ⟨distinct, by simp⟩ (by simpa using ends) (leads.length_le_aliasCount distinct)

/-! ## Chains that stop -/

/-- Nothing follows on a chain that comes to this number. -/
def Stops (t : Table Int Declaration) (id : Int) : Prop :=
  ∀ a, t.get? id = some a → a.isAlias = true → a.target = none

theorem stops_of_missing {id : Int} (lacks : t.get? id = none) : Stops t id := by
  intro a entry
  rw [lacks] at entry
  cases entry

theorem stops_of_entry {id : Int} {d : Declaration} (entry : t.get? id = some d)
    (h : d.isAlias = true → d.target = none) : Stops t id := by
  intro a entry'
  rw [entry] at entry'
  cases entry'
  exact h

theorem stops_of_end {id : Int} {d : Declaration} (entry : t.get? id = some d) (noAlias : d.isAlias = false) :
    Stops t id := by
  refine stops_of_entry entry fun isAlias => ?_
  rw [noAlias] at isAlias
  cases isAlias

theorem Leads.length_le_of_stops {id last k : Int} {p q : List Declaration} (h : Leads t id p last)
    (stops : Stops t last) (h' : Leads t id q k) : q.length ≤ p.length := by
  rcases h.total h' with ⟨rest, rfl, hr⟩ | ⟨rest, rfl, -⟩
  · cases hr with
    | here => simp
    | via entry isAlias target _ =>
      rw [stops _ entry isAlias] at target
      cases target
  · simp

theorem Leads.not_endless {id last : Int} {p : List Declaration} (h : Leads t id p last)
    (stops : Stops t last) : ¬Endless t id := by
  intro endless
  obtain ⟨q, k, hq, length⟩ := endless (p.length + 1)
  have := h.length_le_of_stops stops hq
  omega

/-! ## Chains that come back -/

theorem Recurs.longer {id : Int} (h : Recurs t id) (n : Nat) : ∃ q, Leads t id q id ∧ n ≤ q.length := by
  obtain ⟨loop, hne, back⟩ := h
  induction n with
  | zero => exact ⟨[], .here id, Nat.le_refl 0⟩
  | succ n ih =>
    obtain ⟨q, hq, long⟩ := ih
    have := List.length_pos_iff.2 hne
    exact ⟨loop ++ q, back.trans hq, by rw [List.length_append]; omega⟩

theorem Recurs.endless {id k : Int} {before : List Declaration} (h : Recurs t k) (leads : Leads t id before k) :
    Endless t id := by
  intro n
  obtain ⟨q, hq, long⟩ := h.longer n
  have whole := leads.trans hq
  rw [← List.take_append_drop n (before ++ q)] at whole
  obtain ⟨mid, first, -⟩ := whole.split
  exact ⟨_, mid, first, List.length_take_of_le (by rw [List.length_append]; omega)⟩

/-- What lies on a cycle is all that a chain from it ever comes to. -/
theorem Leads.subset_loop {k m : Int} {loop q : List Declaration} (back : Leads t k loop k) (hne : loop ≠ [])
    (h : Leads t k q m) : q ⊆ loop := by
  rcases h.total back with ⟨rest, rfl, -⟩ | ⟨rest, rfl, hr⟩
  · exact List.subset_append_left q rest
  · exact List.append_subset.2 ⟨List.Subset.refl loop, back.subset_loop hne hr⟩
termination_by q.length
decreasing_by
  have := List.length_pos_iff.2 hne
  simp_all

/-- From wherever a chain comes to from a number that recurs, it comes back to that number. -/
theorem Recurs.leads_back {id k : Int} {p : List Declaration} (h : Leads t id p k) (again : Recurs t id) :
    ∃ q, Leads t k q id := by
  induction h with
  | here id => exact ⟨[], .here id⟩
  | via entry isAlias target _ ih =>
    obtain ⟨loop, hne, back⟩ := again
    cases back with
    | here => exact absurd rfl hne
    | via entry' isAlias' target' rest =>
      -- the loop starts with the one step there is, so it can be turned by that step
      rw [entry] at entry'
      cases entry'
      rw [target] at target'
      cases target'
      obtain ⟨q, hq⟩ := ih ⟨_, by simp, rest.trans (.via entry isAlias target (.here _))⟩
      exact ⟨_, hq.trans rest⟩

/-! ## Where a cycle is entered -/

section
variable (own : ∀ k d, t.get? k = some d → d.id = k)
include own

/-- A declaration on a chain stands where its number says. -/
theorem Leads.split_at {id last : Int} {passed : List Declaration} {b : Declaration}
    (h : Leads t id passed last) (hb : b ∈ passed) : ∃ before after, passed = before ++ b :: after ∧
      Leads t id before b.id ∧ Leads t b.id (b :: after) last := by
  obtain ⟨before, after, rfl⟩ := List.append_of_mem hb
  obtain ⟨mid, h₁, h₂⟩ := h.split
  cases h₂ with
  | via entry isAlias target rest =>
    obtain rfl := own _ _ entry
    exact ⟨before, after, rfl, h₁, .via entry isAlias target rest⟩

/-- An alias that comes again is where the chain has come back to. -/
theorem Leads.loop_of_again {id last : Int} {passed : List Declaration} {a : Declaration}
    (h : Leads t id passed last) (entry : t.get? last = some a) (again : a.id ∈ passed.map (·.id)) :
    ∃ before b after, passed = before ++ b :: after ∧ Leads t id before last ∧ Leads t last (b :: after) last := by
  obtain ⟨b, hb, same⟩ := List.mem_map.1 again
  obtain ⟨before, after, parts, enters, back⟩ := h.split_at own hb
  obtain rfl : b.id = last := same.trans (own _ _ entry)
  exact ⟨before, b, after, parts, enters, back⟩

/-- Where all before it are distinct, the alias that comes again is where the cycle is entered. -/
theorem Leads.entry_of_again {id last : Int} {passed : List Declaration} {a : Declaration}
    (h : Leads t id passed last) (distinct : (passed.map (·.id)).Nodup) (entry : t.get? last = some a)
    (again : a.id ∈ passed.map (·.id)) :
    ∃ before, Leads t id before last ∧ Recurs t last ∧ ∀ b ∈ before, ¬Recurs t b.id := by
  obtain ⟨before, b, after, rfl, enters, back⟩ := h.loop_of_again own entry again
  refine ⟨before, enters, ⟨_, List.cons_ne_nil b after, back⟩, fun x hx twice => ?_⟩
  obtain ⟨_, rest, rfl, -, onward⟩ := enters.split_at own hx
  obtain ⟨q, returns⟩ := twice.leads_back onward
  cases onward with
  | via entry' isAlias target _ =>
    -- the cycle comes to what was passed before it, so that is on the cycle too
    have onCycle : x ∈ b :: after :=
      back.subset_loop (List.cons_ne_nil b after) (returns.trans (.via entry' isAlias target (.here _)))
        (by simp)
    rw [List.map_append, List.nodup_append] at distinct
    exact distinct.2.2 _ (List.mem_map_of_mem hx) _ (List.mem_map_of_mem onCycle) rfl

/-- No chain enters cycles at two numbers. -/
theorem Leads.entry_unique {id k k' : Int} {p p' : List Declaration} (h : Leads t id p k) (twice : Recurs t k)
    (once : ∀ b ∈ p, ¬Recurs t b.id) (h' : Leads t id p' k') (twice' : Recurs t k')
    (once' : ∀ b ∈ p', ¬Recurs t b.id) : k = k' := by
  -- what is passed after the one is passed where a number recurs
  have here : ∀ {k k' : Int} {p q : List Declaration}, Recurs t k → Leads t k q k' →
      (∀ b ∈ p ++ q, ¬Recurs t b.id) → k = k' := by
    intro k k' p q twice onward once
    cases onward with
    | here => rfl
    | via entry _ _ _ =>
      obtain rfl := own _ _ entry
      exact absurd twice (once _ (by simp))
  rcases h.total h' with ⟨q, rfl, hq⟩ | ⟨q, rfl, hq⟩
  · exact here twice hq once'
  · exact (here twice' hq once).symm

/-- A chain that stops passes no alias twice. -/
theorem Leads.distinct_of_stops {id last : Int} {passed : List Declaration} (h : Leads t id passed last)
    (stops : Stops t last) : (passed.map (·.id)).Nodup := by
  induction h with
  | here id => exact List.nodup_nil
  | @via id next last a passed entry isAlias target rest ih =>
    refine List.nodup_cons.2 ⟨fun again => ?_, ih stops⟩
    obtain ⟨x, hx, same⟩ := List.mem_map.1 again
    obtain rfl : x.id = id := same.trans (own _ _ entry)
    obtain ⟨before, after, -, returns, onward⟩ := rest.split_at own hx
    exact onward.not_endless stops
      (Recurs.endless ⟨_, List.cons_ne_nil a before, .via entry isAlias target returns⟩ (.here _))

end

/-! ## What the answer says -/

/-- The last letter of a refusal. -/
def lastLetter? : Except String Declaration → Option Char
  | .ok _ => none
  | .error message => message.toList.getLast?

theorem lastLetter?_append (s : String) {s' : String} (h : s'.toList ≠ []) :
    lastLetter? (.error (s ++ s')) = s'.toList.getLast? := by
  rw [lastLetter?, String.toList_append, List.getLast?_append_of_ne_nil _ h]

namespace Fate

/-- The last letter of a refusal for chains that turn out this way. -/
def ending? : Fate → Option Char
  | declared => none
  | missing => "table".toList.getLast?
  | openAlias => "target".toList.getLast?
  | endless => "'".toList.getLast?

theorem ending?_of_reads {answer : Except String Declaration} {f : Fate} (h : f.Reads answer) :
    lastLetter? answer = f.ending? := by
  cases f with
  | declared =>
    obtain ⟨d, rfl⟩ := h
    rfl
  | missing =>
    obtain ⟨id, rfl⟩ := h
    exact lastLetter?_append _ (by decide)
  | openAlias =>
    obtain ⟨kind, path, rfl⟩ := h
    exact lastLetter?_append _ (by decide)
  | endless =>
    obtain ⟨path, rfl⟩ := h
    exact lastLetter?_append _ (by decide)

/-- No answer reads as for two ways, since the refusals for each end with a letter of their own. -/
theorem eq_of_reads {answer : Except String Declaration} {f f' : Fate} (h : f.Reads answer)
    (h' : f'.Reads answer) : f = f' := by
  have same : f.ending? = f'.ending? := (ending?_of_reads h).symm.trans (ending?_of_reads h')
  revert same
  cases f <;> cases f' <;> decide

end Fate

theorem ComesTo.reads {id : Int} {f : Fate} {answer : Except String Declaration} (h : ComesTo t id f answer) :
    f.Reads answer := by
  cases h with
  | declaration => exact ⟨_, rfl⟩
  | missing => exact ⟨_, rfl⟩
  | openAlias => exact ⟨_, _, rfl⟩
  | cycle => exact ⟨_, rfl⟩

/-! ## What the search answers -/

section
variable {c : Crate} (own : ∀ k d, c.declarations.get? k = some d → d.id = k)
include own

/-- The answer of the search is for what the chain comes to. -/
theorem exists_comesTo (id : Int) :
    ∃ f, ComesTo c.declarations id f ((c.declarationOf id).mapError Malformed.message) := by
  obtain ⟨passed, last, leads, distinct, ends⟩ := declarationOf_eq_iff.1 (rfl : c.declarationOf id = _)
  generalize c.declarationOf id = r at ends
  cases ends with
  | missing entry => exact ⟨_, .missing leads entry⟩
  | cycle entry isAlias again =>
    obtain ⟨before, enters, twice, once⟩ := leads.entry_of_again own distinct entry again
    exact ⟨_, .cycle enters entry twice once⟩
  | openAlias entry isAlias new target => exact ⟨_, .openAlias leads entry isAlias target⟩
  | found entry noAlias => exact ⟨_, .declaration ⟨passed, last, leads, entry, noAlias⟩⟩

/-- An endless chain comes to the cycle that the search tells. -/
theorem exists_cycle_of_endless {id : Int} (h : Endless c.declarations id) :
    ∃ before first a, Leads c.declarations id before first ∧ c.declarations.get? first = some a ∧
      Recurs c.declarations first ∧ (∀ b ∈ before, ¬Recurs c.declarations b.id) ∧
      (c.declarationOf id).mapError Malformed.message =
        .error ("alias cycle through '" ++ joinPath a.path ++ "'") := by
  obtain ⟨f, found⟩ := exists_comesTo own id
  generalize (c.declarationOf id).mapError Malformed.message = answer at found ⊢
  cases found with
  | declaration ends =>
    obtain ⟨passed, last, leads, entry, noAlias⟩ := ends
    exact absurd h (leads.not_endless (stops_of_end entry noAlias))
  | missing leads lacks => exact absurd h (leads.not_endless (stops_of_missing lacks))
  | openAlias leads entry isAlias target =>
    exact absurd h (leads.not_endless (stops_of_entry entry fun _ => target))
  | cycle leads entry twice once => exact ⟨_, _, _, leads, entry, twice, once, rfl⟩

theorem ComesTo.answer_eq {id : Int} {f : Fate} {answer : Except String Declaration}
    (h : ComesTo c.declarations id f answer) : answer = (c.declarationOf id).mapError Malformed.message := by
  -- where a chain stops the search answers what is there
  have stopped : ∀ {passed last r}, Leads c.declarations id passed last → Stops c.declarations last →
      ChainEnd c.declarations (passed.map (·.id)) last r → c.declarationOf id = r :=
    fun leads stops ends => declarationOf_eq_iff.2 ⟨_, _, leads, leads.distinct_of_stops own stops, ends⟩
  cases h with
  | declaration ends =>
    obtain ⟨passed, last, leads, entry, noAlias⟩ := ends
    rw [stopped leads (stops_of_end entry noAlias) (.found entry noAlias)]
    rfl
  | missing leads lacks =>
    rw [stopped leads (stops_of_missing lacks) (.missing lacks)]
    rfl
  | @openAlias passed last a leads entry isAlias target =>
    have stops : Stops c.declarations last := stops_of_entry entry fun _ => target
    have new : a.id ∉ passed.map (·.id) := fun again => by
      obtain ⟨_, b, after, -, -, back⟩ := leads.loop_of_again own entry again
      exact leads.not_endless stops (Recurs.endless ⟨_, List.cons_ne_nil b after, back⟩ leads)
    rw [stopped leads stops (.openAlias entry isAlias new target)]
    rfl
  | cycle leads entry twice once =>
    obtain ⟨before, first, a, leads', entry', twice', once', told⟩ :=
      exists_cycle_of_endless own (twice.endless leads)
    obtain rfl := leads'.entry_unique own twice' once' leads twice once
    rw [entry] at entry'
    cases entry'
    exact told.symm

theorem Fate.of_iff {id : Int} {f : Fate} :
    f.Of c.declarations id ↔ ∃ answer, ComesTo c.declarations id f answer := by
  constructor
  · intro h
    cases f with
    | declared =>
      obtain ⟨d, ends⟩ := h
      exact ⟨_, .declaration ends⟩
    | missing =>
      obtain ⟨passed, last, leads, lacks⟩ := h
      exact ⟨_, .missing leads lacks⟩
    | openAlias =>
      obtain ⟨passed, last, a, leads, entry, isAlias, target⟩ := h
      exact ⟨_, .openAlias leads entry isAlias target⟩
    | endless =>
      obtain ⟨before, first, a, leads, entry, twice, once, -⟩ := exists_cycle_of_endless own h
      exact ⟨_, .cycle leads entry twice once⟩
  · rintro ⟨answer, h⟩
    cases h with
    | declaration ends => exact ⟨_, ends⟩
    | missing leads lacks => exact ⟨_, _, leads, lacks⟩
    | openAlias leads entry isAlias target => exact ⟨_, _, _, leads, entry, isAlias, target⟩
    | cycle leads entry twice once => exact twice.endless leads

end

/-- Where declarations are listed under their own numbers, the search along aliases, taken turn by
turn, answers after passing no more of them than the table has. The chain of targets turns out in exactly one of four
ways, and the answer is the one for it: the first declaration that is no alias, the number that the
table lacks, the alias without a target or, if and only if the chain goes on for ever, the first
declaration on it that occurs twice. The words of the answer tell which way it is. -/
theorem chase_follows_chain (c : Crate) (own : ∀ k d, c.declarations.get? k = some d → d.id = k) (id : Int) :
    (∀ p : Pursuit, chase c.declarations p.seen p.next =
      match p.turn c.declarations with
      | .inl answer => answer
      | .inr q => chase c.declarations q.seen q.next) ∧
    Pursuit.within c.declarations (aliasCount c.declarations) ⟨[], id⟩ = some (c.declarationOf id) ∧
    ∃ fate : Fate, (∀ f : Fate, f.Of c.declarations id ↔ f = fate) ∧
      (∀ f answer, ComesTo c.declarations id f answer ↔
        f = fate ∧ answer = (c.declarationOf id).mapError Malformed.message) ∧
      ∀ f : Fate, f.Reads ((c.declarationOf id).mapError Malformed.message) ↔ f = fate := by
  obtain ⟨fate, found⟩ := exists_comesTo own id
  have comes : ∀ f answer, ComesTo c.declarations id f answer ↔
      f = fate ∧ answer = (c.declarationOf id).mapError Malformed.message := by
    intro f answer
    constructor
    · intro h
      obtain rfl := h.answer_eq own
      exact ⟨Fate.eq_of_reads h.reads found.reads, rfl⟩
    · rintro ⟨rfl, rfl⟩
      exact found
  refine ⟨chase_eq_turn, within_aliasCount c id, fate, fun f => ?_, comes, fun f => ?_⟩
  · rw [Fate.of_iff own]
    simp [comes]
  · constructor
    · exact fun h => Fate.eq_of_reads h found.reads
    · rintro rfl
      exact found.reads

/-- An alias that leads into a cycle of two others. -/
def tailedCrate : Crate where
  name := "demo"
  units := []
  types := ⟨.empty, .empty⟩
  declarations := ⟨[(1, { id := 1, path := ["demo", "a"], kind := "use", target := some 2 }),
    (2, { id := 2, path := ["demo", "b"], kind := "reexport", target := some 3 }),
    (3, { id := 3, path := ["demo", "c"], kind := "use", target := some 2 }),
    (4, { id := 4, path := ["demo", "f"] })]⟩
  denotations := .empty

theorem tailedCrate_own (k : Int) (d : Declaration) (h : tailedCrate.declarations.get? k = some d) : d.id = k := by
  simp only [tailedCrate, Table.get?, Table.find?] at h
  grind

/-- The cycle is told by the alias at which it is entered, after three passes and not before. -/
theorem tailed_follows_chain :
    (∀ k d, tailedCrate.declarations.get? k = some d → d.id = k) ∧
    Pursuit.within tailedCrate.declarations 3 ⟨[], 1⟩ = some (tailedCrate.declarationOf 1) ∧
    Pursuit.within tailedCrate.declarations 2 ⟨[], 1⟩ = none ∧
    tailedCrate.declarationOf 1 = .error (.aliasCycle ["demo", "b"]) ∧ Endless tailedCrate.declarations 1 ∧
    Fate.endless.Reads (.error "alias cycle through 'demo::b'") := by
  obtain ⟨-, within, fate, turnsOut, -, reads⟩ := chase_follows_chain tailedCrate tailedCrate_own 1
  have found : tailedCrate.declarationOf 1 = .error (.aliasCycle ["demo", "b"]) :=
    Option.some.inj (within.symm.trans rfl)
  rw [found] at reads
  have told : Fate.endless.Reads (.error "alias cycle through 'demo::b'") := ⟨"demo::b", rfl⟩
  exact ⟨tailedCrate_own, within, rfl, found, (turnsOut _).2 ((reads _).1 told), told⟩

end ChainLint
