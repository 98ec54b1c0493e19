import ChainLint.Rule.Registries
import ChainLint.Proofs.Histories
import ChainLint.Proofs.Registry
import Mathlib.Data.List.Nodup
/-!
# Registries follow the requests made of them

`registries_follow_requests`: whatever was registered and left out before, a
registry in use has the rules that were registered on it, and the lists by
kind have not lost step with them. Every registry in use comes about by
registration (`Registries.Faithful.reachable`), so its names are distinct, and
the registration of the rules that are left when some are left out is never
refused (`Registry.Reachable.exists_without`).
-/

namespace ChainLint

/-! ## One registry -/

namespace Registry

variable {r r' : Registry} {rule : Rule} {name : String}

theorem register_of_known (known : rule.name ∈ r.rules.map (·.name)) :
    r.register rule = .error (.knownRule rule.name) := by
  rw [register, if_pos (isSome_get?_iff.2 known)]

/-- A name finds the one rule that has it. -/
theorem Reachable.get?_eq_some_iff (h : r.Reachable) :
    r.get? name = some rule ↔ rule ∈ r.rules ∧ rule.name = name := by
  constructor
  · intro found
    exact ⟨List.mem_of_find?_eq_some found, by simpa using List.find?_some found⟩
  · rintro ⟨listed, rfl⟩
    cases found : r.get? rule.name with
    | none => exact absurd (List.mem_map_of_mem listed) (get?_eq_none_iff.1 found)
    | some other =>
      have listed' := List.mem_of_find?_eq_some found
      have same : other.name = rule.name := by simpa using List.find?_some found
      rw [List.inj_on_of_nodup_map h.names_nodup listed' listed same]

/-- What a registry of some rules gives for every name and every kind. The rules are listed in the order
of registration, each once, also under the kinds they ask for. -/
structure Lists (r : Registry) (rules : List Rule) : Prop where
  listed : r.rules = rules
  distinct : (rules.map (·.name)).Nodup
  found : ∀ name rule, r.get? name = some rule ↔ rule ∈ rules ∧ rule.name = name
  dispatched : ∀ kind, r.rulesFor kind = rules.filter fun rule => rule.nodeKinds.contains kind
  once : ∀ kind, ((r.rulesFor kind).map (·.name)).Nodup
  unasked : ∀ kind, r.rulesFor kind = [] ↔ ∀ rule ∈ rules, kind ∉ rule.nodeKinds

theorem Reachable.lists (h : r.Reachable) : r.Lists r.rules where
  listed := rfl
  distinct := h.names_nodup
  found _ _ := h.get?_eq_some_iff
  dispatched := h.rulesFor_eq
  once kind := by
    rw [h.rulesFor_eq]
    exact h.names_nodup.sublist (List.filter_sublist.map _)
  unasked kind := by simp [h.rulesFor_eq]

theorem Reachable.rules_without (h : r.Reachable) {names : List String} {rest : Registry}
    (without : r.without names = .ok rest) :
    rest.rules = r.rules.filter fun rule => !names.contains rule.name := by
  obtain ⟨rest', without', -, rules⟩ := h.exists_without names
  rw [without] at without'
  cases without'
  exact rules

/-- Leaving rules out twice is leaving them all out. -/
theorem Reachable.without_without (h : r.Reachable) {names more both : List String} {rest : Registry}
    (without : r.without names = .ok rest) (union : ∀ name, name ∈ both ↔ name ∈ names ∨ name ∈ more) :
    rest.without more = r.without both := by
  have same : (rest.rules.filter fun rule => !more.contains rule.name) =
      r.rules.filter fun rule => !both.contains rule.name := by
    rw [h.rules_without without, List.filter_filter]
    refine List.filter_congr fun rule _ => ?_
    have known : both.contains rule.name = (more.contains rule.name || names.contains rule.name) := by
      rw [Bool.eq_iff_iff]
      simp [union, or_comm]
    rw [known, Bool.not_or]
  rw [Registry.without, same, Registry.without]

end Registry

namespace Registries

variable {s s' : Registries} {place : Nat} {r r' : Registry}

/-! ## What a request does -/

theorem registry_on (known : s[place]? = some r) : (registry place).on s = (.ok r, s) := Update.found_on known

theorem register_on (known : s[place]? = some r) (rule : Rule) :
    (register place rule).on s = match r.register rule with
      | .ok r' => (.ok (), s.set place r')
      | .error fault => (.error (.refused fault), s) := by
  rw [register, Update.on_bind, registry_on known]
  dsimp only
  cases r.register rule <;> rfl

/-- The rules are registered on the last registry one after another; none of the others is touched. -/
theorem registerAll_on {rules : List Rule} (registered : r.registerAll rules = .ok r') :
    (registerAll s.length rules).on (s ++ [r]) = (.ok (), s ++ [r']) := by
  induction rules generalizing r with
  | nil =>
    cases registered
    rfl
  | cons rule rest ih =>
    obtain ⟨next, first, later⟩ := exists_of_bind_eq_ok registered
    have last : (s ++ [r])[s.length]? = some r := by simp
    rw [registerAll, Update.on_bind, register_on last, first]
    dsimp only
    rw [List.set_append_right _ _ (Nat.le_refl _), Nat.sub_self, List.set_cons_zero]
    exact ih later

theorem without_on (known : s[place]? = some r) {names : List String} {rest : Registry}
    (without : r.without names = .ok rest) :
    (Registries.without place names).on s = (.ok s.length, s ++ [rest]) := by
  have made : make.on s = (.ok s.length, s ++ [Registry.empty]) := rfl
  rw [Registries.without, Update.on_bind, registry_on known]
  dsimp only
  rw [Update.on_bind, made]
  dsimp only
  rw [Update.on_bind, registerAll_on without]
  rfl

theorem answer_register (known : s[place]? = some r) (rule : Rule) :
    (answer (.register place rule)).on s = match r.register rule with
      | .ok r' => (.ok .registered, s.set place r')
      | .error fault => (.error (.refused fault), s) := by
  rw [answer, Update.on_bind, register_on known]
  cases r.register rule <;> rfl

theorem answer_without (known : s[place]? = some r) {names : List String} {rest : Registry}
    (without : r.without names = .ok rest) :
    (answer (.without place names)).on s = (.ok (.made s.length), s ++ [rest]) := by
  rw [answer, Update.on_bind, without_on known without]
  rfl

/-- The four things that a request can come to. -/
inductive Serves (s : Registries) : Request → Except UpdateFault Reply → Registries → Prop
  | absent {q : Request} (unknown : s[q.place]? = none) : Serves s q (.error .absent) s
  | refused {place : Nat} {r : Registry} {rule : Rule} (known : s[place]? = some r)
    (taken : rule.name ∈ r.rules.map (·.name)) :
    Serves s (.register place rule) (.error (.refused (.knownRule rule.name))) s
  | registered {place : Nat} {r r' : Registry} {rule : Rule} (known : s[place]? = some r)
    (registered : r.register rule = .ok r') : Serves s (.register place rule) (.ok .registered) (s.set place r')
  | made {place : Nat} {r rest : Registry} {names : List String} (known : s[place]? = some r)
    (without : r.without names = .ok rest) : Serves s (.without place names) (.ok (.made s.length)) (s ++ [rest])

theorem answer_absent {q : Request} (unknown : s[q.place]? = none) : (answer q).on s = (.error .absent, s) := by
  have absent : (registry q.place).on s = (.error .absent, s) := Update.found_on_none unknown
  cases q <;> simp only [answer, register, without, Update.on_bind, Request.place] at absent ⊢ <;>
    simp only [absent]

theorem serves_answer (reachable : ∀ r ∈ s, r.Reachable) (q : Request) :
    Serves s q ((answer q).on s).1 ((answer q).on s).2 := by
  cases known : s[q.place]? with
  | none =>
    rw [answer_absent known]
    exact .absent known
  | some r =>
    cases q with
    | register place rule =>
      dsimp only [Request.place] at known
      rw [answer_register known]
      by_cases taken : rule.name ∈ r.rules.map (·.name)
      · rw [Registry.register_of_known taken]
        exact .refused known taken
      · obtain ⟨r', registered, -⟩ := Registry.exists_register taken
        rw [registered]
        exact .registered known registered
    | without place names =>
      dsimp only [Request.place] at known
      obtain ⟨rest, without, -⟩ := (reachable r (List.mem_of_getElem? known)).exists_without names
      rw [answer_without known without]
      exact .made known without

theorem Serves.reachable {q : Request} {reply : Except UpdateFault Reply} (step : Serves s q reply s')
    (reachable : ∀ r ∈ s, r.Reachable) : ∀ r ∈ s', r.Reachable := by
  cases step with
  | absent | refused => exact reachable
  | registered known registered =>
    intro r' hm
    rcases List.mem_or_eq_of_mem_set hm with hm | rfl
    · exact reachable r' hm
    · exact .register (reachable _ (List.mem_of_getElem? known)) registered
  | made known without =>
    intro r' hm
    rcases List.mem_append.1 hm with hm | hm
    · exact reachable r' hm
    · rw [List.mem_singleton.1 hm]
      exact Registry.reachable_ofRules without

/-- Only a registration on a registry changes it. -/
theorem Serves.keeps {q : Request} {reply : Except UpdateFault Reply} (step : Serves s q reply s')
    (known : s[place]? = some r) (untouched : q.changes place = false) : s'[place]? = some r := by
  cases step with
  | absent | refused => exact known
  | registered =>
    rw [List.getElem?_set_ne (by simpa [Request.changes] using untouched)]
    exact known
  | made =>
    obtain ⟨hp, -⟩ := List.getElem?_eq_some_iff.1 known
    rw [List.getElem?_append_left hp]
    exact known

/-! ## Histories -/

/-- A request with its reply. -/
abbrev Event := Request × Except UpdateFault Reply

/-- The rules that a log tells of the registry at a place, in the order of registration. One that was
made by leaving rules out starts with those that the other one had then, less the ones left out. The
log has the latest event first. -/
def registered : List Event → Nat → List Rule
  | [], _ => []
  | event :: earlier, place =>
    match event with
    | (.register target rule, .ok _) =>
      if target = place then registered earlier place ++ [rule] else registered earlier place
    | (.without source names, .ok (.made rest)) =>
      if rest = place then (registered earlier source).filter fun rule => !names.contains rule.name
      else registered earlier place
    | _ => registered earlier place

/-- A history whose log tells the rules of the registries in use. There are those that requests made,
and the first one. -/
structure Faithful (h : History Registries Request Reply) : Prop where
  reachable : ∀ r ∈ h.state, r.Reachable
  rules : ∀ place r, h.state[place]? = some r → r.rules = registered h.log place
  made : ∀ place, place < h.state.length ↔
    place = 0 ∨ ∃ source names, (.without source names, .ok (.made place)) ∈ h.log

/-- One registry without rules in use. -/
def fresh : History Registries Request Reply := .start [Registry.empty]

theorem faithful_fresh : Faithful fresh where
  reachable := List.forall_mem_singleton.2 .empty
  rules := by
    intro place r known
    rw [List.mem_singleton.1 (List.mem_of_getElem? known)]
    rfl
  made := by simp [fresh, History.start]

section
variable {log : List Event} {q : Request} {reply : Except UpdateFault Reply}

theorem Faithful.rules_step (h : Faithful ⟨s, log⟩) (step : Serves s q reply s') (place : Nat) (r : Registry)
    (known : s'[place]? = some r) : r.rules = registered ((q, reply) :: log) place := by
  have before : ∀ place r, s[place]? = some r → r.rules = registered log place := h.rules
  cases step with
  | absent unknown => cases q <;> exact before place r known
  | refused => exact before place r known
  | @registered target old r' rule there registered' =>
    by_cases same : target = place
    · subst same
      obtain ⟨inRange, -⟩ := List.getElem?_eq_some_iff.1 there
      rw [List.getElem?_set_self inRange, Option.some.injEq] at known
      rw [registered, if_pos rfl, ← before target old there, ← known, Registry.rules_register registered']
    · rw [List.getElem?_set_ne same] at known
      rw [registered, if_neg same, before place r known]
  | @made source old rest names there without =>
    by_cases same : s.length = place
    · subst same
      have kept := (h.reachable old (List.mem_of_getElem? there)).rules_without without
      simp only [List.getElem?_concat_length, Option.some.injEq] at known
      rw [registered, if_pos rfl, ← before source old there, ← known, kept]
    · have inUse : place < s.length := by
        obtain ⟨inRange, -⟩ := List.getElem?_eq_some_iff.1 known
        rw [List.length_append, List.length_singleton] at inRange
        omega
      rw [List.getElem?_append_left inUse] at known
      rw [registered, if_neg same, before place r known]

theorem Faithful.made_step (h : Faithful ⟨s, log⟩) (step : Serves s q reply s') (place : Nat) :
    place < s'.length ↔
      place = 0 ∨ ∃ source names, (.without source names, .ok (.made place)) ∈ (q, reply) :: log := by
  have before : place < s.length ↔
      place = 0 ∨ ∃ source names, (.without source names, .ok (.made place)) ∈ log := h.made place
  cases step with
  | absent | refused | registered => simpa using before
  | made =>
    simp only [List.length_append, List.length_singleton, Nat.lt_succ_iff_lt_or_eq, before, List.mem_cons,
      Prod.mk.injEq, Request.without.injEq, Except.ok.injEq, Reply.made.injEq, exists_or]
    rw [or_assoc, or_comm (b := place = s.length)]
    simp

/-- Whatever a request comes to, the log goes on to tell the rules. -/
theorem Faithful.step (h : Faithful ⟨s, log⟩) (step : Serves s q reply s') : Faithful ⟨s', (q, reply) :: log⟩ where
  reachable := step.reachable h.reachable
  rules := h.rules_step step
  made := h.made_step step

end

/-- What requests do not touch stays as it is. -/
theorem getElem?_serveAll {h : History Registries Request Reply} (reachable : ∀ r ∈ h.state, r.Reachable)
    (known : h.state[place]? = some r) {qs : List Request} (untouched : ∀ q ∈ qs, q.changes place = false) :
    (h.serveAll answer qs).state[place]? = some r := by
  induction qs generalizing h with
  | nil => exact known
  | cons q rest ih =>
    obtain ⟨first, later⟩ := List.forall_mem_cons.1 untouched
    have step := serves_answer reachable q
    exact ih (step.reachable reachable) (step.keeps known first) later

/-- After any requests there are the first registry and those that were made of others, and each lists the
rules that were registered on it or kept when it was made. A registration is refused if the name is
taken, and then nothing changes; otherwise the rule comes last. Leaving rules out always makes a new
registry of the others and changes none that is in use; doing so twice makes the same as doing it once
with all the names. Requests for other registries leave a registry as it is. -/
theorem registries_follow_requests (requests : List Request) :
    let h := fresh.serveAll answer requests
    (∀ place, (∃ r, h.state[place]? = some r) ↔
      place = 0 ∨ ∃ source names, (.without source names, .ok (.made place)) ∈ h.log) ∧
    ∀ place r, h.state[place]? = some r →
      let rules := registered h.log place
      r.Lists rules ∧
      (∀ rule, rule.name ∈ rules.map (·.name) →
        (answer (.register place rule)).on h.state = (.error (.refused (.knownRule rule.name)), h.state)) ∧
      (∀ rule, rule.name ∉ rules.map (·.name) → ∃ r',
        (answer (.register place rule)).on h.state = (.ok .registered, h.state.set place r') ∧
        r'.Lists (rules ++ [rule])) ∧
      (∀ names, ∃ rest,
        (answer (.without place names)).on h.state = (.ok (.made h.state.length), h.state ++ [rest]) ∧
        rest.Lists (rules.filter fun rule => !names.contains rule.name)) ∧
      (∀ names more both, (∀ name, name ∈ both ↔ name ∈ names ∨ name ∈ more) → ∃ rest least,
        (h.serveAll answer [.without place names, .without h.state.length more]).state = h.state ++ [rest, least] ∧
        (h.serve answer (.without place both)).state = h.state ++ [least]) ∧
      ∀ later, (∀ q ∈ later, q.changes place = false) → (h.serveAll answer later).state[place]? = some r := by
  intro h
  obtain ⟨reachable, told, made⟩ : Faithful h :=
    History.serveAll_keeps (P := Faithful) (fun h q faithful => faithful.step (serves_answer faithful.reachable q))
      faithful_fresh requests
  refine ⟨fun place => ?_, fun place r known => ?_⟩
  · rw [← made place, ← Option.isSome_iff_exists, isSome_getElem?]
  intro rules
  have listed : r.rules = rules := told place r known
  have comesAbout : r.Reachable := reachable r (List.mem_of_getElem? known)
  have leaves : ∀ names, ∃ rest, r.without names = .ok rest ∧ rest.Reachable ∧
      rest.rules = rules.filter fun rule => !names.contains rule.name := listed ▸ comesAbout.exists_without
  refine ⟨listed ▸ comesAbout.lists, fun rule taken => ?_, fun rule new => ?_, fun names => ?_,
    fun names more both union => ?_, fun later => getElem?_serveAll reachable known⟩
  · rw [← listed] at taken
    rw [answer_register known, Registry.register_of_known taken]
  · rw [← listed] at new
    obtain ⟨r', registered, rules'⟩ := Registry.exists_register new
    have lists := (comesAbout.register registered).lists
    rw [rules', listed] at lists
    exact ⟨r', by rw [answer_register known, registered], lists⟩
  · obtain ⟨rest, without, restReachable, kept⟩ := leaves names
    exact ⟨rest, answer_without known without, kept ▸ restReachable.lists⟩
  · obtain ⟨rest, without, -⟩ := leaves names
    obtain ⟨least, without', -⟩ := leaves both
    have last : (h.state ++ [rest])[h.state.length]? = some rest := by simp
    have again : rest.without more = .ok least := (comesAbout.without_without without union).trans without'
    refine ⟨rest, least, ?_, ?_⟩
    · show ((answer _).on ((answer _).on h.state).2).2 = _
      rw [answer_without known without, answer_without last again, List.append_assoc, List.singleton_append]
    · show ((answer _).on h.state).2 = _
      rw [answer_without known without']

/-- A name is taken in one registry and free in the one that was made without it. -/
example :
    (fresh.serveAll answer [.register 0 invalidRef, .register 0 invalidRef, .without 0 ["invalid_ref"],
      .register 1 invalidRef]).log.reverse.map (·.2) =
      [.ok .registered, .error (.refused (.knownRule "invalid_ref")), .ok (.made 1), .ok .registered] := rfl

end Registries

end ChainLint
