import ChainLint.Proofs.Uncaught
/-!
# What a chain of guards finds

A rule gives a finding if and only if its guards all pass and the last step has
a summary for what they found (`evaluate_matched_iff`). What guards found hangs
on the kinds among them and on the node (`Passes.eq_foundBy`): a guard binds
the same whichever guards came before it.
-/

namespace ChainLint

/-- The word that documents have for a guard; none for one that other code brings. -/
def Guard.kind? : Guard → Option String
  | .callArity _ => some "call_arity"
  | .calleeIsPath => some "callee_is_path"
  | .resultShape _ => some "result_shape"
  | .resolves => some "resolves"
  | .expr .. => some "expr"
  | .custom .. => none

/-- The kinds of a chain of guards, in order. -/
def kindsOf (gs : List Guard) : List String := gs.filterMap Guard.kind?

/-- The identity of the callee of a node with its tag, if the callee has one. -/
def Context.symbolAt (ctx : Context) (e : Expr) : Option (SymbolPath × Option String) :=
  match ctx.crate.resolve e.callee with
  | .ok (some path) => some (path, ctx.paths.lookup path)
  | _ => none

/-- What guards of some kinds find at a node if they pass. -/
def foundBy (kinds : List String) (e : Expr) (ctx : Context) : Bindings where
  callee := if "callee_is_path" ∈ kinds then e.callee else none
  shape := if "result_shape" ∈ kinds then (ctx.crate.types.shapeOf e.id).toOption else none
  symbol := if "resolves" ∈ kinds then ctx.symbolAt e else none

section
variable {kinds kinds' : List String} {e : Expr} {ctx : Context}

theorem foundBy_congr (h : ∀ kind, kind ∈ kinds ↔ kind ∈ kinds') : foundBy kinds e ctx = foundBy kinds' e ctx := by
  simp only [foundBy, h]

/-- Guards that bind no callee, no shape and no identity find nothing. -/
theorem foundBy_nothing {kind : String} (hc : kind ≠ "callee_is_path") (hs : kind ≠ "result_shape")
    (hr : kind ≠ "resolves") : foundBy (kind :: kinds) e ctx = foundBy kinds e ctx := by
  simp [foundBy, hc.symm, hs.symm, hr.symm]

theorem ownCallee_foundBy (kinds : List String) (e : Expr) (ctx : Context) :
    (foundBy kinds e ctx).OwnCallee e := by
  unfold Bindings.OwnCallee foundBy
  by_cases h : "callee_is_path" ∈ kinds
  · simp [h]
  · simp [h]

theorem symbolAt_eq_some_iff {path : SymbolPath} {tag : Option String} :
    ctx.symbolAt e = some (path, tag) ↔
      ctx.crate.resolve e.callee = .ok (some path) ∧ ctx.paths.lookup path = tag := by
  unfold Context.symbolAt
  split
  · next found h => simp_all
  · next h => simpa using fun hr => absurd hr (h path)

/-! ## One guard -/

/-- A guard that passes adds to what was found what guards of its kind find. -/
theorem Guard.Binds.eq_foundBy {g : Guard} {b : Bindings} (h : g.Binds e ctx (foundBy kinds e ctx) b) :
    b = foundBy (g.kind?.toList ++ kinds) e ctx := by
  cases h with
  | callArity _ => exact (foundBy_nothing (by decide) (by decide) (by decide)).symm
  | calleeIsPath hc _ => simp [foundBy, Guard.kind?, hc]
  | resultShape h => simp [foundBy, Guard.kind?, h, Except.toOption]
  | resolves h =>
    rw [(ownCallee_foundBy kinds e ctx).or_eq] at h
    simp [foundBy, Guard.kind?, Context.symbolAt, h]
  | blank => exact (foundBy_nothing (by decide) (by decide) (by decide)).symm
  | expr _ _ => exact (foundBy_nothing (by decide) (by decide) (by decide)).symm

/-! ## A chain -/

/-- What guards that pass have found. -/
theorem Passes.eq_foundBy {gs : List Guard} {b : Bindings} (hgs : ∀ g ∈ gs, g.isCustom = false)
    (h : Passes e ctx {} gs b) : b = foundBy (kindsOf gs) e ctx := by
  -- on the guards that are left: the ones passed so far have found what guards of their kinds find
  have key : ∀ (gs : List Guard) (kinds : List String), (∀ g ∈ gs, g.isCustom = false) →
      Passes e ctx (foundBy kinds e ctx) gs b → b = foundBy (kindsOf gs ++ kinds) e ctx := by
    intro gs
    induction gs with
    | nil =>
      intro kinds _ h
      cases h
      rfl
    | cons g rest ih =>
      intro kinds hgs h
      obtain ⟨hg, hrest⟩ := List.forall_mem_cons.1 hgs
      cases h with
      | cons hc hp =>
        rw [((check_passed_iff hg).1 hc).eq_foundBy] at hp
        rw [ih _ hrest hp]
        refine foundBy_congr fun kind => ?_
        cases hk : g.kind? with
        | none => simp [kindsOf, hk]
        | some k =>
          simpa [kindsOf, hk] using or_left_comm
  have start : ({} : Bindings) = foundBy [] e ctx := rfl
  rw [start] at h
  rw [key gs [] hgs h, List.append_nil]

end

section
variable {r : Rule} {e : Expr} {ctx : Context} {b : Bindings} {d : Diagnosis}

/-- A chain of guards leads to a finding if and only if all of them pass and the last step gives it. -/
theorem run_matched_iff {gs : List Guard} :
    r.run e ctx b gs = .ok (.matched d) ↔
      ∃ b', Passes e ctx b gs b' ∧ r.conclude e ctx b' = .ok (.matched d) := by
  constructor
  · intro h
    induction gs generalizing b with
    | nil => exact ⟨b, .nil b, h⟩
    | cons g rest ih =>
      rw [Rule.run] at h
      cases hc : g.check e ctx b with
      | error halt =>
        rw [hc] at h
        cases h
      | ok verdict =>
        rw [hc] at h
        cases verdict with
        | passed b' =>
          obtain ⟨b'', hp, hd⟩ := ih h
          exact ⟨b'', .cons hc hp, hd⟩
        | failed => cases h
        | broken text fault => cases h
  · rintro ⟨b', hp, hd⟩
    have h := hp.run_append (r := r) []
    rw [List.append_nil] at h
    rw [h]
    exact hd

theorem conclude_matched_iff {summaries : Table String String} (hc : r.classifier = .byTag summaries) :
    r.conclude e ctx b = .ok (.matched d) ↔
      ∃ tag summary, b.tag? = some tag ∧ summaries.get? tag = some summary ∧
        d = r.diagnose e ctx.unit b summary := by
  rw [Rule.conclude, hc]
  simp only [Classifier.summary?, bind, Except.bind]
  cases ht : b.tag? with
  | none => simp [pure, Except.pure]
  | some tag =>
    cases hs : summaries.get? tag with
    | none => simp [hs, pure, Except.pure]
    | some summary => simp [hs, pure, Except.pure, eq_comm]

/-- A rule of guards that documents know and with a classifier by tags gives a finding if and only if
the guards all pass, one of them resolves the callee, and there is a summary for the tag of what the
callee denotes. -/
theorem evaluate_matched_iff {summaries : Table String String} (hgs : ∀ g ∈ r.guards, g.isCustom = false)
    (hc : r.classifier = .byTag summaries) :
    r.evaluate e ctx = .ok (.matched d) ↔
      (∃ b, Passes e ctx {} r.guards b) ∧ "resolves" ∈ kindsOf r.guards ∧
        ∃ path tag summary, ctx.crate.resolve e.callee = .ok (some path) ∧ ctx.paths.lookup path = some tag ∧
          summaries.get? tag = some summary ∧
          d = r.diagnose e ctx.unit (foundBy (kindsOf r.guards) e ctx) summary := by
  rw [Rule.evaluate, run_matched_iff]
  constructor
  · rintro ⟨b, hp, hd⟩
    obtain ⟨tag, summary, ht, hs, rfl⟩ := (conclude_matched_iff hc).1 hd
    obtain rfl := hp.eq_foundBy hgs
    -- there is a tag, so the callee was resolved
    by_cases hr : "resolves" ∈ kindsOf r.guards
    · obtain ⟨⟨path, tag'⟩, hsym, rfl⟩ := Option.bind_eq_some_iff.1 ht
      simp only [foundBy, if_pos hr] at hsym
      obtain ⟨resolves, tagged⟩ := symbolAt_eq_some_iff.1 hsym
      exact ⟨⟨_, hp⟩, hr, path, tag, summary, resolves, tagged, hs, rfl⟩
    · simp [Bindings.tag?, foundBy, hr] at ht
  · rintro ⟨⟨b, hp⟩, hr, path, tag, summary, resolves, tagged, hs, rfl⟩
    have hb := hp.eq_foundBy hgs
    rw [hb] at hp
    refine ⟨_, hp, (conclude_matched_iff hc).2 ⟨tag, summary, ?_, hs, rfl⟩⟩
    have hsym : ctx.symbolAt e = some (path, some tag) := symbolAt_eq_some_iff.2 ⟨resolves, tagged⟩
    simp [Bindings.tag?, foundBy, hr, hsym]

end

end ChainLint
