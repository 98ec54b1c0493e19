import ChainLint.Tree.TypeTable
/-!
# Types in words

`render_iff`: the text of a type is told by where one comes from it by following
pointers. That is a number that the table lacks, or a type that is no pointer;
a chain that is too long, or that goes round in a circle, is cut short. The
stretch of the chain that is followed (`Follows`) is written mark by mark, so
all is said by what stands at its end (`renderWithin_of_follows`).
-/

namespace ChainLint

/-- What a pointer writes, by its kind and by whether it may be written through. -/
inductive PointerMark : String → Bool → String → Prop
  | reference : PointerMark "ref" false "&"
  | mutableReference : PointerMark "ref" true "&mut "
  | constPointer : PointerMark "raw_ptr" false "*const "
  | mutablePointer : PointerMark "raw_ptr" true "*mut "

namespace TypeEntry

/-- The entry is a pointer, which writes a mark and points to a type. -/
structure Points (entry : TypeEntry) (mark : String) (next : Int) : Prop where
  mark : PointerMark entry.kind entry.isMutable mark
  inner : entry.inner = some next

/-- The entry is called so: by its name, or by its kind if it has no name or an empty one. -/
inductive Called (entry : TypeEntry) : String → Prop
  | named {name : String} (given : entry.name = some name) (nonempty : name ≠ "") : Called entry name
  | nameless (given : entry.name = none) : Called entry entry.kind
  | blank (given : entry.name = some "") : Called entry entry.kind

variable {entry : TypeEntry}

theorem called_iff {text : String} : entry.Called text ↔ TypeTable.label entry = text := by
  constructor
  · rintro (⟨given, nonempty⟩ | given | given)
    · simp only [TypeTable.label, given, if_neg nonempty]
    · simp only [TypeTable.label, given]
    · simp only [TypeTable.label, given, if_true]
  · rintro rfl
    unfold TypeTable.label
    split
    · next name given =>
      split
      · next empty =>
        subst empty
        exact .blank given
      · next nonempty => exact .named given nonempty
    · next given => exact .nameless given

theorem pointerMark_iff {mark : String} :
    PointerMark entry.kind entry.isMutable mark ↔ TypeTable.pointerMark? entry = some mark := by
  obtain ⟨id, kind, name, inner, isMutable⟩ := entry
  constructor
  · rintro (_ | _ | _ | _) <;> rfl
  · intro h
    unfold TypeTable.pointerMark? at h
    by_cases ref : kind = referenceKind
    · subst ref
      cases isMutable <;> cases h
      · exact .reference
      · exact .mutableReference
    · by_cases ptr : kind = rawPointerKind
      · subst ptr
        cases isMutable <;> cases h
        · exact .constPointer
        · exact .mutablePointer
      · rw [if_neg ref, if_neg ptr] at h
        cases h

end TypeEntry

namespace TypeTable

/-- From the first type, following pointers writes some marks and comes to the second type. -/
inductive Follows (t : TypeTable) : Int → List String → Int → Prop
  | here (type : Int) : Follows t type [] type
  | via {type next last : Int} {entry : TypeEntry} {mark : String} {marks : List String}
      (found : t.types.get? type = some entry) (points : entry.Points mark next)
      (rest : Follows t next marks last) : Follows t type (mark :: marks) last

/-- How a type is written, by where its pointers lead. -/
inductive Rendering (t : TypeTable) (type : Int) : Except Malformed String → Prop
  /-- The chain comes to a number that the table lacks. -/
  | missing {marks : List String} {last : Int} (chain : t.Follows type marks last) (near : marks.length ≤ 33)
      (lacks : t.types.get? last = none) : Rendering t type (.error (.missingType last))
  /-- The chain ends at a type that is no pointer. -/
  | whole {marks : List String} {last : Int} {entry : TypeEntry} {text : String}
      (chain : t.Follows type marks last) (near : marks.length ≤ 32)
      (found : t.types.get? last = some entry) (ends : ∀ mark next, ¬entry.Points mark next)
      (called : entry.Called text) : Rendering t type (.ok (String.join marks ++ text))
  /-- The chain goes on for too long, whatever comes then. -/
  | cut {marks : List String} {last : Int} {entry : TypeEntry} (chain : t.Follows type marks last)
      (far : marks.length = 33) (found : t.types.get? last = some entry) :
      Rendering t type (.ok (String.join marks ++ "..."))

variable {t : TypeTable} {type last next : Int} {entry : TypeEntry} {mark : String} {marks : List String}

/-! ## One step -/

theorem renderWithin_missing (lacks : t.types.get? type = none) (depth : Nat) :
    t.renderWithin depth type = .error (.missingType type) := by
  unfold renderWithin
  simp only [lookup, lacks]
  rfl

theorem renderWithin_cut (found : t.types.get? type = some entry) : t.renderWithin 0 type = .ok "..." := by
  unfold renderWithin
  simp only [lookup, found]
  rfl

/-- A type with room for what follows: a pointer goes on, and anything else is called by its name. -/
theorem renderWithin_succ (found : t.types.get? type = some entry) (depth : Nat) :
    t.renderWithin (depth + 1) type = match pointerMark? entry, entry.inner with
      | some mark, some next => (t.renderWithin depth next).map (mark ++ ·)
      | _, _ => .ok (label entry) := by
  rw [renderWithin]
  simp only [lookup, found, bind, Except.bind]
  cases pointerMark? entry with
  | none => rfl
  | some mark =>
    cases entry.inner with
    | none => rfl
    | some next => cases t.renderWithin depth next <;> rfl

theorem renderWithin_pointer (found : t.types.get? type = some entry) (points : entry.Points mark next)
    (depth : Nat) : t.renderWithin (depth + 1) type = (t.renderWithin depth next).map (mark ++ ·) := by
  simp only [renderWithin_succ found, TypeEntry.pointerMark_iff.1 points.mark, points.inner]

theorem renderWithin_end (found : t.types.get? type = some entry) (ends : ∀ mark next, ¬entry.Points mark next)
    (depth : Nat) : t.renderWithin (depth + 1) type = .ok (label entry) := by
  rw [renderWithin_succ found]
  split
  · next mark next written inner => exact absurd ⟨TypeEntry.pointerMark_iff.2 written, inner⟩ (ends mark next)
  · rfl

/-! ## Whole chains -/

/-- Marks are written in the order in which pointers are followed, and then what is at the end. -/
theorem renderWithin_of_follows (chain : t.Follows type marks last) (depth : Nat) :
    t.renderWithin (marks.length + depth) type = (t.renderWithin depth last).map (String.join marks ++ ·) := by
  induction chain with
  | here type =>
    rw [List.length_nil, Nat.zero_add]
    cases t.renderWithin depth type <;> simp [Except.map]
  | via found points rest ih =>
    rw [List.length_cons, Nat.add_right_comm, renderWithin_pointer found points, ih]
    cases t.renderWithin depth _ <;> simp [Except.map, String.append_assoc]

theorem render_of_rendering {r : Except Malformed String} (h : t.Rendering type r) : t.render type = r := by
  rw [render]
  cases h with
  | missing chain near lacks =>
    obtain ⟨depth, room⟩ := Nat.exists_eq_add_of_le near
    rw [room, renderWithin_of_follows chain, renderWithin_missing lacks]
    rfl
  | whole chain near found ends called =>
    -- there is room for one step more than the chain takes
    obtain ⟨depth, room⟩ := Nat.exists_eq_add_of_le near
    rw [show 33 = _ + (depth + 1) from congrArg Nat.succ room, renderWithin_of_follows chain,
      renderWithin_end found ends, TypeEntry.called_iff.1 called]
    rfl
  | cut chain far found =>
    have all := renderWithin_of_follows chain 0
    rw [far, renderWithin_cut found] at all
    exact all

/-- One can follow pointers to where there is nothing to follow, or for as long as one likes. -/
theorem exists_follows (t : TypeTable) (depth : Nat) (type : Int) :
    ∃ marks last, t.Follows type marks last ∧
      (marks.length ≤ depth ∧ t.types.get? last = none ∨
        ∃ entry, t.types.get? last = some entry ∧
          (marks.length < depth ∧ (∀ mark next, ¬entry.Points mark next) ∨ marks.length = depth)) := by
  induction depth generalizing type with
  | zero =>
    refine ⟨[], type, .here type, ?_⟩
    cases found : t.types.get? type with
    | none => exact .inl ⟨Nat.le_refl 0, rfl⟩
    | some entry => exact .inr ⟨entry, rfl, .inr rfl⟩
  | succ depth ih =>
    cases found : t.types.get? type with
    | none => exact ⟨[], type, .here type, .inl ⟨Nat.zero_le _, found⟩⟩
    | some entry =>
      by_cases points : ∃ mark next, entry.Points mark next
      · obtain ⟨mark, next, points⟩ := points
        obtain ⟨marks, last, chain, stop⟩ := ih next
        refine ⟨mark :: marks, last, .via found points chain, ?_⟩
        simp only [List.length_cons, Nat.succ_le_succ_iff, Nat.succ_lt_succ_iff, Nat.succ_inj]
        exact stop
      · have ends : ∀ mark next, ¬entry.Points mark next := fun mark next h => points ⟨mark, next, h⟩
        exact ⟨[], type, .here type, .inr ⟨entry, found, .inl ⟨Nat.succ_pos depth, ends⟩⟩⟩

theorem exists_rendering (t : TypeTable) (type : Int) : ∃ r, t.Rendering type r := by
  obtain ⟨marks, last, chain, ⟨near, lacks⟩ | ⟨entry, found, ⟨near, ends⟩ | far⟩⟩ := t.exists_follows 33 type
  · exact ⟨_, .missing chain near lacks⟩
  · exact ⟨_, .whole chain (Nat.le_of_lt_succ near) found ends (TypeEntry.called_iff.2 rfl)⟩
  · exact ⟨_, .cut chain far found⟩

/-- A type is written as its chain of pointers tells. -/
theorem render_iff (t : TypeTable) (type : Int) (r : Except Malformed String) :
    t.render type = r ↔ t.Rendering type r := by
  constructor
  · rintro rfl
    obtain ⟨r, rendering⟩ := t.exists_rendering type
    rwa [render_of_rendering rendering]
  · exact render_of_rendering

/-- A reference to itself is written up to the mark at which it is cut. -/
example : (TypeTable.mk ⟨[(1, ⟨1, "ref", none, some 1, false⟩)]⟩ .empty).render 1 =
    .ok (String.join (List.replicate 33 "&") ++ "...") := rfl

end TypeTable

end ChainLint
