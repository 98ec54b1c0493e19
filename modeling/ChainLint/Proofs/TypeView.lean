import ChainLint.Proofs.Remembering
import ChainLint.TypeView
/-!
# Shapes are those of the first time

`answers_of_first_success`: a shape is told as it was when it was first found,
by what was recorded for the nodes then; until it is found it is looked up anew.
Texts are told by what is recorded now. So there is a table for each node by
which its shape is told (`TypeTable.seen`), and a request keeps the remembered
shapes in step with these tables (`Faithful.serve`).
-/

namespace ChainLint

namespace TypeTable

/-- The shape of a node by a table: that of no type in particular where none is recorded, and a fault where
the recorded type is not there. -/
inductive Shaped (t : TypeTable) (node : Int) : Except Malformed Shape → Prop
  | untyped (unrecorded : t.nodeTypes.get? node = none) : Shaped t node (.ok .other)
  | missing {type : Int} (recorded : t.nodeTypes.get? node = some type) (lacks : t.types.get? type = none) :
      Shaped t node (.error (.missingNodeType node type))
  | known {type : Int} {entry : TypeEntry} (recorded : t.nodeTypes.get? node = some type)
      (found : t.types.get? type = some entry) : Shaped t node (.ok (.ofKind entry.kind))

theorem shapeOf_of_shaped {t : TypeTable} {node : Int} {answer : Except Malformed Shape}
    (h : t.Shaped node answer) : t.shapeOf node = answer := by
  unfold shapeOf ofNode
  cases h with
  | untyped unrecorded =>
    simp only [unrecorded]
    rfl
  | missing recorded lacks =>
    simp only [recorded, lacks]
    rfl
  | known recorded found =>
    simp only [recorded, found]
    rfl

theorem shapeOf_iff {t : TypeTable} {node : Int} {answer : Except Malformed Shape} :
    t.shapeOf node = answer ↔ t.Shaped node answer := by
  constructor
  · rintro rfl
    cases recorded : t.nodeTypes.get? node with
    | none =>
      have shaped : t.Shaped node _ := .untyped recorded
      rwa [shapeOf_of_shaped shaped]
    | some type =>
      cases found : t.types.get? type with
      | none =>
        have shaped : t.Shaped node _ := .missing recorded found
        rwa [shapeOf_of_shaped shaped]
      | some entry =>
        have shaped : t.Shaped node _ := .known recorded found
        rwa [shapeOf_of_shaped shaped]
  · exact shapeOf_of_shaped

end TypeTable

namespace TypeView

/-! ## What is recorded in the course of events -/

/-- The table after an event. -/
def Event.change (t : TypeTable) : Event → TypeTable
  | .record node type => t.record node type
  | .forget node => t.forget node
  | _ => t

/-- The table after events in order. -/
def tableAfter (t : TypeTable) (events : List Event) : TypeTable := events.foldl Event.change t

/-- In these events the shape of a node was asked for in vain, if at all. -/
def Unfound (node : Int) (events : List Event) : Prop := ∀ shape, .shape node (.ok shape) ∉ events

/-- Whether an event finds the shape of a node. -/
def Event.finds (node : Int) : Event → Bool
  | .shape n (.ok _) => n = node
  | _ => false

/-- The table by which the shape of a node is told after events: the one in which it was first found, or
else the present one. -/
def tableFor (t : TypeTable) (node : Int) : List Event → TypeTable
  | [] => t
  | e :: rest => if e.finds node then t else tableFor (e.change t) node rest

variable {t : TypeTable} {node : Int} {events : List Event}

theorem finds_iff {e : Event} : e.finds node = true ↔ ∃ shape, e = .shape node (.ok shape) := by
  cases e with
  | shape n answer =>
    cases answer with
    | ok shape => simp [Event.finds]
    | error fault => simp [Event.finds]
  | _ => simp [Event.finds]

theorem unfound_iff : Unfound node events ↔ ∀ e ∈ events, e.finds node = false := by
  constructor
  · intro h e he
    rw [Bool.eq_false_iff]
    intro found
    obtain ⟨shape, rfl⟩ := finds_iff.1 found
    exact h shape he
  · intro h shape hm
    have := h _ hm
    simp [Event.finds] at this

theorem tableFor_of_unfound (h : Unfound node events) (later : List Event) :
    tableFor t node (events ++ later) = tableFor (tableAfter t events) node later := by
  rw [unfound_iff] at h
  induction events generalizing t with
  | nil => rfl
  | cons e rest ih =>
    obtain ⟨he, hrest⟩ := List.forall_mem_cons.1 h
    rw [List.cons_append, tableFor, he]
    exact ih hrest

/-- Once the shape is found, it is told by the same table ever after. -/
theorem tableFor_of_found {shape : Shape} (h : Unfound node events) (later : List Event) :
    tableFor t node (events ++ .shape node (.ok shape) :: later) = tableAfter t events := by
  rw [tableFor_of_unfound h, tableFor, if_pos (finds_iff.2 ⟨shape, rfl⟩)]

theorem tableFor_append_of_not_unfound (h : ¬Unfound node events) (later : List Event) :
    tableFor t node (events ++ later) = tableFor t node events := by
  induction events generalizing t with
  | nil => exact absurd (fun _ => List.not_mem_nil) h
  | cons e rest ih =>
    simp only [List.cons_append, tableFor]
    by_cases found : e.finds node
    · rw [if_pos found, if_pos found]
    · rw [if_neg found, if_neg found]
      refine ih fun none => h ?_
      rw [unfound_iff] at none ⊢
      exact List.forall_mem_cons.2 ⟨by simpa using found, none⟩

theorem tableAfter_append (events later : List Event) :
    tableAfter t (events ++ later) = tableAfter (tableAfter t events) later := List.foldl_append

/-! ## Events -/

/-- The answer of an event is told by the table for its node, or by the present one. -/
def Explained (t : TypeTable) (before : List Event) : Event → Prop
  | .shape node answer => (tableFor t node before).Shaped node answer
  | .text node answer => answer = (tableAfter t before).nodeText node
  | .record _ _ | .forget _ => True

/-- A view is what the events have come to: it has the present table, and remembers the shapes that were
found, each by the table for its node. -/
structure Faithful (t : TypeTable) (events : List Event) (v : TypeView) : Prop where
  types : v.types = tableAfter t events
  known : ∀ node shape, v.memo.known.get? node = some shape →
    ¬Unfound node events ∧ (tableFor t node events).Shaped node (.ok shape)
  unknown : ∀ node, v.memo.known.get? node = none → Unfound node events

theorem faithful_start (t : TypeTable) : Faithful t [] (start t) where
  types := rfl
  known _ _ h := by cases h
  unknown _ _ _ := List.not_mem_nil

variable {v : TypeView}

theorem unfound_append {e : Event} : Unfound node (events ++ [e]) ↔ Unfound node events ∧ e.finds node = false := by
  simp only [unfound_iff, List.forall_mem_append, List.forall_mem_singleton]

/-- An event that finds no shape leaves everything found as it was. -/
theorem Faithful.pass (h : Faithful t events v) {e : Event} (silent : ∀ node, e.finds node = false) :
    Faithful t (events ++ [e]) ⟨e.change v.types, v.memo⟩ where
  types := by
    rw [tableAfter_append, h.types]
    rfl
  known node shape hk := by
    obtain ⟨found, shaped⟩ := h.known node shape hk
    refine ⟨fun none => found (unfound_append.1 none).1, ?_⟩
    rwa [tableFor_append_of_not_unfound found]
  unknown node hn := unfound_append.2 ⟨h.unknown node hn, silent node⟩

/-- A shape that is found is remembered, and told by the present table from now on. -/
theorem Faithful.find (h : Faithful t events v) {shape : Shape} (new : v.memo.known.get? node = none)
    (shaped : v.types.Shaped node (.ok shape)) :
    Faithful t (events ++ [.shape node (.ok shape)]) ⟨v.types, ⟨v.memo.known.insert node shape⟩⟩ where
  types := by
    rw [tableAfter_append, h.types]
    rfl
  known n s hk := by
    rw [Table.get?_insert] at hk
    by_cases same : node = n
    · subst same
      rw [if_pos rfl] at hk
      cases hk
      refine ⟨fun none => none shape (by simp), ?_⟩
      rw [tableFor_of_found (h.unknown node new), ← h.types]
      exact shaped
    · rw [if_neg same] at hk
      obtain ⟨found, shaped⟩ := h.known n s hk
      refine ⟨fun none => found (unfound_append.1 none).1, ?_⟩
      rwa [tableFor_append_of_not_unfound found]
  unknown n hn := by
    rw [Table.get?_insert] at hn
    by_cases same : node = n
    · rw [if_pos same] at hn
      cases hn
    · rw [if_neg same] at hn
      exact unfound_append.2 ⟨h.unknown n hn, by simp [Event.finds, same]⟩

/-- A shape that is known already stays what it is. -/
theorem Faithful.recall (h : Faithful t events v) {shape : Shape} (known : v.memo.known.get? node = some shape) :
    Faithful t (events ++ [.shape node (.ok shape)]) v where
  types := by
    rw [tableAfter_append, h.types]
    rfl
  known n s hk := by
    obtain ⟨found, shaped⟩ := h.known n s hk
    refine ⟨fun none => found (unfound_append.1 none).1, ?_⟩
    rwa [tableFor_append_of_not_unfound found]
  unknown n hn := by
    refine unfound_append.2 ⟨h.unknown n hn, ?_⟩
    have other : node ≠ n := by
      rintro rfl
      rw [known] at hn
      cases hn
    simp [Event.finds, other]

theorem serve_shape (v : TypeView) (node : Int) {answer : Except Malformed Shape} {memo : ShapeMemo}
    (h : v.memo.shapeOf v.types node = (answer, memo)) :
    v.serve (.shape node) = (.shape node answer, ⟨v.types, memo⟩) := by
  rw [serve, h]

/-- Serving a request is explained by what came before, and the view keeps to what has come about. -/
theorem Faithful.serve (h : Faithful t events v) (r : Request) :
    Explained t events (v.serve r).1 ∧ Faithful t (events ++ [(v.serve r).1]) (v.serve r).2 := by
  cases r with
  | shape node =>
    cases hk : v.memo.known.get? node with
    | some shape =>
      have answered : v.memo.shapeOf v.types node = (.ok shape, v.memo) := by simp only [ShapeMemo.shapeOf, hk]
      rw [serve_shape v node answered]
      exact ⟨(h.known node shape hk).2, h.recall hk⟩
    | none =>
      -- the shape was not found before, so the present table is the one to tell it
      have present : tableFor t node events = v.types := by
        rw [h.types, ← List.append_nil events, tableFor_of_unfound (h.unknown node hk), List.append_nil]
        rfl
      cases hs : v.types.shapeOf node with
      | ok shape =>
        have answered : v.memo.shapeOf v.types node = (.ok shape, ⟨v.memo.known.insert node shape⟩) := by
          simp only [ShapeMemo.shapeOf, hk, hs]
        have shaped := TypeTable.shapeOf_iff.1 hs
        rw [serve_shape v node answered]
        exact ⟨by rwa [Explained, present], h.find hk shaped⟩
      | error fault =>
        have answered : v.memo.shapeOf v.types node = (.error fault, v.memo) := by
          simp only [ShapeMemo.shapeOf, hk, hs]
        have shaped := TypeTable.shapeOf_iff.1 hs
        rw [serve_shape v node answered]
        exact ⟨by rwa [Explained, present], h.pass fun _ => rfl⟩
  | text node =>
    refine ⟨?_, h.pass fun _ => rfl⟩
    show v.types.nodeText node = _
    rw [h.types]
  | record node type => exact ⟨trivial, h.pass fun _ => rfl⟩
  | forget node => exact ⟨trivial, h.pass fun _ => rfl⟩

/-- Every event of a run is explained by those before it. -/
theorem Faithful.explained {requests : List Request} (h : Faithful t events v) {before after : List Event}
    {e : Event} (split : v.serveAll requests = before ++ e :: after) : Explained t (events ++ before) e := by
  induction requests generalizing v events before with
  | nil =>
    rw [serveAll] at split
    cases before <;> cases split
  | cons r rest ih =>
    obtain ⟨explained, faithful⟩ := h.serve r
    rw [serveAll] at split
    cases before with
    | nil =>
      obtain ⟨rfl, -⟩ := List.cons.inj split
      rwa [List.append_nil]
    | cons first before =>
      obtain ⟨rfl, later⟩ := List.cons.inj split
      have := ih faithful later
      rwa [List.append_assoc] at this

theorem serveAll_cons (v : TypeView) (r : Request) (rest : List Request) :
    v.serveAll (r :: rest) = (v.serve r).1 :: (v.serve r).2.serveAll rest := rfl

theorem requests_serveAll (v : TypeView) (requests : List Request) :
    (v.serveAll requests).map Event.request = requests := by
  induction requests generalizing v with
  | nil => rfl
  | cons r rest ih =>
    have asked : (v.serve r).1.request = r := by cases r <;> rfl
    rw [serveAll_cons, List.map_cons, asked, ih]

/-- What a request that changes nothing is answered by the table alone, without anything remembered. -/
def plainly (t : TypeTable) : Request → Event
  | .shape node => .shape node (t.shapeOf node)
  | .text node => .text node (t.nodeText node)
  | .record node type => .record node type
  | .forget node => .forget node

/-- Whether a request only asks for something. -/
def Request.asks : Request → Bool
  | .shape _ | .text _ => true
  | .record _ _ | .forget _ => false

/-- Where nothing is changed, all is answered by the table alone. -/
theorem serveAll_of_asks {requests : List Request} (h : v.memo.Recalls v.types)
    (asks : ∀ r ∈ requests, r.asks = true) : v.serveAll requests = requests.map (plainly v.types) := by
  induction requests generalizing v with
  | nil => rfl
  | cons r rest ih =>
    obtain ⟨first, later⟩ := List.forall_mem_cons.1 asks
    rw [serveAll_cons, List.map_cons]
    cases r with
    | shape node =>
      have same := ShapeMemo.shapeOf_fst h node
      have kept := ShapeMemo.recalls_shapeOf h node
      cases found : v.memo.shapeOf v.types node with
      | mk answer memo =>
        rw [found] at same kept
        subst same
        rw [serve_shape v node found]
        exact congrArg _ (ih kept later)
    | text node => exact congrArg _ (ih h later)
    | record | forget => cases first

/-- A shape is told as it was when it was first found, by what was recorded then; as long as it was asked
for in vain it is told by what is recorded now. Texts are told by what is recorded now. Where nothing is
recorded in between, all is answered as if nothing were remembered. -/
theorem answers_of_first_success (t : TypeTable) (requests : List Request) :
    let events := (start t).serveAll requests
    events.map Event.request = requests ∧
    (∀ before node answer after, events = before ++ .shape node answer :: after →
      (Unfound node before → (tableAfter t before).Shaped node answer) ∧
      ∀ first shape between, before = first ++ .shape node (.ok shape) :: between → Unfound node first →
        (tableAfter t first).Shaped node answer) ∧
    (∀ before node answer after, events = before ++ .text node answer :: after →
      answer = (tableAfter t before).nodeText node) ∧
    ((∀ r ∈ requests, r.asks = true) → events = requests.map (plainly t)) := by
  intro events
  have explained : ∀ before e after, events = before ++ e :: after → Explained t before e :=
    fun before e after split => (faithful_start t).explained split
  refine ⟨requests_serveAll _ _, fun before node answer after split => ⟨fun none => ?_, ?_⟩,
    fun before node answer after => explained before _ after, serveAll_of_asks (ShapeMemo.recalls_empty t)⟩
  · have shaped : (tableFor t node before).Shaped node answer := explained before _ after split
    rwa [← List.append_nil before, tableFor_of_unfound none] at shaped
  · rintro first shape between rfl none
    have shaped : (tableFor t node _).Shaped node answer := explained _ _ after split
    rwa [tableFor_of_found none] at shaped

/-! ## A type that is recorded late -/

/-- A node whose recorded type is missing. -/
def lateTable : TypeTable where
  types := ⟨[(1, ⟨1, "ref", none, none, false⟩), (2, ⟨2, "int", some "i32", none, false⟩)]⟩
  nodeTypes := ⟨[(5, 9)]⟩

/-- The node is asked for in vain; then it is given a type, and later another one. -/
def lateEvents : List Event :=
  [.shape 5 (.error (.missingNodeType 5 9)), .record 5 1, .shape 5 (.ok .reference), .record 5 2,
    .shape 5 (.ok .reference), .text 5 (.ok (some "i32"))]

theorem lateEvents_unfound : Unfound 5 (lateEvents.take 2) := by
  rw [unfound_iff]
  decide

/-- The fault is not remembered. The shape is that of the first type, the text that of the second one. -/
theorem late_answers :
    (start lateTable).serveAll (lateEvents.map Event.request) = lateEvents ∧
    lateTable.Shaped 5 (.error (.missingNodeType 5 9)) ∧
    (tableAfter lateTable (lateEvents.take 2)).Shaped 5 (.ok .reference) ∧
    (tableAfter lateTable (lateEvents.take 5)).nodeText 5 = .ok (some "i32") ∧
    (start lateTable).serveAll [.text 5, .shape 5] =
      [.text 5 (.error (.missingType 9)), .shape 5 (.error (.missingNodeType 5 9))] := by
  have run : (start lateTable).serveAll (lateEvents.map Event.request) = lateEvents := rfl
  obtain ⟨-, shapes, texts, -⟩ := answers_of_first_success lateTable (lateEvents.map Event.request)
  rw [run] at shapes texts
  obtain ⟨now, -⟩ := shapes [] 5 _ _ rfl
  obtain ⟨-, first⟩ := shapes (lateEvents.take 4) 5 _ _ rfl
  obtain ⟨-, -, -, plain⟩ := answers_of_first_success lateTable [.text 5, .shape 5]
  exact ⟨run, now fun _ => List.not_mem_nil, first (lateEvents.take 2) .reference _ rfl lateEvents_unfound,
    (texts (lateEvents.take 5) 5 _ _ rfl).symm, plain (by decide)⟩

end TypeView

end ChainLint
