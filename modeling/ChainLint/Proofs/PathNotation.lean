import ChainLint.Dump.Field
import ChainLint.Proofs.Trimming
import ChainLint.Tree.Resolve
import Mathlib.Data.List.Forall2
import Mathlib.Data.List.Infix
/-!
# How paths are written

A path is written as a text with double colons between its segments, or as a
list of them. Either way the segments are read back, with blanks around them or
not, and the text of an identity is such a text. What is cut at double colons is
said by `Cut`; a text is a path if and only if each piece has a character that
is no blank (`path_notation`).
-/

namespace ChainLint

/-! ## Segments -/

/-- A text that can be a segment: it has a first and a last character, and they are no blanks. -/
structure IsSegment (s : String) : Prop where
  first : ∃ c, s.toList.head? = some c ∧ Text.isBlank c = false
  last : ∃ c, s.toList.getLast? = some c ∧ Text.isBlank c = false

/-- The second text is the first one with blanks around it, or without. -/
def Padded (segment s : String) : Prop :=
  ∃ before after : List Char, (∀ c ∈ before, Text.isBlank c = true) ∧ (∀ c ∈ after, Text.isBlank c = true) ∧
    s.toList = before ++ segment.toList ++ after

theorem Padded.refl (s : String) : Padded s s := ⟨[], [], nofun, nofun, by simp⟩

namespace Text

theorem trim_padded {segment s : String} (hs : IsSegment segment) (h : Padded segment s) : trim s = segment := by
  obtain ⟨before, after, hb, ha, heq⟩ := h
  rw [trim, heq, trimList_padded hb ha hs.first hs.last, String.ofList_toList]

theorem trim_spec {s : String} (h : ∃ c ∈ s.toList, isBlank c = false) : IsSegment (trim s) ∧ Padded (trim s) s := by
  obtain ⟨before, after, hb, ha, heq, first, last⟩ := trimList_spec h
  have chars : trimList isBlank s.toList = (trim s).toList := String.toList_ofList.symm
  rw [chars] at heq first last
  exact ⟨⟨first, last⟩, before, after, hb, ha, heq⟩

theorem trim_eq_empty_iff {s : String} : trim s = "" ↔ ∀ c ∈ s.toList, isBlank c = true := by
  constructor
  · intro empty
    by_contra solid
    push Not at solid
    obtain ⟨c, hc, hb⟩ := solid
    obtain ⟨d, hd, -⟩ := (trim_spec ⟨c, hc, Bool.eq_false_iff.2 hb⟩).1.first
    rw [empty] at hd
    cases hd
  · intro all
    rw [trim, trimList_of_all all]

end Text

namespace Dump

/-! ## Cutting at double colons -/

/-- What separates segments. -/
def doubleColon : List Char := [':', ':']

/-- Characters are cut into pieces at double colons, from the left and without overlap: in a piece and the
colon after it no double colon begins. -/
inductive Cut : List Char → List (List Char) → Prop
  | last {cs : List Char} (free : ¬doubleColon <:+: cs) : Cut cs [cs]
  | piece {cs rest : List Char} {pieces : List (List Char)} (free : ¬doubleColon <:+: cs ++ [':'])
    (more : Cut rest pieces) : Cut (cs ++ doubleColon ++ rest) (cs :: pieces)

section
variable {c : Char} {cs rest : List Char} {pieces : List (List Char)}

theorem Cut.free (h : Cut cs pieces) : ∀ piece ∈ pieces, ¬doubleColon <:+: piece := by
  induction h with
  | last free =>
    simpa using free
  | piece free more ih =>
    refine List.forall_mem_cons.2 ⟨fun inside => free ?_, ih⟩
    exact inside.trans (List.prefix_append _ _).isInfix

/-- A character that begins no double colon belongs to the first piece. -/
theorem Cut.cons (h : Cut cs pieces) (hc : ¬doubleColon <+: c :: cs) : Cut (c :: cs) (pieces.modifyHead (c :: ·)) := by
  cases h with
  | last free => exact .last (not_or.2 ⟨hc, free⟩ ∘ List.infix_cons_iff.1)
  | @piece cs rest pieces free more =>
    have longer : c :: (cs ++ [':']) <+: c :: (cs ++ doubleColon ++ rest) := ⟨':' :: rest, by simp [doubleColon]⟩
    have start : ¬doubleColon <+: c :: (cs ++ [':']) := fun inside => hc (inside.trans longer)
    have joined : ¬doubleColon <:+: c :: cs ++ [':'] := not_or.2 ⟨start, free⟩ ∘ List.infix_cons_iff.1
    exact .piece joined more

theorem doubleColon_prefix_iff : doubleColon <+: c :: cs ↔ c = ':' ∧ cs.head? = some ':' := by
  cases cs <;> simp [doubleColon, eq_comm]

theorem splitColons_ne_nil (cs : List Char) : splitColons cs ≠ [] := by
  fun_cases splitColons cs <;> simp

theorem splitColons_doubleColon (rest : List Char) : splitColons (doubleColon ++ rest) = [] :: splitColons rest := by
  show splitColons (':' :: ':' :: rest) = _
  rw [splitColons, if_pos ⟨rfl, rfl⟩]

theorem splitColons_cons (hc : ¬doubleColon <+: c :: cs) :
    splitColons (c :: cs) = (splitColons cs).modifyHead (c :: ·) := by
  cases cs with
  | nil => rfl
  | cons d rest =>
    have colons : ¬(c = ':' ∧ d = ':') := fun h => hc (doubleColon_prefix_iff.2 ⟨h.1, by rw [h.2]; rfl⟩)
    rw [splitColons, if_neg colons]
    cases h : splitColons (d :: rest) with
    | nil => exact absurd h (splitColons_ne_nil _)
    | cons piece pieces => rfl

theorem splitColons_of_free (free : ¬doubleColon <:+: cs) : splitColons cs = [cs] := by
  induction cs with
  | nil => rfl
  | cons c cs ih =>
    obtain ⟨hc, hcs⟩ := not_or.1 (free ∘ List.infix_cons_iff.2)
    rw [splitColons_cons hc, ih hcs]
    rfl

theorem splitColons_piece (free : ¬doubleColon <:+: cs ++ [':']) (rest : List Char) :
    splitColons (cs ++ doubleColon ++ rest) = cs :: splitColons rest := by
  induction cs with
  | nil => exact splitColons_doubleColon rest
  | cons c cs ih =>
    obtain ⟨hc, hcs⟩ := not_or.1 (free ∘ List.infix_cons_iff.2)
    -- whether a double colon begins at `c` shows in the next character
    have same : (cs ++ doubleColon ++ rest).head? = (cs ++ [':']).head? := by cases cs <;> rfl
    have start : ¬doubleColon <+: c :: (cs ++ doubleColon ++ rest) := by
      rw [doubleColon_prefix_iff, same, ← doubleColon_prefix_iff]
      exact hc
    rw [List.cons_append, List.cons_append, splitColons_cons start, ih hcs]
    rfl

theorem cut_splitColons (cs : List Char) : Cut cs (splitColons cs) := by
  fun_induction splitColons cs with
  | case1 => exact .last (by simp [doubleColon])
  | case2 c => exact .last (by simp [doubleColon, List.infix_cons_iff])
  | case3 c d rest colons ih =>
    obtain ⟨rfl, rfl⟩ := colons
    have single : ¬doubleColon <:+: [] ++ [':'] := by simp [doubleColon, List.infix_cons_iff]
    exact .piece single ih
  | case4 c d rest colons none => exact absurd none (splitColons_ne_nil _)
  | case5 c d rest colons piece pieces heq ih =>
    have hc : ¬doubleColon <+: c :: d :: rest := by
      rw [doubleColon_prefix_iff, List.head?_cons, Option.some.injEq]
      exact colons
    rw [heq] at ih
    exact ih.cons hc

/-- There is one way to cut at double colons. -/
theorem cut_iff : Cut cs pieces ↔ pieces = splitColons cs := by
  constructor
  · intro h
    induction h with
    | last free => rw [splitColons_of_free free]
    | piece free more ih => rw [splitColons_piece free, ← ih]
  · rintro rfl
    exact cut_splitColons cs

/-- Pieces without colons are found again between double colons. -/
theorem splitColons_intercalate (ne : pieces ≠ []) (h : ∀ piece ∈ pieces, ':' ∉ piece) :
    splitColons (doubleColon.intercalate pieces) = pieces := by
  have free : ∀ piece ∈ pieces, ¬doubleColon <:+: piece ++ [':'] := by
    intro piece hp inside
    have colons := inside.sublist.count_le ':'
    rw [List.count_append, List.count_eq_zero.2 (h piece hp)] at colons
    exact absurd colons (by decide)
  induction pieces with
  | nil => exact absurd rfl ne
  | cons piece more ih =>
    cases more with
    | nil =>
      rw [List.intercalate_singleton]
      refine splitColons_of_free fun inside => free piece List.mem_cons_self ?_
      exact inside.trans (List.prefix_append _ _).isInfix
    | cons next more =>
      rw [List.intercalate_cons_cons, splitColons_piece (free piece List.mem_cons_self)]
      rw [ih (by simp) (fun p hp => h p (List.mem_cons_of_mem _ hp)) fun p hp => free p (List.mem_cons_of_mem _ hp)]

end

/-! ## Paths -/

/-- A piece that has a character that is no blank gives a segment. -/
theorem segment_of_piece {piece : List Char} (h : ∃ c ∈ piece, Text.isBlank c = false) :
    IsSegment (Text.trim (String.ofList piece)) ∧
      Padded (Text.trim (String.ofList piece)) (String.ofList piece) :=
  Text.trim_spec (by rwa [String.toList_ofList])

theorem splitPath_eq {d : Datum} {segments : List String} (h : rawSegments? d = some segments) :
    splitPath d = if segments = [] ∨ "" ∈ segments then .error (.invalidPath d) else .ok segments := by
  rw [splitPath, h]
  simp

theorem empty_not_mem {path : List String} (hs : ∀ segment ∈ path, IsSegment segment) : "" ∉ path := by
  intro h
  obtain ⟨c, hc, -⟩ := (hs "" h).first
  cases hc

theorem splitPath_of_blank {s : String} (h : ∃ piece ∈ splitColons s.toList, ∀ c ∈ piece, Text.isBlank c = true) :
    splitPath (.text s) = .error (.invalidPath (.text s)) := by
  obtain ⟨piece, hp, blank⟩ := h
  have empty : Text.trim (String.ofList piece) = "" := Text.trim_eq_empty_iff.2 (by rwa [String.toList_ofList])
  rw [splitPath_eq (d := .text s) rfl, if_pos (.inr (List.mem_map.2 ⟨piece, hp, empty⟩))]

theorem splitPath_of_filled {s : String}
    (h : ∀ piece ∈ splitColons s.toList, ∃ c ∈ piece, Text.isBlank c = false) :
    splitPath (.text s) = .ok ((splitColons s.toList).map fun piece => Text.trim (String.ofList piece)) := by
  have full : "" ∉ (splitColons s.toList).map fun piece => Text.trim (String.ofList piece) := by
    refine empty_not_mem fun segment hm => ?_
    obtain ⟨piece, hp, rfl⟩ := List.mem_map.1 hm
    exact (segment_of_piece (h piece hp)).1
  rw [splitPath_eq (d := .text s) rfl, if_neg (not_or.2 ⟨by simp [splitColons_ne_nil], full⟩)]

/-- Each piece of a text has a character that is no blank, or the text is refused. -/
theorem filled_or_refused (s : String) :
    (∀ piece ∈ splitColons s.toList, ∃ c ∈ piece, Text.isBlank c = false) ∨
      splitPath (.text s) = .error (.invalidPath (.text s)) := by
  by_cases h : ∃ piece ∈ splitColons s.toList, ∀ c ∈ piece, Text.isBlank c = true
  · exact .inr (splitPath_of_blank h)
  · exact .inl (by simpa using h)

theorem map_trim_padded {path texts : List String} (hs : ∀ segment ∈ path, IsSegment segment)
    (h : List.Forall₂ Padded path texts) : texts.map Text.trim = path := by
  induction h with
  | nil => rfl
  | cons head more ih =>
    obtain ⟨hsegment, hrest⟩ := List.forall_mem_cons.1 hs
    rw [List.map_cons, Text.trim_padded hsegment head, ih hrest]

theorem splitPath_of_list {path texts : List String} (ne : path ≠ []) (hs : ∀ segment ∈ path, IsSegment segment)
    (h : List.Forall₂ Padded path texts) : splitPath (.list (texts.map .text)) = .ok path := by
  have raw : rawSegments? (.list (texts.map .text)) = some path := by
    rw [rawSegments?, List.map_map, ← map_trim_padded hs h]
    rfl
  rw [splitPath_eq raw, if_neg (not_or.2 ⟨ne, empty_not_mem hs⟩)]

theorem colon_not_mem_padded {segment s : String} (h : Padded segment s) (hc : ':' ∉ segment.toList) :
    ':' ∉ s.toList := by
  obtain ⟨before, after, hb, ha, heq⟩ := h
  have solid : Text.isBlank ':' = false := by decide
  rw [heq]
  simp only [List.mem_append, not_or]
  refine ⟨⟨fun inside => ?_, hc⟩, fun inside => ?_⟩
  · rw [hb _ inside] at solid
    cases solid
  · rw [ha _ inside] at solid
    cases solid

theorem splitPath_of_text {path texts : List String} (ne : path ≠ [])
    (hs : ∀ segment ∈ path, IsSegment segment ∧ ':' ∉ segment.toList) (h : List.Forall₂ Padded path texts) :
    splitPath (.text (joinPath texts)) = .ok path := by
  have plain : ∀ piece ∈ texts.map String.toList, ':' ∉ piece := by
    intro piece hp
    obtain ⟨s, hm, rfl⟩ := List.mem_map.1 hp
    clear ne hp
    induction h with
    | nil => cases hm
    | cons head more ih =>
      obtain ⟨hsegment, hrest⟩ := List.forall_mem_cons.1 hs
      rcases List.mem_cons.1 hm with rfl | hm
      · exact colon_not_mem_padded head hsegment.2
      · exact ih hrest hm
  have pieces : texts.map String.toList ≠ [] := by
    intro none
    rw [List.map_eq_nil_iff.1 none] at h
    cases h
    exact ne rfl
  have cut : splitColons (joinPath texts).toList = texts.map String.toList := by
    rw [joinPath, String.toList_intercalate]
    exact splitColons_intercalate pieces plain
  have raw : rawSegments? (.text (joinPath texts)) = some path := by
    rw [rawSegments?, cut, List.map_map, ← map_trim_padded (fun s hs' => (hs s hs').1) h]
    simp
  rw [splitPath_eq raw, if_neg (not_or.2 ⟨ne, empty_not_mem fun s hs' => (hs s hs').1⟩)]

/-- Segments without colons are read back from the text of their path and from their list, with blanks
around them or not. A text is a path if and only if each piece between double colons has a character that
is no blank. Its segments are then the pieces without the blanks around them, and no segment holds a double
colon. Any other text is refused as no path. -/
theorem path_notation :
    (∀ path : List String, path ≠ [] → (∀ segment ∈ path, IsSegment segment ∧ ':' ∉ segment.toList) →
      splitPath (.text (SymbolPath.mk path).text) = .ok path ∧ splitPath (.list (path.map .text)) = .ok path ∧
      ∀ texts, List.Forall₂ Padded path texts →
        splitPath (.text (joinPath texts)) = .ok path ∧ splitPath (.list (texts.map .text)) = .ok path) ∧
    ∀ s : String, ∃ pieces, (∀ ps, Cut s.toList ps ↔ ps = pieces) ∧
      ((∃ path, splitPath (.text s) = .ok path) ↔ ∀ piece ∈ pieces, ∃ c ∈ piece, Text.isBlank c = false) ∧
      (∀ path, splitPath (.text s) = .ok path →
        List.Forall₂ (fun piece segment => Padded segment (String.ofList piece)) pieces path ∧
        ∀ segment ∈ path, IsSegment segment ∧ ¬doubleColon <:+: segment.toList) ∧
      ∀ fault, splitPath (.text s) = .error fault → fault = .invalidPath (.text s) := by
  refine ⟨fun path ne hs => ?_, fun s => ⟨splitColons s.toList, fun _ => cut_iff, ?_, ?_, ?_⟩⟩
  · have bare : List.Forall₂ Padded path path := List.forall₂_same.2 fun segment _ => .refl segment
    have segments : ∀ segment ∈ path, IsSegment segment := fun segment h => (hs segment h).1
    exact ⟨splitPath_of_text ne hs bare, splitPath_of_list ne segments bare,
      fun texts h => ⟨splitPath_of_text ne hs h, splitPath_of_list ne segments h⟩⟩
  · constructor
    · rintro ⟨path, read⟩
      rcases filled_or_refused s with filled | refused
      · exact filled
      · cases read.symm.trans refused
    · exact fun filled => ⟨_, splitPath_of_filled filled⟩
  · intro path read
    rcases filled_or_refused s with filled | refused
    · cases read.symm.trans (splitPath_of_filled filled)
      refine ⟨?_, fun segment hm => ?_⟩
      · rw [List.forall₂_map_right_iff, List.forall₂_same]
        exact fun piece hp => (segment_of_piece (filled piece hp)).2
      · obtain ⟨piece, hp, rfl⟩ := List.mem_map.1 hm
        obtain ⟨segment, before, after, -, -, heq⟩ := segment_of_piece (filled piece hp)
        refine ⟨segment, fun inside => (cut_splitColons s.toList).free piece hp ?_⟩
        rw [String.toList_ofList] at heq
        rw [heq]
        exact inside.trans ⟨before, after, rfl⟩
    · cases read.symm.trans refused
  · intro fault refused
    rcases filled_or_refused s with filled | same
    · cases refused.symm.trans (splitPath_of_filled filled)
    · cases refused.symm.trans same
      rfl

/-! ## Blanks and colons -/

/-- A path of two segments. -/
def memPath : List String := ["core", "mem"]

/-- Its segments with blanks around them. -/
def paddedMem : List String := [" core\t", "mem\n"]

theorem isSegment_mem : ∀ segment ∈ memPath, IsSegment segment ∧ ':' ∉ segment.toList := by
  refine List.forall_mem_cons.2 ⟨?_, List.forall_mem_singleton.2 ?_⟩
  · exact ⟨⟨⟨'c', by decide, by decide⟩, 'e', by decide, by decide⟩, by decide⟩
  · exact ⟨⟨⟨'m', by decide, by decide⟩, 'm', by decide, by decide⟩, by decide⟩

theorem padded_mem : List.Forall₂ Padded memPath paddedMem := by
  refine .cons ⟨[' '], ['\t'], ?_, ?_, rfl⟩ (.cons ⟨[], ['\n'], nofun, ?_, rfl⟩ .nil)
  all_goals exact List.forall_mem_singleton.2 rfl

/-- The segments are found between the blanks. Of three colons the last one belongs to the next piece, and a
piece of blanks is no segment. -/
theorem paddedMem_read :
    (memPath ≠ [] ∧ (∀ segment ∈ memPath, IsSegment segment ∧ ':' ∉ segment.toList) ∧
      List.Forall₂ Padded memPath paddedMem) ∧
    splitPath (.text " core\t::mem\n") = .ok memPath ∧
    (splitPath (.text "a:::b") = .ok ["a", ":b"] ∧
      ∀ segment ∈ ["a", ":b"], IsSegment segment ∧ ¬doubleColon <:+: segment.toList) ∧
    splitPath (.text "a:: ::b") = .error (.invalidPath (.text "a:: ::b")) := by
  obtain ⟨written, read⟩ := path_notation
  have text : joinPath paddedMem = " core\t::mem\n" := by decide
  have three : splitPath (.text "a:::b") = .ok ["a", ":b"] := rfl
  have blank : ∃ fault, splitPath (.text "a:: ::b") = .error fault := ⟨_, rfl⟩
  refine ⟨⟨by decide, isSegment_mem, padded_mem⟩, ?_, ⟨three, ?_⟩, ?_⟩
  · rw [← text]
    exact ((written memPath (by decide) isSegment_mem).2.2 paddedMem padded_mem).1
  · obtain ⟨pieces, -, -, found, -⟩ := read "a:::b"
    exact (found _ three).2
  · obtain ⟨pieces, -, -, -, refused⟩ := read "a:: ::b"
    obtain ⟨fault, h⟩ := blank
    rw [h, refused fault h]

end Dump

end ChainLint
