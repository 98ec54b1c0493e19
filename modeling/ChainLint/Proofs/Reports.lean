import ChainLint.Proofs.GivenUp
import ChainLint.Proofs.StoreRuns
import Mathlib
/-!
# What a report says

A report of diagnoses as text ends with a line of counts (`lastLine_reportText`),
from which both counts can be read (`Report.countsLine_inj`). This needs a
location with file, line and column, which every diagnosis of an analysis has
(`located_of_unitResult`). A report can be written if the text of each of its
diagnoses can (`isEncodable_reportText`).
-/

namespace ChainLint

/-! ## Texts that can be written -/

namespace FileText

theorem isEncodable_append (s t : String) : isEncodable (s ++ t) = (isEncodable s && isEncodable t) := by
  simp [isEncodable]

theorem isEncodable_intercalate {sep : String} (hs : isEncodable sep = true) (l : List String) :
    isEncodable (sep.intercalate l) = l.all isEncodable := by
  induction l with
  | nil => rfl
  | cons s rest ih =>
    cases rest with
    | nil => simp
    | cons t rest =>
      rw [String.intercalate_cons_cons, isEncodable_append, isEncodable_append, ih, hs, Bool.and_true]
      rfl

theorem isDigit_of_mem_toString {n : Nat} {c : Char} (h : c ∈ (toString n).toList) : c.isDigit = true := by
  rw [Nat.toString_eq_repr, Nat.repr_eq_ofList_toDigits, String.toList_ofList] at h
  exact Nat.isDigit_of_mem_toDigits (by decide) (by decide) h

/-- Numbers can be written. -/
theorem isEncodable_toString (n : Nat) : isEncodable (toString n) = true := by
  refine List.all_eq_true.2 fun c hc => ?_
  have hd := isDigit_of_mem_toString hc
  have low : c.toNat ≤ 57 := by
    simp only [Char.isDigit, UInt32.le_iff_toNat_le, Bool.and_eq_true, decide_eq_true_eq] at hd
    exact hd.2
  have high : ¬(Text.Surrogate.base ≤ c.toNat ∧ c.toNat < Text.Surrogate.base + 0x800) := by
    unfold Text.Surrogate.base
    omega
  rw [Text.Surrogate.unit?, if_neg high]
  rfl

end FileText

/-! ## Locations -/

/-- A diagnosis has the place of a span as its location. -/
def Diagnosis.Located (d : Diagnosis) : Prop := ∃ s : Span, d.location = s.record

/-- Every diagnosis that a unit gives has a location. -/
theorem located_of_unitResult {registry : Registry} {paths : PathTable} {crate : Crate} {u : CodeUnit}
    {ds : List Diagnosis} (h : unitResult registry paths crate u = .ok ds) : ∀ d ∈ ds, d.Located := by
  intro d hd
  unfold unitResult settle at h
  split at h
  · cases h
    obtain ⟨p, -, hf⟩ := List.mem_filterMap.1 hd
    obtain ⟨found, summary, rfl⟩ := diagnose_of_finding hf
    exact ⟨_, rfl⟩
  · cases h
    cases List.mem_singleton.1 hd
    exact ⟨_, rfl⟩
  · cases h

namespace Report

/-! ## Blocks -/

/-- The text of one diagnosis in a report. -/
def piece (format : Cli.Format) (d : Diagnosis) : String :=
  match format with
  | .json => Json.render 1 (Record.datum d.record)
  | .text => (diagnosis? d).getD ""

theorem diagnosis?_of_located {d : Diagnosis} (h : d.Located) : diagnosis? d = some (piece .text d) := by
  obtain ⟨s, hs⟩ := h
  have found : (diagnosis? d).isSome = true := by
    rw [diagnosis?, Option.isSome_map, lines?, hs]
    rfl
  obtain ⟨text, ht⟩ := Option.isSome_iff_exists.1 found
  rw [piece, ht]
  rfl

/-- The line of counts of some diagnoses and errors. -/
def countsLine (found errors : Nat) : String := s!"{toolName}: {found} diagnostic(s), {errors} error(s)"

theorem text?_of_located {ds : List Diagnosis} (h : ∀ d ∈ ds, d.Located) :
    text? ds = some ("\n\n".intercalate (ds.map (piece .text) ++ [countsLine ds.length (ds.countP isError)])) := by
  have blocks : ds.mapM diagnosis? = some (ds.map (piece .text)) := by
    induction ds with
    | nil => rfl
    | cons d rest ih =>
      obtain ⟨hd, hrest⟩ := List.forall_mem_cons.1 h
      rw [List.mapM_cons, diagnosis?_of_located hd, ih hrest]
      rfl
  rw [text?, blocks]
  rfl

/-! ## The last line -/

/-- A text ends with a line, which a line feed closes. -/
def LastLine (text line : String) : Prop :=
  '\n' ∉ line.toList ∧ ∃ before, text = before ++ line ++ "\n" ∧ (before = "" ∨ ∃ earlier, before = earlier ++ "\n")

/-- The last line is what follows the line feed before the last one. -/
theorem LastLine.toList_eq {text line : String} (h : LastLine text line) :
    line.toList = (text.toList.dropLast.reverse.takeWhile (· ≠ '\n')).reverse := by
  obtain ⟨plain, before, rfl, hb⟩ := h
  have ends : ("\n" : String).toList = ['\n'] := rfl
  have stops : before.toList.reverse.takeWhile (· ≠ '\n') = [] := by
    rcases hb with rfl | ⟨earlier, rfl⟩
    · rfl
    · rw [String.toList_append, ends, List.reverse_concat, List.takeWhile_cons_of_neg (by simp)]
  have all : ∀ c ∈ line.toList.reverse, decide (c ≠ '\n') = true := by
    intro c hc
    refine decide_eq_true fun h => plain ?_
    rw [← h]
    exact List.mem_reverse.1 hc
  rw [String.toList_append, ends, List.dropLast_concat, String.toList_append, List.reverse_append,
    List.takeWhile_append_of_pos all, stops, List.append_nil, List.reverse_reverse]

/-- A text has one last line at most. -/
theorem LastLine.unique {text line line' : String} (h : LastLine text line) (h' : LastLine text line') :
    line = line' :=
  String.toList_inj.1 (h.toList_eq.trans h'.toList_eq.symm)

theorem toList_countsLine (found errors : Nat) : (countsLine found errors).toList =
    "guardlint: ".toList ++ ((toString found).toList ++ (" diagnostic(s), ".toList ++ ((toString errors).toList ++
      " error(s)".toList))) := by
  simp only [countsLine, String.toList_append, List.append_assoc]
  rfl

/-- The number before a character that is no digit can be read. -/
theorem toString_append_inj {n n' : Nat} {c : Char} (hc : c.isDigit = false) {rest rest' : List Char}
    (h : (toString n).toList ++ c :: rest = (toString n').toList ++ c :: rest') : n = n' ∧ rest = rest' := by
  -- both numbers end where the first character stands that is no digit
  have digits : ∀ (n : Nat) (rest : List Char),
      ((toString n).toList ++ c :: rest).takeWhile Char.isDigit = (toString n).toList := fun n rest => by
    rw [List.takeWhile_append_of_pos fun d hd => FileText.isDigit_of_mem_toString hd, List.takeWhile_cons_of_neg (by simp [hc]),
      List.append_nil]
  have same : (toString n).toList = (toString n').toList := by
    rw [← digits n rest, h, digits]
  rw [same] at h
  refine ⟨Nat.repr_inj.1 (String.toList_inj.1 same), ?_⟩
  exact List.tail_eq_of_cons_eq (List.append_cancel_left h)

/-- Both counts can be read from their line. -/
theorem countsLine_inj {found errors found' errors' : Nat} :
    countsLine found errors = countsLine found' errors' ↔ found = found' ∧ errors = errors' := by
  refine ⟨fun h => ?_, fun h => by rw [h.1, h.2]⟩
  have lists := congrArg String.toList h
  rw [toList_countsLine, toList_countsLine] at lists
  obtain ⟨hf, rest⟩ := toString_append_inj (c := ' ') (by decide) (List.append_cancel_left lists)
  obtain ⟨he, -⟩ := toString_append_inj (c := ' ') (by decide) (@List.append_cancel_left _ "diagnostic(s), ".toList _ _ rest)
  exact ⟨hf, he⟩

theorem not_mem_countsLine (found errors : Nat) : '\n' ∉ (countsLine found errors).toList := by
  have plain : ∀ n : Nat, '\n' ∉ (toString n).toList := fun n hn =>
    absurd (FileText.isDigit_of_mem_toString hn) (by decide)
  rw [toList_countsLine]
  simp only [List.mem_append, plain, false_or]
  decide

/-- A report as text ends with the line of counts. -/
theorem lastLine_reportText {ds : List Diagnosis} (h : ∀ d ∈ ds, d.Located) :
    LastLine (Cli.reportText .text ds) (countsLine ds.length (ds.countP isError)) := by
  refine ⟨not_mem_countsLine _ _, ?_⟩
  rw [Cli.reportText, text?_of_located h]
  cases ds with
  | nil => exact ⟨"", by simp, .inl rfl⟩
  | cons d rest =>
    have ends : ("\n\n" : String) = "\n" ++ "\n" := rfl
    refine ⟨"\n\n".intercalate ((d :: rest).map (piece .text)) ++ "\n\n", ?_,
      .inr ⟨"\n\n".intercalate ((d :: rest).map (piece .text)) ++ "\n", ?_⟩⟩
    · rw [String.intercalate_append_of_ne_nil (by simp) (by simp), String.intercalate_singleton]
      rfl
    · rw [ends, String.append_assoc]

/-- The last line tells of no errors if there are none. -/
theorem exists_lastLine_iff {ds : List Diagnosis} (h : ∀ d ∈ ds, d.Located) :
    (∃ n, LastLine (Cli.reportText .text ds) (countsLine n 0)) ↔ ds.countP isError = 0 := by
  have last := lastLine_reportText h
  constructor
  · rintro ⟨n, zero⟩
    exact (countsLine_inj.1 (last.unique zero)).2
  · intro none
    rw [none] at last
    exact ⟨_, last⟩

/-! ## Reports that can be written -/

theorem isEncodable_countsLine (found errors : Nat) : FileText.isEncodable (countsLine found errors) = true := by
  simp only [countsLine, FileText.isEncodable_append, FileText.isEncodable_toString, Bool.and_true]
  decide

theorem isEncodable_newLine (depth : Nat) : FileText.isEncodable (Json.newLine depth) = true := by
  have blanks : ∀ n, (List.replicate n ' ').all (fun c => (Text.Surrogate.unit? c).isNone) = true := fun n =>
    List.all_eq_true.2 fun c hc => by
      rw [List.eq_of_mem_replicate hc]
      rfl
  rw [Json.newLine, FileText.isEncodable, String.toList_ofList, List.all_cons, blanks]
  rfl

theorem isEncodable_block (depth : Nat) (items : List String) :
    FileText.isEncodable (Json.block depth "[" "]" items) = items.all FileText.isEncodable := by
  have bracket : ∀ s ∈ ["[", "]", ","], FileText.isEncodable s = true := by decide
  unfold Json.block
  split
  · next none =>
    rw [List.isEmpty_iff.1 none]
    rfl
  · have comma : FileText.isEncodable ("," ++ Json.newLine (depth + 1)) = true := by
      rw [FileText.isEncodable_append, isEncodable_newLine, bracket "," (by simp)]
      rfl
    simp only [FileText.isEncodable_append, FileText.isEncodable_intercalate comma, isEncodable_newLine,
      bracket "[" (by simp), bracket "]" (by simp), Bool.true_and, Bool.and_true]

theorem renderAll_eq (depth : Nat) (ds : List Datum) : Json.renderAll depth ds = ds.map (Json.render depth) := by
  induction ds with
  | nil => rfl
  | cons d rest ih => rw [Json.renderAll, ih, List.map_cons]

/-- A report as JSON is a list of the texts of its diagnoses. -/
theorem json_eq (ds : List Diagnosis) : json ds = Json.block 0 "[" "]" (ds.map (piece .json)) := by
  have list : ∀ items, Json.render 0 (.list items) = Json.block 0 "[" "]" (Json.renderAll 1 items) := fun items => by
    rw [Json.render]
  rw [json, list, renderAll_eq, List.map_map]
  rfl

/-- A report can be written if and only if the text of each of its diagnoses can. -/
theorem isEncodable_reportText {ds : List Diagnosis} (h : ∀ d ∈ ds, d.Located) (format : Cli.Format) :
    FileText.isEncodable (Cli.reportText format ds) = ds.all fun d => FileText.isEncodable (piece format d) := by
  have feed : FileText.isEncodable "\n" = true := by decide
  cases format with
  | json =>
    rw [Cli.reportText, json_eq, FileText.isEncodable_append, isEncodable_block, feed, Bool.and_true, List.all_map,
      Function.comp_def]
  | text =>
    have feeds : FileText.isEncodable "\n\n" = true := by decide
    rw [Cli.reportText, text?_of_located h, Option.getD_some, FileText.isEncodable_append,
      FileText.isEncodable_intercalate feeds, feed, Bool.and_true, List.all_append, List.all_map, List.all_cons,
      isEncodable_countsLine, List.all_nil, Bool.and_true, Bool.and_true, Function.comp_def]

/-- Where a report can be written, so can a report of some of its diagnoses. -/
theorem isEncodable_reportText_of_subset {ds part : List Diagnosis} (h : ∀ d ∈ ds, d.Located) (hs : part ⊆ ds)
    (format : Cli.Format) (he : FileText.isEncodable (Cli.reportText format ds) = true) :
    FileText.isEncodable (Cli.reportText format part) = true := by
  rw [isEncodable_reportText h, List.all_eq_true] at he
  rw [isEncodable_reportText fun d hd => h d (hs hd), List.all_eq_true]
  exact fun d hd => he d (hs hd)

end Report

end ChainLint
