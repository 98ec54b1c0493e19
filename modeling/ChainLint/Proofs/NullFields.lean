import ChainLint.Proofs.DeclaredRules
import ChainLint.Proofs.GivenUp
import ChainLint.Proofs.Mappings
import ChainLint.Report.Json
import ChainLint.Report.Text
import ChainLint.Rule.Reading
/-!
# Empty fields of a rule

A field that is null counts as absent where a rule is read from its document
(`null_fields_read`): the same check fails, or the same rule is made. Two texts
are taken without a look at null, which is spelled out in them (`nullText`): the
help, which then stands in every finding, and the reason of a description.
Reading looks at fields only (`ofEntries_congr`), and what it makes of them is
seen in findings and documentation line by line (`diagnosis?_diagnose`,
`ruleDocs_documented`).
-/

namespace ChainLint

/-! ## Null and absent fields -/

namespace Datum

/-- The entries with null under some text keys. -/
def nulled (fields : List String) (entries : List (Datum × Datum)) : List (Datum × Datum) :=
  fields.foldl (fun entries field => putEntry (.text field) .null entries) entries

/-- Whether a key is one of some texts. -/
def isKeyOf (fields : List String) : Datum → Bool
  | .text s => fields.contains s
  | _ => false

/-- The entries without those under some text keys. -/
def leftOut (fields : List String) (entries : List (Datum × Datum)) : List (Datum × Datum) :=
  entries.filter fun e => !e.1.isKeyOf fields

section
variable {k : String} {fields : List String} {entries : List (Datum × Datum)}

theorem field?_nulled (k : String) (fields : List String) (entries : List (Datum × Datum)) :
    field? k (nulled fields entries) = if k ∈ fields then some .null else field? k entries := by
  induction fields generalizing entries with
  | nil => simp [nulled]
  | cons field rest ih =>
    have step : nulled (field :: rest) entries = nulled rest (putEntry (.text field) .null entries) := rfl
    rw [step, ih]
    by_cases hk : k = field
    · subst hk
      simp [field?_putEntry_self]
    · simp [hk, field?_putEntry_ne hk]

theorem field?_leftOut (k : String) (fields : List String) (entries : List (Datum × Datum)) :
    field? k (leftOut fields entries) = if k ∈ fields then none else field? k entries := by
  induction entries with
  | nil => simp [leftOut, field?]
  | cons e rest ih =>
    obtain ⟨key, w⟩ := e
    by_cases hk : key = .text k
    · subst hk
      by_cases listed : k ∈ fields
      · have dropped : leftOut fields ((text k, w) :: rest) = leftOut fields rest :=
          List.filter_cons_of_neg (by simp [isKeyOf, listed])
        rw [dropped, ih, if_pos listed, if_pos listed]
      · have kept : leftOut fields ((text k, w) :: rest) = (text k, w) :: leftOut fields rest :=
          List.filter_cons_of_pos (by simp [isKeyOf, listed])
        rw [kept, field?_cons_self, field?_cons_self, if_neg listed]
    · rw [field?_cons_of_ne hk, ← ih, leftOut, List.filter_cons]
      split
      · rw [field?_cons_of_ne hk]
        rfl
      · rfl

end

/-- Two mappings that have the same under every text key where null counts as absent. -/
def NullAlike (entries others : List (Datum × Datum)) : Prop :=
  ∀ k, (field? k entries).getD .null = (field? k others).getD .null

theorem nullAlike_refl (entries : List (Datum × Datum)) : NullAlike entries entries := fun _ => rfl

theorem nullAlike_nulled (fields : List String) (entries : List (Datum × Datum)) :
    NullAlike (nulled fields entries) (leftOut fields entries) := by
  intro k
  rw [field?_nulled, field?_leftOut]
  split <;> rfl

end Datum

/-! ## What a rule takes from its document -/

namespace Rule

section
variable {entries others : List (Datum × Datum)}

theorem missingFields_congr (h : Datum.NullAlike entries others) : missingFields entries = missingFields others := by
  simp only [missingFields, h _]

theorem guardItems_congr (h : Datum.NullAlike entries others) :
    Datum.fieldItems (Datum.field? "guards" entries) = Datum.fieldItems (Datum.field? "guards" others) := by
  have absent : ∀ field : Option Datum, Datum.fieldItems field = Datum.fieldItems (some (field.getD .null)) := by
    intro field
    cases field <;> rfl
  rw [absent, h, ← absent]

theorem readSeverity_congr (h : Datum.NullAlike entries others) (name origin : String) :
    readSeverity name origin entries = readSeverity name origin others := by
  have absent : ∀ es, readSeverity name origin es =
      readSeverity name origin [(.text "severity", (Datum.field? "severity" es).getD .null)] := by
    intro es
    rw [readSeverity, readSeverity, Datum.field?_cons_self]
    cases Datum.field? "severity" es <;> rfl
  rw [absent, h, ← absent]

/-- The rule with the help and the documentation that a mapping words. -/
def worded (entries : List (Datum × Datum)) (r : Rule) : Rule :=
  { r with help := textField "help" entries, doc := readDoc entries }

/-- Every check looks at fields where null counts as absent; only the wording of a rule does not. -/
theorem ofEntries_congr (h : Datum.NullAlike entries others) (origin : String) :
    ofEntries origin entries = worded entries <$> ofEntries origin others := by
  unfold ofEntries
  -- once all looks at fields are the same, what is left differs in the two texts at the very end
  simp only [missingFields_congr h, readSeverity_congr h, guardItems_congr h, h _]
  cases (missingFields others).isEmpty with
  | false => rfl
  | true =>
    cases ((Datum.field? "classify" others).getD .null).core with
    | map tags =>
      cases readSeverity ((Datum.field? "name" others).getD .null).display origin others with
      | error fault => rfl
      | ok severity =>
        cases Datum.fieldItems (Datum.field? "guards" others) with
        | error misuse => rfl
        | ok items =>
          simp only [pure_bind]
          cases readGuards ((Datum.field? "name" others).getD .null).display origin items <;> rfl
    | _ => rfl

theorem worded_of_ofEntries {origin : String} {r : Rule} (h : ofEntries origin entries = .ok r) :
    worded entries r = r := by
  have read := ofEntries_congr (Datum.nullAlike_refl entries) origin
  rw [h] at read
  exact (Except.ok.inj read).symm

end

end Rule

/-! ## Null spelled out -/

/-- How null reads as a text. -/
def nullText : String := Datum.null.display

theorem nullText_ne_empty : nullText ≠ "" := by decide

section
variable (fields : List String)

/-- The documentation with null for the reason if its field is null. -/
def RuleDoc.spellNulls (doc : RuleDoc) : RuleDoc :=
  { doc with whyBad := if "why" ∈ fields then nullText else doc.whyBad }

/-- The rule with null for its help and for the reason it gives if their fields are null. -/
def Rule.spellNulls (r : Rule) : Rule :=
  { r with help := if "help" ∈ fields then nullText else r.help, doc := r.doc.map (RuleDoc.spellNulls fields) }

/-- The finding with null for its help if the field is null. -/
def Diagnosis.spellNulls (d : Diagnosis) : Diagnosis :=
  { d with help := if "help" ∈ fields then nullText else d.help }

/-- The answer with another finding. -/
def Outcome.map (change : Diagnosis → Diagnosis) : Outcome → Outcome
  | .matched d => .matched (change d)
  | .declined step => .declined step
  | .broken text fault => .broken text fault

end

namespace Rule

section
variable {fields : List String} {origin : String} {entries : List (Datum × Datum)} {r : Rule} {e : Expr}
  {ctx : Context}

theorem textField_nulled (k : String) (fields : List String) (entries : List (Datum × Datum)) :
    textField k (Datum.nulled fields entries) =
      if k ∈ fields then nullText else textField k (Datum.leftOut fields entries) := by
  rw [textField, textField, Datum.field?_nulled, Datum.field?_leftOut]
  split <;> rfl

theorem readDoc_nulled (fields : List String) (entries : List (Datum × Datum)) :
    readDoc (Datum.nulled fields entries) =
      (readDoc (Datum.leftOut fields entries)).map (RuleDoc.spellNulls fields) := by
  rw [readDoc, readDoc, textField_nulled, Datum.field?_nulled, Datum.field?_leftOut]
  by_cases listed : "description" ∈ fields
  · rw [if_pos listed, if_pos listed]
    rfl
  · rw [if_neg listed, if_neg listed]
    cases Datum.field? "description" entries with
    | none => rfl
    | some d => cases ht : d.isTruthy <;> simp [ht, RuleDoc.spellNulls]

/-- Null and absent fields make the same rule, or fail the same check, up to two texts of the rule. -/
theorem ofEntries_nulled (origin : String) (fields : List String) (entries : List (Datum × Datum)) :
    ofEntries origin (Datum.nulled fields entries) =
      spellNulls fields <$> ofEntries origin (Datum.leftOut fields entries) := by
  have texts : ∀ r, worded (Datum.nulled fields entries) r =
      spellNulls fields (worded (Datum.leftOut fields entries) r) := by
    intro r
    rw [worded, textField_nulled, readDoc_nulled]
    rfl
  rw [ofEntries_congr (Datum.nullAlike_nulled fields entries) origin]
  cases h : ofEntries origin (Datum.leftOut fields entries) with
  | error fault => rfl
  | ok r =>
    have spelled := texts r
    rw [worded_of_ofEntries h] at spelled
    exact congrArg Except.ok spelled

theorem help_of_leftOut (h : ofEntries origin (Datum.leftOut fields entries) = .ok r) (listed : "help" ∈ fields) :
    r.help = "" := by
  rw [← worded_of_ofEntries h, worded, textField, Datum.field?_leftOut, if_pos listed]
  rfl

theorem whyBad_of_leftOut (h : ofEntries origin (Datum.leftOut fields entries) = .ok r) (listed : "why" ∈ fields)
    {doc : RuleDoc} (hd : r.doc = some doc) : doc.whyBad = "" := by
  have absent : textField "why" (Datum.leftOut fields entries) = "" := by
    rw [textField, Datum.field?_leftOut, if_pos listed]
    rfl
  have read : r.doc = readDoc (Datum.leftOut fields entries) := congrArg Rule.doc (worded_of_ofEntries h).symm
  rw [read, readDoc, absent] at hd
  split at hd
  · split at hd
    · cases hd
      rfl
    · cases hd
  · cases hd

/-! ## Rules -/

/-- The documentation is the same only where it gives no reason that is null. -/
theorem map_spellNulls_iff {documented : Option RuleDoc}
    (why : "why" ∈ fields → ∀ doc, documented = some doc → doc.whyBad = "") :
    documented.map (RuleDoc.spellNulls fields) = documented ↔ "why" ∉ fields ∨ documented = none := by
  cases documented with
  | none => exact ⟨fun _ => .inr rfl, fun _ => rfl⟩
  | some doc =>
    by_cases listed : "why" ∈ fields
    · refine ⟨fun same => absurd ?_ nullText_ne_empty, fun kept => ?_⟩
      · have reason := congrArg RuleDoc.whyBad (Option.some.inj same)
        rwa [RuleDoc.spellNulls, if_pos listed, why listed doc rfl] at reason
      · rcases kept with unlisted | undocumented
        · exact absurd listed unlisted
        · cases undocumented
    · rw [Option.map_some, RuleDoc.spellNulls, if_neg listed]
      exact ⟨fun _ => .inl listed, fun _ => rfl⟩

/-- The rule is the same only where no null is spelled out. -/
theorem spellNulls_eq_iff (help : "help" ∈ fields → r.help = "")
    (why : "why" ∈ fields → ∀ doc, r.doc = some doc → doc.whyBad = "") :
    r.spellNulls fields = r ↔ "help" ∉ fields ∧ ("why" ∉ fields ∨ r.doc = none) := by
  rw [← map_spellNulls_iff why]
  constructor
  · intro same
    refine ⟨fun listed => nullText_ne_empty ?_, congrArg Rule.doc same⟩
    have told := congrArg Rule.help same
    rwa [spellNulls, if_pos listed, help listed] at told
  · rintro ⟨unlisted, documented⟩
    rw [spellNulls, if_neg unlisted, documented]

/-- A rule evaluates as it does without the nulls, up to the help of its finding. -/
theorem run_spellNulls (gs : List Guard) (b : Bindings) :
    (r.spellNulls fields).run e ctx b gs = Outcome.map (Diagnosis.spellNulls fields) <$> r.run e ctx b gs := by
  induction gs generalizing b with
  | nil =>
    rw [Rule.run, Rule.run, Rule.conclude, Rule.conclude]
    have same : (r.spellNulls fields).classifier = r.classifier := rfl
    rw [same]
    cases r.classifier.summary? e ctx b with
    | error halt => rfl
    | ok summary => cases summary <;> rfl
  | cons g rest ih =>
    rw [Rule.run, Rule.run]
    cases g.check e ctx b with
    | error halt => rfl
    | ok verdict =>
      cases verdict with
      | passed b' => exact ih b'
      | failed => rfl
      | broken text fault => rfl

end

end Rule

/-! ## What is printed -/

namespace Json

/-- What stands between the same pieces can be told from the whole. -/
theorem intercalate_inj_at {sep s t : String} {before after : List String} (hb : before ≠ []) (ha : after ≠ [])
    (same : sep.intercalate (before ++ s :: after) = sep.intercalate (before ++ t :: after)) : s = t := by
  have pieces : ∀ u : String, sep.intercalate (before ++ u :: after) =
      sep.intercalate before ++ sep ++ (u ++ sep ++ sep.intercalate after) := fun u => by
    rw [String.intercalate_append_of_ne_nil hb (List.cons_ne_nil u after), String.intercalate_cons_of_ne_nil ha]
  rw [pieces, pieces, String.append_right_inj, String.append_left_inj, String.append_left_inj] at same
  exact same

theorem block_inj {depth : Nat} {opening closing : String} {items items' : List String} (h : items ≠ [])
    (h' : items' ≠ []) (same : block depth opening closing items = block depth opening closing items') :
    ("," ++ newLine (depth + 1)).intercalate items = ("," ++ newLine (depth + 1)).intercalate items' := by
  rw [block, block, if_neg (by simpa using h), if_neg (by simpa using h'), String.append_left_inj,
    String.append_left_inj, String.append_right_inj] at same
  exact same

end Json

namespace Report

theorem intercalate_extra_ne {before : List String} (h : before ≠ []) (line : String) (after : List String) :
    "\n".intercalate (before ++ line :: after) ≠ "\n".intercalate (before ++ after) := by
  intro same
  -- the text with the line is longer, if only by its line feed
  have size := congrArg String.length same
  have feed : "\n".length = 1 := rfl
  have split := String.intercalate_append_of_ne_nil (s := "\n") h (List.cons_ne_nil line after)
  cases after with
  | nil =>
    rw [split, String.intercalate_singleton, List.append_nil] at size
    simp only [String.length_append, feed] at size
    omega
  | cons next rest =>
    rw [split, String.intercalate_cons_cons,
      String.intercalate_append_of_ne_nil h (List.cons_ne_nil next rest)] at size
    simp only [String.length_append, feed] at size
    omega

/-- A finding takes some lines, and one more if there is help. -/
theorem diagnosis?_diagnose (r : Rule) (e : Expr) (u : CodeUnit) (b : Bindings) (summary : String) :
    ∃ ls, ls ≠ [] ∧ ∀ help, diagnosis? { r.diagnose e u b summary with help } =
      some ("\n".intercalate (ls ++ if help = "" then [] else ["   = help: " ++ help])) := by
  let severity := (r.diagnose e u b summary).severity
  let place := e.span.getD ⟨u.file, 0, 0, 0, 0⟩
  refine ⟨[severity ++ ": " ++ summary,
    "  --> " ++ place.file ++ ":" ++ toString place.lineStart ++ ":" ++ toString place.colStart,
    "   = note: #[" ++ levelOfSeverity severity ++ "(" ++ toolName ++ "::" ++ r.name ++ ")] on by default"],
    nofun, fun help => rfl⟩

/-- The documentation takes some lines, and one more if it gives a reason. -/
theorem ruleDocs_documented (r : Rule) (doc : RuleDoc) :
    ∃ before after, before ≠ [] ∧ ∀ why, ruleDocs { r with doc := some { doc with whyBad := why } } =
      "\n".intercalate (before ++ ((if why = "" then [] else ["    Why is this bad? " ++ why]) ++ after)) := by
  refine ⟨[r.name ++ " [" ++ r.category ++ ", " ++ r.level ++ "]", "    What it does: " ++ doc.whatItDoes],
    ["    Known problems: " ++ doc.knownProblems] ++
      if doc.example_ = "" then []
      else "    Example:" :: (textLines doc.example_).map fun line => "        " ++ line, nofun, fun why => ?_⟩
  simp only [ruleDocs, List.append_assoc]
  rfl

/-- The help of a diagnosis can be told from its JSON. -/
theorem json_help_inj {d : Diagnosis} {help : String} (same : json [{ d with help }] = json [d]) :
    Json.string help = Json.string d.help := by
  have written : ∀ help, json [{ d with help }] = Json.block 0 "[" "]" [Json.block 1 Datum.openBrace Datum.closeBrace
      (Json.renderEntries 2 [(.text "rule", .text d.rule), (.text "category", .text d.category),
        (.text "severity", .text d.severity), (.text "summary", .text d.summary)] ++
      (Json.key (.text "help") ++ ": " ++ Json.string help) ::
        Json.renderEntries 2 [(.text "location", Record.datum d.location),
          (.text "unit", (d.unit.map Datum.text).getD .null), (.text "internal", .bool d.internal),
          (.text "extras", Record.datum d.extras), (.text "tool", .text toolName),
          (.text "version", .text toolVersion)])] := by
    intro help
    simp only [json, List.map_cons, List.map_nil, Json.render, Json.renderAll, Json.renderEntries, Record.datum,
      Diagnosis.record]
    rfl
  have whole := (written help).symm.trans (same.trans (written d.help))
  have mapping := Json.block_inj (List.cons_ne_nil _ _) (List.cons_ne_nil _ _) whole
  rw [String.intercalate_singleton, String.intercalate_singleton] at mapping
  have entries := Json.block_inj (List.append_ne_nil_of_right_ne_nil _ (List.cons_ne_nil _ _))
    (List.append_ne_nil_of_right_ne_nil _ (List.cons_ne_nil _ _)) mapping
  have entry := Json.intercalate_inj_at (by simp [Json.renderEntries]) (by simp [Json.renderEntries]) entries
  exact (String.append_right_inj _).1 entry

section
variable {fields : List String} {r : Rule}

/-- The text of a finding is the same only where the help is not null. -/
theorem diagnosis?_spellNulls_iff (help : "help" ∈ fields → r.help = "") (e : Expr) (u : CodeUnit) (b : Bindings)
    (summary : String) : diagnosis? ((r.diagnose e u b summary).spellNulls fields) =
      diagnosis? (r.diagnose e u b summary) ↔ "help" ∉ fields := by
  by_cases listed : "help" ∈ fields
  · refine ⟨fun same => ?_, fun unlisted => absurd listed unlisted⟩
    obtain ⟨ls, some_lines, told⟩ := diagnosis?_diagnose r e u b summary
    have without : diagnosis? (r.diagnose e u b summary) = some ("\n".intercalate (ls ++ [])) := by
      have plain := told r.help
      rwa [if_pos (help listed)] at plain
    have spelled := told nullText
    rw [if_neg nullText_ne_empty] at spelled
    rw [Diagnosis.spellNulls, if_pos listed, spelled, without] at same
    exact absurd (Option.some.inj same) (intercalate_extra_ne some_lines _ [])
  · rw [Diagnosis.spellNulls, if_neg listed]
    exact ⟨fun _ => listed, fun _ => rfl⟩

/-- The JSON of a diagnosis is the same only where the help is not null. -/
theorem json_spellNulls_iff {d : Diagnosis} (help : "help" ∈ fields → d.help = "") :
    json [d.spellNulls fields] = json [d] ↔ "help" ∉ fields := by
  by_cases listed : "help" ∈ fields
  · refine ⟨fun same => ?_, fun unlisted => absurd listed unlisted⟩
    rw [Diagnosis.spellNulls, if_pos listed] at same
    have told := json_help_inj same
    rw [help listed] at told
    exact absurd told (by decide)
  · rw [Diagnosis.spellNulls, if_neg listed]
    exact ⟨fun _ => listed, fun _ => rfl⟩

/-- The documentation reads the same only where it gives no reason that is null. -/
theorem ruleDocs_spellNulls_iff (why : "why" ∈ fields → ∀ doc, r.doc = some doc → doc.whyBad = "") :
    ruleDocs (r.spellNulls fields) = ruleDocs r ↔ "why" ∉ fields ∨ r.doc = none := by
  by_cases kept : "why" ∉ fields ∨ r.doc = none
  · have documented := (Rule.map_spellNulls_iff why).2 kept
    refine ⟨fun _ => kept, fun _ => ?_⟩
    rw [ruleDocs, ruleDocs, Rule.spellNulls, documented]
    rfl
  · refine ⟨fun same => ?_, fun h => absurd h kept⟩
    obtain ⟨listed, documented⟩ := not_or.1 kept
    obtain ⟨doc, hd⟩ := Option.ne_none_iff_exists'.1 documented
    obtain ⟨before, after, some_lines, told⟩ := ruleDocs_documented r doc
    have without : ruleDocs r = "\n".intercalate (before ++ after) := by
      have plain := told doc.whyBad
      rw [if_pos (why (not_not.1 listed) doc hd), List.nil_append] at plain
      rw [← plain, ← hd]
    have spelled : ruleDocs (r.spellNulls fields) =
        "\n".intercalate (before ++ ("    Why is this bad? " ++ nullText) :: after) := by
      have null := told nullText
      rw [if_neg nullText_ne_empty] at null
      rw [← List.singleton_append, ← null, Rule.spellNulls, hd, Option.map_some, RuleDoc.spellNulls,
        if_pos (not_not.1 listed)]
      rfl
    rw [spelled, without] at same
    exact absurd same (intercalate_extra_ne some_lines _ after)

end

end Report

/-- Null in a field of a rule counts as absent: the mapping is refused for the same reason, or the rule is the same.
Null is spelled out only where `help` is null, and where `why` is null and there is a description. The first stands
in the text and in the JSON of every finding of the rule, which are the same otherwise; the second in its
documentation. -/
theorem null_fields_read (origin : String) (fields : List String) (entries : List (Datum × Datum)) :
    Rule.ofEntries origin (Datum.nulled fields entries) =
      Rule.spellNulls fields <$> Rule.ofEntries origin (Datum.leftOut fields entries) ∧
    ∀ r, Rule.ofEntries origin (Datum.leftOut fields entries) = .ok r →
      (r.spellNulls fields = r ↔ "help" ∉ fields ∧ ("why" ∉ fields ∨ r.doc = none)) ∧
      (Report.ruleDocs (r.spellNulls fields) = Report.ruleDocs r ↔ "why" ∉ fields ∨ r.doc = none) ∧
      ∀ e ctx, (r.spellNulls fields).evaluate e ctx = Outcome.map (Diagnosis.spellNulls fields) <$> r.evaluate e ctx ∧
        ∀ d, r.evaluate e ctx = .ok (.matched d) →
          (Report.diagnosis? (d.spellNulls fields) = Report.diagnosis? d ↔ "help" ∉ fields) ∧
          (Report.json [d.spellNulls fields] = Report.json [d] ↔ "help" ∉ fields) := by
  refine ⟨Rule.ofEntries_nulled origin fields entries, fun r read => ?_⟩
  have help : "help" ∈ fields → r.help = "" := Rule.help_of_leftOut read
  have why : "why" ∈ fields → ∀ doc, r.doc = some doc → doc.whyBad = "" := fun listed doc hd =>
    Rule.whyBad_of_leftOut read listed hd
  refine ⟨Rule.spellNulls_eq_iff help why, Report.ruleDocs_spellNulls_iff why, fun e ctx =>
    ⟨Rule.run_spellNulls r.guards {}, fun d found => ?_⟩⟩
  obtain ⟨b, summary, rfl⟩ := diagnose_of_run found
  exact ⟨Report.diagnosis?_spellNulls_iff help e ctx.unit b summary, Report.json_spellNulls_iff help⟩

/-! ## A rule with empty fields -/

/-- The document of a rule with a description. -/
def describedEntries : List (Datum × Datum) := (.text "description", .text "Looks for zeros.") :: zerosEntries

/-- Null in place of the help is told as help, and null in place of the reason is told as one. -/
theorem empty_fields_told :
    (∃ r, Rule.ofEntries "m" (Datum.leftOut ["help"] zerosEntries) = .ok r ∧ r.help = "") ∧
    (∃ r, Rule.ofEntries "m" (Datum.nulled ["help"] zerosEntries) = .ok r ∧ r.help = "None") ∧
    (∃ r, Rule.ofEntries "m" (Datum.leftOut ["why"] describedEntries) = .ok r ∧
      Report.ruleDocs r = "zeros [style, warn]\n    What it does: Looks for zeros.\n    Known problems: None.") ∧
    ∃ r, Rule.ofEntries "m" (Datum.nulled ["why"] describedEntries) = .ok r ∧
      Report.ruleDocs r =
        "zeros [style, warn]\n    What it does: Looks for zeros.\n    Why is this bad? None\n    Known problems: None." :=
  ⟨⟨_, rfl, rfl⟩, ⟨_, rfl, rfl⟩, ⟨_, rfl, rfl⟩, ⟨_, rfl, rfl⟩⟩

/-- The finding of the rule without empty fields. -/
def zerosFinding : Diagnosis :=
  zerosRule.diagnose (zeroedCall 2) halfSound
    { callee := (zeroedCall 2).callee, symbol := some (⟨["core", "mem", "zeroed"]⟩, some "zero_fill") } "zeros"

theorem zerosRule_found :
    zerosRule.evaluate (zeroedCall 2) ⟨halfSound, halfSoundCrate, .standard⟩ = .ok (.matched zerosFinding) := by
  have guards : zerosRule.guards = [.resolves, .calleeIsPath] := rfl
  rw [Rule.evaluate, guards, Rule.run, resolves_zeroedCall]
  rfl

/-- Where the severity is null the rule is the same; where the help is null its finding tells so. -/
theorem zeros_unhelped :
    Rule.ofEntries "m" (Datum.nulled ["severity", "description", "why"] zerosEntries) = .ok zerosRule ∧
    Rule.ofEntries "m" (Datum.nulled ["help"] zerosEntries) = .ok { zerosRule with help := "None" } ∧
    Rule.evaluate { zerosRule with help := "None" } (zeroedCall 2) ⟨halfSound, halfSoundCrate, .standard⟩ =
      .ok (.matched { zerosFinding with help := "None" }) ∧
    Report.diagnosis? { zerosFinding with help := "None" } ≠ Report.diagnosis? zerosFinding ∧
    Report.json [{ zerosFinding with help := "None" }] ≠ Report.json [zerosFinding] := by
  obtain ⟨plain, same⟩ := null_fields_read "m" ["severity", "description", "why"] zerosEntries
  obtain ⟨told, given⟩ := null_fields_read "m" ["help"] zerosEntries
  have left : Rule.ofEntries "m" (Datum.leftOut ["severity", "description", "why"] zerosEntries) = .ok zerosRule :=
    zerosRule_read
  have left' : Rule.ofEntries "m" (Datum.leftOut ["help"] zerosEntries) = .ok zerosRule := zerosRule_read
  obtain ⟨kept, -, -⟩ := same zerosRule left
  obtain ⟨-, -, found⟩ := given zerosRule left'
  obtain ⟨evaluated, differs⟩ := found (zeroedCall 2) ⟨halfSound, halfSoundCrate, .standard⟩
  obtain ⟨text, json⟩ := differs zerosFinding zerosRule_found
  rw [left] at plain
  rw [left'] at told
  rw [zerosRule_found] at evaluated
  have asked : "help" ∈ ["help"] := List.mem_singleton_self _
  exact ⟨plain.trans (congrArg Except.ok (kept.2 ⟨by decide, .inr rfl⟩)), told, evaluated,
    fun h => text.1 h asked, fun h => json.1 h asked⟩

end ChainLint
