import ChainLint.Proofs.Pool
import ChainLint.Proofs.Reports
/-!
# Checks of several dumps

A check goes from dump to dump (`Session.check_cons`). Each dump gives what it
gives by itself, whatever was reported before it (`Session.gives_of_part`), and
one that cannot be loaded costs its warning and nothing else
(`Session.check_without`). So what a check finds, its status and the counts at
the end of its report follow from checks of each dump alone
(`Cli.checks_compose`).
-/

namespace ChainLint

/-- Whatever stands in the second of two related lists is related to something in the first. -/
theorem exists_mem_of_forall₂ {α β : Type} {R : α → β → Prop} {l : List α} {l' : List β} (h : List.Forall₂ R l l') :
    ∀ b ∈ l', ∃ a ∈ l, R a b := by
  induction h with
  | nil => exact fun b hb => absurd hb List.not_mem_nil
  | cons first _ ih =>
    intro b hb
    rcases List.mem_cons.1 hb with rfl | hb
    · exact ⟨_, List.mem_cons_self, first⟩
    · obtain ⟨a, ha, hab⟩ := ih b hb
      exact ⟨a, List.mem_cons_of_mem _ ha, hab⟩

/-! ## One dump after the other -/

namespace Session

/-- What the dump in a file gives by itself, said without the memory of reports. -/
def part (session : Session) (jobs : Option Int) (file : String × Content) : Except Stop (List Diagnosis) :=
  match Dump.ofFile file.1 file.2 with
  | .ok crate =>
    if jobs.isNone then .error .noJobs
    else (gather (crate.units.map (unitResult session.registry session.paths crate))).mapError .guard
  | .error stop => if stop.dumpCause?.isSome then .ok [] else .error stop

/-- What the dump in a file gives, whatever was reported before and however many workers there are. -/
inductive Gives (session : Session) (file : String × Content) (ds : List Diagnosis) : Prop
  | loaded {crate : Crate} : Dump.ofFile file.1 file.2 = .ok crate →
      (∀ memory jobs r, CrateAnalysis session.registry session.paths crate memory jobs r ↔ r = .ok ds) →
      Gives session file ds
  /-- A dump that cannot be loaded gives nothing. -/
  | skipped {stop : Stop} {cause : String} : Dump.ofFile file.1 file.2 = .error stop →
      stop.dumpCause? = some cause → ds = [] → Gives session file ds

section
variable {session : Session} {jobs : Option Int} {file : String × Content} {ds : List Diagnosis}

theorem gives_of_part (h : session.part jobs file = .ok ds) : session.Gives file ds := by
  unfold part at h
  split at h
  · next crate loaded =>
    split at h
    · cases h
    · refine .loaded loaded fun memory jobs r => ?_
      rw [crateAnalysis_iff]
      cases hg : gather (crate.units.map (unitResult session.registry session.paths crate)) with
      | error fault =>
        rw [hg] at h
        cases h
      | ok found =>
        rw [hg] at h
        cases h
        rfl
  · next stop failed =>
    split at h
    · next only =>
      obtain ⟨cause, hc⟩ := Option.isSome_iff_exists.1 only
      cases h
      exact .skipped failed hc rfl
    · cases h

/-- What is skipped costs a warning, and the check goes on with the memory it has. -/
theorem check_skip {path : String} {content : Content} {stop : Stop} {cause : String}
    (hf : Dump.ofFile path content = .error stop) (hc : stop.dumpCause? = some cause) (memory : Memory)
    (rest : List (String × Content)) :
    session.check jobs memory ((path, content) :: rest) =
      ⟨.skippedDump path cause :: (session.check jobs memory rest).warnings,
        (session.check jobs memory rest).result⟩ := by
  rw [check, hf]
  dsimp only
  rw [hc]
  rfl

section
variable {path : String} {content : Content} {crate : Crate} {n : Int}

theorem part_of_loaded (loaded : Dump.ofFile path content = .ok crate) (memory : Memory) :
    session.part (some n) (path, content) =
      (analyzeCrate session.registry session.paths memory crate).result.mapError .guard := by
  simp only [part, loaded, analyzeCrate_result]
  rfl

/-- A fault in a guard ends the check. -/
theorem check_stopped {memory : Memory} {fault : Guard.Fault} (loaded : Dump.ofFile path content = .ok crate)
    (stopped : (analyzeCrate session.registry session.paths memory crate).stopped = some fault)
    (rest : List (String × Content)) :
    session.check (some n) memory ((path, content) :: rest) =
      ⟨(analyzeCrate session.registry session.paths memory crate).warnings, .error (.guard fault)⟩ := by
  rw [check, loaded]
  simp only [stopped, Option.isNone_some, Told.warnAll_bind, Told.stop, List.append_nil]
  rfl

/-- What is found in a dump comes before what is found in the dumps after it. -/
theorem check_analysed {memory : Memory} (loaded : Dump.ofFile path content = .ok crate)
    (ended : (analyzeCrate session.registry session.paths memory crate).stopped = none)
    (rest : List (String × Content)) :
    session.check (some n) memory ((path, content) :: rest) =
      let found := analyzeCrate session.registry session.paths memory crate
      let later := session.check (some n) found.memory rest
      ⟨found.warnings ++ later.warnings, later.result.map (found.diagnoses ++ ·)⟩ := by
  rw [check, loaded]
  simp only [ended, Option.isNone_some, Told.warnAll_bind, Told.bind_pure_eq]
  rfl

end

/-- A check goes on from a file in one way, whatever comes after it, or ends there. -/
theorem check_cons (session : Session) (jobs : Option Int) (memory : Memory) (file : String × Content) :
    (∃ stop told, session.part jobs file = .error stop ∧
      ∀ rest, session.check jobs memory (file :: rest) = ⟨told, .error stop⟩) ∨
    ∃ ds told next, session.part jobs file = .ok ds ∧
      ∀ rest, session.check jobs memory (file :: rest) =
        ⟨told ++ (session.check jobs next rest).warnings, (session.check jobs next rest).result.map (ds ++ ·)⟩ := by
  obtain ⟨path, content⟩ := file
  cases loaded : Dump.ofFile path content with
  | error stop =>
    cases cause : stop.dumpCause? with
    | none =>
      refine .inl ⟨stop, [], by simp [part, loaded, cause], fun rest => ?_⟩
      rw [check, loaded]
      dsimp only
      rw [cause]
      rfl
    | some only =>
      refine .inr ⟨[], [.skippedDump path only], memory, by simp [part, loaded, cause], fun rest => ?_⟩
      rw [check_skip loaded cause]
      cases (session.check jobs memory rest).result <;> rfl
  | ok crate =>
    cases jobs with
    | none =>
      refine .inl ⟨.noJobs, [], by simp [part, loaded], fun rest => ?_⟩
      rw [check, loaded]
      rfl
    | some n =>
      have gives := @part_of_loaded session path content crate n loaded memory
      cases stopped : (analyzeCrate session.registry session.paths memory crate).stopped with
      | some fault =>
        refine .inl ⟨.guard fault, _, ?_, check_stopped loaded stopped⟩
        rw [gives, Findings.result, stopped]
        rfl
      | none =>
        refine .inr ⟨_, _, _, ?_, check_analysed loaded stopped⟩
        rw [gives, Findings.result, stopped]
        rfl

/-- A check comes to its end if every file gives something, and finds that in the order of the files. -/
theorem check_eq_ok_iff {memory : Memory} {files : List (String × Content)} :
    (session.check jobs memory files).result = .ok ds ↔
      ∃ parts, List.Forall₂ (fun file part => session.part jobs file = .ok part) files parts ∧ ds = parts.flatten := by
  -- every dump leaves another memory of reports, so this is shown for all of them
  induction files generalizing memory ds with
  | nil => simp [check, eq_comm]
  | cons file rest ih =>
    obtain ⟨stop, told, failed, runs⟩ | ⟨first, told, next, gives, runs⟩ := check_cons session jobs memory file
    · simp [runs, failed, List.forall₂_cons_left_iff]
    · rw [runs]
      constructor
      · intro h
        cases hr : (session.check jobs next rest).result with
        | error stop =>
          rw [hr] at h
          cases h
        | ok later =>
          rw [hr] at h
          cases h
          obtain ⟨parts, hparts, rfl⟩ := ih.1 hr
          exact ⟨first :: parts, .cons gives hparts, rfl⟩
      · rintro ⟨_, _ | ⟨hfirst, hlater⟩, rfl⟩
        rw [gives] at hfirst
        cases hfirst
        rw [ih.2 ⟨_, hlater, rfl⟩]
        rfl

/-- A file that is skipped has no effect but its warning. -/
theorem check_without {path : String} {content : Content} {stop : Stop} {cause : String}
    (hf : Dump.ofFile path content = .error stop) (hc : stop.dumpCause? = some cause)
    {before after : List (String × Content)} {memory : Memory}
    (h : (session.check jobs memory (before ++ (path, content) :: after)).result = .ok ds) :
    ∃ told told', session.check jobs memory (before ++ (path, content) :: after) =
        ⟨told ++ .skippedDump path cause :: told', .ok ds⟩ ∧
      session.check jobs memory (before ++ after) = ⟨told ++ told', .ok ds⟩ := by
  induction before generalizing memory ds with
  | nil =>
    rw [List.nil_append, check_skip hf hc] at h ⊢
    dsimp only at h
    refine ⟨[], (session.check jobs memory after).warnings, by rw [h]; rfl, ?_⟩
    rw [List.nil_append, List.nil_append, ← h]
  | cons file rest ih =>
    rw [List.cons_append] at h ⊢
    obtain ⟨stop, told, -, runs⟩ | ⟨first, told, next, -, runs⟩ := check_cons session jobs memory file
    · rw [runs] at h
      cases h
    · rw [runs] at h ⊢
      cases hr : (session.check jobs next (rest ++ (path, content) :: after)).result with
      | error stop =>
        rw [hr] at h
        cases h
      | ok later =>
        rw [hr] at h
        cases h
        obtain ⟨w, w', whole, without⟩ := ih hr
        refine ⟨told ++ w, w', ?_, ?_⟩
        · rw [whole, List.append_assoc]
          rfl
        · rw [List.cons_append, runs, without, List.append_assoc]
          rfl

/-- Everything that a file gives has a location. -/
theorem located_of_part (h : session.part jobs file = .ok ds) : ∀ d ∈ ds, d.Located := by
  cases gives_of_part h with
  | loaded _ analysis =>
    have gathered := (crateAnalysis_iff.1 ((analysis Memory.empty 1 _).2 rfl)).symm
    obtain ⟨dss, units, rfl⟩ := gather_eq_ok_iff.1 gathered
    intro d hd
    obtain ⟨found, hfound, hd⟩ := List.mem_flatten.1 hd
    rw [List.forall₂_map_left_iff] at units
    obtain ⟨u, -, hu⟩ := exists_mem_of_forall₂ units found hfound
    exact located_of_unitResult hu d hd
  | skipped _ _ none =>
    rw [none]
    exact fun d hd => absurd hd List.not_mem_nil

end

end Session

/-! ## The status -/

section
variable {ds : List Diagnosis} {parts : List (List Diagnosis)}

theorem foundStatus_eq_one_iff : Cli.foundStatus ds = 1 ↔ ∃ d ∈ ds, d.severity = "error" := by
  simp [Cli.foundStatus, Report.isError]

/-- The status of a check that found several parts is that of one of them. -/
theorem foundStatus_flatten : Cli.foundStatus parts.flatten = 1 ↔ ∃ part ∈ parts, Cli.foundStatus part = 1 := by
  simp only [foundStatus_eq_one_iff, List.mem_flatten]
  constructor
  · rintro ⟨d, ⟨part, hpart, hd⟩, error⟩
    exact ⟨part, hpart, d, hd, error⟩
  · rintro ⟨part, hpart, d, hd, error⟩
    exact ⟨d, ⟨part, hpart, hd⟩, error⟩

theorem foundStatus_eq_zero_iff : Cli.foundStatus ds = 0 ↔ ds.countP Report.isError = 0 := by
  simp [Cli.foundStatus, List.countP_eq_zero]

end

namespace Cli

/-! ## Checks in a store -/

/-- A check in a store tells some warnings and finds some diagnoses, and then ends with their report and
with a status. -/
structure Checked (directory : String) (store : FileStore) (environment : Option String) (o : Options)
    (told : List Warning) (ds : List Diagnosis) (status : Nat) : Prop where
  found : foundIn directory store environment o = ⟨told, .ok ds⟩
  delivered : ∃ answer after,
    (runCheck (FileStore.access directory) environment o).run store = (⟨told, .ok answer⟩, after) ∧
      answer.status = status ∧ reportAfter directory o answer after = .ok (reportText o.format ds).toUTF8

section
variable {directory : String} {store : FileStore} {environment : Option String} {o : Options}
  {session : Session} {told : List Warning} {ds : List Diagnosis} {status : Nat}

/-- Which dumps are checked does not change the session. -/
theorem foundIn_of_session {before : List Warning} (h : sessionIn directory store environment o = ⟨before, .ok session⟩)
    (dumps : List String) :
    foundIn directory store environment { o with dumps } =
      let check := session.check o.jobs Memory.empty (store.contents directory dumps)
      ⟨before ++ check.warnings, check.result⟩ := by
  have same : sessionIn directory store environment { o with dumps } = ⟨before, .ok session⟩ := h
  rw [foundIn, same, Told.bind_of_ok rfl]

/-- A check that ends with an answer ends with the report of what it found. -/
theorem checked_of_run {answer : Answer} {after : FileStore}
    (h : (runCheck (FileStore.access directory) environment o).run store = (⟨told, .ok answer⟩, after)) :
    ∃ ds, Checked directory store environment o told ds answer.status ∧ answer.status = foundStatus ds := by
  have run := h
  rw [runCheck_run] at run
  dsimp only at run
  generalize found : foundIn directory store environment o = x at run
  obtain ⟨warnings, result⟩ := x
  cases result with
  | error stop => cases run
  | ok ds =>
    dsimp only at run
    generalize hd : (deliver (FileStore.access directory) o.out (foundStatus ds)
      (reportText o.format ds)).run store = delivered at run
    obtain ⟨result, store'⟩ := delivered
    cases run
    obtain ⟨status, report⟩ := deliver_ok hd
    exact ⟨ds, ⟨found, answer, _, h, rfl, report⟩, status⟩

theorem Checked.status_eq (h : Checked directory store environment o told ds status) : status = foundStatus ds := by
  obtain ⟨answer, after, run, rfl, -⟩ := h.delivered
  obtain ⟨ds', again, status⟩ := checked_of_run run
  have found := again.found
  rw [h.found] at found
  cases found
  exact status

/-- Where the report of some diagnoses is delivered, so is that of some of these. -/
theorem Checked.of_subset {dumps : List String} {told' : List Warning} {part : List Diagnosis}
    (h : Checked directory store environment o told ds status) (located : ∀ d ∈ ds, d.Located) (hs : part ⊆ ds)
    (found : foundIn directory store environment { o with dumps } = ⟨told', .ok part⟩) :
    Checked directory store environment { o with dumps } told' part (foundStatus part) := by
  -- the one thing that can go wrong with a report is that some character cannot be written
  obtain ⟨answer, after, run, -, -⟩ := h.delivered
  rw [runCheck_run, h.found] at run
  have delivered := congrArg (fun r => r.1.result) run
  obtain ⟨answer', after', again⟩ : ∃ answer' after', (deliver (FileStore.access directory) o.out
      (foundStatus part) (reportText o.format part)).run store = (.ok answer', after') :=
    exists_deliver delivered (Report.isEncodable_reportText_of_subset located hs o.format)
  obtain ⟨hstatus, report⟩ := deliver_ok again
  refine ⟨found, answer', after', ?_, hstatus, report⟩
  rw [runCheck_run, found]
  dsimp only
  rw [again]

/-- A check that ended had a session. -/
theorem Checked.exists_session (h : Checked directory store environment o told ds status) :
    ∃ before session, sessionIn directory store environment o = ⟨before, .ok session⟩ := by
  have found := congrArg Told.result h.found
  obtain ⟨session, hs, -⟩ := Told.exists_of_result_bind found
  exact ⟨_, session, by rw [← hs]⟩

section
variable {before : List Warning} (opened : sessionIn directory store environment o = ⟨before, .ok session⟩)
include opened

theorem found_of_session {dumps : List String} :
    (foundIn directory store environment { o with dumps }).result = .ok ds ↔ ∃ parts,
      List.Forall₂ (fun dump part => session.part o.jobs (dump, store.read directory dump) = .ok part) dumps parts ∧
        ds = parts.flatten := by
  rw [foundIn_of_session opened]
  dsimp only
  rw [Session.check_eq_ok_iff, FileStore.contents]
  simp only [List.forall₂_map_left_iff]

/-- What a check found is what the dumps give, in their order. -/
theorem Checked.parts (h : Checked directory store environment o told ds status) : ∃ parts,
    List.Forall₂ (fun dump part => session.part o.jobs (dump, store.read directory dump) = .ok part) o.dumps parts ∧
      ds = parts.flatten :=
  (found_of_session opened).1 (congrArg Told.result h.found)

theorem Checked.located (h : Checked directory store environment o told ds status) : ∀ d ∈ ds, d.Located := by
  obtain ⟨parts, gives, rfl⟩ := h.parts opened
  intro d hd
  obtain ⟨part, hpart, hd⟩ := List.mem_flatten.1 hd
  obtain ⟨dump, -, hdump⟩ := exists_mem_of_forall₂ gives part hpart
  exact Session.located_of_part hdump d hd

/-- A check of one of the dumps ends too, and finds what this dump gives. -/
theorem Checked.single (h : Checked directory store environment o told ds status) {dump : String}
    {part : List Diagnosis} (gives : session.part o.jobs (dump, store.read directory dump) = .ok part) (hs : part ⊆ ds) :
    ∃ told', Checked directory store environment { o with dumps := [dump] } told' part (foundStatus part) := by
  have result : (foundIn directory store environment { o with dumps := [dump] }).result = .ok part :=
    (found_of_session opened).2 ⟨[part], .cons gives .nil, by simp⟩
  have found : foundIn directory store environment { o with dumps := [dump] } =
      ⟨(foundIn directory store environment { o with dumps := [dump] }).warnings, .ok part⟩ := by
    rw [← result]
  exact ⟨_, h.of_subset (h.located opened) hs found⟩

/-- The status of a check is one if and only if that of a check of one of its dumps is. -/
theorem Checked.status_eq_one_iff (h : Checked directory store environment o told ds status) :
    status = 1 ↔ ∃ dump ∈ o.dumps, ∃ told' part,
      Checked directory store environment { o with dumps := [dump] } told' part 1 := by
  obtain ⟨parts, gives, hds⟩ := h.parts opened
  have within : ∀ part ∈ parts, part ⊆ ds := by
    rw [hds]
    exact fun part hpart => (List.sublist_flatten_of_mem hpart).subset
  rw [h.status_eq, hds, foundStatus_flatten]
  constructor
  · rintro ⟨part, hpart, error⟩
    obtain ⟨dump, hm, hdump⟩ := exists_mem_of_forall₂ gives part hpart
    obtain ⟨told', single⟩ := h.single opened hdump (within part hpart)
    rw [error] at single
    exact ⟨dump, hm, told', part, single⟩
  · rintro ⟨dump, hm, told', part, single⟩
    obtain ⟨part', hpart, hdump⟩ := exists_mem_of_forall₂ gives.flip dump hm
    -- a check finds one thing only, and this one finds what the dump gives
    obtain ⟨_, single'⟩ := h.single opened hdump (within part' hpart)
    have same := single'.found
    rw [single.found] at same
    cases same
    exact ⟨part, hpart, single.status_eq.symm⟩

/-- A dump that cannot be loaded costs a warning of its own and nothing else. -/
theorem Checked.without (h : Checked directory store environment o told ds status) {first last : List String}
    {dump : String} (dumps : o.dumps = first ++ dump :: last) {stop : Stop} {cause : String}
    (failed : Dump.ofFile dump (store.read directory dump) = .error stop) (hc : stop.dumpCause? = some cause) :
    Checked directory store environment { o with dumps := [dump] } (before ++ [.skippedDump dump cause]) [] 0 ∧
    ∃ w w', told = w ++ .skippedDump dump cause :: w' ∧
      Checked directory store environment { o with dumps := first ++ last } (w ++ w') ds (foundStatus ds) := by
  have located := h.located opened
  constructor
  · refine h.of_subset located (List.nil_subset ds) ?_
    rw [foundIn_of_session opened, FileStore.contents, List.map_singleton, Session.check_skip failed hc]
    rfl
  · have found : foundIn directory store environment { o with dumps := first ++ dump :: last } = ⟨told, .ok ds⟩ := by
      rw [← dumps]
      exact h.found
    rw [foundIn_of_session opened, FileStore.contents, List.map_append, List.map_cons] at found
    obtain ⟨w, w', whole, without⟩ := Session.check_without failed hc (congrArg Told.result found)
    rw [whole] at found
    cases found
    refine ⟨before ++ w, w', by rw [List.append_assoc], h.of_subset located (fun d hd => hd) ?_⟩
    rw [foundIn_of_session opened, FileStore.contents, List.map_append, without, List.append_assoc]

end

/-- A check of several dumps finds what checks of each dump alone find, in the order of the dumps, however
many units are analysed at a time. Its status is one if and only if one of these checks has that status,
and if and only if some diagnosis is an error. The text of the report ends with the number of diagnoses
and of errors. A dump that cannot be loaded gives nothing, and costs a warning and nothing else. -/
theorem checks_compose {answer : Answer} {after : FileStore}
    (h : (runCheck (FileStore.access directory) environment o).run store = (⟨told, .ok answer⟩, after)) :
    ∃ before session ds parts, sessionIn directory store environment o = ⟨before, .ok session⟩ ∧
      Checked directory store environment o told ds answer.status ∧
      List.Forall₂ (fun dump part => session.Gives (dump, store.read directory dump) part ∧
        ∃ told', Checked directory store environment { o with dumps := [dump] } told' part (foundStatus part))
        o.dumps parts ∧
      ds = parts.flatten ∧
      (answer.status = 1 ↔ ∃ dump ∈ o.dumps, ∃ told' part,
        Checked directory store environment { o with dumps := [dump] } told' part 1) ∧
      (answer.status = 1 ↔ ∃ d ∈ ds, d.severity = "error") ∧
      (o.format = .text →
        Report.LastLine (reportText o.format ds) (Report.countsLine ds.length (ds.countP (·.severity = "error"))) ∧
        ((∃ n, Report.LastLine (reportText o.format ds) (Report.countsLine n 0)) ↔ answer.status = 0)) ∧
      ∀ first dump last stop, o.dumps = first ++ dump :: last →
        Dump.ofFile dump (store.read directory dump) = .error stop → ∃ cause, stop.dumpCause? = some cause ∧
          Checked directory store environment { o with dumps := [dump] } (before ++ [.skippedDump dump cause]) [] 0 ∧
          ∃ w w', told = w ++ .skippedDump dump cause :: w' ∧
            Checked directory store environment { o with dumps := first ++ last } (w ++ w') ds answer.status := by
  obtain ⟨ds, checked, status⟩ := checked_of_run h
  obtain ⟨before, session, opened⟩ := checked.exists_session
  obtain ⟨parts, gives, hds⟩ := checked.parts opened
  have located := checked.located opened
  refine ⟨before, session, ds, parts, opened, checked, ?_, hds, checked.status_eq_one_iff opened, ?_, ?_, ?_⟩
  · have both := (List.forall₂_and_left parts o.dumps).2 ⟨fun _ hpart => hpart, gives.flip⟩
    refine both.flip.imp fun dump part h => ⟨Session.gives_of_part h.2, checked.single opened h.2 ?_⟩
    rw [hds]
    exact (List.sublist_flatten_of_mem h.1).subset
  · rw [status, foundStatus_eq_one_iff]
  · intro text
    rw [text, status, foundStatus_eq_zero_iff]
    exact ⟨Report.lastLine_reportText located, Report.exists_lastLine_iff located⟩
  · intro first dump last stop dumps failed
    obtain ⟨part, -, hdump⟩ := exists_mem_of_forall₂ gives.flip dump (by simp [dumps])
    cases Session.gives_of_part hdump with
    | loaded hl _ =>
      rw [failed] at hl
      cases hl
    | skipped hf hc _ =>
      rw [failed] at hf
      cases hf
      rw [status]
      exact ⟨_, hc, checked.without opened dumps failed hc⟩

end

/-! ## Two dumps with a finding and one that is none -/

/-- The text of a dump in which a null reference is made. -/
def zeroedText : String :=
  "'types':\n '1':\n  'kind': 'ref'\n'defs':\n '2':\n  'path': 'core::mem::zeroed'\n'units':\n- 'body':\n   'id': '3'\n" ++
  "   'kind': 'Call'\n   'ty': '1'\n   'callee':\n    'id': '4'\n    'kind': 'Path'\n    'path': 'zeroed'\n    'res':\n     'def': '2'\n"

/-- A mapping with texts as keys. -/
def textFields (fields : List (String × Datum)) : Datum := .map (fields.map fun f => (.text f.1, f.2))

/-- The document of this text. -/
def zeroedDump : Datum :=
  textFields [("types", textFields [("1", textFields [("kind", .text "ref")])]),
    ("defs", textFields [("2", textFields [("path", .text "core::mem::zeroed")])]),
    ("units", .list [textFields [("body", textFields [("id", .text "3"), ("kind", .text "Call"), ("ty", .text "1"),
      ("callee", textFields [("id", .text "4"), ("kind", .text "Path"), ("path", .text "zeroed"),
        ("res", textFields [("def", .text "2")])])])]])]

set_option maxRecDepth 4000 in
theorem single_zeroedText : Document.single (.ok zeroedText.toUTF8) = .ok zeroedDump := by
  have chars : zeroedText.toList = _ :=
    String.toList_append.trans (congrArg₂ (· ++ ·) String.toList_ofList String.toList_ofList)
  have value : Yaml.load zeroedText = .ok zeroedDump := by
    rw [Yaml.load, Yaml.TokenStream.ofText, chars]
    cbv
  refine Document.single_toUTF8 ?_ value
  rw [chars]
  decide

/-- The crate that this dump gives in a file. -/
def zeroedCrate (path : String) : Crate where
  name := Dump.stem (Dump.baseName path)
  units := [⟨"unit1", path, zeroedCall 3⟩]
  types := ⟨⟨[(1, ⟨1, "ref", none, none, false⟩)]⟩, ⟨[(3, 1)]⟩⟩
  declarations := ⟨[(2, { id := 2, path := ["core", "mem", "zeroed"] })]⟩
  denotations := ⟨[(4, { decl := some 2 })]⟩

/-- What is found in it. -/
def nullReference (path : String) : Diagnosis :=
  invalidRef.diagnose (zeroedCall 3) ⟨"unit1", path, zeroedCall 3⟩
    ⟨(zeroedCall 3).callee, some .reference, some (⟨["core", "mem", "zeroed"]⟩, some "zero_fill")⟩ "null reference"

theorem ofFile_zeroedText {path : String} (h : path = "a" ∨ path = "b") :
    Dump.ofFile path (.ok zeroedText.toUTF8) = .ok (zeroedCrate path) := by
  have crate : Dump.crate path zeroedDump = .ok (zeroedCrate path) := by
    rcases h with rfl | rfl <;> cbv
  rw [Dump.ofFile, single_zeroedText]
  dsimp only
  rw [crate]

/-- A check finds the null reference and goes on. -/
theorem check_zeroedText {path : String} (h : path = "a" ∨ path = "b") (rest : List (String × Content)) :
    (Session.mk .standard .standard).check (some 1) .empty ((path, .ok zeroedText.toUTF8) :: rest) =
      let later := (Session.mk .standard .standard).check (some 1) .empty rest
      ⟨later.warnings, later.result.map ([nullReference path] ++ ·)⟩ := by
  have found : analyzeCrate .standard .standard .empty (zeroedCrate path) = ⟨[nullReference path], [], .empty, none⟩ := by
    rcases h with rfl | rfl <;> cbv
  rw [Session.check_analysed (ofFile_zeroedText h) (congrArg Findings.stopped found)]
  rw [found]
  rfl

/-- What is told of a file that holds a list. -/
def listSkipped : Warning := .skippedDump "list" "list: top-level document must be a mapping"

theorem ofFile_list : Dump.ofFile "list" (.ok "[]".toUTF8) = .error (.dump (.notDocument "list")) := by
  have parsed : Document.single (.ok "[]".toUTF8) = .ok (.list []) := by cbv
  rw [Dump.ofFile, parsed]
  rfl

/-- A check tells of the list and goes on. -/
theorem check_list (rest : List (String × Content)) :
    (Session.mk .standard .standard).check (some 1) .empty (("list", .ok "[]".toUTF8) :: rest) =
      let later := (Session.mk .standard .standard).check (some 1) .empty rest
      ⟨listSkipped :: later.warnings, later.result⟩ :=
  Session.check_skip ofFile_list rfl .empty rest

/-- A store with this dump in two files and a list in a third one. -/
def trioStore : FileStore :=
  ⟨Table.ofList [(["a"], .file zeroedText.toUTF8), (["list"], .file "[]".toUTF8), (["b"], .file zeroedText.toUTF8)]⟩

theorem trioStore_read : trioStore.read "/" "a" = .ok zeroedText.toUTF8 ∧
    trioStore.read "/" "list" = .ok "[]".toUTF8 ∧ trioStore.read "/" "b" = .ok zeroedText.toUTF8 := by
  rw [trioStore]
  generalize zeroedText.toUTF8 = dump
  refine ⟨?_, ?_, ?_⟩ <;> cbv

/-- What a check of some of the files tells and finds. -/
theorem trioStore_found :
    foundIn "/" trioStore none { dumps := ["a", "list", "b"] } =
      ⟨[listSkipped], .ok [nullReference "a", nullReference "b"]⟩ ∧
    foundIn "/" trioStore none { dumps := ["a"] } = ⟨[], .ok [nullReference "a"]⟩ ∧
    foundIn "/" trioStore none { dumps := ["b"] } = ⟨[], .ok [nullReference "b"]⟩ := by
  have opened : sessionIn "/" trioStore none {} = ⟨[], .ok ⟨Registry.standard, .standard⟩⟩ := rfl
  obtain ⟨a, list, b⟩ := trioStore_read
  have check_a := check_zeroedText (.inl rfl)
  have check_b := check_zeroedText (.inr rfl)
  simp only [foundIn_of_session opened, FileStore.contents, List.map_cons, List.map_nil, a, list, b, check_a, check_b,
    check_list]
  exact ⟨rfl, rfl, rfl⟩

theorem trioStore_run :
    (runCheck (FileStore.access "/") none { dumps := ["a", "list", "b"] }).run trioStore =
      (⟨[listSkipped], .ok (.done 1 (reportText .text [nullReference "a", nullReference "b"]))⟩, trioStore) := by
  rw [runCheck_run, trioStore_found.1]
  rfl

/-- The two null references are found by checks of their dumps alone, of both, and of both with the list between
them, which costs its warning and nothing else. -/
theorem nullReferences_found :
    (runCheck (FileStore.access "/") none { dumps := ["a", "list", "b"] }).run trioStore =
      (⟨[listSkipped], .ok (.done 1 (reportText .text [nullReference "a", nullReference "b"]))⟩, trioStore) ∧
    Report.LastLine (reportText .text [nullReference "a", nullReference "b"])
      "guardlint: 2 diagnostic(s), 2 error(s)" ∧
    Checked "/" trioStore none { dumps := ["a"] } [] [nullReference "a"] 1 ∧
    Checked "/" trioStore none { dumps := ["list"] } [listSkipped] [] 0 ∧
    Checked "/" trioStore none { dumps := ["b"] } [] [nullReference "b"] 1 ∧
    Checked "/" trioStore none { dumps := ["a", "b"] } [] [nullReference "a", nullReference "b"] 1 := by
  refine ⟨trioStore_run, ?_⟩
  obtain ⟨before, session, ds, parts, opened, checked, alone, -, -, -, counts, skips⟩ := checks_compose trioStore_run
  have found := checked.found
  rw [trioStore_found.1] at found
  cases found
  cases opened
  obtain _ | ⟨⟨-, toldA, checkedA⟩, _ | ⟨-, _ | ⟨⟨-, toldB, checkedB⟩, -⟩⟩⟩ := alone
  have foundA := checkedA.found
  rw [trioStore_found.2.1] at foundA
  cases foundA
  have foundB := checkedB.found
  rw [trioStore_found.2.2] at foundB
  cases foundB
  have failed : Dump.ofFile "list" (trioStore.read "/" "list") = .error (.dump (.notDocument "list")) := by
    rw [trioStore_read.2.1, ofFile_list]
  obtain ⟨cause, hc, single, w, w', told, without⟩ := skips ["a"] "list" ["b"] _ rfl failed
  cases hc
  have silent : w = [] ∧ w' = [] := by
    have lengths := congrArg List.length told
    simp only [List.length_append, List.length_cons, List.length_nil] at lengths
    exact ⟨List.length_eq_zero_iff.1 (by omega), List.length_eq_zero_iff.1 (by omega)⟩
  rw [silent.1, silent.2] at without
  exact ⟨(counts rfl).1, checkedA, single, checkedB, without⟩

end Cli

end ChainLint
