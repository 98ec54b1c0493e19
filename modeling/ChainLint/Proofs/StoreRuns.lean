import ChainLint.Cli.Run
import ChainLint.File.Store
/-!
# Runs over files in memory

Over a store, a run is a function of what the files hold at its start: reading
changes nothing (`FileStore.readAll_run`), so the session is that of the
contents (`Cli.readSession_run`) and a check delivers one report in the end
(`Cli.runCheck_run`). A report that is written to a file is read back from it
(`FileStore.read_of_write`).
-/

namespace ChainLint

namespace FileStore

variable {directory name : String} {store store' : FileStore}

/-- The second step starts where the first one ends. -/
theorem run_bind {α β : Type} (x : StateM FileStore α) (f : α → StateM FileStore β) (store : FileStore) :
    (x >>= f).run store = (f (x.run store).1).run (x.run store).2 := rfl

/-! ## Reading -/

/-- The contents of files, each with its name. -/
def contents (store : FileStore) (directory : String) (names : List String) : List (String × Content) :=
  names.map fun name => (name, store.read directory name)

theorem readAll_run (directory : String) (names : List String) (store : FileStore) :
    ((access directory).readAll names).run store = (store.contents directory names, store) := by
  have steps : (access directory).readAll names = fun store => (store.contents directory names, store) := by
    induction names with
    | nil => rfl
    | cons name rest ih =>
      rw [FileAccess.readAll, List.mapM_cons, ← FileAccess.readAll, ih]
      rfl
  rw [steps]
  rfl

/-! ## Writing -/

/-- The place that writing to a target fills. -/
def Target.place? : Target → Option (List String)
  | .file place _ | .vacant place => some place
  | .directory | .vacantDirectory => none

/-- No directory stands where parts lead to a place that can be filled. -/
theorem get?_of_follow {place parts p : List String} {target : Target}
    (h : store.follow place parts = .ok target) (hp : target.place? = some p) :
    store.entries.get? p ≠ some .directory := by
  fun_induction follow store place parts with
  | case1 => cases h; cases hp
  | case2 _ _ _ _ ih => exact ih h
  | case3 _ _ _ ih => exact ih h
  | case4 => cases h
  | case5 _ _ _ _ _ _ _ ih => exact ih h
  | case6 place part rest _ _ _ content found _ =>
    cases h
    cases hp
    simp [found]
  | case7 => cases h
  | case8 place part rest _ _ _ found _ =>
    cases h
    cases hp
    simp [found]
  | case9 => cases h; cases hp
  | case10 => cases h

/-- Once a place is filled, the parts that led to it lead to what it was filled with: the directories on
the way are where they were. -/
theorem follow_insert {place parts p : List String} {target : Target} (content : ByteArray)
    (h : store.follow place parts = .ok target) (hp : target.place? = some p) :
    follow ⟨store.entries.insert p (.file content)⟩ place parts = .ok (.file p content) := by
  have noDirectory := get?_of_follow h hp
  fun_induction follow store place parts with
  | case1 => cases h; cases hp
  | case2 place part rest blank ih => rw [follow, if_pos blank, ih h]
  | case3 place rest blank ih => rw [follow, if_neg blank, if_pos rfl, ih h]
  | case4 => cases h
  | case5 place part rest blank up long found ih =>
    have other : p ≠ place ++ [part] := by
      rintro rfl
      exact noDirectory found
    simp only [follow, if_neg blank, if_neg up, if_neg long, Table.get?_insert, if_neg other, found, ih h]
  | case6 place part rest blank up long old found last =>
    cases h
    cases hp
    simp only [follow, if_neg blank, if_neg up, if_neg long, Table.get?_insert, if_true, if_pos last]
  | case7 => cases h
  | case8 place part rest blank up long found last =>
    cases h
    cases hp
    simp only [follow, if_neg blank, if_neg up, if_neg long, Table.get?_insert, if_true, if_pos last]
  | case9 => cases h; cases hp
  | case10 => cases h

theorem locate_insert {p : List String} {target : Target} (content : ByteArray)
    (h : store.locate directory name = .ok target) (hp : target.place? = some p) :
    locate ⟨store.entries.insert p (.file content)⟩ directory name = .ok (.file p content) := by
  unfold locate at h ⊢
  split at h
  · cases h
  · next encodable =>
    split at h
    · cases h
    · next noNull =>
      split at h
      · cases h
      · next notEmpty =>
        split at h
        · cases h
        · next short =>
          rw [if_neg encodable, if_neg noNull, if_neg notEmpty, if_neg short]
          exact follow_insert content h hp

/-- What was written to a file is read back from it. -/
theorem read_of_write {content : ByteArray} (h : store.write directory name content = .ok store') :
    store'.read directory name = .ok content := by
  unfold write at h
  split at h
  · cases h
  · cases h
  · cases h
  · next place old located =>
    cases h
    simp only [read, locate_insert content located rfl]
  · next place located =>
    cases h
    simp only [read, locate_insert content located rfl]

/-- Whether a file can be written does not depend on what is written. -/
theorem exists_write {content : ByteArray} (h : store.write directory name content = .ok store')
    (content' : ByteArray) : ∃ store'', store.write directory name content' = .ok store'' := by
  unfold write at h ⊢
  split at h
  · cases h
  · cases h
  · cases h
  · next place old located => exact ⟨_, rfl⟩
  · next place located => exact ⟨_, rfl⟩

theorem write_run (directory name : String) (content : ByteArray) (store : FileStore) :
    ((access directory).write name content).run store =
      match store.write directory name content with
      | .ok store' => (.ok (), store')
      | .error fault => (.error fault, store) := by
  show (match store.write directory name content with
    | .ok store' => _
    | .error fault => _ : StateM FileStore (Except FileFault Unit)).run store = _
  cases store.write directory name content <;> rfl

end FileStore

namespace Cli

variable {directory : String} {store store' : FileStore} {environment : Option String} {o : Options}

/-! ## Sessions -/

/-- The configuration of a name in a store. -/
def configIn (directory : String) (store : FileStore) : Option String → Told Stop Config
  | none => pure Config.empty
  | some path => Config.ofFile directory path (store.read directory path)

/-- The session that options ask for in a store. -/
def sessionIn (directory : String) (store : FileStore) (environment : Option String) (o : Options) :
    Told Stop Session := do
  let config ← configIn directory store (configName? o.config environment)
  let rules ← Rule.ofFiles (store.contents directory (config.ruleFiles ++ o.ruleFiles))
  Session.configured config rules

theorem readConfig_run (name : Option String) :
    (readConfig (FileStore.access directory) name).run store = (configIn directory store name, store) := by
  cases name <;> rfl

theorem readSession_run :
    (readSession (FileStore.access directory) environment o).run store =
      (sessionIn directory store environment o, store) := by
  unfold sessionIn
  generalize hc : configIn directory store (configName? o.config environment) = config
  have reads : (readSession (FileStore.access directory) environment o).run store =
      (do
        let c ← config
        let rules ← Rule.ofFiles (store.contents directory
          ((config.value?.map Config.ruleFiles).getD [] ++ o.ruleFiles))
        Session.configured c rules, store) := by
    rw [readSession, FileStore.run_bind, readConfig_run, hc, FileStore.run_bind, FileStore.readAll_run]
    rfl
  rw [reads]
  cases h : config.result with
  | error stop => rw [Told.bind_of_error h, Told.bind_of_error h]
  | ok c =>
    have named : (config.value?.map Config.ruleFiles).getD [] = c.ruleFiles := by
      rw [Told.value?, h]
      rfl
    rw [Told.bind_of_ok h, Told.bind_of_ok h, named]

/-! ## Checks -/

/-- What a check in a store finds in the dumps that it is given. -/
def foundIn (directory : String) (store : FileStore) (environment : Option String) (o : Options) :
    Told Stop (List Diagnosis) := do
  let session ← sessionIn directory store environment o
  session.check o.jobs Memory.empty (store.contents directory o.dumps)

/-- A check ends with the fault of what it was to find, or delivers the report of what it found. -/
theorem runCheck_run :
    (runCheck (FileStore.access directory) environment o).run store =
      let found := foundIn directory store environment o
      match found.result with
      | .error stop => (⟨found.warnings, .error stop⟩, store)
      | .ok ds =>
        let delivered := (deliver (FileStore.access directory) o.out (foundStatus ds)
          (reportText o.format ds)).run store
        (⟨found.warnings, delivered.1⟩, delivered.2) := by
  rw [runCheck, FileStore.run_bind, readSession_run, FileStore.run_bind, FileStore.readAll_run]
  dsimp only
  rw [← foundIn]
  cases (foundIn directory store environment o).result <;> rfl

/-- The report of a run that ended with an answer: in the file that was asked for, or else on the
standard output. -/
def reportAfter (directory : String) (o : Options) (answer : Answer) (store : FileStore) : Content :=
  match o.out.filter (· ≠ "") with
  | none => .ok answer.output.toUTF8
  | some name => store.read directory name

/-- A text is written if it can be encoded and the file can be written. -/
theorem writeText_run (directory : String) (store : FileStore) (name text : String) :
    (∃ store', store.write directory name text.toUTF8 = .ok store' ∧ FileText.isEncodable text = true ∧
        (writeText (FileStore.access directory) name text).run store = (.ok (), store')) ∨
      ((∀ store', store.write directory name text.toUTF8 = .ok store' → FileText.isEncodable text = false) ∧
        ∃ fault store', (writeText (FileStore.access directory) name text).run store = (.error fault, store')) := by
  cases encodable : FileText.isEncodable text with
  | true =>
    rw [writeText, if_pos encodable, FileStore.write_run]
    cases written : store.write directory name text.toUTF8 with
    | ok store' => exact .inl ⟨store', rfl, rfl, rfl⟩
    | error fault => exact .inr ⟨nofun, fault, store, rfl⟩
  | false =>
    refine .inr ⟨fun _ _ => rfl, ?_⟩
    rw [writeText, encodable, if_neg Bool.false_ne_true, FileStore.run_bind, FileStore.write_run]
    cases store.write directory name ByteArray.empty with
    | ok store' => exact ⟨.notEncodable, store', rfl⟩
    | error fault => exact ⟨fault, store, rfl⟩

/-- A report that was delivered stands where it was asked for. -/
theorem deliver_ok {status : Nat} {report : String} {answer : Answer}
    (h : (deliver (FileStore.access directory) o.out status report).run store = (.ok answer, store')) :
    answer.status = status ∧ reportAfter directory o answer store' = .ok report.toUTF8 := by
  unfold deliver at h
  unfold reportAfter
  cases named : o.out.filter (· ≠ "") with
  | none =>
    rw [named] at h
    cases h
    exact ⟨rfl, rfl⟩
  | some name =>
    rw [named] at h
    dsimp only at h
    rw [FileStore.run_bind] at h
    obtain ⟨after, written, -, run⟩ | ⟨-, fault, after, run⟩ := writeText_run directory store
      name report
    · rw [run] at h
      cases h
      exact ⟨rfl, FileStore.read_of_write written⟩
    · rw [run] at h
      cases h

/-- Where one report was delivered another one is too, if it can be encoded. -/
theorem exists_deliver {status status' : Nat} {report report' : String} {answer : Answer}
    (h : ((deliver (FileStore.access directory) o.out status report).run store).1 = .ok answer)
    (encodable : FileText.isEncodable report = true → FileText.isEncodable report' = true) :
    ∃ answer' after, (deliver (FileStore.access directory) o.out status' report').run store =
      (.ok answer', after) := by
  unfold deliver at h ⊢
  cases named : o.out.filter (· ≠ "") with
  | none => exact ⟨_, _, rfl⟩
  | some name =>
    rw [named] at h
    dsimp only at h ⊢
    rw [FileStore.run_bind] at h ⊢
    obtain ⟨after, written, isEncodable, run⟩ | ⟨-, fault, after, run⟩ := writeText_run
      directory store name report
    · obtain ⟨after', written'⟩ := FileStore.exists_write written report'.toUTF8
      obtain ⟨_, _, _, run'⟩ | ⟨refused, -⟩ := writeText_run directory store name report'
      · rw [run']
        exact ⟨_, _, rfl⟩
      · rw [encodable isEncodable] at refused
        cases refused after' written'
    · rw [run] at h
      cases h

end Cli

end ChainLint
