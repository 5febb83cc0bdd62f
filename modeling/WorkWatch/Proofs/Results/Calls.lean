import WorkWatch.CommandLine.Session
import WorkWatch.Proofs.Except

/-! Calls that write results, one after the other, into the files of one folder. A call chooses its path,
encodes its document, opens the file, which leaves it empty, and writes. What was done before a step
fails stays done, so it matters that the document is encoded before the file is opened. -/

namespace WorkWatch

theorem Fields.put_put {α : Type} (name : String) (value value' : α) (fields : Fields α) :
    (fields.put name value).put name value' = fields.put name value' := by
  induction fields with
  | nil => simp [put]
  | cons entry rest ih =>
    by_cases h : entry.1 = name
    · simp [put, h]
    · simp [put, h, ih]

namespace Folder

def file? (folder : Folder) (path : Path) : Option File :=
  (folder.locate path).toOption.bind fun name => Fields.get? name folder

/-- The mode of a file once it has been opened for writing; that of a new one is private. -/
def modeOf (folder : Folder) (name : String) : Nat :=
  ((folder.get? name).map File.mode).getD privateMode

theorem enter_eq_ok {folder : Folder} {path : String} {place last : Place} {names : List String}
    (h : folder.enter path place names = .ok last) (other : Folder) :
    other.enter path place names = .ok last := by
  induction names generalizing place with
  | nil => exact h
  | cons name rest ih =>
    unfold enter at h ⊢
    by_cases hup : name = ".."
    · rw [if_pos hup] at h ⊢
      exact ih h
    · rw [if_neg hup] at h ⊢
      by_cases hlong : nameLimit < name.utf8ByteSize
      · rw [if_pos hlong] at h
        cases h
      · rw [if_neg hlong] at h ⊢
        cases hdirectory : place.directory? name with
        | some next =>
          rw [hdirectory] at h
          exact ih h
        | none =>
          rw [hdirectory] at h
          cases h

/-- Where the file of a path is kept does not depend on the files that there are; only why it cannot
be written does. -/
theorem locate_eq_ok {folder : Folder} {path : Path} {name : String}
    (h : folder.locate path = .ok name) (other : Folder) : other.locate path = .ok name := by
  unfold locate at h ⊢
  dsimp only at h ⊢
  by_cases hnull : path.text.toList.contains '\x00' = true
  · rw [if_pos hnull] at h
    cases h
  · rw [if_neg hnull] at h ⊢
    by_cases hlong : pathLimit < path.text.utf8ByteSize
    · rw [if_pos hlong] at h
      cases h
    · rw [if_neg hlong] at h ⊢
      cases hlast : path.parts.getLast? with
      | none =>
        rw [hlast] at h
        cases h
      | some last =>
        rw [hlast] at h
        obtain ⟨place, hplace, h⟩ := bind_eq_ok_iff.mp h
        exact bind_eq_ok_iff.mpr ⟨place, enter_eq_ok hplace other, h⟩

theorem file?_of_locate {folder : Folder} {path : Path} {name : String}
    (h : ∀ folder : Folder, folder.locate path = .ok name) :
    folder.file? path = folder.get? name := by
  unfold file?
  rw [h]
  rfl

end Folder

/-- Why a result is not written: its document has no text, or its file cannot be opened. -/
inductive WriteError (ε : Type) where
  | document (error : ε)
  | file (error : FileError)
  deriving DecidableEq

/-- Steps on the files of a folder. What was done before an error stays done. -/
abbrev FileStep (ε α : Type) := ExceptT (WriteError ε) (StateM Folder) α

section Steps

variable {ε : Type}

namespace FileStep

def encoded (encode : Json → Except ε String) (document : Json) : FileStep ε String :=
  fun folder => ((encode document).mapError .document, folder)

/-- Opens the file of a path for writing; it has no text after that. -/
def openFile (path : Path) : FileStep ε String := fun folder =>
  match folder.locate path with
  | .ok name => (.ok name, folder.put name ⟨folder.modeOf name, ""⟩)
  | .error error => (.error (.file error), folder)

/-- Writes a text over the beginning of the text that is there. -/
def overwrite (name text : String) : FileStep ε Unit := fun folder =>
  match folder.get? name with
  | some file => (.ok (), folder.put name
      ⟨file.mode, String.ofList (text.toList ++ file.text.toList.drop text.length)⟩)
  | none => (.ok (), folder)

/-- Writes a document to a path that is given, else to the one of the setting, else nowhere. -/
def writeResult (encode : Json → Except ε String) (setting : Option String) (given : Option Path)
    (document : Json) : FileStep ε (Option Path) :=
  match resultsPath given setting with
  | none => pure none
  | some path => do
    let text ← encoded encode document
    let name ← openFile path
    overwrite name text
    return some path

variable {encode : Json → Except ε String} {setting : Option String} {given : Option Path}
  {document : Json} {path : Path} {name text : String} {folder : Folder}

theorem writeResult_nowhere (h : resultsPath given setting = none) :
    writeResult encode setting given document folder = (.ok none, folder) := by
  unfold writeResult
  rw [h]
  rfl

theorem writeResult_of_encode {problem : ε} (hpath : resultsPath given setting = some path)
    (hencode : encode document = .error problem) :
    writeResult encode setting given document folder = (.error (.document problem), folder) := by
  have hencoded : encoded encode document folder = (.error (.document problem), folder) := by
    unfold encoded
    rw [hencode]
    rfl
  unfold writeResult
  rw [hpath]
  exact bind_of_error hencoded

theorem encoded_of_ok (hencode : encode document = .ok text) :
    encoded encode document folder = (.ok text, folder) := by
  unfold encoded
  rw [hencode]
  rfl

theorem writeResult_of_locate {problem : FileError} (hpath : resultsPath given setting = some path)
    (hencode : encode document = .ok text) (hlocate : folder.locate path = .error problem) :
    writeResult encode setting given document folder = (.error (.file problem), folder) := by
  have hopen : (openFile path : FileStep ε String) folder = (.error (.file problem), folder) := by
    unfold openFile
    rw [hlocate]
  unfold writeResult
  rw [hpath]
  dsimp only
  rw [bind_of_ok (encoded_of_ok hencode)]
  exact bind_of_error hopen

/-- Nothing of an earlier text is left, as the file has been emptied when it was opened. -/
theorem overwrite_of_put (mode : Nat) :
    (overwrite name text : FileStep ε Unit) (folder.put name ⟨mode, ""⟩) =
      (.ok (), folder.put name ⟨mode, text⟩) := by
  unfold overwrite
  rw [Fields.get?_put_self]
  dsimp only
  rw [Fields.put_put, String.toList_empty, List.drop_nil, List.append_nil, String.ofList_toList]

theorem writeResult_of_ok (hpath : resultsPath given setting = some path)
    (hencode : encode document = .ok text) (hlocate : folder.locate path = .ok name) :
    writeResult encode setting given document folder =
      (.ok (some path), folder.put name ⟨folder.modeOf name, text⟩) := by
  have hopen : (openFile path : FileStep ε String) folder =
      (.ok name, folder.put name ⟨folder.modeOf name, ""⟩) := by
    unfold openFile
    rw [hlocate]
  unfold writeResult
  rw [hpath]
  dsimp only
  rw [bind_of_ok (encoded_of_ok hencode), bind_of_ok hopen, bind_of_ok (overwrite_of_put _)]
  rfl

def resultsText (document : Json) : Except ε String := .ok document.spaced

/-- The steps write the document of an outcome as it is written at once. -/
theorem writeResult_eq_write (outcome : Outcome) (given : Option Path) (setting : Option String)
    (folder : Folder) :
    writeResult (resultsText : Json → Except ε String) setting given outcome.toJson folder =
      match outcome.write given setting folder with
      | .ok (written, after) => (.ok written, after)
      | .error problem => (.error (.file problem), folder) := by
  unfold Outcome.write
  cases hpath : resultsPath given setting with
  | none => exact writeResult_nowhere hpath
  | some path =>
    dsimp only
    unfold Folder.write
    cases hlocate : folder.locate path with
    | error problem => exact writeResult_of_locate hpath rfl hlocate
    | ok name => exact writeResult_of_ok hpath rfl hlocate

end FileStep

/-- A call that writes results: some document, or how a wait stands after a poll. -/
inductive ResultsCall where
  | direct (given : Option Path) (document : Json)
  | progress (given : Option Path) (name consumer expression : String) (time : Time.Timestamp)
      (snapshot : Snapshot) (met : Bool)

namespace ResultsCall

def given : ResultsCall → Option Path
  | direct given _ => given
  | progress given .. => given

def document : ResultsCall → Json
  | direct _ document => document
  | progress _ name consumer expression time snapshot met =>
    (Outcome.ofPoll name consumer expression time snapshot met).toJson

def run (encode : Json → Except ε String) (setting : Option String) (call : ResultsCall) :
    FileStep ε (Option Path) :=
  FileStep.writeResult encode setting call.given call.document

/-- The results of calls that are made one after the other, and the files after the last one. -/
def runAll (encode : Json → Except ε String) (setting : Option String) :
    List ResultsCall → Folder → List (Except (WriteError ε) (Option Path)) × Folder
  | [], folder => ([], folder)
  | call :: rest, folder =>
    let (result, folder) := call.run encode setting folder
    let (results, last) := runAll encode setting rest folder
    (result :: results, last)

/-- The call writes a text under a name, whatever files there are. -/
structure Writes (encode : Json → Except ε String) (setting : Option String) (call : ResultsCall)
    (path : Path) (name text : String) : Prop where
  chosen : resultsPath call.given setting = some path
  located : ∀ folder : Folder, folder.locate path = .ok name
  encoded : encode call.document = .ok text

/-- What a call gives, and the files after it: a call that fails or has no path leaves all files
alone, and one that gives a path leaves its text there and all other files alone. -/
inductive Does (encode : Json → Except ε String) (setting : Option String) (call : ResultsCall)
    (before : Folder) : Except (WriteError ε) (Option Path) × Folder → Prop
  | refused {problem : WriteError ε} (hpath : resultsPath call.given setting ≠ none)
      (hnot : ∀ path name text, ¬ call.Writes encode setting path name text) :
      Does encode setting call before (.error problem, before)
  | nowhere (hpath : resultsPath call.given setting = none) :
      Does encode setting call before (.ok none, before)
  | wrote {path : Path} {name text : String} {after : Folder}
      (hwrites : call.Writes encode setting path name text)
      (hhere : (after.get? name).map File.text = some text)
      (hothers : ∀ other, other ≠ name → after.get? other = before.get? other) :
      Does encode setting call before (.ok (some path), after)

/-- The text is that of the last call that writes under the name. -/
def LastWritten (encode : Json → Except ε String) (setting : Option String)
    (calls : List ResultsCall) (name text : String) : Prop :=
  ∃ before call after path, calls = before ++ call :: after ∧
    call.Writes encode setting path name text ∧
    ∀ later ∈ after, ∀ path text, ¬ later.Writes encode setting path name text

variable {encode : Json → Except ε String} {setting : Option String} {call : ResultsCall}
  {calls : List ResultsCall} {path : Path} {name text : String}

theorem Writes.run_eq (h : call.Writes encode setting path name text) (folder : Folder) :
    call.run encode setting folder =
      (.ok (some path), folder.put name ⟨folder.modeOf name, text⟩) :=
  FileStep.writeResult_of_ok h.chosen h.encoded (h.located folder)

theorem run_of_not_writes (h : ∀ path name text, ¬ call.Writes encode setting path name text)
    (folder : Folder) : (resultsPath call.given setting = none ∧
        call.run encode setting folder = (.ok none, folder)) ∨
      resultsPath call.given setting ≠ none ∧
        ∃ problem, call.run encode setting folder = (.error problem, folder) := by
  unfold run
  cases hpath : resultsPath call.given setting with
  | none => exact .inl ⟨rfl, FileStep.writeResult_nowhere hpath⟩
  | some path =>
    refine .inr ⟨nofun, ?_⟩
    cases hencode : encode call.document with
    | error problem => exact ⟨_, FileStep.writeResult_of_encode hpath hencode⟩
    | ok text =>
      cases hlocate : folder.locate path with
      | error problem => exact ⟨_, FileStep.writeResult_of_locate hpath hencode hlocate⟩
      | ok name => exact absurd ⟨hpath, Folder.locate_eq_ok hlocate, hencode⟩ (h path name text)

theorem run_does (call : ResultsCall) (folder : Folder) :
    Does encode setting call folder (call.run encode setting folder) := by
  by_cases h : ∃ path name text, call.Writes encode setting path name text
  · obtain ⟨path, name, text, hwrites⟩ := h
    rw [hwrites.run_eq]
    refine .wrote hwrites ?_ fun other hother => Fields.get?_put_of_ne hother.symm _ _
    rw [Fields.get?_put_self]
    rfl
  · have hnot : ∀ path name text, ¬ call.Writes encode setting path name text :=
      fun path name text hwrites => h ⟨path, name, text, hwrites⟩
    rcases run_of_not_writes hnot folder with ⟨hpath, hrun⟩ | ⟨hpath, problem, hrun⟩
    · rw [hrun]
      exact .nowhere hpath
    · rw [hrun]
      exact .refused hpath hnot

theorem get?_run_of_not_writes (h : ∀ path text, ¬ call.Writes encode setting path name text)
    (folder : Folder) :
    (call.run encode setting folder).2.get? name = folder.get? name := by
  have hdoes : Does encode setting call folder (call.run encode setting folder) := run_does call folder
  generalize call.run encode setting folder = done at hdoes ⊢
  cases hdoes with
  | refused | nowhere => rfl
  | wrote hwrites _ hothers =>
    refine hothers name ?_
    rintro rfl
    exact h _ _ hwrites

/-- No call changes the mode of a file, and a new file is private. -/
theorem modeOf_run (call : ResultsCall) (folder : Folder) (name : String) :
    (call.run encode setting folder).2.modeOf name = folder.modeOf name := by
  by_cases h : ∃ path text, call.Writes encode setting path name text
  · obtain ⟨path, text, hwrites⟩ := h
    rw [hwrites.run_eq, Folder.modeOf, Fields.get?_put_self]
    rfl
  · have hnot : ∀ path text, ¬ call.Writes encode setting path name text :=
      fun path text hwrites => h ⟨path, text, hwrites⟩
    unfold Folder.modeOf
    rw [get?_run_of_not_writes hnot]

theorem runAll_append (calls more : List ResultsCall) (folder : Folder) :
    (runAll encode setting (calls ++ more) folder).2 =
      (runAll encode setting more (runAll encode setting calls folder).2).2 := by
  induction calls generalizing folder with
  | nil => rfl
  | cons call rest ih => exact ih _

theorem get?_runAll_of_not_writes
    (h : ∀ call ∈ calls, ∀ path text, ¬ call.Writes encode setting path name text)
    (folder : Folder) :
    (runAll encode setting calls folder).2.get? name = folder.get? name := by
  induction calls generalizing folder with
  | nil => rfl
  | cons call rest ih =>
    obtain ⟨hcall, hrest⟩ := List.forall_mem_cons.mp h
    exact (ih hrest _).trans (get?_run_of_not_writes hcall folder)

theorem modeOf_runAll (calls : List ResultsCall) (folder : Folder) (name : String) :
    (runAll encode setting calls folder).2.modeOf name = folder.modeOf name := by
  induction calls generalizing folder with
  | nil => rfl
  | cons call rest ih => exact (ih _).trans (modeOf_run call folder name)

theorem LastWritten.text_eq (h : LastWritten encode setting calls name text) (folder : Folder) :
    ((runAll encode setting calls folder).2.get? name).map File.text = some text := by
  obtain ⟨before, call, after, path, rfl, hwrites, hafter⟩ := h
  rw [runAll_append]
  change ((runAll encode setting after (call.run encode setting _).2).2.get? name).map File.text = _
  rw [get?_runAll_of_not_writes hafter, hwrites.run_eq, Fields.get?_put_self]
  rfl

/-- Under every name some call is the last one that writes, or none does. -/
theorem exists_lastWritten_or (calls : List ResultsCall) (name : String) :
    (∃ text, LastWritten encode setting calls name text) ∨
      ∀ call ∈ calls, ∀ path text, ¬ call.Writes encode setting path name text := by
  induction calls with
  | nil => exact .inr nofun
  | cons call rest ih =>
    rcases ih with ⟨text, before, writer, after, path, rfl, hwrites, hafter⟩ | hrest
    · exact .inl ⟨text, call :: before, writer, after, path, rfl, hwrites, hafter⟩
    · by_cases h : ∃ path text, call.Writes encode setting path name text
      · obtain ⟨path, text, hwrites⟩ := h
        exact .inl ⟨text, [], call, rest, path, rfl, hwrites, hrest⟩
      · exact .inr (List.forall_mem_cons.mpr
          ⟨fun path text hwrites => h ⟨path, text, hwrites⟩, hrest⟩)

/-- A path that is given back by one of the calls is one that this call writes to. -/
theorem exists_writes_of_mem {folder : Folder}
    (h : .ok (some path) ∈ (runAll encode setting calls folder).1) :
    ∃ call ∈ calls, ∃ name text, call.Writes encode setting path name text := by
  induction calls generalizing folder with
  | nil => cases h
  | cons call rest ih =>
    rcases List.mem_cons.mp h with hhere | hrest
    · change .ok (some path) = (call.run encode setting folder).1 at hhere
      have hdoes : Does encode setting call folder (call.run encode setting folder) :=
        run_does call folder
      generalize call.run encode setting folder = done at hhere hdoes
      cases hdoes with
      | refused | nowhere => cases hhere
      | wrote hwrites =>
        cases hhere
        exact ⟨call, List.mem_cons_self, _, _, hwrites⟩
    · obtain ⟨writer, hmem, hwrites⟩ := ih hrest
      exact ⟨writer, List.mem_cons_of_mem call hmem, hwrites⟩

/-- A call that fails leaves all files alone, and so does one that has no path; one that gives a path
leaves its own text there, and nothing else is changed. So after any number of calls every file has
the text of the last call that wrote to it, or is as it was. -/
theorem runAll_leaves (encode : Json → Except ε String) (setting : Option String)
    (calls : List ResultsCall) (folder : Folder) :
    (∀ (call : ResultsCall) (before : Folder),
        Does encode setting call before (call.run encode setting before)) ∧
      ∀ name,
        (∃ text, LastWritten encode setting calls name text ∧
          ((runAll encode setting calls folder).2.get? name).map File.text = some text) ∨
        (∀ call ∈ calls, ∀ path text, ¬ call.Writes encode setting path name text) ∧
          (runAll encode setting calls folder).2.get? name = folder.get? name := by
  refine ⟨run_does, fun name => ?_⟩
  rcases exists_lastWritten_or calls name with ⟨text, hlast⟩ | hnot
  · exact .inl ⟨text, hlast, hlast.text_eq folder⟩
  · exact .inr ⟨hnot, get?_runAll_of_not_writes hnot folder⟩

/-- A file that was written by some call is private exactly if it was so before the first call, or
was not there. -/
theorem runAll_private_iff {folder : Folder}
    (h : .ok (some path) ∈ (runAll encode setting calls folder).1) :
    ∃ file, (runAll encode setting calls folder).2.file? path = some file ∧
      (file.mode = privateMode ↔
        ∀ old, folder.file? path = some old → old.mode = privateMode) := by
  obtain ⟨call, hmem, name, text, hwrites⟩ := exists_writes_of_mem h
  rw [Folder.file?_of_locate hwrites.located, Folder.file?_of_locate hwrites.located]
  have hmode : (runAll encode setting calls folder).2.modeOf name = folder.modeOf name :=
    modeOf_runAll calls folder name
  rcases exists_lastWritten_or calls name with ⟨text, hlast⟩ | hnot
  · obtain ⟨file, hfile, -⟩ := Option.map_eq_some_iff.mp (hlast.text_eq folder)
    refine ⟨file, hfile, ?_⟩
    unfold Folder.modeOf at hmode
    rw [hfile] at hmode
    change file.mode = _ at hmode
    rw [hmode]
    cases folder.get? name with
    | none => exact ⟨fun _ => nofun, fun _ => rfl⟩
    | some old => exact ⟨fun hold _ hsame => Option.some.inj hsame ▸ hold, fun hold => hold old rfl⟩
  · exact absurd hwrites (hnot call hmem path _)

/-- A file that is new when the wait is met, beside one that others may read. -/
theorem runAll_private_iff_new :
    let encode : Json → Except Unit String := FileStep.resultsText
    let snapshot : Snapshot := ⟨"b-1", "web", "cluster1", 3, "", "", [], [], [], ""⟩
    let calls : List ResultsCall := [
      .direct (some (Path.parse "r.json")) (Outcome.deleted "db" "cluster1" (.ofSeconds 0)).toJson,
      .progress none "web" "cluster1" "Available" (.ofSeconds 60) snapshot true]
    let folder : Folder := [("r.json", ⟨0o644, "old"⟩)]
    let done := runAll encode (some " env.json ") calls folder
    .ok (some (Path.parse "env.json")) ∈ done.1 ∧
      ∃ file, done.2.file? (Path.parse "env.json") = some file ∧ file.mode = privateMode := by
  intro encode snapshot calls folder done
  have hmem : .ok (some (Path.parse "env.json")) ∈ done.1 := by decide +kernel
  have hnew : folder.file? (Path.parse "env.json") = none := by decide +kernel
  obtain ⟨file, hfile, hprivate⟩ := runAll_private_iff hmem
  refine ⟨hmem, file, hfile, hprivate.mpr ?_⟩
  intro old hold
  rw [hnew] at hold
  cases hold

/-- A file that others may read before its text is replaced can still be read by them. -/
theorem runAll_exposed :
    let encode : Json → Except Unit String := FileStep.resultsText
    let calls : List ResultsCall := [
      .direct (some (Path.parse "r.json")) (Outcome.deleted "web" "cluster1" (.ofSeconds 0)).toJson]
    let done := runAll encode none calls [("r.json", ⟨0o644, "old"⟩)]
    done.1 = [.ok (some (Path.parse "r.json"))] ∧
      (done.2.file? (Path.parse "r.json")).map File.mode = some 0o644 := by
  decide +kernel

end ResultsCall

/-- After a poll a wait makes such a call. -/
theorem Session.writeResults_folder (session : Session) (path : Option Path)
    (name consumer expression : String) (now : Float) (snapshot : Snapshot) (met : Bool) :
    (session.writeResults path name consumer expression now snapshot met).2.folder =
      ((ResultsCall.progress path name consumer expression (session.timestamp now) snapshot met).run
        (FileStep.resultsText : Json → Except ε String)
        (session.environment.get? Settings.resultsVariable) session.folder).2 := by
  unfold Session.writeResults ResultsCall.run
  change _ = (FileStep.writeResult FileStep.resultsText _ path
    (Outcome.ofPoll name consumer expression (session.timestamp now) snapshot met).toJson
    session.folder).2
  rw [FileStep.writeResult_eq_write]
  dsimp only
  cases (Outcome.ofPoll name consumer expression (session.timestamp now) snapshot met).write path
      (session.environment.get? Settings.resultsVariable) session.folder with
  | ok written => rfl
  | error problem => rfl

end Steps

end WorkWatch
