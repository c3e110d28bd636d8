import LiveFlags.Proofs.Storage.FileName
import LiveFlags.Proofs.Storage.FileSystem

/-!
# What a write does to the directory of a namespace

The lock, the temporary file and the file of a key stand beside each other. A write needs them as
files and fails if one of them is a directory. Otherwise the file of the key has its new content
afterwards or is gone, the temporary file is gone, the lock is there, and nothing else has changed.

Main statement: `runAll_write`.
-/

namespace LiveFlags.FileStorage

open FileSystem FileAction

variable {fs fs' : FileSystem} {dir : Path} {name key : String}

/-- The file into which the text of a key is written first. -/
def preparedOf (key : String) : String :=
  FileName.temporary (FileName.ofKey key)

/-- The operations that write bytes beside the file of a key, after the directory is there. -/
def preparing (dir : Path) (key : String) (bytes : List UInt8) : List FileStep :=
  [.lock (dir ++ [FileName.lock]), .create (dir ++ [preparedOf key]),
    .append (dir ++ [preparedOf key]) bytes, .sync (dir ++ [preparedOf key])]

/-- One of the names belongs to a directory. -/
def Blocked (fs : FileSystem) (dir : Path) (names : List String) : Prop :=
  ∃ name ∈ names, fs.nodes[dir ++ [name]]? = some .directory

theorem runAll_cons_of_ok {step : FileStep} (h : step.run fs = (.ok (), fs'))
    (steps : List FileStep) : FileStep.runAll (step :: steps) fs = FileStep.runAll steps fs' := by
  simp only [FileStep.runAll, andThen, h]

/-- The first operation that fails is the last one. -/
theorem runAll_cons_of_error {step : FileStep} {fault : FileFault}
    (h : step.run fs = (.error fault, fs')) (steps : List FileStep) :
    FileStep.runAll (step :: steps) fs = (.error fault, fs') := by
  simp only [FileStep.runAll, andThen, h]

theorem runAll_append (steps steps' : List FileStep) :
    FileStep.runAll (steps ++ steps') =
      andThen (FileStep.runAll steps) fun _ => FileStep.runAll steps' := by
  funext fs
  induction steps generalizing fs with
  | nil => rfl
  | cons step steps ih =>
    match hstep : step.run fs with
    | (.ok (), fs') =>
      rw [List.cons_append, runAll_cons_of_ok hstep, ih]
      simp only [andThen, runAll_cons_of_ok hstep]
    | (.error fault, fs') =>
      rw [List.cons_append, runAll_cons_of_error hstep]
      simp only [andThen, runAll_cons_of_error hstep]

/-! #### Opening a file -/

/-- The lock is opened as it is, or made. -/
theorem run_lock (h : fs.CanHold dir name)
    (hfree : fs.nodes[dir ++ [name]]? ≠ some .directory) :
    (FileStep.lock (dir ++ [name])).run fs =
      (.ok (), fs.place (dir ++ [name]) (.file (fs.contentAt (dir ++ [name])))) :=
  (openFile_eq h id).trans (if_neg hfree)

/-- The temporary file starts empty, whatever was left there. -/
theorem run_create (h : fs.CanHold dir name)
    (hfree : fs.nodes[dir ++ [name]]? ≠ some .directory) :
    (FileStep.create (dir ++ [name])).run fs = (.ok (), fs.place (dir ++ [name]) (.file [])) :=
  (openFile_eq h fun _ => []).trans (if_neg hfree)

theorem run_append (h : fs.CanHold dir name) {content : List UInt8}
    (hfile : fs.nodes[dir ++ [name]]? = some (.file content)) (bytes : List UInt8) :
    (FileStep.append (dir ++ [name]) bytes).run fs =
      (.ok (), fs.place (dir ++ [name]) (.file (content ++ bytes))) := by
  have hcontent : fs.contentAt (dir ++ [name]) = content := by simp only [contentAt, hfile]
  have hfree : fs.nodes[dir ++ [name]]? ≠ some .directory := by simp [hfile]
  rw [← hcontent]
  exact (openFile_eq h (· ++ bytes)).trans (if_neg hfree)

theorem run_lock_directory (h : fs.CanHold dir name)
    (hdirectory : fs.nodes[dir ++ [name]]? = some .directory) :
    (FileStep.lock (dir ++ [name])).run fs = (.error .isADirectory, fs) :=
  (openFile_eq h id).trans (if_pos hdirectory)

theorem run_create_directory (h : fs.CanHold dir name)
    (hdirectory : fs.nodes[dir ++ [name]]? = some .directory) :
    (FileStep.create (dir ++ [name])).run fs = (.error .isADirectory, fs) :=
  (openFile_eq h fun _ => []).trans (if_pos hdirectory)

/-- Preparing fails if the lock or the temporary file is a directory. Otherwise both are files after
it, the bytes stand in the temporary one, and nothing else has changed. -/
theorem runAll_preparing (hlock : fs.CanHold dir FileName.lock)
    (hprepared : fs.CanHold dir (preparedOf key)) (bytes : List UInt8) :
    Blocked fs dir [FileName.lock, preparedOf key] ∧
        (FileStep.runAll (preparing dir key bytes) fs).1 = .error .isADirectory ∨
      ¬ Blocked fs dir [FileName.lock, preparedOf key] ∧ ∃ fs',
        FileStep.runAll (preparing dir key bytes) fs = (.ok (), fs') ∧
        fs.DirectoriesStay fs' ∧
        ∀ path : Path, fs'.nodes[path]? =
          if path = dir ++ [preparedOf key] then some (.file bytes)
          else if path = dir ++ [FileName.lock] then
            some (.file (fs.contentAt (dir ++ [FileName.lock])))
          else fs.nodes[path]? := by
  have hne : preparedOf key ≠ FileName.lock := FileName.temporary_ne_lock _
  by_cases hlock' : fs.nodes[dir ++ [FileName.lock]]? = some .directory
  · refine .inl ⟨⟨FileName.lock, by simp, hlock'⟩, ?_⟩
    rw [preparing, runAll_cons_of_error (run_lock_directory hlock hlock')]
  have hlocked := run_lock hlock hlock'
  have hstay₁ : fs.DirectoriesStay _ := directoriesStay_place hlock'
    (.file (fs.contentAt (dir ++ [FileName.lock])))
  have hbeside : (fs.place (dir ++ [FileName.lock])
      (.file (fs.contentAt (dir ++ [FileName.lock])))).nodes[dir ++ [preparedOf key]]? =
        fs.nodes[dir ++ [preparedOf key]]? := fs.nodes_place_ne hne _
  have hplaced := fs.nodes_place (dir ++ [FileName.lock])
    (.file (fs.contentAt (dir ++ [FileName.lock])))
  -- What was placed counts from here on only by what is found where.
  generalize fs.place (dir ++ [FileName.lock]) (.file (fs.contentAt (dir ++ [FileName.lock]))) =
    fs₁ at *
  have hprepared₁ := hstay₁.canHold hprepared
  by_cases hprepared' : fs.nodes[dir ++ [preparedOf key]]? = some .directory
  · refine .inl ⟨⟨preparedOf key, by simp, hprepared'⟩, ?_⟩
    rw [preparing, runAll_cons_of_ok hlocked,
      runAll_cons_of_error (run_create_directory hprepared₁ (hbeside.trans hprepared'))]
  refine .inr ⟨?_, ?_⟩
  · rintro ⟨name, hname, hdirectory⟩
    rcases List.mem_pair.1 hname with rfl | rfl
    · exact hlock' hdirectory
    · exact hprepared' hdirectory
  -- Nothing is in the way: the file starts empty and gets the bytes.
  rw [← hbeside] at hprepared'
  have hcreated := run_create hprepared₁ hprepared'
  have hstay₂ := directoriesStay_place hprepared' (.file [])
  have happended := run_append (hstay₂.canHold hprepared₁) (fs₁.nodes_place_self _ _) bytes
  have hempty : (fs₁.place (dir ++ [preparedOf key]) (.file [])).nodes[dir ++ [preparedOf key]]? ≠
      some .directory := by
    rw [nodes_place_self]
    nofun
  have hstay₃ := directoriesStay_place hempty (.file ([] ++ bytes))
  refine ⟨_, ?_, fun path hpath => hstay₃ _ (hstay₂ _ (hstay₁ _ hpath)), fun path => ?_⟩
  · rw [preparing, runAll_cons_of_ok hlocked, runAll_cons_of_ok hcreated,
      runAll_cons_of_ok happended]
    rfl
  · simp only [nodes_place, hplaced, List.nil_append]
    split_ifs <;> rfl

/-! ### A whole write -/

/-- The operations of a write after the directory is there. -/
def writing (dir : Path) (key : String) : Option String → List FileStep
  | some text => preparing dir key (Utf8.encode text.toList) ++
      [.rename (dir ++ [preparedOf key]) (dir ++ [FileName.ofKey key])]
  | none => [.lock (dir ++ [FileName.lock]), .remove (dir ++ [FileName.ofKey key])]

theorem steps_eq (root : Path) (space key : String) (text : Option String) :
    steps root space key text = .makeDirectories (directory root space) ::
      writing (directory root space) key text := by
  cases text <;> rfl

/-- A write is a sequence of operations on files. -/
theorem set_eq (s : FileStorage) (space key : String) (text : Option String) :
    s.set space key text =
      ((FileStep.runAll (steps s.root space key text) s.files).1.mapError FileFault.toStorageError,
        { s with files := (FileStep.runAll (steps s.root space key text) s.files).2 }) := by
  rw [set]

/-- The files that a write needs. -/
def filesOf (key : String) (text : Option String) : List String :=
  FileName.lock :: FileName.ofKey key :: text.toList.map fun _ => preparedOf key

/-- What stands where after a write. -/
def Wrote (fs fs' : FileSystem) (dir : Path) (key : String) (text : Option String) : Prop :=
  ∀ path : Path, fs'.nodes[path]? =
    if path = dir ++ [FileName.ofKey key] then text.map fun t => .file (Utf8.encode t.toList)
    else if path = dir ++ [preparedOf key] ∧ text.isSome then none
    else if path = dir ++ [FileName.lock] then
      some (.file (fs.contentAt (dir ++ [FileName.lock])))
    else fs.nodes[path]?

/-- Only files are written. -/
theorem Wrote.directoriesStay {text : Option String} (h : Wrote fs fs' dir key text)
    (hfree : ¬ Blocked fs dir (filesOf key text)) : fs.DirectoriesStay fs' := by
  intro path hpath
  have hne {name : String} (hname : name ∈ filesOf key text) : path ≠ dir ++ [name] := by
    rintro rfl
    exact hfree ⟨name, hname, hpath⟩
  have htarget : path ≠ dir ++ [FileName.ofKey key] := hne (by simp [filesOf])
  have hlock : path ≠ dir ++ [FileName.lock] := hne (by simp [filesOf])
  have hprepared : ¬ (path = dir ++ [preparedOf key] ∧ text.isSome) := by
    rintro ⟨heq, hsome⟩
    obtain ⟨t, rfl⟩ := Option.isSome_iff_exists.1 hsome
    exact hne (by simp [filesOf]) heq
  rw [h, if_neg htarget, if_neg hprepared, if_neg hlock]
  exact hpath

/-- Writing a text fails just if a directory has one of the names, and else leaves the text. -/
theorem runAll_writing_some (text : String)
    (h : ∀ name ∈ filesOf key (some text), fs.CanHold dir name) :
    Blocked fs dir (filesOf key (some text)) ∧
        (FileStep.runAll (writing dir key (some text)) fs).1 = .error .isADirectory ∨
      ¬ Blocked fs dir (filesOf key (some text)) ∧ ∃ fs',
        FileStep.runAll (writing dir key (some text)) fs = (.ok (), fs') ∧
        Wrote fs fs' dir key (some text) := by
  have hne : FileName.ofKey key ≠ preparedOf key := FileName.ofKey_ne_temporary _ _
  have hne' : FileName.ofKey key ≠ FileName.lock := FileName.ofKey_ne_lock _
  have hlock := h FileName.lock (by simp [filesOf])
  have htarget := h (FileName.ofKey key) (by simp [filesOf])
  have hprepared := h (preparedOf key) (by simp [filesOf])
  rw [writing, runAll_append]
  rcases runAll_preparing hlock hprepared (Utf8.encode text.toList) with
    ⟨⟨name, hname, hdirectory⟩, hfails⟩ | ⟨hfree, fs', hruns, hstay, hnodes⟩
  · refine .inl ⟨⟨name, ?_, hdirectory⟩, ?_⟩
    · rcases List.mem_pair.1 hname with rfl | rfl <;> simp [filesOf]
    · rw [andThen]
      split
      · next heq => rw [heq] at hfails; cases hfails
      · next fault fs' heq => rw [heq] at hfails; exact hfails
  have hprepared' :
      fs'.nodes[dir ++ [preparedOf key]]? = some (.file (Utf8.encode text.toList)) := by
    rw [hnodes, if_pos rfl]
  have htarget' :
      fs'.nodes[dir ++ [FileName.ofKey key]]? = fs.nodes[dir ++ [FileName.ofKey key]]? := by
    rw [hnodes, if_neg (mt concat_inj.1 hne), if_neg (mt concat_inj.1 hne')]
  have hrename :
      (FileStep.rename (dir ++ [preparedOf key]) (dir ++ [FileName.ofKey key])).run fs' = _ :=
    rename_eq (hstay.canHold hprepared) (hstay.canHold htarget) hprepared'
  rw [htarget'] at hrename
  simp only [andThen, hruns]
  -- The text is written by now. Only a directory can stand in the way of the rename.
  by_cases hdirectory : fs.nodes[dir ++ [FileName.ofKey key]]? = some .directory
  · refine .inl ⟨⟨FileName.ofKey key, by simp [filesOf], hdirectory⟩, ?_⟩
    rw [if_pos hdirectory] at hrename
    exact congrArg Prod.fst (runAll_cons_of_error hrename [])
  refine .inr ⟨?_, _, runAll_cons_of_ok (hrename.trans (if_neg hdirectory)) [], ?_⟩
  · rintro ⟨name, hname, hname'⟩
    have hcases : name = FileName.lock ∨ name = FileName.ofKey key ∨ name = preparedOf key := by
      simpa [filesOf] using hname
    rcases hcases with rfl | rfl | rfl
    · exact hfree ⟨FileName.lock, by simp, hname'⟩
    · exact hdirectory hname'
    · exact hfree ⟨preparedOf key, by simp, hname'⟩
  · intro path
    simp only [Std.ExtTreeMap.getElem?_insert, Std.ExtTreeMap.getElem?_erase,
      Std.compare_eq_iff_eq, hnodes, Option.map_some, Option.isSome_some, and_true,
      eq_comm (b := path)]
    split_ifs <;> rfl

theorem runAll_writing_none (h : ∀ name ∈ filesOf key none, fs.CanHold dir name) :
    Blocked fs dir (filesOf key none) ∧
        (FileStep.runAll (writing dir key none) fs).1 = .error .isADirectory ∨
      ¬ Blocked fs dir (filesOf key none) ∧ ∃ fs',
        FileStep.runAll (writing dir key none) fs = (.ok (), fs') ∧
        Wrote fs fs' dir key none := by
  have hne : FileName.ofKey key ≠ FileName.lock := FileName.ofKey_ne_lock _
  have hlock := h FileName.lock (by simp [filesOf])
  have htarget := h (FileName.ofKey key) (by simp [filesOf])
  by_cases hlock' : fs.nodes[dir ++ [FileName.lock]]? = some .directory
  · refine .inl ⟨⟨FileName.lock, by simp [filesOf], hlock'⟩, ?_⟩
    rw [writing, runAll_cons_of_error (run_lock_directory hlock hlock')]
  have hlocked := run_lock hlock hlock'
  have hstay := directoriesStay_place hlock' (.file (fs.contentAt (dir ++ [FileName.lock])))
  have hremove : (FileStep.remove (dir ++ [FileName.ofKey key])).run _ = _ :=
    removeIfPresent_eq (hstay.canHold htarget)
  rw [fs.nodes_place_ne hne] at hremove
  by_cases hdirectory : fs.nodes[dir ++ [FileName.ofKey key]]? = some .directory
  · refine .inl ⟨⟨FileName.ofKey key, by simp [filesOf], hdirectory⟩, ?_⟩
    rw [hdirectory] at hremove
    rw [writing, runAll_cons_of_ok hlocked, runAll_cons_of_error hremove]
  refine .inr ⟨?_, ?_⟩
  · rintro ⟨name, hname, hname'⟩
    have hcases : name = FileName.lock ∨ name = FileName.ofKey key := by
      simpa [filesOf] using hname
    rcases hcases with rfl | rfl
    · exact hlock' hname'
    · exact hdirectory hname'
  rw [writing, runAll_cons_of_ok hlocked]
  -- It is no failure if there was no text.
  cases htarget' : fs.nodes[dir ++ [FileName.ofKey key]]? with
  | none =>
    rw [htarget'] at hremove
    refine ⟨_, runAll_cons_of_ok hremove [], fun path => ?_⟩
    by_cases hpath : path = dir ++ [FileName.ofKey key]
    · simp [hpath, nodes_place, htarget', hne]
    · simp [hpath, nodes_place]
  | some node =>
    cases node with
    | directory => exact absurd htarget' hdirectory
    | file content =>
      rw [htarget'] at hremove
      refine ⟨_, runAll_cons_of_ok hremove [], fun path => ?_⟩
      simp only [Std.ExtTreeMap.getElem?_erase, Std.compare_eq_iff_eq, nodes_place,
        Option.map_none, Option.isSome_none, Bool.false_eq_true, and_false, if_false,
        eq_comm (b := path)]

/-- **A write fails if it needs a directory as a file.** Otherwise it leaves what it should. -/
theorem runAll_write (text : Option String) (h : ∀ name ∈ filesOf key text, fs.CanHold dir name) :
    Blocked fs dir (filesOf key text) ∧
        (FileStep.runAll (writing dir key text) fs).1 = .error .isADirectory ∨
      ¬ Blocked fs dir (filesOf key text) ∧ ∃ fs',
        FileStep.runAll (writing dir key text) fs = (.ok (), fs') ∧ Wrote fs fs' dir key text := by
  cases text with
  | none => exact runAll_writing_none h
  | some text => exact runAll_writing_some text h

end LiveFlags.FileStorage
