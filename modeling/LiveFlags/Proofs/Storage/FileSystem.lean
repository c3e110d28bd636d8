import LiveFlags.Storage.Files
import Mathlib.Data.List.Basic

/-!
# Actions on files of one directory

`CanHold dir name` says that a file of a name can stand in a directory. Then what an action on it
does depends on what stands there, and on nothing else (`openFile_eq`, `remove_eq`, `rename_eq`).
An action on a file leaves all directories where they are (`DirectoriesStay`).
-/

namespace LiveFlags

/-- The bytes that the names and a separator before each of them take. -/
def Path.bytes (path : Path) : Nat :=
  path.foldl (fun bytes name => bytes + name.utf8ByteSize + 1) 0

namespace FileSystem

variable {fs fs' : FileSystem} {dir : Path} {name other : String}

/-! ### Looking up -/

theorem find_eq (fs : FileSystem) (path : Path) : fs.find path =
    if longestPath < path.bytes then .error .nameTooLong else fs.findFrom [] .directory path :=
  rfl

theorem findFrom_append (fs : FileSystem) (above : Path) (node : Node) (names rest : Path) :
    fs.findFrom above node (names ++ rest) =
      match fs.findFrom above node names with
      | .error fault => .error fault
      | .ok next => fs.findFrom (above ++ names) next rest := by
  induction names generalizing above node with
  | nil => simp [findFrom]
  | cons name names ih =>
    simp only [List.cons_append, findFrom]
    cases node with
    | file content => rfl
    | directory =>
      simp only
      split
      · rfl
      cases fs.nodes[above ++ [name]]? with
      | none => rfl
      | some next => simpa using ih (above ++ [name]) next

theorem bytes_concat (dir : Path) (name : String) :
    Path.bytes (dir ++ [name]) = Path.bytes dir + name.utf8ByteSize + 1 := by
  simp only [Path.bytes, List.foldl_append, List.foldl_cons, List.foldl_nil]

/-- A file of this name can stand in the directory. -/
structure CanHold (fs : FileSystem) (dir : Path) (name : String) : Prop where
  directory : fs.find dir = .ok .directory
  name_le : name.utf8ByteSize ≤ longestName
  bytes_le : Path.bytes (dir ++ [name]) ≤ longestPath

/-- An entry is looked up in what is found above it. -/
theorem find_concat (hbytes : Path.bytes (dir ++ [name]) ≤ longestPath) :
    fs.find (dir ++ [name]) =
      match fs.find dir with
      | .error fault => .error fault
      | .ok node => fs.findFrom dir node [name] := by
  have habove : ¬ longestPath < Path.bytes dir := by
    rw [bytes_concat] at hbytes
    omega
  rw [find_eq, find_eq, if_neg (Nat.not_lt.2 hbytes), if_neg habove, findFrom_append,
    List.nil_append]

/-- Where something can stand, what is found is what stands there. -/
theorem CanHold.find (h : fs.CanHold dir name) : fs.find (dir ++ [name]) =
    match fs.nodes[dir ++ [name]]? with
    | some node => .ok node
    | none => .error .notFound := by
  rw [find_concat h.bytes_le, h.directory]
  simp only [findFrom, if_neg (Nat.not_lt.2 h.name_le)]
  cases fs.nodes[dir ++ [name]]? <;> rfl

/-- What is found stands there. -/
theorem canHold_of_find {node : Node} (h : fs.find (dir ++ [name]) = .ok node) :
    fs.CanHold dir name ∧ fs.nodes[dir ++ [name]]? = some node := by
  have hbytes : Path.bytes (dir ++ [name]) ≤ longestPath := by
    by_contra hlong
    rw [find_eq, if_pos (Nat.not_le.1 hlong)] at h
    cases h
  have hdir : fs.find dir = .ok .directory ∧ name.utf8ByteSize ≤ longestName := by
    rw [find_concat hbytes] at h
    match hfind : fs.find dir with
    | .ok .directory =>
      refine ⟨rfl, ?_⟩
      by_contra hlong
      rw [hfind] at h
      simp only [findFrom, if_pos (Nat.not_le.1 hlong)] at h
      cases h
    | .ok (.file content) => rw [hfind] at h; cases h
    | .error fault => rw [hfind] at h; cases h
  -- Neither the path nor the name is too long, so the entry itself was found.
  have hcan : fs.CanHold dir name := ⟨hdir.1, hdir.2, hbytes⟩
  refine ⟨hcan, ?_⟩
  rw [hcan.find] at h
  cases hnode : fs.nodes[dir ++ [name]]? with
  | none => rw [hnode] at h; cases h
  | some node' =>
    rw [hnode] at h
    exact congrArg some (Except.ok.inj h)

/-- Nothing is found below a file. -/
theorem find_below_file {content : List UInt8} (hfile : fs.find dir = .ok (.file content))
    (hbytes : Path.bytes (dir ++ [name]) ≤ longestPath) :
    fs.find (dir ++ [name]) = .error .notADirectory := by
  rw [find_concat hbytes, hfile]
  rfl

/-- Nothing is found below a place where nothing is. -/
theorem find_below_nothing (hnone : fs.find dir = .error .notFound)
    (hbytes : Path.bytes (dir ++ [name]) ≤ longestPath) :
    fs.find (dir ++ [name]) = .error .notFound := by
  rw [find_concat hbytes, hnone]

/-- A name that is too long is refused where it would stand. -/
theorem find_below_directory (hdir : fs.find dir = .ok .directory)
    (hbytes : Path.bytes (dir ++ [name]) ≤ longestPath)
    (hlong : longestName < name.utf8ByteSize) :
    fs.find (dir ++ [name]) = .error .nameTooLong := by
  rw [find_concat hbytes, hdir]
  simp only [findFrom, if_pos hlong]

/-- A place that is free can be filled. -/
theorem canHold_of_vacant (hnone : fs.find (dir ++ [name]) = .error .notFound)
    (hvacant : fs.vacant (dir ++ [name]) = .ok ()) : fs.CanHold dir name := by
  have hdir : fs.find dir = .ok .directory := by
    rw [vacant, List.dropLast_concat] at hvacant
    match hfind : fs.find dir with
    | .ok .directory => rfl
    | .ok (.file content) => rw [hfind] at hvacant; cases hvacant
    | .error fault => rw [hfind] at hvacant; cases hvacant
  have hbytes : Path.bytes (dir ++ [name]) ≤ longestPath := by
    by_contra hlong
    rw [find_eq, if_pos (Nat.not_le.1 hlong)] at hnone
    cases hnone
  refine ⟨hdir, ?_, hbytes⟩
  by_contra hlong
  rw [find_concat hbytes, hdir] at hnone
  simp only [findFrom, if_pos (Nat.not_le.1 hlong)] at hnone
  cases hnone

theorem CanHold.vacant (h : fs.CanHold dir name) : fs.vacant (dir ++ [name]) = .ok () := by
  rw [FileSystem.vacant, List.dropLast_concat, h.directory]
  rfl

theorem isDirectory_iff {path : Path} :
    fs.isDirectory path = true ↔ fs.find path = .ok .directory := by
  unfold isDirectory
  split
  · next h => simp [h]
  · next h => simpa using h

/-! ### Directories that stay -/

/-- Where a directory was, there is one. -/
def DirectoriesStay (fs fs' : FileSystem) : Prop :=
  ∀ path : Path, fs.nodes[path]? = some .directory → fs'.nodes[path]? = some .directory

/-- A way through directories stays open if these stay. -/
theorem findFrom_directory (h : fs.DirectoriesStay fs') {above : Path} {names : Path} {node : Node}
    (hfind : fs.findFrom above node names = .ok .directory) :
    node = .directory ∧ fs'.findFrom above .directory names = .ok .directory := by
  induction names generalizing above node with
  | nil => exact ⟨Except.ok.inj hfind, rfl⟩
  | cons name names ih =>
    cases node with
    | file content => cases hfind
    | directory =>
      refine ⟨rfl, ?_⟩
      simp only [findFrom] at hfind ⊢
      split at hfind
      · cases hfind
      · next hname =>
        rw [if_neg hname]
        cases hnext : fs.nodes[above ++ [name]]? with
        | none => rw [hnext] at hfind; cases hfind
        | some next =>
          rw [hnext] at hfind
          obtain ⟨rfl, hrest⟩ := ih hfind
          rw [h _ hnext]
          exact hrest

theorem DirectoriesStay.find (h : fs.DirectoriesStay fs') {path : Path}
    (hfind : fs.find path = .ok .directory) : fs'.find path = .ok .directory := by
  rw [find_eq] at hfind ⊢
  split at hfind
  · cases hfind
  · next hbytes =>
    rw [if_neg hbytes]
    exact (findFrom_directory h hfind).2

theorem DirectoriesStay.canHold (h : fs.DirectoriesStay fs') (hhold : fs.CanHold dir name) :
    fs'.CanHold dir name :=
  ⟨h.find hhold.directory, hhold.name_le, hhold.bytes_le⟩

theorem nodes_place (fs : FileSystem) (path : Path) (node : Node) (path' : Path) :
    (fs.place path node).nodes[path']? = if path' = path then some node else fs.nodes[path']? := by
  simp only [place, Std.ExtTreeMap.getElem?_insert, Std.compare_eq_iff_eq, eq_comm (a := path)]

theorem nodes_place_self (fs : FileSystem) (path : Path) (node : Node) :
    (fs.place path node).nodes[path]? = some node := by
  rw [nodes_place, if_pos rfl]

theorem concat_inj {name other : String} : dir ++ [name] = dir ++ [other] ↔ name = other := by
  simp

/-- What stands beside a node that is put in place. -/
theorem nodes_place_ne (fs : FileSystem) (hne : other ≠ name) (node : Node) :
    (fs.place (dir ++ [name]) node).nodes[dir ++ [other]]? = fs.nodes[dir ++ [other]]? := by
  rw [nodes_place, if_neg (mt concat_inj.1 hne)]

/-- The bytes of the file at a path; there are none where no file is. -/
def contentAt (fs : FileSystem) (path : Path) : List UInt8 :=
  match fs.nodes[path]? with
  | some (.file content) => content
  | _ => []

/-- Nothing has changed, but that directories came where nothing was, at most so deep. -/
def Grows (depth : Nat) (fs fs' : FileSystem) : Prop :=
  ∀ path : Path, fs'.nodes[path]? = fs.nodes[path]? ∨
    path.length ≤ depth ∧ fs.nodes[path]? = none ∧ fs'.nodes[path]? = some .directory

theorem Grows.refl (depth : Nat) (fs : FileSystem) : fs.Grows depth fs :=
  fun _ => .inl rfl

theorem Grows.mono {depth depth' : Nat} (h : Grows depth fs fs') (hle : depth ≤ depth') :
    Grows depth' fs fs' := by
  intro path
  rcases h path with hsame | ⟨hdepth, hcame⟩
  · exact .inl hsame
  · exact .inr ⟨Nat.le_trans hdepth hle, hcame⟩

theorem Grows.trans {depth : Nat} {fs'' : FileSystem} (h : Grows depth fs fs')
    (h' : Grows depth fs' fs'') : Grows depth fs fs'' := by
  intro path
  rcases h path with hsame | ⟨hdepth, hnone, hcame⟩
  · rw [← hsame]
    exact h' path
  · rcases h' path with hsame | ⟨-, hnone', -⟩
    · exact .inr ⟨hdepth, hnone, hsame.trans hcame⟩
    · rw [hcame] at hnone'
      cases hnone'

theorem Grows.directoriesStay {depth : Nat} (h : Grows depth fs fs') : fs.DirectoriesStay fs' := by
  intro path hpath
  rcases h path with hsame | ⟨-, hnone, -⟩
  · exact hsame.trans hpath
  · rw [hnone] at hpath
    cases hpath

theorem directoriesStay_place {path : Path} (h : fs.nodes[path]? ≠ some .directory) (node : Node) :
    fs.DirectoriesStay (fs.place path node) := by
  intro path' hpath'
  have hne : path' ≠ path := by
    rintro rfl
    exact h hpath'
  rw [nodes_place, if_neg hne]
  exact hpath'

end FileSystem

namespace FileAction

open FileSystem

variable {fs : FileSystem} {dir : Path} {name other : String}

/-! ### Actions where something can stand -/

/-- Opening a file leaves one behind, unless a directory is there. -/
theorem openFile_eq (h : fs.CanHold dir name) (start : List UInt8 → List UInt8) :
    openFile start (dir ++ [name]) fs =
      if fs.nodes[dir ++ [name]]? = some .directory then (.error .isADirectory, fs)
      else
        (.ok (), fs.place (dir ++ [name]) (.file (start (fs.contentAt (dir ++ [name]))))) := by
  rw [openFile, h.find, contentAt]
  match fs.nodes[dir ++ [name]]? with
  | none => simp only [h.vacant, reduceCtorEq, if_false]
  | some .directory => rfl
  | some (.file content) => rfl

/-- A file is removed, and it is no mistake if there is none. -/
theorem removeIfPresent_eq (h : fs.CanHold dir name) :
    removeIfPresent (dir ++ [name]) fs =
      match fs.nodes[dir ++ [name]]? with
      | some .directory => (.error .isADirectory, fs)
      | some (.file _) => (.ok (), ⟨fs.nodes.erase (dir ++ [name])⟩)
      | none => (.ok (), fs) := by
  rw [removeIfPresent, h.find]
  match fs.nodes[dir ++ [name]]? with
  | none => rfl
  | some .directory => rfl
  | some (.file content) => rfl

/-- A file takes the place of another one, but never that of a directory. -/
theorem rename_eq (h : fs.CanHold dir name) (hother : fs.CanHold dir other) {content : List UInt8}
    (hfile : fs.nodes[dir ++ [name]]? = some (.file content)) :
    rename (dir ++ [name]) (dir ++ [other]) fs =
      if fs.nodes[dir ++ [other]]? = some .directory then (.error .isADirectory, fs)
      else (.ok (), ⟨(fs.nodes.erase (dir ++ [name])).insert (dir ++ [other]) (.file content)⟩) := by
  rw [rename, h.find, hother.find, hfile]
  match fs.nodes[dir ++ [other]]? with
  | none => rfl
  | some .directory => rfl
  | some (.file content) => rfl

/-- A directory can be made where nothing is. -/
theorem makeDirectory_eq (h : fs.CanHold dir name) :
    makeDirectory (dir ++ [name]) fs =
      match fs.nodes[dir ++ [name]]? with
      | some _ => (.error .alreadyExists, fs)
      | none => (.ok (), fs.place (dir ++ [name]) .directory) := by
  rw [makeDirectory, h.find]
  match fs.nodes[dir ++ [name]]? with
  | none => simp only [h.vacant]
  | some _ => rfl

theorem makeDirectories_of_directory {path : Path} (h : fs.find path = .ok .directory) :
    makeDirectories path fs = (.ok (), fs) := by
  have hensure : ensureDirectory path fs = (.ok (), fs) := by
    simp only [ensureDirectory, makeDirectory, h, isDirectory_iff.2 h, if_true]
  rw [makeDirectories]
  cases hnames : path.reverse with
  | nil => rfl
  | cons name above =>
    have hpath : (name :: above).reverse = path := by rw [← hnames, List.reverse_reverse]
    simp only [makeDirectoriesUp, hpath, hensure]

/-- Below a directory, at most the last name of a path is missing. -/
theorem makeDirectories_eq (h : fs.CanHold dir name) :
    makeDirectories (dir ++ [name]) fs =
      match fs.nodes[dir ++ [name]]? with
      | some .directory => (.ok (), fs)
      | some (.file _) => (.error .alreadyExists, fs)
      | none => (.ok (), fs.place (dir ++ [name]) .directory) := by
  have hpath : (name :: dir.reverse).reverse = dir ++ [name] := by simp
  have hfind := h.find
  simp only [makeDirectories, List.reverse_concat, makeDirectoriesUp, hpath, ensureDirectory,
    makeDirectory_eq h]
  cases hnode : fs.nodes[dir ++ [name]]? with
  | none => rfl
  | some node =>
    rw [hnode] at hfind
    cases node with
    | directory => simp only [isDirectory_iff.2 hfind, if_true]
    | file content => simp [isDirectory, hfind]

variable {fs' : FileSystem} {path : Path}

theorem makeDirectory_error {fault : FileFault}
    (h : makeDirectory path fs = (.error fault, fs')) : fs' = fs := by
  unfold makeDirectory at h
  split at h
  · exact (Prod.mk.inj h).2.symm
  · split at h
    · cases h
    · exact (Prod.mk.inj h).2.symm
  · exact (Prod.mk.inj h).2.symm

/-- A directory that was made can be found, and was not there before. -/
theorem makeDirectory_ok (h : makeDirectory path fs = (.ok (), fs')) :
    fs'.find path = .ok .directory ∧ fs' = fs.place path .directory ∧
      fs.nodes[path]? = none := by
  unfold makeDirectory at h
  split at h
  · cases h
  · next hnone =>
    split at h
    · next hvacant =>
      obtain rfl := (Prod.mk.inj h).2
      rcases List.eq_nil_or_concat' path with rfl | ⟨dir, name, rfl⟩
      · rw [find_eq] at hnone
        cases hnone
      have hcan := canHold_of_vacant hnone hvacant
      have hfree : fs.nodes[dir ++ [name]]? = none := by
        cases hnode : fs.nodes[dir ++ [name]]? with
        | none => rfl
        | some node =>
          rw [hcan.find, hnode] at hnone
          cases hnone
      refine ⟨?_, rfl, hfree⟩
      rw [((directoriesStay_place (by simp [hfree]) _).canHold hcan).find, nodes_place_self]
    · cases h
  · cases h

/-- What is below the path of a directory that was made is what was there before. -/
def BelowStays (path : Path) (fs fs' : FileSystem) : Prop :=
  ∀ path' : Path, path.length < path'.length → fs'.nodes[path']? = fs.nodes[path']?

theorem ensureDirectory_ok (h : ensureDirectory path fs = (.ok (), fs')) :
    fs'.find path = .ok .directory ∧ BelowStays path fs fs' := by
  unfold ensureDirectory at h
  split at h
  · next fs₁ hmake =>
    obtain rfl := (Prod.mk.inj h).2
    obtain ⟨hfind, rfl, -⟩ := makeDirectory_ok hmake
    refine ⟨hfind, fun path' hlength => ?_⟩
    rw [nodes_place, if_neg]
    rintro rfl
    exact Nat.lt_irrefl _ hlength
  · next fault fs₁ hmake =>
    obtain ⟨hresult, rfl⟩ := Prod.mk.inj h
    split at hresult
    · next hdirectory =>
      rw [makeDirectory_error hmake] at hdirectory ⊢
      exact ⟨isDirectory_iff.1 hdirectory, fun _ _ => rfl⟩
    · cases hresult

theorem ensureDirectory_error {fault : FileFault}
    (h : ensureDirectory path fs = (.error fault, fs')) : fs' = fs := by
  unfold ensureDirectory at h
  split at h
  · cases h
  · next hmake =>
    obtain ⟨-, rfl⟩ := Prod.mk.inj h
    exact makeDirectory_error hmake

/-- Directories that were made one below the other can be found, and have nothing below them that is
new. -/
theorem makeDirectoriesUp_ok {names : List String}
    (h : makeDirectoriesUp names fs = (.ok (), fs')) :
    fs'.find names.reverse = .ok .directory ∧ BelowStays names.reverse fs fs' := by
  induction names generalizing fs fs' with
  | nil =>
    obtain ⟨-, rfl⟩ := Prod.mk.inj h
    exact ⟨by rw [List.reverse_nil, find_eq]; rfl, fun _ _ => rfl⟩
  | cons name above ih =>
    simp only [makeDirectoriesUp] at h
    split at h
    · next fs₁ hensure =>
      obtain rfl := ensureDirectory_error hensure
      unfold andThen at h
      split at h
      · next fs₂ habove =>
        obtain ⟨hfind, hbelow⟩ := ensureDirectory_ok h
        refine ⟨hfind, fun path' hlength => (hbelow path' hlength).trans ?_⟩
        refine (ih habove).2 path' ?_
        simp only [List.length_reverse, List.length_cons] at hlength ⊢
        omega
      · cases h
    · exact ensureDirectory_ok h

/-- A directory that was made is there, and nothing is below it that was not there before. -/
theorem makeDirectories_ok (h : makeDirectories path fs = (.ok (), fs')) :
    fs'.find path = .ok .directory ∧ BelowStays path fs fs' := by
  have hup := makeDirectoriesUp_ok h
  rwa [List.reverse_reverse] at hup

/-! ### What an action changes at most -/

theorem ensureDirectory_snd (path : Path) (fs : FileSystem) :
    (ensureDirectory path fs).2 = (makeDirectory path fs).2 := by
  unfold ensureDirectory
  split
  · next hmake => rw [hmake]
  · next hmake => rw [hmake]

/-- A directory is made at its path, if at all. -/
theorem grows_makeDirectory (path : Path) (fs : FileSystem) :
    fs.Grows path.length (makeDirectory path fs).2 := by
  match hmake : makeDirectory path fs with
  | (.error fault, fs') =>
    rw [makeDirectory_error hmake]
    exact Grows.refl _ fs
  | (.ok (), fs') =>
    obtain ⟨-, rfl, hnone⟩ := makeDirectory_ok hmake
    intro path'
    rw [nodes_place]
    split
    · next heq =>
      rw [heq]
      exact .inr ⟨Nat.le_refl _, hnone, rfl⟩
    · exact .inl rfl

/-- Also a failed attempt leaves nothing but directories on the way. -/
theorem grows_makeDirectoriesUp (names : List String) (fs : FileSystem) :
    fs.Grows names.length (makeDirectoriesUp names fs).2 := by
  induction names generalizing fs with
  | nil => exact Grows.refl _ fs
  | cons name above ih =>
    have hensure (fs : FileSystem) :
        fs.Grows (name :: above).length (ensureDirectory (name :: above).reverse fs).2 := by
      rw [ensureDirectory_snd]
      simpa using grows_makeDirectory (name :: above).reverse fs
    simp only [makeDirectoriesUp]
    split
    · next fs₁ hfails =>
      obtain rfl := ensureDirectory_error hfails
      have habove : fs₁.Grows (name :: above).length (makeDirectoriesUp above fs₁).2 :=
        (ih fs₁).mono (Nat.le_succ _)
      unfold andThen
      split
      · next fs₂ hmake =>
        rw [hmake] at habove
        exact habove.trans (hensure fs₂)
      · next hmake =>
        rw [hmake] at habove
        exact habove
    · exact hensure fs

/-- At most, directories come where nothing was, and none of them is deeper than the path. -/
theorem grows_makeDirectories (path : Path) (fs : FileSystem) :
    fs.Grows path.length (makeDirectories path fs).2 := by
  have hup := grows_makeDirectoriesUp path.reverse fs
  rwa [List.length_reverse] at hup

/-- A file that was opened for writing is there, and begins with what was asked for. -/
theorem openFile_ok {start : List UInt8 → List UInt8}
    (h : openFile start (dir ++ [name]) fs = (.ok (), fs')) :
    fs.nodes[dir ++ [name]]? ≠ some .directory ∧
      fs' = fs.place (dir ++ [name]) (.file (start (fs.contentAt (dir ++ [name])))) := by
  have hcan : fs.CanHold dir name := by
    unfold openFile at h
    split at h
    · next hfind => exact (canHold_of_find hfind).1
    · cases h
    · next hnone =>
      split at h
      · next hvacant => exact canHold_of_vacant hnone hvacant
      · cases h
    · cases h
  rw [openFile_eq hcan] at h
  split at h
  · cases h
  · next hfree => exact ⟨hfree, (Prod.mk.inj h).2.symm⟩

theorem openFile_error {start : List UInt8 → List UInt8} {fault : FileFault}
    (h : openFile start path fs = (.error fault, fs')) : fs' = fs := by
  unfold openFile at h
  split at h
  · cases h
  · exact (Prod.mk.inj h).2.symm
  · split at h
    · cases h
    · exact (Prod.mk.inj h).2.symm
  · exact (Prod.mk.inj h).2.symm

/-- What was renamed is at its new place, and not at the old one. -/
theorem rename_ok {source target : Path} (h : rename source target fs = (.ok (), fs')) :
    ∃ node, fs.find source = .ok node ∧
      fs' = ⟨(fs.nodes.erase source).insert target node⟩ := by
  unfold rename at h
  split at h
  · cases h
  · cases h
  · next node hsource _ => exact ⟨node, hsource, (Prod.mk.inj h).2.symm⟩

theorem rename_error {source target : Path} {fault : FileFault}
    (h : rename source target fs = (.error fault, fs')) : fs' = fs := by
  unfold rename at h
  split at h
  · exact (Prod.mk.inj h).2.symm
  · exact (Prod.mk.inj h).2.symm
  · cases h

/-- After a removal that succeeds no file is there. -/
theorem removeIfPresent_ok (h : removeIfPresent path fs = (.ok (), fs')) :
    (∃ content, fs.find path = .ok (.file content) ∧ fs' = ⟨fs.nodes.erase path⟩) ∨
      fs.find path = .error .notFound ∧ fs' = fs := by
  unfold removeIfPresent at h
  split at h
  · next content hfind => exact .inl ⟨content, hfind, (Prod.mk.inj h).2.symm⟩
  · cases h
  · next hfind => exact .inr ⟨hfind, (Prod.mk.inj h).2.symm⟩
  · cases h

theorem removeIfPresent_error {fault : FileFault}
    (h : removeIfPresent path fs = (.error fault, fs')) : fs' = fs := by
  unfold removeIfPresent at h
  split at h
  · cases h
  · exact (Prod.mk.inj h).2.symm
  · cases h
  · exact (Prod.mk.inj h).2.symm

end FileAction

end LiveFlags
