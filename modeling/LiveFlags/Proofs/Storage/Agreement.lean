import LiveFlags.Proofs.Storage.Calls
import LiveFlags.Proofs.Storage.Write
import Mathlib.Data.List.Induction

/-!
# When files answer as memory does

The directories of namespaces stand in the root, and so do the files of the empty namespace, which
has no directory of its own. The name of a namespace may be that of such a file. A call *clashes*
with earlier ones if it needs a name in the root as a file that is a directory by then, or the other
way round. As long as no call clashes, files answer as memory does; the first call that clashes
fails.

Main statement: `answers_eq_iff`.
-/

namespace LiveFlags

open FileSystem FileAction FileStorage

namespace StorageCall

/-- The files that a call needs, all of them in the directory of its namespace. -/
def files : StorageCall → List String
  | get _ key => [FileName.ofKey key]
  | set _ key text => filesOf key text

/-- Every name that a call involves is short enough for a file system, and so is every path. -/
structure Fits (root : Path) (call : StorageCall) : Prop where
  space_le : (FileName.encode call.space).utf8ByteSize ≤ longestName
  name_le : ∀ name ∈ call.files, name.utf8ByteSize ≤ longestName
  bytes_le : ∀ name ∈ call.files, Path.bytes (directory root call.space ++ [name]) ≤ longestPath

instance (root : Path) (call : StorageCall) : Decidable (call.Fits root) :=
  decidable_of_iff ((FileName.encode call.space).utf8ByteSize ≤ longestName ∧
      (∀ name ∈ call.files, name.utf8ByteSize ≤ longestName) ∧
      ∀ name ∈ call.files, Path.bytes (directory root call.space ++ [name]) ≤ longestPath)
    ⟨fun ⟨hspace, hname, hbytes⟩ => ⟨hspace, hname, hbytes⟩, fun h => ⟨h.1, h.2, h.3⟩⟩

/-- What calls leave under a name in the directory of a namespace, where the empty namespace has the
root. -/
inductive Leaves (before : List StorageCall) : String → String → Node → Prop where
  | lock {space : String} (entered : Entered before space) :
    Leaves before space FileName.lock (.file [])
  | text {space key text : String} (put : textAfter before space key = some text) :
    Leaves before space (FileName.ofKey key) (.file (Utf8.encode text.toList))
  | directory {space : String} (ne_empty : space ≠ "") (entered : Entered before space) :
    Leaves before "" (FileName.encode space) .directory

/-- The call needs a name in the root as a directory that is a file, or as a file that is a
directory. -/
def Clashes (before : List StorageCall) (call : StorageCall) : Prop :=
  (call.space ≠ "" ∧ ∃ content, Leaves before "" (FileName.encode call.space) (.file content)) ∨
    (call.space = "" ∧ ∃ name ∈ call.files, Leaves before "" name .directory)

/-- No call clashes with those before it. -/
def ClashFree (calls : List StorageCall) : Prop :=
  ∀ before call after, calls = before ++ call :: after → ¬ call.Clashes before

end StorageCall

open StorageCall

namespace FileStorage

/-! ### Places -/

theorem directory_empty (root : Path) : directory root "" = root :=
  if_pos FileName.encode_empty

theorem directory_of_ne {space : String} (h : space ≠ "") (root : Path) :
    directory root space = root ++ [FileName.encode space] :=
  if_neg (mt FileName.encode_eq_empty_iff.1 h)

theorem directory_injective (root : Path) : Function.Injective (directory root) := by
  intro space space' h
  by_cases hspace : space = "" <;> by_cases hspace' : space' = ""
  · rw [hspace, hspace']
  · rw [hspace, directory_empty, directory_of_ne hspace'] at h
    simp at h
  · rw [hspace', directory_empty, directory_of_ne hspace] at h
    simp at h
  · rw [directory_of_ne hspace, directory_of_ne hspace', concat_inj] at h
    exact FileName.encode_injective h

/-- Different places have different paths. -/
theorem slot_inj {root : Path} {space space' name name' : String} :
    directory root space ++ [name] = directory root space' ++ [name'] ↔
      space = space' ∧ name = name' := by
  constructor
  · intro h
    obtain ⟨hdir, hname⟩ := List.append_inj' h rfl
    exact ⟨directory_injective root hdir, List.head_eq_of_cons_eq hname⟩
  · rintro ⟨rfl, rfl⟩
    rfl

/-- The directory of a namespace stands in the root. -/
theorem directory_eq_slot {root : Path} {space space' name : String} (h : space ≠ "") :
    directory root space' ++ [name] = directory root space ↔
      space' = "" ∧ name = FileName.encode space := by
  have hslot : directory root space = directory root "" ++ [FileName.encode space] := by
    rw [directory_of_ne h, directory_empty]
  rw [hslot, slot_inj]

/-! ### What is kept -/

/-- The files hold what earlier calls leave. -/
structure Holds (s : FileStorage) (before : List StorageCall) : Prop where
  root : s.files.find s.root = .ok .directory
  nodes : ∀ space name node,
    s.files.nodes[directory s.root space ++ [name]]? = some node ↔ Leaves before space name node

/-- Nothing is below the root. -/
structure IsFresh (s : FileStorage) : Prop where
  root : s.files.find s.root = .ok .directory
  below : ∀ name names, s.files.nodes[s.root ++ name :: names]? = none

/-- A storage that was opened where nothing was before is fresh. -/
theorem isFresh_of_mount {root : Path} {files files' : FileSystem} {s : FileStorage}
    (h : mount root files = (.ok s, files'))
    (hempty : ∀ name names, files.nodes[root ++ name :: names]? = none) : s.IsFresh := by
  unfold mount at h
  split at h
  · next files₁ hmake =>
    obtain ⟨hs, -⟩ := Prod.mk.inj h
    obtain rfl := Except.ok.inj hs
    obtain ⟨hfind, hbelow⟩ := makeDirectories_ok hmake
    refine ⟨hfind, fun name names => ?_⟩
    exact (hbelow _ (by simp)).trans (hempty name names)
  · cases h

end FileStorage

namespace StorageCall

theorem mem_of_textAfter {before : List StorageCall} {space key text : String}
    (h : textAfter before space key = some text) : set space key (some text) ∈ before := by
  induction before using List.reverseRecOn with
  | nil => cases h
  | append_singleton before call ih =>
    refine List.mem_append.2 ?_
    cases call with
    | get space' key' => exact .inl (ih ((textAfter_concat_get ..).symm.trans h))
    | set space' key' text' =>
      rw [textAfter_concat_set] at h
      split at h
      · next hplace =>
        obtain ⟨rfl, rfl⟩ := hplace
        exact .inr (by rw [h, List.mem_singleton])
      · exact .inl (ih h)

theorem textAfter_eq_none {before : List StorageCall} {space : String} (h : ¬ Entered before space)
    (key : String) : textAfter before space key = none := by
  by_contra hne
  obtain ⟨text, htext⟩ := Option.ne_none_iff_exists'.1 hne
  exact h ⟨key, some text, mem_of_textAfter htext⟩

theorem not_leaves_nil (space name : String) (node : Node) : ¬ Leaves [] space name node := by
  rintro (⟨⟨_, _, h⟩⟩ | h | ⟨-, ⟨_, _, h⟩⟩) <;> cases h

theorem leaves_concat_get {before : List StorageCall} {space key space' name : String}
    {node : Node} : Leaves (before ++ [get space key]) space' name node ↔
      Leaves before space' name node := by
  have hentered (space' : String) :
      Entered (before ++ [get space key]) space' ↔ Entered before space' := by
    simp [entered_concat]
  constructor
  · rintro (hlock | htext | ⟨hne, hentered'⟩)
    · exact .lock ((hentered _).1 hlock)
    · exact .text ((textAfter_concat_get ..).symm.trans htext)
    · exact .directory hne ((hentered _).1 hentered')
  · rintro (hlock | htext | ⟨hne, hentered'⟩)
    · exact .lock ((hentered _).2 hlock)
    · exact .text ((textAfter_concat_get ..).trans htext)
    · exact .directory hne ((hentered _).2 hentered')

/-- A write enters its namespace, also if it takes a text away. -/
theorem entered_concat_set {before : List StorageCall} {space key space' : String}
    {text : Option String} : Entered (before ++ [set space key text]) space' ↔
      Entered before space' ∨ space' = space := by
  rw [entered_concat]
  refine or_congr_right ⟨?_, ?_⟩
  · rintro ⟨_, _, heq⟩
    injection heq with hspace
    exact hspace.symm
  · rintro rfl
    exact ⟨_, _, rfl⟩

theorem leaves_iff {before : List StorageCall} {space name : String} {node : Node} :
    Leaves before space name node ↔
      (Entered before space ∧ name = FileName.lock ∧ node = .file []) ∨
      (∃ key text, textAfter before space key = some text ∧ name = FileName.ofKey key ∧
        node = .file (Utf8.encode text.toList)) ∨
      ∃ other, other ≠ "" ∧ Entered before other ∧ space = "" ∧
        name = FileName.encode other ∧ node = .directory := by
  constructor
  · rintro (hlock | htext | ⟨hne, hentered⟩)
    · exact .inl ⟨hlock, rfl, rfl⟩
    · exact .inr (.inl ⟨_, _, htext, rfl, rfl⟩)
    · exact .inr (.inr ⟨_, hne, hentered, rfl, rfl, rfl⟩)
  · rintro (⟨hlock, rfl, rfl⟩ | ⟨key, text, htext, rfl, rfl⟩ |
      ⟨other, hne, hentered, rfl, rfl, rfl⟩)
    · exact .lock hlock
    · exact .text htext
    · exact .directory hne hentered

/-- Only the namespaces have directories, and these stand in the root. -/
theorem exists_of_leaves_directory {before : List StorageCall} {space name : String}
    (h : Leaves before space name .directory) :
    ∃ other, other ≠ "" ∧ Entered before other ∧ space = "" ∧ name = FileName.encode other := by
  rcases leaves_iff.1 h with
    ⟨-, -, ⟨⟩⟩ | ⟨_, _, -, -, ⟨⟩⟩ | ⟨other, hne, hentered, hempty, hname, -⟩
  exact ⟨other, hne, hentered, hempty, hname⟩

/-! ### What stands under a name that is no directory -/

/-- The file of a key holds its text. -/
theorem leaves_ofKey_iff {before : List StorageCall} {space key : String} {node : Node}
    (hfile : ¬ Leaves before space (FileName.ofKey key) .directory) :
    Leaves before space (FileName.ofKey key) node ↔
      ∃ text, textAfter before space key = some text ∧ node = .file (Utf8.encode text.toList) := by
  constructor
  · intro h
    rcases leaves_iff.1 h with
      ⟨-, heq, -⟩ | ⟨key', text, htext, heq, rfl⟩ | ⟨other, -, -, -, -, rfl⟩
    · exact absurd heq (FileName.ofKey_ne_lock _)
    · obtain rfl := FileName.ofKey_injective heq
      exact ⟨text, htext, rfl⟩
    · exact absurd h hfile
  · rintro ⟨text, htext, rfl⟩
    exact .text htext

/-- The lock of a namespace is there once something was put into it. -/
theorem leaves_lock_iff {before : List StorageCall} {space : String} {node : Node}
    (hfile : ¬ Leaves before space FileName.lock .directory) :
    Leaves before space FileName.lock node ↔ Entered before space ∧ node = .file [] := by
  constructor
  · intro h
    rcases leaves_iff.1 h with ⟨hentered, -, hnode⟩ | ⟨key, -, -, heq, -⟩ | ⟨other, -, -, -, -, rfl⟩
    · exact ⟨hentered, hnode⟩
    · exact absurd heq.symm (FileName.ofKey_ne_lock _)
    · exact absurd h hfile
  · rintro ⟨hentered, rfl⟩
    exact .lock hentered

/-- No call leaves a temporary file. -/
theorem not_leaves_preparedOf {before : List StorageCall} {space key : String} {node : Node}
    (hfile : ¬ Leaves before space (preparedOf key) .directory) :
    ¬ Leaves before space (preparedOf key) node := by
  intro h
  rcases leaves_iff.1 h with ⟨-, heq, -⟩ | ⟨key', -, -, heq, -⟩ | ⟨other, -, -, -, -, rfl⟩
  · exact FileName.temporary_ne_lock _ heq
  · exact FileName.ofKey_ne_temporary _ _ heq.symm
  · exact hfile h

/-! ### What a write leaves -/

/-- The names that a write needs belong to no directory if it does not clash. -/
theorem not_leaves_directory_concat_set {before : List StorageCall} {space key : String}
    {text : Option String} (hfree : ¬ Clashes before (set space key text)) {name : String}
    (hname : name ∈ filesOf key text) :
    ¬ Leaves (before ++ [set space key text]) space name .directory := by
  intro h
  obtain ⟨other, hne, hentered, hempty, heq⟩ := exists_of_leaves_directory h
  rcases entered_concat_set.1 hentered with hbefore | rfl
  · exact hfree (.inr ⟨hempty, name, hname, heq ▸ .directory hne hbefore⟩)
  · exact hne hempty

/-- A write leaves no file in another namespace. -/
theorem leaves_file_concat_set {before : List StorageCall} {space key space' : String}
    {text : Option String} (hne : space' ≠ space) {name : String} {content : List UInt8} :
    Leaves (before ++ [set space key text]) space' name (.file content) ↔
      Leaves before space' name (.file content) := by
  simp only [leaves_iff, entered_concat_set, or_iff_left hne]
  refine or_congr_right (or_congr ?_ (by simp))
  refine exists_congr fun key' => exists_congr fun t => and_congr_left fun _ => ?_
  rw [textAfter_concat_set, if_neg fun h => hne h.1]

/-- Where the write puts nothing, all stays. -/
theorem leaves_concat_set_of_ne {before : List StorageCall} {space key space' name : String}
    {text : Option String} (htarget : ¬ (space' = space ∧ name = FileName.ofKey key))
    (hlock : ¬ (space' = space ∧ name = FileName.lock))
    (hdirectory : ¬ (space ≠ "" ∧ space' = "" ∧ name = FileName.encode space)) (node : Node) :
    Leaves (before ++ [set space key text]) space' name node ↔ Leaves before space' name node := by
  rw [leaves_iff, leaves_iff]
  refine or_congr ?_ (or_congr ?_ ?_)
  · refine and_congr_left fun ⟨hname, _⟩ => ?_
    rw [entered_concat_set]
    exact or_iff_left fun hspace => hlock ⟨hspace, hname⟩
  · refine exists_congr fun key' => exists_congr fun t => and_congr_left fun ⟨hname, _⟩ => ?_
    rw [textAfter_concat_set, if_neg]
    rintro ⟨hspace, rfl⟩
    exact htarget ⟨hspace, hname⟩
  · refine exists_congr fun other => and_congr_right fun hne => and_congr_left ?_
    rintro ⟨hempty, hname, -⟩
    rw [entered_concat_set]
    refine or_iff_left ?_
    rintro rfl
    exact hdirectory ⟨hne, hempty, hname⟩

/-- What a write leaves that does not clash: the lock, the file of its key if it has a text, and the
directory of its namespace. -/
theorem leaves_concat_set {before : List StorageCall} {space key : String} {text : Option String}
    (hfree : ¬ Clashes before (set space key text)) (space' name : String) (node : Node) :
    Leaves (before ++ [set space key text]) space' name node ↔
      if space' = space ∧ name = FileName.ofKey key then
        (text.map fun t => Node.file (Utf8.encode t.toList)) = some node
      else if (space' = space ∧ name = preparedOf key) ∧ text.isSome then False
      else if space' = space ∧ name = FileName.lock then node = .file []
      else if space ≠ "" ∧ space' = "" ∧ name = FileName.encode space then node = .directory
      else Leaves before space' name node := by
  have hfile {name : String} (hname : name ∈ filesOf key text) :=
    not_leaves_directory_concat_set hfree hname
  split_ifs with htarget hprepared hlock hdirectory
  · obtain ⟨rfl, rfl⟩ := htarget
    rw [leaves_ofKey_iff (hfile (by simp [filesOf])), textAfter_concat_set, if_pos ⟨rfl, rfl⟩,
      Option.map_eq_some_iff]
    exact exists_congr fun t => and_congr_right fun _ => eq_comm
  · obtain ⟨⟨rfl, rfl⟩, hsome⟩ := hprepared
    obtain ⟨t, rfl⟩ := Option.isSome_iff_exists.1 hsome
    exact iff_of_false (not_leaves_preparedOf (hfile (by simp [filesOf]))) id
  · obtain ⟨rfl, rfl⟩ := hlock
    rw [leaves_lock_iff (hfile (by simp [filesOf]))]
    exact and_iff_right (entered_concat_set.2 (.inr rfl))
  · obtain ⟨hne, rfl, rfl⟩ := hdirectory
    cases node with
    | directory => exact iff_of_true (.directory hne (entered_concat_set.2 (.inr rfl))) rfl
    | file content =>
      rw [leaves_file_concat_set hne.symm]
      exact iff_of_false (fun h => hfree (.inl ⟨hne, content, h⟩)) (by simp)
  · exact leaves_concat_set_of_ne htarget hlock hdirectory node

end StorageCall

/-- A fresh storage holds what no call has left. -/
theorem FileStorage.IsFresh.holds {s : FileStorage} (h : s.IsFresh) : s.Holds [] := by
  refine ⟨h.root, fun space name node => ?_⟩
  have hnone : s.files.nodes[directory s.root space ++ [name]]? = none := by
    by_cases hspace : space = ""
    · rw [hspace, directory_empty]
      exact h.below name []
    · rw [directory_of_ne hspace, List.append_assoc]
      exact h.below _ [name]
  simp [hnone, not_leaves_nil]

namespace StorageCall

/-! ### Names that fit -/

/-- Where the files of a namespace fit, its directory does. -/
theorem Fits.canHold_space {call : StorageCall} {root : Path} (hfits : call.Fits root)
    {fs : FileSystem} (hroot : fs.find root = .ok .directory) (hne : call.space ≠ "") :
    fs.CanHold root (FileName.encode call.space) := by
  refine ⟨hroot, hfits.space_le, ?_⟩
  have hfile : ∃ name, name ∈ call.files := by
    cases call with
    | get space key => exact ⟨_, List.mem_singleton_self _⟩
    | set space key text => exact ⟨_, List.mem_cons_self⟩
  obtain ⟨name, hname⟩ := hfile
  have hbytes := hfits.bytes_le name hname
  rw [directory_of_ne hne, bytes_concat] at hbytes
  omega

theorem Fits.canHold {call : StorageCall} {root : Path} (hfits : call.Fits root) {fs : FileSystem}
    (hdir : fs.find (directory root call.space) = .ok .directory) {name : String}
    (hname : name ∈ call.files) : fs.CanHold (directory root call.space) name :=
  ⟨hdir, hfits.name_le name hname, hfits.bytes_le name hname⟩

end StorageCall

namespace FileStorage

variable {s : FileStorage} {before : List StorageCall}

/-! ### The directory of a namespace -/

theorem Holds.node_space (h : s.Holds before) (space : String) (node : Node) :
    s.files.nodes[s.root ++ [FileName.encode space]]? = some node ↔
      Leaves before "" (FileName.encode space) node := by
  rw [← h.nodes, directory_empty]

/-- Where no file is in its place, a namespace has a directory once something was put into it. -/
theorem leaves_space_directory {space : String} (hne : space ≠ "") :
    Leaves before "" (FileName.encode space) .directory ↔ Entered before space := by
  constructor
  · intro h
    obtain ⟨other, -, hentered, -, heq⟩ := exists_of_leaves_directory h
    exact FileName.encode_injective heq ▸ hentered
  · exact .directory hne

theorem leaves_directory_empty {space name : String} (h : Leaves before space name .directory) :
    space = "" := by
  obtain ⟨-, -, -, hempty, -⟩ := exists_of_leaves_directory h
  exact hempty

/-! ### Reading -/

theorem Holds.get_of_directory (h : s.Holds before) {space key : String}
    (hcan : s.files.CanHold (directory s.root space) (FileName.ofKey key))
    (hdirectory : Leaves before space (FileName.ofKey key) .directory) :
    s.get space key = .error FileFault.isADirectory.toStorageError := by
  rw [get, file, hcan.find, (h.nodes ..).2 hdirectory]

theorem Holds.get_of_file (h : s.Holds before) {space key : String}
    (hcan : s.files.CanHold (directory s.root space) (FileName.ofKey key))
    (hfree : ¬ Leaves before space (FileName.ofKey key) .directory) :
    s.get space key = .ok (textAfter before space key) := by
  rw [get, file, hcan.find]
  cases hnode : s.files.nodes[directory s.root space ++ [FileName.ofKey key]]? with
  | none =>
    cases htext : textAfter before space key with
    | none => rfl
    | some text =>
      have hstored := (h.nodes ..).2 (Leaves.text htext)
      rw [hnode] at hstored
      cases hstored
  | some node =>
    obtain ⟨text, htext, rfl⟩ := (leaves_ofKey_iff hfree).1 ((h.nodes ..).1 hnode)
    simp only [Utf8.decode?_encode, String.ofList_toList, htext]

/-- **A read that clashes fails, any other answers as it should.** -/
theorem Holds.get_spec (h : s.Holds before) {space key : String}
    (hfits : (StorageCall.get space key).Fits s.root) :
    Clashes before (.get space key) ∧ (∃ fault, s.get space key = .error fault) ∨
      ¬ Clashes before (.get space key) ∧
        s.get space key = .ok (textAfter before space key) := by
  have hcan (hdir : s.files.find (directory s.root space) = .ok .directory) :=
    hfits.canHold hdir (List.mem_singleton_self (FileName.ofKey key))
  by_cases hne : space = ""
  · subst hne
    have hdir : s.files.find (directory s.root "") = .ok .directory := by
      rw [directory_empty]
      exact h.root
    by_cases hdirectory : Leaves before "" (FileName.ofKey key) .directory
    · exact .inl ⟨.inr ⟨rfl, _, List.mem_singleton_self _, hdirectory⟩, _,
        h.get_of_directory (hcan hdir) hdirectory⟩
    · refine .inr ⟨?_, h.get_of_file (hcan hdir) hdirectory⟩
      rintro (⟨hne, -⟩ | ⟨-, name, hname, hname'⟩)
      · exact hne rfl
      · exact hdirectory (List.mem_singleton.1 hname ▸ hname')
  -- Another namespace has its directory in the root, if there is anything at all.
  have hfree (hfile : ∀ content, ¬ Leaves before "" (FileName.encode space) (.file content)) :
      ¬ Clashes before (.get space key) := by
    rintro (⟨-, content, hcontent⟩ | ⟨hempty, -⟩)
    · exact hfile content hcontent
    · exact hne hempty
  have hfind := (hfits.canHold_space h.root hne).find
  rw [StorageCall.space, ← directory_of_ne hne] at hfind
  have hbytes := hfits.bytes_le _ (List.mem_singleton_self (FileName.ofKey key))
  have hnode := h.node_space space
  rw [← directory_of_ne hne] at hnode
  match hspace : s.files.nodes[directory s.root space]? with
  | none =>
    rw [hspace] at hfind hnode
    have hnothing (node : Node) : ¬ Leaves before "" (FileName.encode space) node := fun hleaves =>
      nomatch (hnode node).2 hleaves
    have hentered : ¬ Entered before space := mt (leaves_space_directory hne).2 (hnothing _)
    refine .inr ⟨hfree fun content => hnothing _, ?_⟩
    rw [FileStorage.get, file, find_below_nothing hfind hbytes, textAfter_eq_none hentered]
  | some (.file content) =>
    rw [hspace] at hfind hnode
    refine .inl ⟨.inl ⟨hne, content, (hnode _).1 rfl⟩, FileFault.notADirectory.toStorageError, ?_⟩
    rw [FileStorage.get, file, find_below_file hfind hbytes]
  | some .directory =>
    rw [hspace] at hfind hnode
    refine .inr ⟨hfree fun content hcontent => ?_, h.get_of_file (hcan hfind) fun hdirectory => ?_⟩
    · cases (hnode _).2 hcontent
    · exact hne (leaves_directory_empty hdirectory)

/-! ### Writing -/

/-- The directory of a namespace is there after it was made, if no file is in its place. -/
theorem Holds.makeDirectories_spec (h : s.Holds before) {space : String}
    (hcan : space ≠ "" → s.files.CanHold s.root (FileName.encode space)) :
    (space ≠ "" ∧ (∃ content, Leaves before "" (FileName.encode space) (.file content)) ∧
        makeDirectories (directory s.root space) s.files = (.error .alreadyExists, s.files)) ∨
      ((∀ content, space ≠ "" → ¬ Leaves before "" (FileName.encode space) (.file content)) ∧
        ∃ fs, makeDirectories (directory s.root space) s.files = (.ok (), fs) ∧
          fs.find (directory s.root space) = .ok .directory ∧
          ∀ path : Path, fs.nodes[path]? =
            if space ≠ "" ∧ path = directory s.root space then some .directory
            else s.files.nodes[path]?) := by
  by_cases hne : space = ""
  · subst hne
    rw [directory_empty]
    exact .inr ⟨fun _ h => absurd rfl h, s.files, makeDirectories_of_directory h.root, h.root,
      by simp⟩
  -- Any other namespace has its directory in the root.
  have hnode := h.node_space space
  have hmake := makeDirectories_eq (hcan hne)
  have hfind := (hcan hne).find
  rw [directory_of_ne hne]
  match hspace : s.files.nodes[s.root ++ [FileName.encode space]]? with
  | none =>
    rw [hspace] at hmake hnode
    refine .inr ⟨fun content _ hcontent => (nomatch (hnode _).2 hcontent), _, hmake, ?_,
      fun path => ?_⟩
    · have hstay : s.files.DirectoriesStay
          (s.files.place (s.root ++ [FileName.encode space]) .directory) :=
        directoriesStay_place (by simp [hspace]) .directory
      rw [(hstay.canHold (hcan hne)).find, nodes_place_self]
    · rw [nodes_place]
      simp [hne]
  | some (.file content) =>
    rw [hspace] at hmake hnode
    exact .inl ⟨hne, ⟨content, (hnode _).1 rfl⟩, hmake⟩
  | some .directory =>
    rw [hspace] at hmake hnode hfind
    refine .inr ⟨fun content _ hcontent => ?_, _, hmake, hfind, fun path => ?_⟩
    · cases (hnode _).2 hcontent
    · split
      · next hpath => rw [hpath.2, hspace]
      · rfl

/-- A lock has no content. -/
theorem Holds.contentAt_lock (h : s.Holds before) (space : String) :
    s.files.contentAt (directory s.root space ++ [FileName.lock]) = [] := by
  rw [contentAt]
  cases hnode : s.files.nodes[directory s.root space ++ [FileName.lock]]? with
  | none => rfl
  | some node =>
    cases node with
    | directory => rfl
    | file content =>
      rcases leaves_iff.1 ((h.nodes ..).1 hnode) with
        ⟨-, -, ⟨⟩⟩ | ⟨key, -, -, heq, -⟩ | ⟨-, -, -, -, -, ⟨⟩⟩
      · rfl
      · exact absurd heq.symm (FileName.ofKey_ne_lock _)

/-- **A write that clashes fails, any other succeeds** and leaves what it should. -/
theorem Holds.set_spec (h : s.Holds before) {space key : String} {text : Option String}
    (hfits : (StorageCall.set space key text).Fits s.root) :
    Clashes before (.set space key text) ∧ (∃ fault, (s.set space key text).1 = .error fault) ∨
      ¬ Clashes before (.set space key text) ∧ (s.set space key text).1 = .ok () ∧
        (s.set space key text).2.Holds (before ++ [.set space key text]) := by
  have hspace_fits : space ≠ "" → s.files.CanHold s.root (FileName.encode space) :=
    hfits.canHold_space h.root
  have hfiles_fit {fs : FileSystem} (hdir : fs.find (directory s.root space) = .ok .directory) :
      ∀ name ∈ filesOf key text, fs.CanHold (directory s.root space) name :=
    fun name hname => hfits.canHold hdir hname
  rw [set_eq, steps_eq]
  -- A file stands in the place of the directory, or a directory in that of a file, or nothing is in
  -- the way.
  rcases h.makeDirectories_spec hspace_fits with
    ⟨hne, hfile, hfails⟩ | ⟨hspace, fs, hmake, hdir, hnodes⟩
  · refine .inl ⟨.inl ⟨hne, hfile⟩, FileFault.alreadyExists.toStorageError, ?_⟩
    have hmakes : (FileStep.makeDirectories (directory s.root space)).run s.files = _ := hfails
    rw [runAll_cons_of_error hmakes]
    rfl
  have hbelow (name : String) : fs.nodes[directory s.root space ++ [name]]? =
      s.files.nodes[directory s.root space ++ [name]]? := by
    rw [hnodes, if_neg]
    rintro ⟨-, heq⟩
    simp at heq
  have hstay : s.files.DirectoriesStay fs := fun path hpath => by
    rw [hnodes]
    split
    · rfl
    · exact hpath
  have hmakes : (FileStep.makeDirectories (directory s.root space)).run s.files = _ := hmake
  rw [runAll_cons_of_ok hmakes]
  rcases runAll_write text (hfiles_fit hdir) with
    ⟨⟨name, hname, hdirectory⟩, hfails⟩ | ⟨hfree, fs', hruns, hwrote⟩
  · have hleaves := (h.nodes ..).1 ((hbelow name).symm.trans hdirectory)
    obtain rfl := leaves_directory_empty hleaves
    refine .inl ⟨.inr ⟨rfl, name, hname, hleaves⟩, FileFault.isADirectory.toStorageError, ?_⟩
    rw [hfails]
    rfl
  have hclash : ¬ Clashes before (.set space key text) := by
    rintro (⟨hne, content, hcontent⟩ | ⟨hempty, name, hname, hleaves⟩)
    · exact hspace content hne hcontent
    · obtain rfl : space = "" := hempty
      exact hfree ⟨name, hname, (hbelow name).trans ((h.nodes ..).2 hleaves)⟩
  have hlock : fs.contentAt (directory s.root space ++ [FileName.lock]) = [] := by
    rw [contentAt, hbelow]
    exact h.contentAt_lock space
  rw [hruns]
  refine .inr ⟨hclash, rfl, (hwrote.directoriesStay hfree).find (hstay.find h.root), ?_⟩
  intro space' name node
  rw [leaves_concat_set hclash, ← h.nodes]
  have hslot : (space ≠ "" ∧ directory s.root space' ++ [name] = directory s.root space) ↔
      (space ≠ "" ∧ space' = "" ∧ name = FileName.encode space) :=
    and_congr_right directory_eq_slot
  simp only [hwrote _, slot_inj, hlock, hnodes, hslot]
  split_ifs <;> simp [eq_comm]

/-! ### Calls one after another -/

theorem Holds.concat_get (h : s.Holds before) (space key : String) :
    s.Holds (before ++ [.get space key]) :=
  ⟨h.root, fun _ _ _ => (h.nodes ..).trans leaves_concat_get.symm⟩

theorem run_get (s : FileStorage) (space key : String) :
    (StorageCall.get space key).run s = (.text (s.get space key), s) := by
  have hget : Storage.get s space key = (s.get space key, s) := rfl
  rw [run, hget]

theorem run_set (s : FileStorage) (space key : String) (text : Option String) :
    (StorageCall.set space key text).run s =
      (.done (s.set space key text).1, (s.set space key text).2) := by
  have hset : Storage.set s space key text = s.set space key text := rfl
  rw [run, hset]

theorem Holds.run_spec (h : s.Holds before) {call : StorageCall} (hfits : call.Fits s.root) :
    Clashes before call ∧ (call.run s).1 ≠ call.expected before ∨
      ¬ Clashes before call ∧ (call.run s).1 = call.expected before ∧
        (call.run s).2.Holds (before ++ [call]) := by
  cases call with
  | get space key =>
    simp only [run_get, expected]
    rcases h.get_spec hfits with ⟨hclash, fault, hfails⟩ | ⟨hclash, hanswer⟩
    · exact .inl ⟨hclash, by simp [hfails]⟩
    · exact .inr ⟨hclash, by rw [hanswer], h.concat_get space key⟩
  | set space key text =>
    simp only [run_set, expected]
    rcases h.set_spec hfits with ⟨hclash, fault, hfails⟩ | ⟨hclash, hanswer, hholds⟩
    · exact .inl ⟨hclash, by simp [hfails]⟩
    · exact .inr ⟨hclash, by rw [hanswer], hholds⟩

theorem root_run (s : FileStorage) (call : StorageCall) : (call.run s).2.root = s.root := by
  cases call with
  | get space key => rw [run_get]
  | set space key text => rw [run_set, set_eq]

end FileStorage

namespace StorageCall

/-- Nothing clashes if no namespace has the name of a file of the empty namespace. -/
theorem clashFree_of_disjoint {calls : List StorageCall}
    (h : ∀ call ∈ calls, call.space ≠ "" → ∀ other ∈ calls, other.space = "" →
      FileName.encode call.space ∉ other.files) : ClashFree calls := by
  rintro before call after rfl
  have hbefore {other : StorageCall} (hother : other ∈ before) :
      other ∈ before ++ call :: after := List.mem_append_left _ hother
  have hcall : call ∈ before ++ call :: after := by simp
  rintro (⟨hne, content, hcontent⟩ | ⟨hempty, name, hname, hdirectory⟩)
  · rcases leaves_iff.1 hcontent with
      ⟨⟨key, text, hset⟩, heq, -⟩ | ⟨key, text, htext, heq, -⟩ | ⟨-, -, -, -, -, ⟨⟩⟩
    · refine h call hcall hne _ (hbefore hset) rfl ?_
      exact heq ▸ List.mem_cons_self
    · refine h call hcall hne _ (hbefore (mem_of_textAfter htext)) rfl ?_
      simp [heq, files, filesOf]
  · obtain ⟨other, hne, ⟨key, text, hset⟩, -, rfl⟩ := exists_of_leaves_directory hdirectory
    exact h _ (hbefore hset) hne call hcall hempty hname

theorem clashFree_cons {before : List StorageCall} {call : StorageCall} {calls : List StorageCall} :
    (∀ earlier next later, call :: calls = earlier ++ next :: later →
        ¬ next.Clashes (before ++ earlier)) ↔
      ¬ call.Clashes before ∧ ∀ earlier next later, calls = earlier ++ next :: later →
        ¬ next.Clashes (before ++ [call] ++ earlier) := by
  constructor
  · intro h
    refine ⟨by simpa using h [] call calls rfl, fun earlier next later heq => ?_⟩
    have hnext := h (call :: earlier) next later (by rw [heq, List.cons_append])
    rwa [List.append_assoc]
  · rintro ⟨hfirst, hrest⟩ earlier next later heq
    rcases List.cons_eq_append_iff.1 heq with ⟨rfl, hnext⟩ | ⟨earlier, rfl, hcalls⟩
    · obtain ⟨rfl, -⟩ := List.cons.inj hnext
      simpa using hfirst
    · have hnext := hrest earlier next later hcalls
      rwa [List.append_assoc] at hnext

end StorageCall

namespace FileStorage

/-- As long as nothing clashes, files answer as they should. -/
theorem Holds.answers_iff {s : FileStorage} {before calls : List StorageCall} (h : s.Holds before)
    (hfits : ∀ call ∈ calls, call.Fits s.root) :
    answers s calls = expectedAfter before calls ↔
      ∀ earlier next later, calls = earlier ++ next :: later →
        ¬ next.Clashes (before ++ earlier) := by
  induction calls generalizing s before with
  | nil => simp [answers, expectedAfter]
  | cons call calls ih =>
    rw [clashFree_cons, answers, expectedAfter, List.cons.injEq]
    rcases h.run_spec (hfits call List.mem_cons_self) with
      ⟨hclash, hanswer⟩ | ⟨hclash, hanswer, hholds⟩
    · simp only [hanswer, hclash, not_true_eq_false, false_and]
    · simp only [hanswer, hclash, not_false_eq_true, true_and]
      refine ih hholds fun call' hcall' => ?_
      rw [root_run]
      exact hfits call' (List.mem_cons_of_mem _ hcall')

/-- **Files answer as memory does, except where names clash.** Memory answers every read with the
text that was put last under exactly this namespace and key, and every write succeeds. Files below a
fresh root give all the same answers just if no call clashes with those before it. -/
theorem answers_eq_iff {s : FileStorage} (hs : s.IsFresh) (calls : List StorageCall)
    (hfits : ∀ call ∈ calls, call.Fits s.root) :
    answers (∅ : MemoryStorage) calls = expectedAfter [] calls ∧
      (answers s calls = answers (∅ : MemoryStorage) calls ↔ ClashFree calls) := by
  rw [memory_answers]
  exact ⟨rfl, hs.holds.answers_iff hfits⟩

/-- Two namespaces, of which one has the empty name, and a key with the name of the lock. -/
theorem answers_eq_of_mount : ∃ s, (∃ files, mount ["data"] {} = (.ok s, files)) ∧
    answers s [.set "flags" "user/1" (some "on"), .set "" ".lock" (some "off"),
        .set "flags" "user/1" none, .get "flags" "user/1", .get "" ".lock"] =
      [.done (.ok ()), .done (.ok ()), .done (.ok ()), .text (.ok none),
        .text (.ok (some "off"))] := by
  have hmount : mount ["data"] {} = (.ok ⟨FileSystem.place {} ["data"] .directory, ["data"]⟩,
      FileSystem.place {} ["data"] .directory) := rfl
  have hfresh := isFresh_of_mount hmount fun _ _ => Std.ExtTreeMap.getElem?_empty
  obtain ⟨hmemory, hfiles⟩ := answers_eq_iff hfresh
    [.set "flags" "user/1" (some "on"), .set "" ".lock" (some "off"),
      .set "flags" "user/1" none, .get "flags" "user/1", .get "" ".lock"] (by decide)
  refine ⟨_, ⟨_, hmount⟩, ?_⟩
  rw [hfiles.2 (clashFree_of_disjoint (by decide)), hmemory]
  rfl

/-- A namespace with the name that a file of the empty namespace has: memory takes both texts, and
files refuse the second one, however short the names are. -/
theorem exists_answers_ne : ∃ s, (∃ files, mount ["data"] {} = (.ok s, files)) ∧
    (∀ call ∈ [StorageCall.set "" "x" (some "v"), .set "x.data" "k" (some "w")],
      call.Fits s.root) ∧
    answers s [.set "" "x" (some "v"), .set "x.data" "k" (some "w")] ≠
      answers (∅ : MemoryStorage) [.set "" "x" (some "v"), .set "x.data" "k" (some "w")] := by
  have hmount : mount ["data"] {} = (.ok ⟨FileSystem.place {} ["data"] .directory, ["data"]⟩,
      FileSystem.place {} ["data"] .directory) := rfl
  have hfresh := isFresh_of_mount hmount fun _ _ => Std.ExtTreeMap.getElem?_empty
  have hfits : ∀ call ∈ [StorageCall.set "" "x" (some "v"), .set "x.data" "k" (some "w")],
      call.Fits ["data"] := by decide
  refine ⟨_, ⟨_, hmount⟩, hfits, fun heq => ?_⟩
  have hclash := (hfresh.holds.answers_iff hfits).1 (heq.trans (memory_answers _))
    [.set "" "x" (some "v")] (.set "x.data" "k" (some "w")) [] rfl
  refine hclash (.inl ⟨by decide, Utf8.encode "v".toList, ?_⟩)
  have hname : FileName.encode "x.data" = FileName.ofKey "x" := by decide
  exact hname ▸ Leaves.text rfl

end FileStorage

end LiveFlags
