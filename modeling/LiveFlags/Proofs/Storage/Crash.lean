import LiveFlags.Proofs.Storage.Agreement
import Mathlib.Data.String.Basic

/-!
# Writes that are cut short

A write is a list of operations on files. Only the last one, the rename or the removal, touches the
file of the key; whatever the others leave behind, in whole or in part, no reader looks at it. So a
write that is cut short has either done nothing that can be read, or all of it, and a temporary file
that an earlier write has left is emptied before it is used again.

`attempt` runs the operations of a write up to a `Cut`, by a crash or by an error. `StorageEvent`
are calls that may be cut short, and `committed` lists the writes among them whose rename or removal
was carried out. `Keeps` is what the files have to do with these, and no operation but the last
disturbs it (`Keeps.of_quiet`).

Main statement: `intact_of_events`.
-/

namespace LiveFlags

open FileSystem FileAction

/-! ### Operations up to a cut -/

namespace FileStep

/-- The operation puts a new content in place, or takes the old one away. -/
def commits : FileStep → Bool
  | .rename _ _ | .remove _ => true
  | .makeDirectories _ | .lock _ | .create _ | .append _ _ | .sync _ => false

/-- What an operation has done when it is cut short: it has made some of the directories, or written
some of the bytes. The others happen as a whole or not at all. -/
def runPart (share : Nat) : FileStep → FileAction Unit
  | .makeDirectories path => FileAction.makeDirectories (path.take share)
  | .append path bytes => FileAction.append path (bytes.take share)
  | .lock _ | .create _ | .sync _ | .rename _ _ | .remove _ => fun fs => (.ok (), fs)

end FileStep

/-- Where a write is cut short. -/
structure Cut where
  /-- The operations that are carried out. -/
  after : Nat
  /-- How far it gets with the next one. -/
  share : Nat := 0
  /-- Whether the program comes to an end, or goes on with an error. -/
  crashes : Bool

/-- The cut as seen from the next operation. -/
def Cut.next (cut : Cut) : Cut :=
  { cut with after := cut.after - 1 }

/-- How a write ends. -/
inductive Ending where
  | done
  | failed
  | crashed
deriving DecidableEq

/-- What has become of a write. -/
structure Attempt where
  /-- The operations that were carried out. -/
  executed : List FileStep := []
  ending : Ending
  files : FileSystem

namespace Attempt

/-- The new content was put in place, or the old one taken away. -/
def commits (a : Attempt) : Bool :=
  a.executed.any FileStep.commits

/-- The attempt with an operation that was carried out before. -/
def after (step : FileStep) (a : Attempt) : Attempt :=
  { a with executed := step :: a.executed }

end Attempt

/-- Runs operations until one fails or the cut is reached. An error after the last operation is one
no more, but a crash still is. -/
def attempt (cut : Option Cut) : List FileStep → FileSystem → Attempt
  | [], fs => { ending := if cut.any (·.crashes) then .crashed else .done, files := fs }
  | step :: steps, fs =>
    match cut.filter (·.after = 0) with
    | some cut =>
      { ending := if cut.crashes then .crashed else .failed,
        files := (step.runPart cut.share fs).2 }
    | none =>
      match step.run fs with
      | (.ok _, fs) => (attempt (cut.map Cut.next) steps fs).after step
      | (.error _, fs) => { ending := .failed, files := fs }

/-- An operation is cut short, or fails, or is carried out. -/
theorem attempt_cases (cut : Option Cut) (step : FileStep) (steps : List FileStep)
    (fs : FileSystem) :
    (∃ share ending, attempt cut (step :: steps) fs =
        { ending, files := (step.runPart share fs).2 }) ∨
      (∃ fault fs', step.run fs = (.error fault, fs') ∧
        attempt cut (step :: steps) fs = { ending := .failed, files := fs' }) ∨
      ∃ cut' fs', step.run fs = (.ok (), fs') ∧
        attempt cut (step :: steps) fs = (attempt cut' steps fs').after step := by
  rw [attempt]
  split
  · exact .inl ⟨_, _, rfl⟩
  · split
    · next hrun => exact .inr (.inr ⟨_, _, hrun, rfl⟩)
    · next hrun => exact .inr (.inl ⟨_, _, hrun, rfl⟩)

/-- Without a cut, the operations run as they always do. -/
theorem attempt_none (steps : List FileStep) (fs : FileSystem) :
    (attempt none steps fs).files = (FileStep.runAll steps fs).2 ∧
      ((attempt none steps fs).ending = .done ↔ (FileStep.runAll steps fs).1 = .ok ()) := by
  induction steps generalizing fs with
  | nil => exact ⟨rfl, fun _ => rfl, fun _ => rfl⟩
  | cons step steps ih =>
    match hrun : step.run fs with
    | (.ok (), fs') =>
      rw [FileStorage.runAll_cons_of_ok hrun]
      simp only [attempt, hrun]
      exact ih fs'
    | (.error fault, fs') =>
      rw [FileStorage.runAll_cons_of_error hrun]
      simp [attempt, hrun]

/-- What an attempt leaves: if it commits, what is meant to be there, else what was there before. An
attempt that fails does not commit. -/
structure Lands (kept meant : FileSystem → Prop) (a : Attempt) : Prop where
  kept_of_not_commits : a.commits = false → kept a.files
  meant_of_commits : a.commits = true → meant a.files
  not_commits_of_failed : a.ending = .failed → a.commits = false

section Lands

variable {kept meant : FileSystem → Prop} {step : FileStep} {steps : List FileStep}
  {fs : FileSystem}

/-- What has not committed may end in any way, if all that was there is kept. -/
theorem lands_of_kept {ending : Ending} (h : kept fs) : Lands kept meant { ending, files := fs } :=
  ⟨fun _ => h, nofun, fun _ => rfl⟩

/-- An operation that does not commit leaves it to the next ones. -/
theorem lands_of_quiet (hquiet : step.commits = false) (hrun : kept (step.run fs).2)
    (hpart : ∀ share, kept (step.runPart share fs).2)
    (hrest : ∀ cut fs', step.run fs = (.ok (), fs') → Lands kept meant (attempt cut steps fs'))
    (cut : Option Cut) : Lands kept meant (attempt cut (step :: steps) fs) := by
  rcases attempt_cases cut step steps fs with ⟨share, ending, heq⟩ | ⟨fault, fs', hfails, heq⟩ |
    ⟨cut', fs', hok, heq⟩
  · rw [heq]
    exact lands_of_kept (hpart share)
  · rw [heq]
    rw [hfails] at hrun
    exact lands_of_kept hrun
  · have hcommits : ((attempt cut' steps fs').after step).commits =
        (attempt cut' steps fs').commits := by
      simp [Attempt.commits, Attempt.after, hquiet]
    obtain ⟨hkept, hmeant, hfailed⟩ := hrest cut' fs' hok
    rw [heq]
    exact ⟨fun h => hkept (hcommits.symm.trans h), fun h => hmeant (hcommits.symm.trans h),
      fun h => hcommits.trans (hfailed h)⟩

/-- The operation that commits is the last one, and does nothing unless it succeeds. -/
theorem lands_of_commits (hcommits : step.commits = true) (hkept : kept fs)
    (hpart : ∀ share, (step.runPart share fs).2 = fs)
    (hfails : ∀ fault fs', step.run fs = (.error fault, fs') → fs' = fs)
    (hruns : ∀ fs', step.run fs = (.ok (), fs') → meant fs') (cut : Option Cut) :
    Lands kept meant (attempt cut [step] fs) := by
  rcases attempt_cases cut step [] fs with ⟨share, ending, heq⟩ | ⟨fault, fs', hfail, heq⟩ |
    ⟨cut', fs', hok, heq⟩
  · rw [heq, hpart]
    exact lands_of_kept hkept
  · rw [heq, hfails fault fs' hfail]
    exact lands_of_kept hkept
  · rw [heq]
    have hdone : ((attempt cut' [] fs').after step).commits = true := by
      simp [Attempt.commits, Attempt.after, hcommits]
    refine ⟨fun h => ?_, fun _ => hruns fs' hok, fun h => ?_⟩
    · rw [hdone] at h
      cases h
    · simp only [attempt, Attempt.after] at h
      split at h <;> cases h

end Lands

/-! ### What the files keep -/

open StorageCall FileStorage

/-- Every key of a named namespace has its file just if it has a text, the file holds that text and
can be found, and no file stands in the way of a namespace. -/
structure Keeps (root : Path) (calls : List StorageCall) (fs : FileSystem) : Prop where
  directory : fs.find root = .ok .directory
  space : ∀ {space : String}, space ≠ "" → ∀ content,
    fs.nodes[FileStorage.directory root space]? ≠ some (.file content)
  file : ∀ {space : String}, space ≠ "" → ∀ key,
    fs.nodes[FileStorage.file root space key]? =
      (textAfter calls space key).map fun text => .file (Utf8.encode text.toList)
  found : ∀ {space : String}, space ≠ "" → ∀ key, textAfter calls space key ≠ none →
    fs.CanHold (FileStorage.directory root space) (FileName.ofKey key)

/-- A fresh storage has no text and nothing in the way of a namespace. -/
theorem FileStorage.IsFresh.keeps {s : FileStorage} (h : s.IsFresh) : Keeps s.root [] s.files where
  directory := h.root
  space {space} hne content := by
    rw [directory_of_ne hne, h.below _ []]
    nofun
  file {space} hne key := by
    rw [FileStorage.file, directory_of_ne hne, List.append_assoc]
    exact h.below _ [FileName.ofKey key]
  found _ _ h := absurd rfl h

/-- The operations of a write before the one that commits. -/
theorem cases_of_quiet {root : Path} {space key : String} {text : Option String} {step : FileStep}
    (hstep : step ∈ steps root space key text) (hquiet : step.commits = false) :
    step = .makeDirectories (directory root space) ∨
      step = .lock (directory root space ++ [FileName.lock]) ∨
      step = .create (directory root space ++ [preparedOf key]) ∨
      (∃ bytes, step = .append (directory root space ++ [preparedOf key]) bytes) ∨
      step = .sync (directory root space ++ [preparedOf key]) := by
  cases text with
  | none =>
    simp only [steps, List.mem_append, List.mem_cons, List.not_mem_nil, or_false] at hstep
    rcases hstep with (rfl | rfl) | rfl
    · exact .inl rfl
    · exact .inr (.inl rfl)
    · cases hquiet
  | some text =>
    simp only [steps, List.mem_append, List.mem_cons, List.not_mem_nil, or_false] at hstep
    rcases hstep with (rfl | rfl) | rfl | rfl | rfl | rfl
    · exact .inl rfl
    · exact .inr (.inl rfl)
    · exact .inr (.inr (.inl rfl))
    · exact .inr (.inr (.inr (.inl ⟨_, rfl⟩)))
    · exact .inr (.inr (.inr (.inr rfl)))
    · cases hquiet

namespace Keeps

variable {root : Path} {calls : List StorageCall} {fs fs' : FileSystem} {space key name : String}

/-! #### Operations that do not commit -/

/-- New directories are in nobody's way. -/
theorem grows (h : Keeps root calls fs) (hgrows : fs.Grows (root.length + 1) fs') :
    Keeps root calls fs' where
  directory := hgrows.directoriesStay.find h.directory
  space {space} hne content := by
    rcases hgrows (FileStorage.directory root space) with hsame | ⟨-, -, hcame⟩
    · rw [hsame]
      exact h.space hne content
    · rw [hcame]
      nofun
  file {space} hne key := by
    rcases hgrows (FileStorage.file root space key) with hsame | ⟨hdepth, -⟩
    · rw [hsame]
      exact h.file hne key
    · -- The file of a key is deeper than that.
      rw [FileStorage.file, directory_of_ne hne] at hdepth
      simp at hdepth
  found {space} hne key hsome := hgrows.directoriesStay.canHold (h.found hne key hsome)

/-- Files beside those of keys do not matter. -/
theorem place (h : Keeps root calls fs) (hne : space ≠ "") (hname : ∀ key, name ≠ FileName.ofKey key)
    (hfree : fs.nodes[FileStorage.directory root space ++ [name]]? ≠ some .directory)
    (content : List UInt8) :
    Keeps root calls (fs.place (FileStorage.directory root space ++ [name]) (.file content)) := by
  have hstay := directoriesStay_place hfree (.file content)
  refine ⟨hstay.find h.directory, fun {space'} hne' content' => ?_, fun {space'} hne' key => ?_,
    fun {space'} hne' key hsome => hstay.canHold (h.found hne' key hsome)⟩
  · rw [nodes_place, if_neg fun heq => hne ((directory_eq_slot hne').1 heq.symm).1]
    exact h.space hne' content'
  · rw [nodes_place, if_neg fun heq => hname key (slot_inj.1 heq.symm).2]
    exact h.file hne' key

/-- The lock and the temporary file may be written at any time. -/
theorem openFile (h : Keeps root calls fs) (hne : space ≠ "")
    (hname : ∀ key, name ≠ FileName.ofKey key) (start : List UInt8 → List UInt8) :
    Keeps root calls
      (FileAction.openFile start (FileStorage.directory root space ++ [name]) fs).2 := by
  match hopen : FileAction.openFile start (FileStorage.directory root space ++ [name]) fs with
  | (.ok (), fs') =>
    obtain ⟨hfree, rfl⟩ := openFile_ok hopen
    exact h.place hne hname hfree _
  | (.error fault, fs') =>
    rw [openFile_error hopen]
    exact h

/-- **No operation of a write disturbs a text unless it commits**, in whole or in part. -/
theorem of_quiet (h : Keeps root calls fs) (hne : space ≠ "") {text : Option String}
    {step : FileStep} (hstep : step ∈ steps root space key text) (hquiet : step.commits = false) :
    Keeps root calls (step.run fs).2 ∧ ∀ share, Keeps root calls (step.runPart share fs).2 := by
  have hlock (key : String) : FileName.lock ≠ FileName.ofKey key :=
    (FileName.ofKey_ne_lock key).symm
  have hprepared (key' : String) : preparedOf key ≠ FileName.ofKey key' :=
    (FileName.ofKey_ne_temporary key' _).symm
  rcases cases_of_quiet hstep hquiet with rfl | rfl | rfl | ⟨bytes, rfl⟩ | rfl
  · have hdepth : (FileStorage.directory root space).length = root.length + 1 := by
      simp [directory_of_ne hne]
    have hmake (path : Path) (hle : path.length ≤ root.length + 1) :
        Keeps root calls (FileAction.makeDirectories path fs).2 :=
      h.grows ((grows_makeDirectories path fs).mono hle)
    refine ⟨hmake _ (Nat.le_of_eq hdepth), fun share => hmake (List.take share _) ?_⟩
    rw [List.length_take, hdepth]
    exact Nat.min_le_right _ _
  · exact ⟨h.openFile hne hlock id, fun _ => h⟩
  · exact ⟨h.openFile hne hprepared fun _ => [], fun _ => h⟩
  · exact ⟨h.openFile hne hprepared (· ++ bytes),
      fun share => h.openFile hne hprepared (· ++ bytes.take share)⟩
  · exact ⟨h, fun _ => h⟩

/-! #### The operation that commits -/

/-- A new text stands in the file of a key, or the file is gone. -/
theorem put (h : Keeps root calls fs) (hne : space ≠ "") {text : Option String}
    (hstay : fs.DirectoriesStay fs')
    (htarget : fs'.nodes[FileStorage.file root space key]? =
      text.map fun text => .file (Utf8.encode text.toList))
    (hbeside : ∀ path : Path, path ≠ FileStorage.file root space key →
      path ≠ temporary root space key → fs'.nodes[path]? = fs.nodes[path]?)
    (hcan : text ≠ none → fs.CanHold (FileStorage.directory root space) (FileName.ofKey key)) :
    Keeps root (calls ++ [.set space key text]) fs' := by
  refine ⟨hstay.find h.directory, fun {space'} hne' content => ?_, fun {space'} hne' key' => ?_,
    fun {space'} hne' key' hsome => ?_⟩
  · rw [hbeside _ (fun heq => hne ((directory_eq_slot hne').1 heq.symm).1)
      fun heq => hne ((directory_eq_slot hne').1 heq.symm).1]
    exact h.space hne' content
  · -- Under its own key the new text stands, under all others what was there.
    rw [textAfter_concat_set]
    split
    · next hplace =>
      obtain ⟨rfl, rfl⟩ := hplace
      exact htarget
    · next hplace =>
      rw [hbeside _ (fun heq => ?_) fun heq => ?_]
      · exact h.file hne' key'
      · obtain ⟨hspace, hname⟩ := slot_inj.1 heq
        exact hplace ⟨hspace, FileName.ofKey_injective hname⟩
      · exact FileName.ofKey_ne_temporary _ _ (slot_inj.1 heq).2
  · rw [textAfter_concat_set] at hsome
    split at hsome
    · next hplace =>
      obtain ⟨rfl, rfl⟩ := hplace
      exact hstay.canHold (hcan hsome)
    · exact hstay.canHold (h.found hne' key' hsome)

/-- No directory stands in the place of a file. -/
theorem not_directory (h : Keeps root calls fs) (hne : space ≠ "") (key : String) :
    fs.nodes[FileStorage.file root space key]? ≠ some .directory := by
  rw [h.file hne]
  cases textAfter calls space key <;> simp

/-- The rename puts the whole text in place at once. -/
theorem rename (h : Keeps root calls fs) (hne : space ≠ "") {text : String}
    (hprepared : fs.nodes[temporary root space key]? = some (.file (Utf8.encode text.toList)))
    (hrename : FileAction.rename (temporary root space key) (FileStorage.file root space key) fs =
      (.ok (), fs')) : Keeps root (calls ++ [.set space key (some text)]) fs' := by
  obtain ⟨node, hfind, rfl⟩ := rename_ok hrename
  obtain ⟨hcan, hnode⟩ := canHold_of_find hfind
  obtain rfl : node = .file (Utf8.encode text.toList) :=
    Option.some.inj (hnode.symm.trans hprepared)
  have hnodes (path : Path) :
      ((fs.nodes.erase (temporary root space key)).insert (FileStorage.file root space key)
          (Node.file (Utf8.encode text.toList)))[path]? =
        if path = FileStorage.file root space key then some (.file (Utf8.encode text.toList))
        else if path = temporary root space key then none else fs.nodes[path]? := by
    simp only [Std.ExtTreeMap.getElem?_insert, Std.ExtTreeMap.getElem?_erase,
      Std.compare_eq_iff_eq, eq_comm (b := path)]
  refine h.put hne (fun path hpath => ?_) ?_ (fun path htarget htemporary => ?_) fun _ => ?_
  · have htarget : path ≠ FileStorage.file root space key := by
      intro heq
      rw [heq] at hpath
      exact h.not_directory hne key hpath
    have htemporary : path ≠ temporary root space key := by
      intro heq
      rw [heq, hprepared] at hpath
      cases hpath
    rw [hnodes, if_neg htarget, if_neg htemporary]
    exact hpath
  · rw [hnodes, if_pos rfl, Option.map_some]
  · rw [hnodes, if_neg htarget, if_neg htemporary]
  · -- The name of the file is shorter than that of the temporary one.
    have hshort : (FileName.ofKey key).utf8ByteSize ≤ (preparedOf key).utf8ByteSize := by
      simp [preparedOf, FileName.temporary]
    refine ⟨hcan.directory, Nat.le_trans hshort hcan.name_le, ?_⟩
    have hbytes := hcan.bytes_le
    rw [bytes_concat] at hbytes ⊢
    simp only [preparedOf] at hshort
    omega

/-- The removal takes the text away at once. -/
theorem remove (h : Keeps root calls fs) (hne : space ≠ "")
    (hremove : removeIfPresent (FileStorage.file root space key) fs = (.ok (), fs')) :
    Keeps root (calls ++ [.set space key none]) fs' := by
  rcases removeIfPresent_ok hremove with ⟨content, hfind, rfl⟩ | ⟨hnone, rfl⟩
  · have hnodes (path : Path) : (fs.nodes.erase (FileStorage.file root space key))[path]? =
        if path = FileStorage.file root space key then none else fs.nodes[path]? := by
      simp only [Std.ExtTreeMap.getElem?_erase, Std.compare_eq_iff_eq, eq_comm (b := path)]
    refine h.put hne (fun path hpath => ?_) ?_ (fun path htarget _ => ?_) (absurd rfl)
    · have htarget : path ≠ FileStorage.file root space key := by
        rintro rfl
        exact h.not_directory hne key hpath
      rw [hnodes, if_neg htarget]
      exact hpath
    · rw [hnodes, if_pos rfl, Option.map_none]
    · rw [hnodes, if_neg htarget]
  · -- A file that is not found is not there, for one that is there can be found.
    have hgone : fs'.nodes[FileStorage.file root space key]? = none := by
      rw [h.file hne]
      cases htext : textAfter calls space key with
      | none => rfl
      | some text =>
        have hfound := (h.found hne key (by simp [htext])).find
        have hfile := h.file hne key
        rw [htext, Option.map_some] at hfile
        rw [FileStorage.file] at hnone hfile
        rw [hfile, hnone] at hfound
        cases hfound
    exact h.put hne (fun _ hpath => hpath) hgone (fun _ _ _ => rfl) (absurd rfl)

/-- Whatever a temporary file held before, it is emptied and then gets all the bytes. -/
theorem nodes_temporary {fs₁ fs₂ fs₃ : FileSystem} {bytes : List UInt8}
    (hcreate : (FileStep.create (temporary root space key)).run fs₁ = (.ok (), fs₂))
    (happend : (FileStep.append (temporary root space key) bytes).run fs₂ = (.ok (), fs₃)) :
    fs₃.nodes[temporary root space key]? = some (.file bytes) := by
  have hopened : FileAction.openFile (fun _ => [])
      (FileStorage.directory root space ++ [preparedOf key]) fs₁ = (.ok (), fs₂) := hcreate
  have hwritten : FileAction.openFile (· ++ bytes)
      (FileStorage.directory root space ++ [preparedOf key]) fs₂ = (.ok (), fs₃) := happend
  obtain ⟨-, hempty⟩ := openFile_ok hopened
  obtain ⟨-, hfull⟩ := openFile_ok hwritten
  have hnothing : fs₂.contentAt (FileStorage.directory root space ++ [preparedOf key]) = [] := by
    rw [hempty, contentAt, nodes_place_self]
  rw [hfull, hnothing, List.nil_append]
  exact nodes_place_self ..

/-- A write that has come to an operation that does not commit lands if it does from the next one
on. -/
theorem lands_next (h : Keeps root calls fs) (hne : space ≠ "") (key : String)
    (text : Option String) {step : FileStep} {rest : List FileStep} {meant : FileSystem → Prop}
    (hstep : step ∈ steps root space key text) (hquiet : step.commits = false)
    (hrest : ∀ cut fs', step.run fs = (.ok (), fs') → Keeps root calls fs' →
      Lands (Keeps root calls) meant (attempt cut rest fs'))
    (cut : Option Cut) : Lands (Keeps root calls) meant (attempt cut (step :: rest) fs) := by
  obtain ⟨hrun, hpart⟩ := h.of_quiet hne hstep hquiet
  refine lands_of_quiet hquiet hrun hpart (fun cut fs' hok => hrest cut fs' hok ?_) cut
  rw [hok] at hrun
  exact hrun

/-- Taking a text away lands, wherever it is cut short. -/
theorem lands_removal (h : Keeps root calls fs) (hne : space ≠ "") (key : String)
    (cut : Option Cut) :
    Lands (Keeps root calls) (Keeps root (calls ++ [.set space key none]))
      (attempt cut (steps root space key none) fs) := by
  have hsteps : steps root space key none =
      [.makeDirectories (FileStorage.directory root space),
        .lock (FileStorage.directory root space ++ [FileName.lock]),
        .remove (FileStorage.file root space key)] := rfl
  rw [hsteps]
  refine h.lands_next hne key none (by simp [steps]) rfl (fun cut fs₁ hmake h₁ => ?_) cut
  refine h₁.lands_next hne key none (by simp [steps]) rfl (fun cut fs₂ hlock h₂ => ?_) cut
  have hrun : (FileStep.remove (FileStorage.file root space key)).run fs₂ =
      removeIfPresent (FileStorage.file root space key) fs₂ := rfl
  refine lands_of_commits rfl h₂ (fun _ => rfl) (fun fault fs' hfail => ?_) (fun fs' hok => ?_) cut
  · exact removeIfPresent_error (hrun.symm.trans hfail)
  · exact h₂.remove hne (hrun.symm.trans hok)

/-- Writing a text lands, wherever it is cut short: its bytes go to the temporary file, until that
is renamed. -/
theorem lands_text (h : Keeps root calls fs) (hne : space ≠ "") (key text : String)
    (cut : Option Cut) :
    Lands (Keeps root calls) (Keeps root (calls ++ [.set space key (some text)]))
      (attempt cut (steps root space key (some text)) fs) := by
  have hsteps : steps root space key (some text) =
      [.makeDirectories (FileStorage.directory root space),
        .lock (FileStorage.directory root space ++ [FileName.lock]),
        .create (temporary root space key),
        .append (temporary root space key) (Utf8.encode text.toList),
        .sync (temporary root space key),
        .rename (temporary root space key) (FileStorage.file root space key)] := rfl
  rw [hsteps]
  refine h.lands_next hne key (some text) (by simp [steps]) rfl (fun cut fs₁ hmake h₁ => ?_) cut
  refine h₁.lands_next hne key (some text) (by simp [steps]) rfl (fun cut fs₂ hlock h₂ => ?_) cut
  refine h₂.lands_next hne key (some text) (by simp [steps]) rfl (fun cut fs₃ hcreate h₃ => ?_) cut
  refine h₃.lands_next hne key (some text) (by simp [steps]) rfl (fun cut fs₄ happend h₄ => ?_) cut
  refine h₄.lands_next hne key (some text) (by simp [steps]) rfl (fun cut fs₅ hsync h₅ => ?_) cut
  -- All bytes are in the temporary file now, and only the rename commits.
  obtain ⟨-, rfl⟩ := Prod.mk.inj hsync
  have hprepared := nodes_temporary hcreate happend
  have hrun : (FileStep.rename (temporary root space key) (FileStorage.file root space key)).run
      fs₄ = FileAction.rename (temporary root space key) (FileStorage.file root space key) fs₄ := rfl
  refine lands_of_commits rfl h₅ (fun _ => rfl) (fun fault fs' hfail => ?_) (fun fs' hok => ?_) cut
  · exact rename_error (hrun.symm.trans hfail)
  · exact h₅.rename hne hprepared (hrun.symm.trans hok)

/-- **A write does what it is meant to if it commits, and nothing that can be read if it does
not.** -/
theorem lands (h : Keeps root calls fs) (hne : space ≠ "") (key : String) (text : Option String)
    (cut : Option Cut) :
    Lands (Keeps root calls) (Keeps root (calls ++ [.set space key text]))
      (attempt cut (steps root space key text) fs) := by
  cases text with
  | none => exact h.lands_removal hne key cut
  | some text => exact h.lands_text hne key text cut

/-! #### Reading -/

/-- A key without a text has no file, unless its name is too long to be looked up. -/
theorem find_missing (h : Keeps root calls fs) (hne : space ≠ "")
    (hnone : textAfter calls space key = none) :
    fs.find (FileStorage.file root space key) = .error .notFound ∨
      fs.find (FileStorage.file root space key) = .error .nameTooLong ∧
        ¬ (StorageCall.get space key).Fits root := by
  have hnode : fs.nodes[FileStorage.file root space key]? = none := by
    rw [h.file hne, hnone, Option.map_none]
  -- Nothing is found, or some name on the way is too long.
  by_cases hbytes : Path.bytes (FileStorage.file root space key) ≤ longestPath
  · rw [FileStorage.file] at hbytes hnode ⊢
    have habove : Path.bytes (root ++ [FileName.encode space]) ≤ longestPath := by
      rw [directory_of_ne hne, bytes_concat] at hbytes
      omega
    by_cases hspace : (FileName.encode space).utf8ByteSize ≤ longestName
    · have hcan : fs.CanHold root (FileName.encode space) := ⟨h.directory, hspace, habove⟩
      have hdir := hcan.find
      rw [← directory_of_ne hne] at hdir
      cases hthere : fs.nodes[FileStorage.directory root space]? with
      | none =>
        rw [hthere] at hdir
        exact .inl (find_below_nothing hdir hbytes)
      | some node =>
        rw [hthere] at hdir
        cases node with
        | file content => exact absurd hthere (h.space hne content)
        | directory =>
          by_cases hname : (FileName.ofKey key).utf8ByteSize ≤ longestName
          · have hcan : fs.CanHold (FileStorage.directory root space) (FileName.ofKey key) :=
              ⟨hdir, hname, hbytes⟩
            exact .inl (by rw [hcan.find, hnode])
          · refine .inr ⟨find_below_directory hdir hbytes (Nat.not_le.1 hname), fun hfits => ?_⟩
            exact hname (hfits.name_le _ (List.mem_singleton_self _))
    · refine .inr ⟨?_, fun hfits => hspace hfits.space_le⟩
      have hdir := find_below_directory h.directory habove (Nat.not_le.1 hspace)
      rw [find_concat hbytes, directory_of_ne hne, hdir]
  · refine .inr ⟨?_, fun hfits => hbytes (hfits.bytes_le _ (List.mem_singleton_self _))⟩
    rw [find_eq, if_pos (Nat.not_le.1 hbytes)]

end Keeps

/-! ### Calls that may be cut short -/

/-- What happens to a storage. -/
inductive StorageEvent where
  | get (space key : String)
  | set (space key : String) (text : Option String) (cut : Option Cut)
  /-- It is opened once more, after a crash perhaps. -/
  | reopen

/-- The event is not about the empty namespace. -/
def StorageEvent.IsNamed : StorageEvent → Prop
  | .get space _ | .set space _ _ _ => space ≠ ""
  | .reopen => True

namespace FileStorage

/-- A write that may be cut short. -/
def attempt (s : FileStorage) (space key : String) (text : Option String) (cut : Option Cut) :
    Attempt :=
  LiveFlags.attempt cut (steps s.root space key text) s.files

/-- The storage after a write that may be cut short. -/
def attempted (s : FileStorage) (space key : String) (text : Option String) (cut : Option Cut) :
    FileStorage :=
  { s with files := (s.attempt space key text cut).files }

/-- A write that nothing cuts short is a write as a whole. -/
theorem set_eq_attempted (s : FileStorage) (space key : String) (text : Option String) :
    (s.set space key text).2 = s.attempted space key text none ∧
      ((s.set space key text).1 = .ok () ↔ (s.attempt space key text none).ending = .done) := by
  obtain ⟨hfiles, hending⟩ := attempt_none (steps s.root space key text) s.files
  rw [set_eq]
  refine ⟨by rw [attempted, attempt, hfiles], ?_⟩
  rw [attempt, hending]
  cases (FileStep.runAll (steps s.root space key text) s.files).1 <;> simp [Except.mapError]

/-- The storage after an event. -/
def next (s : FileStorage) : StorageEvent → FileStorage
  | .get space key => (StorageCall.run s (.get space key)).2
  | .set space key text cut => s.attempted space key text cut
  | .reopen =>
    match mount s.root s.files with
    | (.ok s, _) => s
    | (.error _, files) => { s with files }

/-- The write of an event, if its rename or removal was carried out. -/
def committedBy (s : FileStorage) : StorageEvent → List StorageCall
  | .set space key text cut =>
    if (s.attempt space key text cut).commits then [.set space key text] else []
  | .get _ _ | .reopen => []

/-- The writes whose rename or removal was carried out, in order. -/
def committed (s : FileStorage) : List StorageEvent → List StorageCall
  | [] => []
  | e :: es => s.committedBy e ++ committed (s.next e) es

variable {s : FileStorage} {calls : List StorageCall}

/-- Every event keeps what is stored, up to what it commits. -/
theorem keeps_next (h : Keeps s.root calls s.files) {e : StorageEvent} (he : e.IsNamed) :
    (s.next e).root = s.root ∧ Keeps s.root (calls ++ s.committedBy e) (s.next e).files := by
  cases e with
  | get space key =>
    rw [next, run_get, committedBy, List.append_nil]
    exact ⟨rfl, h⟩
  | set space key text cut =>
    refine ⟨rfl, ?_⟩
    have hlands := h.lands he key text cut
    rw [next, committedBy]
    cases hcommits : (s.attempt space key text cut).commits with
    | false =>
      rw [if_neg (by decide), List.append_nil]
      exact hlands.kept_of_not_commits hcommits
    | true =>
      rw [if_pos rfl]
      exact hlands.meant_of_commits hcommits
  | reopen =>
    have hmount : mount s.root s.files = (.ok s, s.files) := by
      rw [mount, makeDirectories_of_directory h.directory]
    rw [next, hmount, committedBy, List.append_nil]
    exact ⟨rfl, h⟩

/-- What a storage keeps in a run of events that begins with it. -/
theorem keeps_run (h : Keeps s.root calls s.files) {es : List StorageEvent}
    (hes : ∀ e ∈ es, e.IsNamed) :
    (es.foldl next s).root = s.root ∧
      Keeps s.root (calls ++ s.committed es) (es.foldl next s).files := by
  induction es generalizing s calls with
  | nil =>
    rw [committed, List.append_nil]
    exact ⟨rfl, h⟩
  | cons e es ih =>
    obtain ⟨hroot, hnext⟩ := keeps_next h (hes e List.mem_cons_self)
    rw [← hroot] at hnext
    obtain ⟨hroot', hrun⟩ := ih hnext fun e' he' => hes e' (List.mem_cons_of_mem e he')
    rw [hroot, List.append_assoc] at hrun
    exact ⟨hroot'.trans hroot, hrun⟩

/-- A text is read as it was put. -/
theorem get_of_keeps (h : Keeps s.root calls s.files) {space : String} (hne : space ≠ "")
    (key : String) :
    s.get space key = .ok (textAfter calls space key) ∨
      textAfter calls space key = none ∧ ¬ (StorageCall.get space key).Fits s.root ∧
        s.get space key = .error FileFault.nameTooLong.toStorageError := by
  rw [get]
  cases htext : textAfter calls space key with
  | none =>
    rcases h.find_missing hne htext with hfind | ⟨hfind, hlong⟩
    · rw [hfind]
      exact .inl rfl
    · rw [hfind]
      exact .inr ⟨rfl, hlong, rfl⟩
  | some text =>
    have hfind := (h.found hne key (by simp [htext])).find
    have hfile := h.file hne key
    rw [htext, Option.map_some, file] at hfile
    rw [hfile] at hfind
    rw [file, hfind]
    simp only [Utf8.decode?_encode, String.ofList_toList, true_or]

/-- A key with a text has a name that fits. -/
theorem fits_of_found (h : Keeps s.root calls s.files) {space key : String} (hne : space ≠ "")
    (hsome : textAfter calls space key ≠ none) : (StorageCall.get space key).Fits s.root := by
  have hcan := h.found hne key hsome
  have hdir := hcan.directory
  rw [directory_of_ne hne] at hdir
  have hspace : s.files.CanHold s.root (FileName.encode space) := (canHold_of_find hdir).1
  refine ⟨hspace.name_le, fun name hname => ?_, fun name hname => ?_⟩
  · rw [List.mem_singleton.1 hname]
    exact hcan.name_le
  · rw [List.mem_singleton.1 hname]
    exact hcan.bytes_le

/-- What is read is the text of the last write that was carried out. -/
theorem get_eq_some_iff (h : Keeps s.root calls s.files) {space : String} (hne : space ≠ "")
    (key text : String) :
    s.get space key = .ok (some text) ↔ textAfter calls space key = some text := by
  rcases get_of_keeps h hne key with hget | ⟨hnone, -, hget⟩
  · rw [hget, Except.ok.injEq]
  · simp [hget, hnone]

/-- What can be relied on after writes that may have been cut short, of which these were carried
out. -/
structure Intact (s : FileStorage) (calls : List StorageCall) : Prop where
  /-- A key has the text that was put last. -/
  get_eq : ∀ space key, space ≠ "" → (StorageCall.get space key).Fits s.root →
    s.get space key = .ok (textAfter calls space key)
  /-- A key whose name is too long for a file never got a text, and may be refused. -/
  get_long : ∀ space key, space ≠ "" → ¬ (StorageCall.get space key).Fits s.root →
    textAfter calls space key = none ∧
      (s.get space key = .ok none ∨
        s.get space key = .error FileFault.nameTooLong.toStorageError)
  /-- A write that returns an error has changed no text. -/
  get_failed : ∀ space key text cut, space ≠ "" →
    (s.attempt space key text cut).ending = .failed →
      ∀ space' key' text', space' ≠ "" →
        ((s.attempted space key text cut).get space' key' = .ok (some text') ↔
          s.get space' key' = .ok (some text'))

/-- All that can be relied on follows from what is kept. -/
theorem intact_of_keeps (h : Keeps s.root calls s.files) : s.Intact calls where
  get_eq space key hne hfits := by
    rcases get_of_keeps h hne key with hget | ⟨-, hlong, -⟩
    · exact hget
    · exact absurd hfits hlong
  get_long space key hne hlong := by
    have hnone : textAfter calls space key = none := by
      by_contra hsome
      exact hlong (fits_of_found h hne hsome)
    refine ⟨hnone, ?_⟩
    rcases get_of_keeps h hne key with hget | ⟨-, -, hget⟩
    · exact .inl (hget.trans (congrArg Except.ok hnone))
    · exact .inr hget
  get_failed space key text cut hne hfailed space' key' text' hne' := by
    have hlands := h.lands hne key text cut
    have hkept := hlands.kept_of_not_commits (hlands.not_commits_of_failed hfailed)
    rw [get_eq_some_iff h hne', get_eq_some_iff (s := s.attempted space key text cut) hkept hne']

/-- **Writes are atomic.** Wherever they are cut short, by a crash or by an error, each key of a
named namespace has the text of the last write of that key whose rename or removal was carried out,
and a write that returns an error has changed no text. -/
theorem intact_of_events (hs : s.IsFresh) {es : List StorageEvent} (hes : ∀ e ∈ es, e.IsNamed) :
    (es.foldl next s).Intact (s.committed es) := by
  obtain ⟨hroot, hkeeps⟩ := keeps_run hs.keeps hes
  rw [← hroot, List.nil_append] at hkeeps
  exact intact_of_keeps hkeeps

/-! ### Runs -/

/-- A storage in a new directory. -/
def blank : FileStorage where
  files := FileSystem.place {} ["data"] .directory
  root := ["data"]

theorem mount_blank : mount ["data"] {} = (.ok blank, blank.files) :=
  rfl

theorem isFresh_blank : blank.IsFresh :=
  isFresh_of_mount mount_blank fun _ _ => Std.ExtTreeMap.getElem?_empty

/-- A program that crashes after one byte of a new text, and then fails to remove the old one. -/
def troubled : List StorageEvent :=
  [.set "flags" "a" (some "on") none,
    .set "flags" "a" (some "off") (some { after := 3, share := 1, crashes := true }),
    .reopen, .set "flags" "b" (some "off") none,
    .set "flags" "a" none (some { after := 2, crashes := false })]

/-- The byte is left in the temporary file, and the key has kept its text. -/
theorem get_troubled :
    (troubled.foldl next blank).files.contentAt (temporary ["data"] "flags" "a") =
        Utf8.encode ['o'] ∧
      (troubled.foldl next blank).get "flags" "a" = .ok (some "on") := by
  have hnamed : ∀ e ∈ troubled, e.IsNamed := by
    simp [troubled, StorageEvent.IsNamed]
  have hintact := intact_of_events isFresh_blank hnamed
  have hcommitted : blank.committed troubled =
      [.set "flags" "a" (some "on"), .set "flags" "b" (some "off")] := rfl
  rw [hcommitted] at hintact
  exact ⟨rfl, hintact.get_eq "flags" "a" (by decide) (by decide)⟩

/-- A key of so many letters. -/
def letters (n : Nat) : String :=
  String.ofList (List.replicate n 'a')

theorem utf8ByteSize_letters (n : Nat) : (letters n).utf8ByteSize = n := by
  rw [letters, String.utf8ByteSize_ofList]
  induction n with
  | zero => rfl
  | succ n ih =>
    rw [List.replicate_succ, String.utf8Len_cons, ih]
    rfl

theorem letters_ne {n : Nat} {text : String} (h : text.utf8ByteSize ≠ n) : letters n ≠ text := by
  rintro rfl
  exact h (utf8ByteSize_letters n)

/-- The name of its file is five bytes longer. -/
theorem utf8ByteSize_ofKey_letters {n : Nat} (hn : 2 < n) :
    (FileName.ofKey (letters n)).utf8ByteSize = n + 5 := by
  have hletter : (if 'a' = ' ' then ['+'] else Percent.encode FileName.isPlain ['a']) = ['a'] := by
    decide
  have hchars : String.ofList (FileName.encodeChars (letters n).toList) = letters n := by
    rw [letters, String.toList_ofList, FileName.encodeChars, List.flatMap_replicate, hletter,
      List.flatten_replicate_singleton]
  have hsuffix : (".data" : String).utf8ByteSize = 5 := by decide
  have hdot : ("." : String).utf8ByteSize = 1 := by decide
  have hdots : (".." : String).utf8ByteSize = 2 := by decide
  have hencode : FileName.encode (letters n) = letters n := by
    unfold FileName.encode
    rw [hchars]
    split
    · next heq => exact absurd heq (letters_ne (by omega))
    · next heq => exact absurd heq (letters_ne (by omega))
    · rfl
  rw [FileName.ofKey, hencode, String.utf8ByteSize_append, utf8ByteSize_letters, hsuffix]

/-- A key gets a text. -/
def begun : List StorageEvent :=
  [.set "flags" "a" (some "on") none]

/-- Nothing was put under another key, and to read it is refused, for its file would need a name of
256 bytes. -/
theorem get_letters :
    textAfter (blank.committed begun) "flags" (letters 251) = none ∧
      (begun.foldl next blank).get "flags" (letters 251) =
        .error FileFault.nameTooLong.toStorageError := by
  have hcommitted : blank.committed begun = [.set "flags" "a" (some "on")] := rfl
  have hother : letters 251 ≠ "a" := letters_ne (by decide)
  have hsize : (FileName.ofKey (letters 251)).utf8ByteSize = 256 :=
    utf8ByteSize_ofKey_letters (by decide)
  have hnamed : ∀ e ∈ begun, e.IsNamed := by
    simp [begun, StorageEvent.IsNamed]
  obtain ⟨hroot, hkeeps⟩ := keeps_run isFresh_blank.keeps hnamed
  have hdata : (begun.foldl next blank).root = ["data"] := hroot
  have hdir : (begun.foldl next blank).files.find (directory ["data"] "flags") =
      .ok .directory := by
    refine (hkeeps.found (by decide) "a" ?_).directory
    simp [hcommitted, textAfter]
  have hbytes : Path.bytes (directory ["data"] "flags" ++ [FileName.ofKey (letters 251)]) ≤
      longestPath := by
    rw [bytes_concat, hsize]
    decide
  have hfind : (begun.foldl next blank).files.find
      (directory ["data"] "flags" ++ [FileName.ofKey (letters 251)]) = .error .nameTooLong :=
    find_below_directory hdir hbytes (by rw [hsize]; decide)
  refine ⟨by simp [hcommitted, textAfter, hother], ?_⟩
  rw [get, hdata, file, hfind]

end FileStorage

end LiveFlags
