import LiveFlags.Proofs.Redaction.Pattern

/-!
# The parts of a searched text

Replacing all matches divides a text into characters that stay and matches (`pieces`), and writes
another text for each match. `Scans` is this division as a relation: at a character that stays the
pattern does not match, and a match is the preferred one from where it begins.
-/

namespace LiveFlags.Redaction

open Position

/-- A part of a searched text: a character that stays or a match. -/
inductive Piece where
  | kept (c : Char)
  | taken (text : List Char)

namespace Piece

/-- What stood there before. -/
def old : Piece → List Char
  | kept c => [c]
  | taken text => text

/-- What stands there afterwards. -/
def written (substitute : List Char → List Char) : Piece → List Char
  | kept c => [c]
  | taken text => substitute text

variable {substitute : List Char → List Char}

@[simp]
theorem old_kept (c : Char) : (kept c).old = [c] :=
  rfl

@[simp]
theorem old_taken (text : List Char) : (taken text).old = text :=
  rfl

@[simp]
theorem written_kept (c : Char) : (kept c).written substitute = [c] :=
  rfl

@[simp]
theorem written_taken (text : List Char) : (taken text).written substitute = substitute text :=
  rfl

theorem written_id : written id = old := by
  funext piece
  cases piece <;> rfl

@[simp]
theorem flatMap_old_map_kept (w : List Char) : (w.map kept).flatMap old = w := by
  simp [List.flatMap_map]

@[simp]
theorem flatMap_written_map_kept (w : List Char) :
    (w.map kept).flatMap (written substitute) = w := by
  simp [List.flatMap_map]

end Piece

open Piece

namespace Pattern

variable {p q : Pattern} {substitute : List Char → List Char}

/-- The parts of the text from a position on. -/
def scan (p : Pattern) : Nat → Position → List Piece
  | 0, i => i.rest.map .kept
  | fuel + 1, i =>
    match i.rest with
    | [] => []
    | c :: cs =>
      match p.ends i with
      | j :: _ =>
        if j.rest.length < i.rest.length then .taken (between i j) :: scan p fuel j
        else .kept c :: scan p fuel ⟨some c, cs⟩
      | [] => .kept c :: scan p fuel ⟨some c, cs⟩

/-- The parts of a text. -/
def pieces (p : Pattern) (cs : List Char) : List Piece :=
  p.scan cs.length (start cs)

theorem replaceFrom_eq (fuel : Nat) (i : Position) :
    replaceFrom p substitute fuel i = (p.scan fuel i).flatMap (written substitute) := by
  induction fuel generalizing i with
  | zero => rw [replaceFrom, scan, flatMap_written_map_kept]
  | succ fuel ih =>
    obtain ⟨b, cs⟩ := i
    cases cs with
    | nil => rfl
    | cons c cs =>
      cases hends : p.ends ⟨b, c :: cs⟩ with
      | nil => simp [replaceFrom, scan, hends, ih]
      | cons j ends => by_cases hless : j.rest.length < cs.length + 1 <;>
          simp [replaceFrom, scan, hends, ih, hless]

/-- What a replacement writes is written part by part. -/
theorem replaceAll_eq (cs : List Char) :
    p.replaceAll substitute cs = (p.pieces cs).flatMap (written substitute) :=
  replaceFrom_eq ..

/-- From a position on, the text has these parts. -/
inductive Scans (p : Pattern) : Position → List Piece → Prop where
  | done {b : Option Char} : Scans p ⟨b, []⟩ []
  | keep {b : Option Char} {c : Char} {cs : List Char} {ps : List Piece}
    (hnone : ∀ j, ¬ Matches p ⟨b, c :: cs⟩ j) (more : Scans p ⟨some c, cs⟩ ps) :
    Scans p ⟨b, c :: cs⟩ (.kept c :: ps)
  | take {b : Option Char} {text cs : List Char} {ps : List Piece}
    (preferred : (p.ends ⟨b, text ++ cs⟩).head? = some (behind b text cs))
    (more : Scans p (behind b text cs) ps) : Scans p ⟨b, text ++ cs⟩ (.taken text :: ps)

theorem between_eq {i j : Position} {w : List Char} (h : i.rest = w ++ j.rest) :
    between i j = w := by
  rw [between, h, List.length_append, Nat.add_sub_cancel, List.take_left]

/-- The parts that are found from a position on are those of the relation, if no word is empty. -/
theorem scans_scan (hp : 0 < p.shortest) {fuel : Nat} {i : Position}
    (hfuel : i.rest.length ≤ fuel) : Scans p i (p.scan fuel i) := by
  induction fuel generalizing i with
  | zero =>
    obtain ⟨b, cs⟩ := i
    obtain rfl : cs = [] := List.eq_nil_of_length_eq_zero (Nat.le_zero.1 hfuel)
    exact .done
  | succ fuel ih =>
    obtain ⟨b, cs⟩ := i
    cases cs with
    | nil => exact .done
    | cons c cs =>
      cases hends : p.ends ⟨b, c :: cs⟩ with
      | nil =>
        simp only [scan, hends]
        refine .keep (fun j h => ?_) (ih (Nat.le_of_succ_le_succ hfuel))
        rw [← mem_ends_iff, hends] at h
        cases h
      | cons j others =>
        have hj : Matches p ⟨b, c :: cs⟩ j := by
          rw [← mem_ends_iff, hends]
          exact List.mem_cons_self
        obtain ⟨w, hw, hrest, hbehind⟩ := hj.exists_spells
        have hlength : cs.length + 1 = w.length + j.rest.length := by
          rw [← List.length_append, ← show c :: cs = w ++ j.rest from hrest, List.length_cons]
        -- A match is not empty, so the fuel lasts.
        have hless : j.rest.length < cs.length + 1 := by
          have := hw.shortest_le
          omega
        have hbetween : between ⟨b, c :: cs⟩ j = w := between_eq hrest
        simp only [scan, hends, List.length_cons, if_pos hless, hbetween]
        rw [show c :: cs = w ++ j.rest from hrest] at hends ⊢
        refine .take ?_ ?_
        · rw [hends, ← hbehind, List.head?_cons]
        · rw [← hbehind]
          exact ih (by simp only [List.length_cons] at hfuel; omega)

theorem scans_pieces (hp : 0 < p.shortest) (cs : List Char) :
    Scans p (start cs) (p.pieces cs) :=
  scans_scan hp (Nat.le_refl _)

namespace Scans

variable {i : Position} {cs text : List Char} {c : Char} {ps before after : List Piece}

/-- The parts make up the text that was left. -/
theorem rest_eq (h : Scans p i ps) : i.rest = ps.flatMap old := by
  induction h with
  | done => rfl
  | keep _ _ ih => rw [List.flatMap_cons, ← ih]; rfl
  | take _ _ ih => rw [List.flatMap_cons, ← ih]; rfl

/-- At a character that stays, the pattern matches nothing. -/
theorem kept_cons (h : Scans p i (.kept c :: ps)) :
    (∀ j, ¬ Matches p ⟨i.before, c :: ps.flatMap old⟩ j) ∧ Scans p ⟨some c, ps.flatMap old⟩ ps := by
  cases h with
  | keep hnone more =>
    rw [← more.rest_eq]
    exact ⟨hnone, more⟩

/-- A match is the preferred one from where it begins. -/
theorem taken_cons (h : Scans p i (.taken text :: ps)) :
    (p.ends ⟨i.before, text ++ ps.flatMap old⟩).head? =
        some (behind i.before text (ps.flatMap old)) ∧
      Scans p (behind i.before text (ps.flatMap old)) ps := by
  cases h with
  | take preferred more =>
    rw [← more.rest_eq]
    exact ⟨preferred, more⟩

/-- The parts behind some others come from the place behind these. -/
theorem drop (h : Scans p i (before ++ after)) :
    Scans p (behind i.before (before.flatMap old) (after.flatMap old)) after := by
  induction before generalizing i with
  | nil =>
    rw [List.nil_append] at h
    rw [List.flatMap_nil, behind_nil, ← h.rest_eq]
    exact h
  | cons piece before ih =>
    rw [List.cons_append] at h
    rw [List.flatMap_cons, behind_append]
    cases piece with
    | kept c =>
      have hdrop := ih h.kept_cons.2
      exact hdrop
    | taken text =>
      have hdrop := ih h.taken_cons.2
      exact hdrop

/-- Behind some parts the search goes on with the character before in view. -/
theorem drop_start (h : Scans p (start cs) (before ++ after)) :
    Scans p ⟨(before.flatMap old).getLast?, after.flatMap old⟩ after := by
  simpa [start, behind] using h.drop

/-- A character stays only where the pattern does not match. -/
theorem not_matches (h : Scans p (start cs) (before ++ .kept c :: after)) (j : Position) :
    ¬ Matches p ⟨(before.flatMap old).getLast?, c :: after.flatMap old⟩ j :=
  h.drop_start.kept_cons.1 j

/-- What is taken is the preferred match. -/
theorem head?_ends (h : Scans p (start cs) (before ++ .taken text :: after)) :
    (p.ends ⟨(before.flatMap old).getLast?, text ++ after.flatMap old⟩).head? =
      some (behind (before.flatMap old).getLast? text (after.flatMap old)) :=
  h.drop_start.taken_cons.1

/-- What is replaced is a match, where it stands. -/
theorem matches_taken (h : Scans p (start cs) (before ++ .taken text :: after)) :
    Matches p ⟨(before.flatMap old).getLast?, text ++ after.flatMap old⟩
      (behind (before.flatMap old).getLast? text (after.flatMap old)) :=
  mem_ends_iff.1 (List.mem_of_head? h.head?_ends)

end Scans

end Pattern

end LiveFlags.Redaction
